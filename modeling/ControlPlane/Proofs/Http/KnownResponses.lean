import ControlPlane.Proofs.Http.CarriedValues

/-!
# Responses that need no call

Some requests come to a response without a look at the rows: those about the health of a
member, and those with a body that cannot be read as what the endpoint takes.
-/

namespace ControlPlane.Http

/-- The plan is a response. -/
def Plan.IsKnown (plan : Plan) : Prop :=
  ∃ response, plan = .reply response

/-- Whether a body can be read as what an endpoint takes from a method. -/
def Readable (body : Bytes) : Endpoint → Method → Prop
  | .nodes, .post | .node, .put => ∃ node, Node.decode body = .ok node
  | .manifests, .post => ∃ manifest, NewManifest.decode body = .ok manifest
  | .jujuUsers, .post => ∃ user, JujuUser.decode body = .ok user
  | .configItem, .put | .state, .put => ∃ text, Utf8.decode body = .ok text
  | .lock, .put | .unlock, .put =>
    ∃ text lock, Utf8.decode body = .ok text ∧ Plans.decodeLock (Utf8.encode text) = .ok lock
  | _, _ => True

namespace Plan

theorem isKnown_reply (response : Response) : (reply response).IsKnown := ⟨response, rfl⟩

theorem IsKnown.withoutBody {plan : Plan} (known : plan.IsKnown) : plan.withoutBody.IsKnown := by
  rcases known with ⟨response, rfl⟩
  exact isKnown_reply _

end Plan

open Plan

theorem isKnown_withText {body : Bytes} {next : String → Plan}
    (known : ∀ text, Utf8.decode body = .ok text → (next text).IsKnown) :
    (withText body next).IsKnown := by
  apply of_cases (withText_cases body next) isKnown_reply
  rintro text rfl
  exact known text (Utf8.decode_encode text)

theorem isKnown_withRecord {ρ : Type} {decode : Bytes → Except Json.Error ρ} {body : Bytes}
    (next : ρ → Plan) (unreadable : ¬∃ record, decode body = .ok record) :
    (withRecord decode body next).IsKnown :=
  of_cases (withRecord_cases body decode next) isKnown_reply fun record read =>
    absurd ⟨record, read⟩ unreadable

theorem isKnown_withLock {body : Bytes} (next : Lock → Plan)
    (unreadable : ¬∃ text lock, Utf8.decode body = .ok text ∧
      Plans.decodeLock (Utf8.encode text) = .ok lock) :
    (withLock body next).IsKnown := by
  apply isKnown_withText
  intro text readText
  cases read : Plans.decodeLock (Utf8.encode text) with
  | ok lock => exact absurd ⟨text, lock, readText, read⟩ unreadable
  | error failure => exact isKnown_reply _

variable {endpoint : Endpoint} {method : Method} {body : Bytes}

theorem isKnown_planCollection (member : String) (target : Target)
    (spared : endpoint = .health ∨ ¬Readable body endpoint method) :
    (planCollection member target body endpoint method).IsKnown := by
  rcases spared with rfl | unreadable
  · exact isKnown_reply _
  · cases endpoint <;> cases method <;> try exact absurd trivial unreadable
    case nodes.post => exact isKnown_withRecord _ unreadable
    case manifests.post => exact isKnown_withRecord _ unreadable
    case jujuUsers.post => exact isKnown_withRecord _ unreadable
    all_goals exact isKnown_reply _

theorem isKnown_planItem (target : Target) (name : String)
    (spared : endpoint = .health ∨ ¬Readable body endpoint method) :
    (planItem target body name endpoint method).IsKnown := by
  rcases spared with rfl | unreadable
  · exact isKnown_reply _
  · cases endpoint <;> cases method <;> try exact absurd trivial unreadable
    case configItem.put =>
      exact isKnown_withText fun text read => absurd ⟨text, read⟩ unreadable
    case node.put => exact isKnown_withRecord _ unreadable
    case state.put =>
      apply of_cases (withQuery_cases target "ID" _) isKnown_reply
      intro _ _
      exact isKnown_withText fun text read => absurd ⟨text, read⟩ unreadable
    case lock.put => exact isKnown_withLock _ unreadable
    case unlock.put => exact isKnown_withLock _ unreadable
    all_goals exact isKnown_reply _

theorem isKnown_planRoute (member : String) (target : Target) {route : Route}
    (spared : route.endpoint = .health ∨ ¬Readable body route.endpoint method) :
    (planRoute member target body route method).IsKnown := by
  rw [planRoute]
  split
  · exact isKnown_planCollection _ _ spared
  · cases percentDecodeText route.parameter with
    | ok name => exact isKnown_planItem _ _ spared
    | error fault => exact isKnown_reply _

namespace Request

/-- A request about the health of the member, or with a body that cannot be read. -/
def SparesRows (request : Request) : Prop :=
  ∃ route, Route.ofPath? (Target.ofText request.target).path = some route ∧
    (route.endpoint = .health ∨
      ∀ method, route.endpoint.method? request.method = some method →
        ¬Readable request.body route.endpoint method)

/-- The response to a request that spares the rows is known. -/
theorem isKnown_plan (request : Request) (member : String) (spares : request.SparesRows) :
    (request.plan member).IsKnown := by
  rcases spares with ⟨route, routed, spared⟩
  rw [plan]
  simp only [routed]
  cases serves : route.endpoint.method? request.method with
  | none => exact isKnown_reply _
  | some method =>
    have known : (planRoute member (Target.ofText request.target) request.body route
        method).IsKnown :=
      isKnown_planRoute _ _ (spared.imp_right fun unreadable => unreadable method serves)
    simp only
    split
    · exact known.withoutBody
    · exact known

end Request

end ControlPlane.Http
