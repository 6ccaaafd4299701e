import ControlPlane.Proofs.Http.KnownResponses
import ControlPlane.Proofs.Http.RecordAnswers

/-!
# Owners that are kept and never told

Who owns a node is stored with it, and only the health of a member says its name.  So two
members of different names that get the same requests at the same times send the same
responses, and each of them owns all of its nodes, whatever the requests say about owners.
-/

namespace ControlPlane.Http

open Plan

namespace Request

variable {request : Request}

/-! ## Requests and the name of the member -/

/-- The name of the member makes no difference but for its health. -/
theorem plan_of_unasked (unasked : ¬request.Reaches .health) (member member' : String) :
    request.plan member = request.plan member' := by
  have same {route : Route} (method : Method)
      (routed : Route.ofPath? (Target.ofText request.target).path = some route) :
      planRoute member (Target.ofText request.target) request.body route method =
        planRoute member' (Target.ofText request.target) request.body route method := by
    rw [planRoute, planRoute]
    split
    case isTrue bare =>
      rcases route with ⟨endpoint, parameter⟩
      cases bare
      cases endpoint with
      | health => exact absurd routed unasked
      | _ => cases method <;> rfl
    case isFalse => rfl
  rw [plan, plan]
  split
  · rfl
  · rename_i route routed
    simp only [same _ routed]

/-! ## Members of different names -/

variable {one other : Cluster} (mirrors : one.Mirrors other)
  (measured : Codec.Measured one.member) (measured' : Codec.Measured other.member)

include mirrors measured measured'

/-- Both members send the same response, unless they are asked for their health, and mirror
each other again after it. -/
theorem serve_mirrors (request : Request) (now : Instant) :
    (¬request.Reaches .health → (request.serve one now).1 = (request.serve other now).1) ∧
      (request.serve one now).2.Mirrors (request.serve other now).2 := by
  by_cases asked : request.Reaches .health
  · have spares : request.SparesRows := ⟨_, asked, .inl rfl⟩
    rcases isKnown_plan request one.member spares with ⟨response, planned⟩
    rcases isKnown_plan request other.member spares with ⟨response', planned'⟩
    rw [serve_of_reply planned, serve_of_reply planned']
    exact ⟨fun unasked => absurd asked unasked, mirrors⟩
  · have same := plan_of_unasked asked one.member other.member
    cases planned : request.plan other.member with
    | reply response =>
      rw [serve_of_reply planned, serve_of_reply (same.trans planned)]
      exact ⟨fun _ => rfl, mirrors⟩
    | ask pending =>
      rw [serve_of_ask planned, serve_of_ask (same.trans planned)]
      rcases mirrors.serve measured measured' now pending.call with ⟨told, mirrorsNext⟩
      have tells := (request.sound_plan other.member).tells pending planned
      refine ⟨fun _ => ?_, mirrorsNext⟩
      exact (tells _).symm.trans ((congrArg pending.receive told).trans (tells _))

end Request

/-! ## Runs of requests -/

theorem serveEach_mirrors {one other : Cluster} (mirrors : one.Mirrors other)
    (measured : Codec.Measured one.member) (measured' : Codec.Measured other.member)
    (turns : List Turn) :
    ((∀ turn ∈ turns, ¬turn.request.Reaches .health) →
        (serveEach one turns).1 = (serveEach other turns).1) ∧
      (serveEach one turns).2.Mirrors (serveEach other turns).2 := by
  induction turns generalizing one other with
  | nil => exact ⟨fun _ => rfl, mirrors⟩
  | cons turn later ih =>
    rcases turn.request.serve_mirrors mirrors measured measured' turn.now with ⟨response, next⟩
    rcases ih next (by rwa [Request.member_serve]) (by rwa [Request.member_serve]) with
      ⟨responses, last⟩
    refine ⟨fun unasked => ?_, last⟩
    have first := response (unasked turn List.mem_cons_self)
    have rest := responses fun other listed => unasked other (List.mem_cons_of_mem _ listed)
    rw [serveEach, serveEach, first, rest]

theorem member_serveEach (cluster : Cluster) (turns : List Turn) :
    (serveEach cluster turns).2.member = cluster.member := by
  induction turns generalizing cluster with
  | nil => rfl
  | cons turn later ih => exact (ih _).trans (turn.request.member_serve _ _)

/-- Every stored node belongs to the member, as it was written and as it is read. -/
def OwnsNodes (cluster : Cluster) : Prop :=
  ∀ name value, cluster.value? .nodes name = some value →
    (∃ row : Nodes.Row, value = Nodes.Row.codec.encode row ∧ row.member = cluster.member) ∧
      ∀ row, Nodes.Row.codec.read? value = some row → row.member = cluster.member

/-- Each of two members that mirror each other owns its nodes. -/
theorem ownsNodes_of_mirrors {one other : Cluster} (mirrors : one.Mirrors other)
    (measured : Codec.Measured one.member) : OwnsNodes one := by
  intro name value stored
  have mirrored := mirrors.rows .nodes name
  rw [Cluster.value?] at stored
  rw [stored] at mirrored
  generalize other.store.database.value? .empty .nodes name = value' at mirrored
  cases mirrored with
  | some mirrored =>
    rcases mirrored with ⟨row, rfl, -⟩
    refine ⟨⟨_, rfl, rfl⟩, ?_⟩
    intro read known
    rw [Nodes.read?_encode_ownedBy measured] at known
    rcases Option.map_eq_some_iff.1 known with ⟨fields, -, rfl⟩
    rfl

/-- Two members of any names that begin without rows and get the same requests at the same
times send the same responses, as long as none of the requests asks for the health of a
member.  After any requests each of them owns all of its nodes. -/
theorem owners_stay_hidden (medium : Medium) (member member' : String)
    (measured : Codec.Measured member) (measured' : Codec.Measured member')
    (turns : List Turn) :
    let run := serveEach (.empty medium member) turns
    let run' := serveEach (.empty medium member') turns
    ((∀ turn ∈ turns, ¬turn.request.Reaches .health) → run.1 = run'.1) ∧
      (run.2.member = member ∧ OwnsNodes run.2) ∧ run'.2.member = member' ∧ OwnsNodes run'.2 := by
  have begin := Cluster.mirrors_empty medium
  have kept (member : String) : (serveEach (.empty medium member) turns).2.member = member :=
    member_serveEach _ _
  have owns {member : String} (measured : Codec.Measured member) :
      OwnsNodes (serveEach (.empty medium member) turns).2 := by
    apply ownsNodes_of_mirrors (serveEach_mirrors (begin member member) measured measured turns).2
    rwa [kept]
  exact ⟨(serveEach_mirrors (begin member member') measured measured' turns).1,
    ⟨kept member, owns measured⟩, kept member', owns measured'⟩

/-- A node that names two owners of its own is registered with either member. -/
theorem owners_stay_hidden_of_foreign_owner :
    let body := "\x7b\"member\":[null],\"name\":\"n1\",\"member\":\"other\"\x7d"
    let post : Request := ⟨"POST", "/1.0/nodes", Utf8.encode body⟩
    let get : Request := ⟨"GET", "/1.0/nodes/n1", []⟩
    let turns : List Turn := [⟨⟨0, 0⟩, post⟩, ⟨⟨1, 0⟩, get⟩]
    let run := serveEach (.empty .memory "é") turns
    let run' := serveEach (.empty .memory "node-1") turns
    run.1 = run'.1 ∧ (run.1.map (·.2.status)).head? = some 200 ∧
      ∃ value row, run.2.value? .nodes "n1" = some value ∧
        value = Nodes.Row.codec.encode row ∧ row.member = "é" := by
  intro body post get turns run run'
  have unasked : ∀ turn ∈ turns, ¬turn.request.Reaches .health := by
    simp only [turns, List.forall_mem_cons, Request.Reaches]
    decide +kernel
  have registered : (run.1.map (·.2.status)).head? = some 200 := by decide +kernel
  rcases owners_stay_hidden .memory "é" "node-1" (by decide) (by decide) turns with
    ⟨same, ⟨member, owns⟩, -⟩
  refine ⟨same unasked, registered, ?_⟩
  have stored : (run.2.value? .nodes "n1").isSome = true := by decide +kernel
  rcases Option.isSome_iff_exists.1 stored with ⟨value, found⟩
  rcases (owns "n1" value found).1 with ⟨row, written, owner⟩
  exact ⟨value, row, found, written, owner.trans member⟩

end ControlPlane.Http
