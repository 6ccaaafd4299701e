import ControlPlane.Proofs.Cluster.MirroredRows
import ControlPlane.Proofs.Http.CarriedValues

/-!
# What requests leave behind

A request comes to a response that is known or to a call.  Whatever it comes to, the
response has status 200 exactly when the call answers, and it says nothing of the owners of
nodes.  A request to look something up comes to a call that only reads.  With what is known
of calls, no request that is refused changes a row, and none that looks something up does.
-/

namespace ControlPlane.Http

namespace Response

theorem statusOf_ne_success (kind : Failure.Kind) : statusOf kind ≠ 200 := by
  cases kind <;> decide

theorem status_failure (reason : Failure) : (failure reason).status ≠ 200 :=
  statusOf_ne_success reason.kind

theorem status_planFailure (reason : Failure) : (planFailure reason).status ≠ 200 := by
  rw [planFailure]
  cases reason.lock? with
  | none => exact status_failure reason
  | some lock => exact statusOf_ne_success reason.kind

end Response

/-! ## What a plan promises -/

namespace Plan

/-- What a plan promises of the call that it comes to, if any. -/
structure Sound (reading : Prop) (plan : Plan) : Prop where
  /-- Status 200 is sent for an answer and for nothing else. -/
  reports : ∀ pending, plan = .ask pending → ∀ outcome,
    (pending.receive outcome).status = 200 ↔ ∃ answer, outcome = .ok answer
  /-- What is sent of an answer is what is told of it. -/
  tells : ∀ pending, plan = .ask pending → ∀ outcome,
    pending.receive (outcome.map pending.call.told) = pending.receive outcome
  /-- A request that looks something up comes to a call that does. -/
  reads : reading → ∀ pending, plan = .ask pending → pending.call.isReading = true

variable {reading : Prop}

theorem sound_reply (response : Response) : (reply response).Sound reading where
  reports := by
    intro pending impossible
    cases impossible
  tells := by
    intro pending impossible
    cases impossible
  reads := by
    intro _ pending impossible
    cases impossible

/-- A call whose failures are never sent with status 200. -/
theorem sound_ask {call : Call} {receive : Except Failure call.Answer → Response}
    (failed : ∀ failure, (receive (.error failure)).status ≠ 200)
    (success : ∀ value, (receive (.ok value)).status = 200)
    (tells : ∀ value, receive (.ok (call.told value)) = receive (.ok value))
    (reads : reading → call.isReading = true) : (ask ⟨call, receive⟩).Sound reading where
  reports := by
    rintro _ ⟨⟩ (reason | value)
    · simpa using failed reason
    · simpa using success value
  tells := by
    rintro _ ⟨⟩ (reason | value)
    · rfl
    · exact tells value
  reads := by
    rintro isReading _ ⟨⟩
    exact reads isReading

section Answer

variable {call : Call} {answer : call.Answer → Response}
  (success : ∀ value, (answer value).status = 200)
  (tells : ∀ value, answer (call.told value) = answer value)
  (reads : reading → call.isReading = true)

include success tells reads

theorem sound_call : (Plan.call call answer).Sound reading :=
  sound_ask Response.status_failure success tells reads

theorem sound_planCall : (Plan.planCall call answer).Sound reading :=
  sound_ask Response.status_planFailure success tells reads

end Answer

theorem Sound.withoutBody {plan : Plan} (sound : plan.Sound reading) :
    plan.withoutBody.Sound reading := by
  cases plan with
  | reply response => exact sound_reply _
  | ask pending =>
    constructor
    · rintro _ ⟨⟩ outcome
      exact sound.reports pending rfl outcome
    · rintro _ ⟨⟩ outcome
      exact congrArg Response.withoutBody (sound.tells pending rfl outcome)
    · rintro isReading _ ⟨⟩
      exact sound.reads isReading pending rfl

end Plan

/-! ## Endpoints -/

open Plan

/-- A request that its endpoint serves by looking something up. -/
def LooksUp (endpoint : Endpoint) (method : Method) : Prop :=
  method = .get ∧ method ∈ endpoint.methods

theorem sound_planCollection (member : String) (target : Target) (body : Bytes)
    (endpoint : Endpoint) (method : Method) :
    (planCollection member target body endpoint method).Sound (LooksUp endpoint method) := by
  have success (_ : Unit) : Response.done.status = 200 := rfl
  have noPost (endpoint : Endpoint) (call : Call) :
      LooksUp endpoint .post → call.isReading = true := fun looksUp => nomatch looksUp.1
  have nodes (nodes : List Node) :
      documents Node.document (nodes.map Node.withoutOwner) = documents Node.document nodes := by
    rw [documents, List.map_map]
    rfl
  rw [planCollection.eq_def]
  split
  · exact sound_reply _
  · exact of_cases (withQuery_cases _ _ _) sound_reply fun _ _ =>
      sound_call (fun _ => rfl) (fun _ => rfl) fun _ => rfl
  · exact of_cases (withRecord_cases _ _ _) sound_reply fun _ _ =>
      sound_call success (fun _ => rfl) (noPost _ _)
  · exact sound_call (fun _ => rfl) (fun listed => congrArg Response.sync (nodes listed))
      fun _ => rfl
  · exact of_cases (withRecord_cases _ _ _) sound_reply fun _ _ =>
      sound_call success (fun _ => rfl) (noPost _ _)
  · exact sound_call (fun _ => rfl) (fun _ => rfl) fun _ => rfl
  · exact of_cases (withRecord_cases _ _ _) sound_reply fun _ _ =>
      sound_call success (fun _ => rfl) (noPost _ _)
  · exact sound_call (fun _ => rfl) (fun _ => rfl) fun _ => rfl
  · exact sound_call (fun _ => rfl) (fun _ => rfl) fun _ => rfl
  · exact sound_call (fun _ => rfl) (fun _ => rfl) fun _ => rfl
  · exact sound_reply _

theorem sound_planItem (target : Target) (body : Bytes) (name : String) (endpoint : Endpoint)
    (method : Method) :
    (planItem target body name endpoint method).Sound (LooksUp endpoint method) := by
  have success (_ : Unit) : Response.done.status = 200 := rfl
  have noPut (endpoint : Endpoint) (call : Call) :
      LooksUp endpoint .put → call.isReading = true := fun looksUp => nomatch looksUp.1
  have noDelete (endpoint : Endpoint) (call : Call) :
      LooksUp endpoint .delete → call.isReading = true := fun looksUp => nomatch looksUp.1
  rw [planItem.eq_def]
  split
  · exact of_cases (withText_cases _ _) sound_reply fun _ _ =>
      sound_call success (fun _ => rfl) (noPut _ _)
  · exact sound_call success (fun _ => rfl) (noDelete _ _)
  · exact sound_call (fun _ => rfl) (fun _ => rfl) fun _ => rfl
  · exact of_cases (withRecord_cases _ _ _) sound_reply fun _ _ =>
      sound_call success (fun _ => rfl) (noPut _ _)
  · exact sound_call success (fun _ => rfl) (noDelete _ _)
  · exact sound_call (fun _ => rfl) (fun _ => rfl) fun _ => rfl
  · exact sound_call success (fun _ => rfl) (noDelete _ _)
  · exact sound_call (fun _ => rfl) (fun _ => rfl) fun _ => rfl
  · exact sound_call success (fun _ => rfl) (noDelete _ _)
  · exact sound_call (fun _ => rfl) (fun _ => rfl) fun _ => rfl
  · exact of_cases (withQuery_cases _ _ _) sound_reply fun _ _ =>
      of_cases (withText_cases _ _) sound_reply fun _ _ =>
        sound_planCall success (fun _ => rfl) (noPut _ _)
  · exact sound_planCall success (fun _ => rfl) (noDelete _ _)
  · exact sound_planCall (fun _ => rfl) (fun _ => rfl) fun _ => rfl
  · exact of_cases (withLock_cases _ _) sound_reply fun _ _ =>
      sound_planCall success (fun _ => rfl) (noPut _ _)
  · exact sound_planCall (fun _ => rfl) (fun _ => rfl) fun _ => rfl
  · -- A lock is released under every method that the endpoint serves, which is only one.
    apply of_cases (withLock_cases _ _) sound_reply
    intro lock _
    apply sound_planCall success fun _ => rfl
    rintro ⟨rfl, served⟩
    exact absurd served (by decide)
  · exact sound_reply _

theorem sound_planRoute (member : String) (target : Target) (body : Bytes) (route : Route)
    (method : Method) :
    (planRoute member target body route method).Sound (LooksUp route.endpoint method) := by
  rw [planRoute]
  split
  · exact sound_planCollection _ _ _ _ _
  · cases percentDecodeText route.parameter with
    | ok name => exact sound_planItem _ _ _ _ _
    | error fault => exact sound_reply _

/-- The method that serves a request to look something up. -/
theorem looksUp_of_method? {endpoint : Endpoint} {name : String} {method : Method}
    (serves : endpoint.method? name = some method) (looksUp : name = "GET" ∨ name = "HEAD") :
    LooksUp endpoint method := by
  refine ⟨?_, List.mem_of_find?_eq_some serves⟩
  have named := List.find?_some serves
  rcases looksUp with rfl | rfl <;> cases method <;> first | rfl | exact absurd named (by decide)

namespace Request

/-- A request to look something up. -/
def LooksUp (request : Request) : Prop := request.method = "GET" ∨ request.method = "HEAD"

theorem sound_plan (request : Request) (member : String) :
    (request.plan member).Sound request.LooksUp := by
  rw [plan]
  split
  · exact sound_reply _
  · rename_i route routed
    split
    · exact sound_reply _
    · rename_i method serves
      have sound : (planRoute member (Target.ofText request.target) request.body route
          method).Sound request.LooksUp := by
        have routeSound := sound_planRoute member (Target.ofText request.target) request.body
          route method
        exact ⟨routeSound.reports, routeSound.tells, fun looksUp =>
          routeSound.reads (looksUp_of_method? serves looksUp)⟩
      simp only
      split
      · exact sound.withoutBody
      · exact sound

/-- Only a request with status 200 that does not look something up can change a row. -/
theorem database_of_ask {request : Request} {cluster : Cluster} {pending : Pending Response}
    (planned : request.plan cluster.member = .ask pending) (now : Instant)
    (spares : (pending.receive (cluster.serve now pending.call).1).status ≠ 200 ∨ request.LooksUp) :
    (cluster.serve now pending.call).2.store.database = cluster.store.database := by
  have sound := request.sound_plan cluster.member
  rcases spares with refused | looksUp
  · rw [ne_eq, sound.reports pending planned] at refused
    cases outcome : (cluster.serve now pending.call).1 with
    | ok answer => exact absurd ⟨answer, outcome⟩ refused
    | error failure => exact Cluster.database_of_serve_error outcome
  · exact Cluster.database_of_isReading _ (sound.reads looksUp pending planned)

/-! ## Requests that are handed in while the slot is free -/

variable {schedule : Schedule Response}

/-- While the slot is free a request is answered at once, and the slot is free again. -/
theorem submit_of_isFree (request : Request) (free : schedule.isFree = true)
    (clock : Nat → Instant) :
    ∃ response after, request.submit schedule clock = (some response, after) ∧
      after.isFree = true ∧
      (response.status ≠ 200 ∨ request.LooksUp →
        after.cluster.store.database = schedule.cluster.store.database) := by
  rw [submit]
  cases planned : request.plan schedule.cluster.member with
  | reply response => exact ⟨response, schedule, rfl, free, fun _ => rfl⟩
  | ask pending =>
    have stillFree : (schedule.submit clock pending).2.isFree = true :=
      Schedule.isFree_submit free pending
    rw [Schedule.submit_of_isFree free] at stillFree
    exact ⟨_, _, Schedule.submit_of_isFree free pending, stillFree, database_of_ask planned _⟩

/-- Nothing that is refused changes a row, on either medium and from any rows:

* a call that fails or only reads leaves all rows as they are, also where the medium
  refuses a commit because one of its keys is empty or too long, and the slot is free
  after it;
* so does a request with any status but 200 or to look something up, and what is handed in
  next is answered at once. -/
theorem refused_requests_keep_rows :
    (∀ (cluster : Cluster) (now : Instant) (call : Call), cluster.store.current = none →
      let served := cluster.serve now call
      served.2.store.current = none ∧
      ((∃ failure, served.1 = .error failure) ∨ call.isReading = true →
        served.2.store.database = cluster.store.database) ∧
      ∀ answer writes table key write, call.refusal? = none →
        call.action cluster.member now cluster.store.database .empty = (.ok answer, writes) →
        writes.get? table key = some write → cluster.store.database.medium = .persistent →
        key = "" ∨ Medium.keyLimit < key.utf8ByteSize →
        served.1 = .error (.storage .taskFailed)) ∧
    ∀ (request : Request) (schedule : Schedule Response) (clock : Nat → Instant),
      schedule.isFree = true →
      ∃ response after, request.submit schedule clock = (some response, after) ∧
        (response.status ≠ 200 ∨ request.LooksUp →
          after.cluster.store.database = schedule.cluster.store.database) ∧
        after.isFree = true ∧
        (∀ later, (after.submit clock later).1.isSome = true) ∧
        ∀ later : Request, (later.submit after clock).1.isSome = true := by
  constructor
  · intro cluster now call free
    refine ⟨(Cluster.current_serve _ _ _).trans free, ?_, ?_⟩
    · rintro (⟨failure, failed⟩ | reading)
      · exact Cluster.database_of_serve_error failed
      · exact Cluster.database_of_isReading now reading
    · intro answer writes table key write admitted acts staged persistent unfit
      apply Cluster.serve_of_not_canStore admitted acts staged
      rw [persistent]
      exact Medium.canStore_persistent_eq_false_iff.2 unfit
  · intro request schedule clock free
    rcases request.submit_of_isFree free clock with ⟨response, after, answered, stillFree, same⟩
    refine ⟨response, after, answered, same, stillFree, ?_, ?_⟩
    · intro later
      rw [Schedule.submit_of_isFree stillFree]
      rfl
    · intro later
      rcases later.submit_of_isFree stillFree clock with ⟨_, _, answeredLater, _⟩
      rw [answeredLater]
      rfl

/-- On the persistent medium, a node of a name that is taken, and an item whose key is a
byte too long. -/
theorem refused_requests_keep_rows_of_taken_name :
    let row := Nodes.Row.codec.encode ⟨"node-1", "[]", 4, ""⟩
    let rows := (Tables.const KeyMap.empty).set .nodes (KeyMap.empty.insert "n1" row)
    let cluster : Cluster := ⟨"node-1", ⟨⟨.persistent, rows, .const []⟩, 0, none⟩⟩
    let schedule : Schedule Response := ⟨cluster, []⟩
    let request : Request := ⟨"POST", "/1.0/nodes", Utf8.encode "\x7b\"name\":\"n1\"\x7d"⟩
    cluster.store.current = none ∧ schedule.isFree = true ∧
      (∃ key, key.utf8ByteSize = Medium.keyLimit + 1 ∧
        (cluster.serve ⟨0, 0⟩ (.putConfig key "v")).1 = .error (.storage .taskFailed) ∧
        (cluster.serve ⟨0, 0⟩ (.putConfig key "v")).2.store.database =
          cluster.store.database) ∧
      ∃ response after, request.submit schedule (fun _ => ⟨0, 0⟩) = (some response, after) ∧
        response.status = 409 ∧ after.cluster.store.database = cluster.store.database := by
  intro row rows cluster schedule request
  rcases refused_requests_keep_rows with ⟨calls, requests⟩
  refine ⟨rfl, rfl, ?long, ?taken⟩
  case long =>
    obtain ⟨key, size⟩ : ∃ key : String, key.utf8ByteSize = Medium.keyLimit + 1 :=
      ⟨_, Utf8.utf8ByteSize_replicate _⟩
    have admitted : (Call.putConfig key "v").refusal? = none := by
      apply if_neg
      rintro rfl
      exact absurd size (by decide)
    rcases calls cluster ⟨0, 0⟩ (.putConfig key "v") rfl with ⟨_, kept, refused⟩
    have failed := refused () _ .config key (some (Utf8.encode "v")) admitted rfl
      ((WriteSet.get?_stage _ _ _ _ _ _).trans (if_pos ⟨rfl, rfl⟩)) rfl
      (.inr (by rw [size]; exact Nat.lt_succ_self _))
    exact ⟨key, size, failed, kept (.inl ⟨_, failed⟩)⟩
  case taken =>
    have conflict : (request.submit schedule fun _ => ⟨0, 0⟩).1.map (·.status) = some 409 := by
      decide +kernel
    rcases requests request schedule (fun _ => ⟨0, 0⟩) rfl with
      ⟨response, after, answered, same, _⟩
    rw [answered] at conflict
    have status : response.status = 409 := Option.some.inj conflict
    refine ⟨response, after, answered, status, same (.inl ?_)⟩
    rw [status]
    decide

end Request

end ControlPlane.Http
