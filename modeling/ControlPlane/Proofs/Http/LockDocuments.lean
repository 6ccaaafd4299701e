import ControlPlane.Proofs.Cluster.StoredLocks
import ControlPlane.Proofs.Http.ItemPlans
import ControlPlane.Proofs.Http.ReadAnswers

/-!
# Documents of locks

Whoever is refused over the lock of a plan, or looks it up, is shown the document of the
lock that is stored.  It is enough to release the lock: a client that sends it back, as it
is or as it was read from a JSON text, names the holder of the lock.
-/

namespace ControlPlane.Http

open Plan

/-! ## Refusals as responses -/

namespace Response

/-- A request about a plan is refused over a lock. -/
def IsRefusal (response : Response) : Prop :=
  response.status = 409 ∨ response.status = 423

theorem IsRefusal.not_success {response : Response} (refusal : response.IsRefusal) :
    response.status ≠ 200 := by
  intro success
  rcases refusal with status | status <;> cases success.symm.trans status

theorem IsRejection.not_isRefusal {response : Response} (rejection : response.IsRejection) :
    ¬response.IsRefusal := by
  rintro (status | status) <;> rw [IsRejection, status] at rejection <;>
    exact absurd rejection (by decide)

theorem planFailure_refusal (held requested : Lock) :
    planFailure (Plans.refusal held requested) =
      json (if held.sameHolder requested then 423 else 409) held.text := by
  rw [Plans.refusal]
  split <;> rfl

theorem status_of_planFailure (reason : Failure) :
    (planFailure reason).status = statusOf reason.kind := by
  rw [planFailure]
  cases reason.lock? <;> rfl

end Response

namespace Request

variable {request : Request} {plan : String} {cluster : Cluster} {now : Instant}

/-- A request that is refused came to a call that failed, and not for an internal error. -/
theorem failure_of_isRefusal {call : Call} {answer : call.Answer → Response}
    (success : ∀ value, (answer value).status = 200)
    (planned : request.plan cluster.member = .planCall call answer)
    (refused : (request.serve cluster now).1.IsRefusal) :
    ∃ failure, (cluster.serve now call).1 = .error failure ∧ failure.kind ≠ .internal ∧
      (request.serve cluster now).1 = .planFailure failure := by
  rw [serve_of_ask planned] at refused ⊢
  cases outcome : (cluster.serve now call).1 with
  | ok value =>
    rw [outcome] at refused
    rcases refused with status | status <;> cases (success value).symm.trans status
  | error failure =>
    rw [outcome] at refused
    refine ⟨failure, rfl, ?_, rfl⟩
    intro kind
    have status : (Response.planFailure failure).status = 500 := by
      rw [Response.status_of_planFailure, kind]
      rfl
    rcases refused with refused | refused <;> cases status.symm.trans refused

/-! ## What is shown of a lock -/

section Shown

variable {stored : Option Lock} (stores : cluster.StoresLock plan stored)
  (method : request.method = "PUT") (refused : (request.serve cluster now).1.IsRefusal)

include stores method refused

/-- Whoever asks for a lock is refused with the one that is stored. -/
theorem refused_putLock (addresses : request.Addresses .lock plan) :
    cluster.Finds plan ∧ ∃ held requested, stored = some held ∧
      Plans.decodeLock request.body = .ok requested ∧ (request.serve cluster now).1 =
        .json (if held.sameHolder requested then 423 else 409) held.text := by
  rcases plan_putLock cluster.member addresses method with rejected | ⟨requested, decoded, planned⟩
  · exact absurd refused (isRejection_of_isRejected rejected now).not_isRefusal
  · rcases failure_of_isRefusal (fun _ => rfl) planned refused with ⟨failure, failed, shown, sent⟩
    rcases Cluster.refused_lock stores shown failed with ⟨finds, held, known, rfl⟩
    rw [Response.planFailure_refusal] at sent
    exact ⟨finds, held, requested, known, decoded, sent⟩

theorem refused_unlock (addresses : request.Addresses .unlock plan) :
    cluster.Finds plan ∧ ∃ held, stored = some held ∧
      (request.serve cluster now).1 = .json 409 held.text := by
  have planned := plan_unlock cluster.member addresses method
  rcases withLock_cases request.body _ with rejected | ⟨requested, _, read⟩
  · rw [← planned] at rejected
    exact absurd refused (isRejection_of_isRejected rejected now).not_isRefusal
  · rw [read] at planned
    rcases failure_of_isRefusal (fun _ => rfl) planned refused with ⟨failure, failed, shown, sent⟩
    rcases Cluster.refused_unlock stores shown failed with ⟨finds, held, known, rfl⟩
    exact ⟨finds, held, known, sent⟩

theorem refused_putState (addresses : request.Addresses .state plan) :
    cluster.Finds plan ∧
      (request.serve cluster now).1 = .json 409 (stored.getD .blank).text := by
  rcases plan_putState cluster.member addresses method with
    rejected | ⟨lockId, state, _, planned⟩
  · exact absurd refused (isRejection_of_isRejected rejected now).not_isRefusal
  · rcases failure_of_isRefusal (fun _ => rfl) planned refused with ⟨failure, failed, shown, sent⟩
    rcases Cluster.refused_putState stores shown failed with ⟨finds, rfl⟩
    exact ⟨finds, sent⟩

end Shown

/-- Whoever looks up a lock is shown the one that is stored. -/
theorem answered_getLock {stored : Option Lock} (stores : cluster.StoresLock plan stored)
    (addresses : request.Addresses .lock plan) (method : request.method = "GET")
    (success : (request.serve cluster now).1.status = 200) :
    cluster.Finds plan ∧ ∃ held, stored = some held ∧
      (request.serve cluster now).1 = .json 200 (Json.quote held.text) := by
  have planned := plan_getLock cluster.member addresses method
  rw [serve_of_ask planned] at success ⊢
  cases outcome : (cluster.serve now (.getLock plan)).1 with
  | ok held =>
    rcases stores.of_getLock outcome with ⟨finds, known⟩
    exact ⟨finds, held, known, rfl⟩
  | error failure =>
    rw [outcome] at success
    exact absurd success (Response.status_planFailure failure)

/-- What looks up a lock, or is refused over it, leaves it as it is. -/
theorem storesLock_serve {stored : Option Lock} (stores : cluster.StoresLock plan stored)
    (kept : (request.serve cluster now).1.status ≠ 200 ∨ request.LooksUp) :
    (request.serve cluster now).2.StoresLock plan stored := by
  apply stores.congr
  rw [Cluster.value?, Cluster.value?, database_serve kept]

end Request

/-! ## Releasing a lock by its document -/

/-- A document releases the lock of a plan wherever that lock is stored. -/
def Releases (medium : Medium) (plan : String) (held : Lock) (document : String) : Prop :=
  ∀ (cluster : Cluster) (unlock : Request) (now : Instant),
    cluster.store.database.medium = medium → cluster.StoresLock plan (some held) →
    unlock.Addresses .unlock plan → unlock.method = "PUT" →
    unlock.body = Utf8.encode document → unlock.body.length ≤ bodyLimit →
    (unlock.serve cluster now).1.status = 200 ∧
      (unlock.serve cluster now).2.StoresLock plan none

/-- The document of a lock that is stored names its holder. -/
theorem releases_of_finds {cluster : Cluster} {plan : String} (finds : cluster.Finds plan)
    (held : Lock) : Releases cluster.store.database.medium plan held held.text := by
  intro later unlock now medium stores addresses method body short
  -- The row may hold the lock in other words; its date was read, so the document reads back.
  have decoded : Plans.decodeLock (Utf8.encode held.text) = .ok held := by
    rcases stores with ⟨text, _, decoded⟩
    exact Plans.decodeLock_text (Lock.dated_of_decode decoded)
  have planned := Request.plan_unlock later.member addresses method
  rw [body] at planned short
  rw [withLock_encode short decoded] at planned
  have findsLater : later.Finds plan := by
    rw [Cluster.Finds, medium]
    exact finds
  have own : held.sameHolder held = true := by
    simp [Lock.sameHolder]
  rcases stores.serve_unlock findsLater own with ⟨answered, released⟩
  rw [Request.serve_of_ask planned, answered]
  exact ⟨rfl, released⟩

/-- The endpoints over whose lock a request is refused. -/
def Endpoint.OfLocks (endpoint : Endpoint) : Prop :=
  endpoint = .lock ∨ endpoint = .unlock ∨ endpoint = .state

/-- Documents of locks survive the way to a client and back, wherever the row of the lock is
missing or reads as a lock, whatever is in its fields.

* A request to write that is refused over a lock is sent the document of the stored lock and
  nothing else; only a state that is refused without a lock is sent the document of a blank
  one.  Only whoever asks for a lock and is its holder is told that it is locked.
* A request that looks up the lock is sent a JSON text, and the text is the document of the
  stored lock.
* The lock stays as it is, and the document releases it wherever it is still stored. -/
theorem lock_documents_release {cluster : Cluster} {plan : String} {stored : Option Lock}
    (stores : cluster.StoresLock plan stored) (request : Request) (now : Instant) :
    let response := (request.serve cluster now).1
    let after := (request.serve cluster now).2
    (∀ endpoint : Endpoint, endpoint.OfLocks → request.Addresses endpoint plan →
      request.method = "PUT" → response.IsRefusal →
      (match stored with
        | some held => response.body = held.text ∧
          Releases cluster.store.database.medium plan held response.body
        | none => endpoint = .state ∧ response.body = Lock.blank.text) ∧
      (response.status = 423 → endpoint = .lock ∧ ∃ held requested, stored = some held ∧
        Plans.decodeLock request.body = .ok requested ∧ held.id = requested.id ∧
        held.operation = requested.operation ∧ held.who = requested.who) ∧
      after.StoresLock plan stored) ∧
    (request.Addresses .lock plan → request.method = "GET" → response.status = 200 →
      ∃ held document, stored = some held ∧
        Json.decodeText (Utf8.encode response.body) = .ok document ∧ document = held.text ∧
        Releases cluster.store.database.medium plan held document ∧
        after.StoresLock plan stored) := by
  intro response after
  constructor
  · intro endpoint ofLocks addresses method refused
    have kept : after.StoresLock plan stored :=
      Request.storesLock_serve stores (.inl refused.not_success)
    have releases {held : Lock} (finds : cluster.Finds plan) (sent : response.body = held.text) :
        response.body = held.text ∧
          Releases cluster.store.database.medium plan held response.body := by
      rw [sent]
      exact ⟨rfl, releases_of_finds finds held⟩
    rcases ofLocks with rfl | rfl | rfl
    case inl =>
      rcases Request.refused_putLock stores method refused addresses with
        ⟨finds, held, requested, rfl, decoded, sent⟩
      refine ⟨releases finds (congrArg Response.body sent), ?_, kept⟩
      intro locked
      have same : held.sameHolder requested = true := by
        have status := (congrArg Response.status sent).symm.trans locked
        by_contra other
        rw [if_neg other] at status
        cases status
      rw [Lock.sameHolder, Bool.and_eq_true, Bool.and_eq_true, beq_iff_eq, beq_iff_eq,
        beq_iff_eq, and_assoc] at same
      exact ⟨rfl, held, requested, rfl, decoded, same⟩
    case inr.inl =>
      rcases Request.refused_unlock stores method refused addresses with ⟨finds, held, rfl, sent⟩
      refine ⟨releases finds (congrArg Response.body sent), ?_, kept⟩
      intro locked
      cases (congrArg Response.status sent).symm.trans locked
    case inr.inr =>
      rcases Request.refused_putState stores method refused addresses with ⟨finds, sent⟩
      refine ⟨?_, ?_, kept⟩
      · cases stored with
        | none => exact ⟨rfl, congrArg Response.body sent⟩
        | some held => exact releases finds (congrArg Response.body sent)
      · intro locked
        cases (congrArg Response.status sent).symm.trans locked
  · intro addresses method success
    rcases Request.answered_getLock stores addresses method success with
      ⟨finds, held, known, sent⟩
    refine ⟨held, held.text, known, ?_, rfl, releases_of_finds finds held,
      Request.storesLock_serve stores (.inr (.inl method))⟩
    rw [show response = _ from sent]
    exact Json.decodeText_quote held.text

/-- A lock whose row is written with other members and white space.  Its holder asks for it
again, someone looks it up, and what they read releases it. -/
theorem lock_documents_release_of_spaced_row :
    let held : Lock := { id := "7", info := "a\"\\\n", who := "é" }
    let text := "\x7b \"Who\" : \"\\u00e9\", \"Lease\": []," ++
      " \"Info\":\"a\\\"\\\\\\n\", \"ID\":\"7\" \x7d"
    let rows := (Tables.const KeyMap.empty).set .config
      (KeyMap.empty.insert (Plans.lockKey "p/q") (Utf8.encode text))
    let cluster : Cluster := ⟨"node-1", ⟨⟨.persistent, rows, .const []⟩, 0, none⟩⟩
    let now : Instant := ⟨0, 0⟩
    let again : Request :=
      ⟨"PUT", itemTarget "terraformlock" "p%2Fq".toList none, Utf8.encode held.text⟩
    let look : Request := ⟨"GET", itemTarget "terraformlock" "p%2Fq".toList none, []⟩
    let unlock : Request :=
      ⟨"PUT", itemTarget "terraformunlock" "p%2Fq".toList none, Utf8.encode held.text⟩
    cluster.StoresLock "p/q" (some held) ∧ (again.serve cluster now).1.status = 423 ∧
      (again.serve cluster now).1.body = held.text ∧ (look.serve cluster now).1.status = 200 ∧
      Json.decodeText (Utf8.encode (look.serve cluster now).1.body) = .ok held.text ∧
      (unlock.serve (look.serve cluster now).2 now).1.status = 200 ∧
      (unlock.serve (look.serve cluster now).2 now).2.StoresLock "p/q" none := by
  intro held text rows cluster now again look unlock
  have stores : cluster.StoresLock "p/q" (some held) := ⟨text, rfl, by decide +kernel⟩
  have locked : (again.serve cluster now).1.status = 423 := by decide +kernel
  have found : (look.serve cluster now).1.status = 200 := by decide +kernel
  have segment : IsSegment "p%2Fq".toList "p/q" := ⟨by decide, by decide, by decide +kernel⟩
  have addresses (method : String) (body : Bytes) : Request.Addresses
      ⟨method, itemTarget "terraformlock" "p%2Fq".toList none, body⟩ .lock "p/q" :=
    Request.addresses_of_segment rfl (by decide) segment (by decide) method body
  have unlocks : unlock.Addresses .unlock "p/q" :=
    Request.addresses_of_segment rfl (by decide) segment (by decide) "PUT" _
  have short : unlock.body.length ≤ bodyLimit := by decide +kernel
  rcases lock_documents_release stores again now with ⟨refused, _⟩
  rcases refused .lock (.inl rfl) (addresses _ _) rfl (.inr locked) with ⟨⟨body, _⟩, _, _⟩
  rcases lock_documents_release stores look now with ⟨_, answered⟩
  rcases answered (addresses _ _) rfl found with
    ⟨held', document, known, decoded, rfl, releases, kept⟩
  cases known
  have medium : (look.serve cluster now).2.store.database.medium = .persistent :=
    look.medium_serve cluster now
  rcases releases _ unlock now medium kept unlocks rfl rfl short with ⟨released, gone⟩
  exact ⟨stores, locked, body, found, decoded, released, gone⟩

end ControlPlane.Http
