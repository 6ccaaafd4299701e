import ControlPlane.Proofs.Http.NamedTargets
import ControlPlane.Proofs.Http.RequestRuns

/-!
# What requests about an item come to

A request about an item is rejected without a look at the rows, or it comes to a call about
the item.  Which call it is depends on the endpoint and the method, and for a request that
carries something also on its body.
-/

namespace ControlPlane.Http

open Plan

/-! ## Requests about an item -/

namespace Request

variable {request : Request} {endpoint : Endpoint} {name : String} (member : String)

theorem isRejection_of_isRejected {cluster : Cluster}
    (rejected : (request.plan cluster.member).IsRejected) (now : Instant) :
    (request.serve cluster now).1.IsRejection := by
  rcases rejected with ⟨response, planned, rejection⟩
  rw [serve_of_reply planned]
  exact rejection

/-- A request with a method that the endpoint serves. -/
theorem plan_of_method (addresses : request.Addresses endpoint name) (method : Method)
    (serves : endpoint.method? request.method = some method) (whole : request.method ≠ "HEAD") :
    request.plan member =
      planItem (Target.ofText request.target) request.body name endpoint method := by
  rw [plan_of_addresses addresses, serves]
  exact if_neg whole

section Item

variable (addresses : request.Addresses .configItem name)

include addresses

theorem plan_putItem (method : request.method = "PUT") :
    (request.plan member).IsRejected ∨ ∃ value, request.body = Utf8.encode value ∧
      request.plan member = .call (.putConfig name value) fun _ => .done := by
  rw [plan_of_method member addresses .put (by rw [method]; rfl)
    (by rw [method]; decide)]
  exact withText_cases _ _

theorem plan_getItem (method : request.method = "GET") :
    request.plan member = .call (.getConfig name) fun value => .sync (.text value) :=
  plan_of_method member addresses .get (by rw [method]; rfl) (by rw [method]; decide)

end Item

section State

variable (addresses : request.Addresses .state name)

include addresses

theorem plan_putState (method : request.method = "PUT") :
    (request.plan member).IsRejected ∨ ∃ lockId state, request.body = Utf8.encode state ∧
      request.plan member = .planCall (.putState name lockId state) fun _ => .done := by
  rw [plan_of_method member addresses .put (by rw [method]; rfl)
    (by rw [method]; decide)]
  rw [planItem]
  rcases withQuery_cases (Target.ofText request.target) "ID" _ with rejected | ⟨lockId, _, planned⟩
  · exact .inl rejected
  · rw [planned]
    rcases withText_cases request.body _ with rejected | ⟨state, same, planned⟩
    · exact .inl rejected
    · exact .inr ⟨lockId.getD "", state, same, planned⟩

theorem plan_getState (method : request.method = "GET") :
    request.plan member = .planCall (.getState name) fun state => .json 200 state :=
  plan_of_method member addresses .get (by rw [method]; rfl) (by rw [method]; decide)

end State

section Lock

variable (addresses : request.Addresses .lock name)

include addresses

theorem plan_putLock (method : request.method = "PUT") :
    (request.plan member).IsRejected ∨
      ∃ requested, Plans.decodeLock request.body = .ok requested ∧
        request.plan member = .planCall (.lockPlan name requested) fun _ => .done := by
  rw [plan_of_method member addresses .put (by rw [method]; rfl)
    (by rw [method]; decide)]
  exact withLock_cases _ _

theorem plan_getLock (method : request.method = "GET") :
    request.plan member = .planCall (.getLock name) fun lock => .json 200 (Json.quote lock.text) :=
  plan_of_method member addresses .get (by rw [method]; rfl) (by rw [method]; decide)

end Lock

section Unlock

variable (addresses : request.Addresses .unlock name)

include addresses

theorem plan_unlock (method : request.method = "PUT") :
    request.plan member = withLock request.body fun requested =>
      .planCall (.unlockPlan name requested) fun _ => .done :=
  plan_of_method member addresses .put (by rw [method]; rfl) (by rw [method]; decide)

end Unlock

end Request

end ControlPlane.Http
