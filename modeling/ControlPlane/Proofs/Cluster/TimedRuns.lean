import ControlPlane.Cluster.Call
import ControlPlane.Proofs.Store.Runs

/-!
# Runs at readings of the clock

Calls are served one after the other, each at what the clock shows by then.  The readings
may repeat and go backwards.
-/

namespace ControlPlane

/-- A call and what the clock shows when it is served. -/
structure TimedCall where
  now : Instant
  call : Call
  deriving DecidableEq

namespace TimedCall

/-- The answers to a call. -/
abbrev Answer (asked : TimedCall) : Type := asked.call.Answer

/-- Whether a call is for the manifest that was applied last. -/
def isLatest (asked : TimedCall) : Bool :=
  asked.call = .getManifest Manifest.latestId

end TimedCall

/-- In an exchange a call is answered. -/
def Exchange.Does (exchange : Exchange TimedCall.Answer) (call : Call) : Prop :=
  exchange.request.call = call ∧ ∃ answer, exchange.outcome = .ok answer

namespace Cluster

/-- Serves calls one after the other. -/
def serveEach (cluster : Cluster) : List TimedCall → List (Exchange TimedCall.Answer) × Cluster
  | [] => ([], cluster)
  | asked :: later =>
    let (outcome, next) := cluster.serve asked.now asked.call
    let (history, last) := next.serveEach later
    (⟨asked, outcome⟩ :: history, last)

/-- The calls are served in order. -/
theorem map_request_serveEach (cluster : Cluster) (calls : List TimedCall) :
    (cluster.serveEach calls).1.map Exchange.request = calls := by
  induction calls generalizing cluster with
  | nil => rfl
  | cons asked later ih => exact congrArg (asked :: ·) (ih _)

end Cluster

end ControlPlane
