import ControlPlane.Cluster.Schedule
import ControlPlane.Proofs.Cluster.CallFootprint
import ControlPlane.Proofs.Store.SeenRows

/-!
# Calls that change no row

A call that fails leaves every committed row as it was, on either medium, and so does a
call that only reads.  A write set with a key that the medium cannot store fails as a
whole.  Whatever becomes of a call, the writer slot is free after it.
-/

namespace ControlPlane

/-- What the persistent medium cannot store. -/
theorem Medium.canStore_persistent_eq_false_iff {key : String} :
    persistent.canStore key = false ↔ key = "" ∨ keyLimit < key.utf8ByteSize := by
  rw [← Bool.not_eq_true, canStore_persistent_iff, Decidable.not_and_iff_not_or_not,
    Decidable.not_not, Nat.not_le, or_comm]

namespace Database

/-- Committing nothing changes nothing. -/
@[simp]
theorem apply_empty (database : Database) : database.apply .empty = .ok database := by
  have same : ({ database with rows := database.seen .empty } : Database) = database := by
    rw [seen_empty]
  exact congrArg Except.ok same

/-- A medium that cannot store a staged key refuses the whole write set. -/
theorem apply_of_not_canStore {database : Database} {writes : WriteSet} {table : Table}
    {key : String} {write : Option Bytes} (staged : writes.get? table key = some write)
    (lost : database.medium.canStore key = false) :
    database.apply writes = .error .taskFailed := by
  cases applied : database.apply writes with
  | ok next =>
    rw [canStore_of_apply applied staged] at lost
    cases lost
  | error fault =>
    rw [apply] at applied
    split at applied
    · cases applied
    · exact applied.symm

end Database

namespace Store

variable {α : Type} {store : Store} {action : Action α}

/-- A transaction of its own leaves the slot as it finds it. -/
@[simp]
theorem current_transact (store : Store) (action : Action α) :
    (store.transact action).2.current = store.current := by
  rw [transact]
  rcases action store.database .empty with ⟨_ | value, writes⟩
  · rfl
  · cases applied : store.database.apply writes <;> simp only [applied]

theorem database_of_transact_error {failure : Failure}
    (failed : (store.transact action).1 = .error failure) :
    (store.transact action).2.database = store.database := by
  rw [transact] at failed ⊢
  rcases acts : action store.database .empty with ⟨_ | value, writes⟩
  · rfl
  · cases applied : store.database.apply writes with
    | ok database =>
      simp only [acts, applied] at failed
      cases failed
    | error fault => simp only [applied]

theorem database_of_readsOnly (reads : action.ReadsOnly) :
    (store.transact action).2.database = store.database := by
  have same := reads store.database .empty
  rw [transact]
  rcases acts : action store.database .empty with ⟨_ | value, writes⟩
  · rfl
  · have unstaged : writes = .empty := (congrArg Prod.snd acts).symm.trans same
    simp only [unstaged, Database.apply_empty]

/-- An answer whose writes the medium refuses is a failure of the store. -/
theorem transact_of_not_canStore {value : α} {writes : WriteSet} {table : Table} {key : String}
    {write : Option Bytes} (acts : action store.database .empty = (.ok value, writes))
    (staged : writes.get? table key = some write)
    (lost : store.database.medium.canStore key = false) :
    (store.transact action).1 = .error (.storage .taskFailed) := by
  rw [transact]
  simp only [acts, Database.apply_of_not_canStore staged lost]

end Store

/-! ## Calls -/

namespace Call

/-- The calls that look something up or list something. -/
def isReading : Call → Bool
  | getConfig _ | listConfigKeys _ | listNodes _ | getNode _ | listManifests | getManifest _
  | listJujuUsers | getJujuUser _ | listStates | getState _ | listLocks | getLock _ => true
  | putConfig .. | deleteConfig _ | addNode .. | updateNode .. | deleteNode _ | addManifest ..
  | deleteManifest _ | addJujuUser .. | deleteJujuUser _ | putState .. | deleteState _
  | lockPlan .. | unlockPlan .. => false

theorem readsOnly_action (member : String) (now : Instant) {call : Call}
    (reading : call.isReading = true) : (call.action member now).ReadsOnly := by
  cases call with
  | getConfig key => exact ConfigItems.readsOnly_get key
  | listConfigKeys start => exact ConfigItems.readsOnly_keys start
  | listNodes roles => exact Nodes.readsOnly_list roles
  | getNode name => exact Nodes.readsOnly_get name
  | listManifests => exact Manifests.readsOnly_list
  | getManifest id => exact Manifests.readsOnly_get id
  | listJujuUsers => exact JujuUsers.readsOnly_list
  | getJujuUser username => exact JujuUsers.readsOnly_get username
  | listStates => exact Plans.readsOnly_plansWith Plans.stateStart
  | getState plan => exact Plans.readsOnly_getState plan
  | listLocks => exact Plans.readsOnly_plansWith Plans.lockStart
  | getLock plan => exact Plans.readsOnly_getLock plan
  | putConfig | deleteConfig | addNode | updateNode | deleteNode | addManifest | deleteManifest
  | addJujuUser | deleteJujuUser | putState | deleteState | lockPlan | unlockPlan =>
    cases reading

end Call

namespace Cluster

variable {cluster : Cluster} {call : Call}

/-- A call leaves the slot as it finds it. -/
@[simp]
theorem current_serve (cluster : Cluster) (now : Instant) (call : Call) :
    (cluster.serve now call).2.store.current = cluster.store.current := by
  rw [serve]
  cases call.refusal? with
  | some failure => rfl
  | none => exact Store.current_transact _ _

/-- A call that fails changes no row. -/
theorem database_of_serve_error {now : Instant} {failure : Failure}
    (failed : (cluster.serve now call).1 = .error failure) :
    (cluster.serve now call).2.store.database = cluster.store.database := by
  rw [serve] at failed ⊢
  cases refused : call.refusal? with
  | some failure => rfl
  | none =>
    rw [refused] at failed
    exact Store.database_of_transact_error failed

/-- A call that reads changes no row, whatever it answers. -/
theorem database_of_isReading (now : Instant) (reading : call.isReading = true) :
    (cluster.serve now call).2.store.database = cluster.store.database := by
  rw [serve]
  cases call.refusal? with
  | some failure => rfl
  | none => exact Store.database_of_readsOnly (Call.readsOnly_action _ now reading)

/-- A call whose action stages a write to a key that the medium cannot store fails as a
whole. -/
theorem serve_of_not_canStore {now : Instant} (admitted : call.refusal? = none)
    {answer : call.Answer} {writes : WriteSet}
    (acts : call.action cluster.member now cluster.store.database .empty = (.ok answer, writes))
    {table : Table} {key : String} {write : Option Bytes}
    (staged : writes.get? table key = some write)
    (lost : cluster.store.database.medium.canStore key = false) :
    (cluster.serve now call).1 = .error (.storage .taskFailed) := by
  rw [serve, admitted]
  exact Store.transact_of_not_canStore acts staged lost

end Cluster

/-! ## Calls that are handed in while the slot is free -/

namespace Schedule

variable {ω : Type} {schedule : Schedule ω} {clock : Nat → Instant}

theorem isFree_iff :
    schedule.isFree = true ↔ schedule.cluster.store.current = none ∧ schedule.waiting = [] := by
  rw [isFree, Bool.and_eq_true, Option.isNone_iff_eq_none, List.isEmpty_iff]

/-- While the slot is free, a call is answered at once as the cluster serves it. -/
theorem submit_of_isFree (free : schedule.isFree = true) (request : Pending ω) :
    schedule.submit clock request =
      let served := schedule.cluster.serve (schedule.nextReading clock) request.call
      (some (request.receive served.1), { schedule with cluster := served.2 }) := by
  rw [submit, Cluster.serve]
  cases refused : request.call.refusal? with
  | some failure => rfl
  | none =>
    simp only [free, if_true]
    rw [serve, Cluster.serve, refused]

/-- The slot is free again after a call that found it free. -/
theorem isFree_submit (free : schedule.isFree = true) (request : Pending ω) :
    (schedule.submit clock request).2.isFree = true := by
  have parts := isFree_iff.1 free
  rw [submit_of_isFree free]
  apply isFree_iff.2
  constructor
  · exact (Cluster.current_serve _ _ _).trans parts.1
  · exact parts.2

end Schedule

end ControlPlane
