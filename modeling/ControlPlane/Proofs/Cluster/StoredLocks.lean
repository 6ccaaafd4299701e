import ControlPlane.Proofs.Cluster.Serving

/-!
# Locks that are stored

Whatever a row was written by, it either reads as a lock or it does not.  Where the row of a
plan's lock is missing or reads as one, every refusal of a call about the plan carries the
stored lock, and whoever names the same holder releases it.
-/

namespace ControlPlane

open Plans

/-! ## Keys that cannot be looked up -/

/-- Where the key of its lock cannot be looked up, nothing is known about a plan. -/
theorem Plans.storedLock?_of_lost {database : Database} {plan : String}
    (lost : database.medium.canFind (lockKey plan) = false) :
    storedLock? plan database .empty = (.error (.storage .taskFailed), .empty) := by
  rw [storedLock?, Action.bind_apply, ConfigItems.get?, Action.bind_apply,
    Action.get_of_lost lost rfl]

namespace Cluster

variable {cluster cluster' : Cluster} {plan : String} {stored : Option Lock} {now : Instant}

/-- What is stored as the lock of a plan, if its row is missing or reads as a lock. -/
def StoresLock (cluster : Cluster) (plan : String) : Option Lock → Prop
  | none => cluster.value? .config (lockKey plan) = none
  | some lock => ∃ text, cluster.value? .config (lockKey plan) = some (Utf8.encode text) ∧
    Lock.decode (Utf8.encode text) = .ok lock

theorem StoresLock.congr (stores : cluster.StoresLock plan stored)
    (same : cluster'.value? .config (lockKey plan) = cluster.value? .config (lockKey plan)) :
    cluster'.StoresLock plan stored := by
  cases stored with
  | none => exact same.trans stores
  | some lock =>
    rcases stores with ⟨text, row, decoded⟩
    exact ⟨text, same.trans row, decoded⟩

/-- The row of a plan's lock can be looked up. -/
def Finds (cluster : Cluster) (plan : String) : Prop :=
  cluster.store.database.medium.canFind (lockKey plan) = true

/-- What is stored is read, if its row can be looked up. -/
theorem StoresLock.reads (stores : cluster.StoresLock plan stored) (finds : cluster.Finds plan) :
    ∃ text?, ConfigItems.Reads cluster.store.database .empty (lockKey plan) text? ∧
      LockRow.ofText? text? = stored.elim .absent .held := by
  cases stored with
  | none => exact ⟨none, ConfigItems.reads_of_value finds stores, rfl⟩
  | some lock =>
    rcases stores with ⟨text, row, decoded⟩
    refine ⟨some text, ConfigItems.reads_of_value finds row, ?_⟩
    rw [LockRow.ofText?, decoded]
    rfl

/-- A call that looks for the lock of a plan first, and does not fail for the store, has
found its row. -/
theorem finds_of_serve {call : Call} (admitted : call.refusal? = none)
    {next : Option Lock → Action call.Answer}
    (looks : call.action cluster.member now = storedLock? plan >>= next)
    (found : (cluster.serve now call).1 ≠ .error (.storage .taskFailed)) :
    cluster.Finds plan := by
  rw [Finds, ← Bool.not_eq_false]
  intro lost
  have acts : call.action cluster.member now cluster.store.database .empty =
      (.error (.storage .taskFailed), .empty) := by
    rw [looks, Action.bind_apply, storedLock?_of_lost lost]
  exact found (serve_of_failure now call admitted acts).1

/-! ## Refusals -/

section Refusals

variable (stores : cluster.StoresLock plan stored) {requested : Lock} {failure : Failure}
  (shown : failure.kind ≠ .internal)

include stores shown

/-- A call that looks for the lock of a plan first, and fails with something else than an
internal error, has found what is stored. -/
theorem acts_of_refused {call : Call} (admitted : call.refusal? = none)
    {next : Option Lock → Action call.Answer}
    (looks : call.action cluster.member now = storedLock? plan >>= next)
    (refused : (cluster.serve now call).1 = .error failure) :
    cluster.Finds plan ∧ ∃ text? writes,
      ConfigItems.Reads cluster.store.database .empty (lockKey plan) text? ∧
      LockRow.ofText? text? = stored.elim .absent .held ∧
      call.action cluster.member now cluster.store.database .empty = (.error failure, writes) := by
  have finds : cluster.Finds plan := by
    apply finds_of_serve admitted looks
    rw [refused]
    rintro ⟨⟩
    exact shown rfl
  rcases stores.reads finds with ⟨text?, reads, row⟩
  rcases acts_of_serve_error admitted refused with ⟨writes, acts⟩ | ⟨fault, rfl⟩
  · exact ⟨finds, text?, writes, reads, row, acts⟩
  · exact absurd rfl shown

theorem refused_lock
    (refused : (cluster.serve now (.lockPlan plan requested)).1 = .error failure) :
    cluster.Finds plan ∧ ∃ held, stored = some held ∧ failure = refusal held requested := by
  rcases acts_of_refused stores shown rfl rfl refused with
    ⟨finds, text?, writes, reads, row, acts⟩
  have known := acts.symm.trans (lock_apply reads requested)
  rw [row] at known
  cases stored with
  | none => cases known
  | some held =>
    cases known
    exact ⟨finds, held, rfl, rfl⟩

theorem refused_unlock
    (refused : (cluster.serve now (.unlockPlan plan requested)).1 = .error failure) :
    cluster.Finds plan ∧ ∃ held, stored = some held ∧ failure = .lockConflict held := by
  rcases acts_of_refused stores shown rfl rfl refused with
    ⟨finds, text?, writes, reads, row, acts⟩
  have known := acts.symm.trans (unlock_apply reads requested)
  rw [row] at known
  cases stored with
  | none => cases known
  | some held =>
    simp only [Option.elim_some] at known
    split at known
    · cases known
    · cases known
      exact ⟨finds, held, rfl, rfl⟩

/-- A state that is refused without a lock is refused with a blank one. -/
theorem refused_putState {lockId state : String}
    (refused : (cluster.serve now (.putState plan lockId state)).1 = .error failure) :
    cluster.Finds plan ∧ failure = .lockConflict (stored.getD .blank) := by
  rcases acts_of_refused stores shown rfl rfl refused with
    ⟨finds, text?, writes, reads, row, acts⟩
  have known := acts.symm.trans (putState_apply reads lockId state)
  rw [row] at known
  cases stored with
  | none =>
    cases known
    exact ⟨finds, rfl⟩
  | some held =>
    simp only [Option.elim_some] at known
    split at known
    · cases known
    · cases known
      exact ⟨finds, rfl⟩

end Refusals

/-! ## Answers -/

theorem StoresLock.of_getLock {lock : Lock} (stores : cluster.StoresLock plan stored)
    (answered : (cluster.serve now (.getLock plan)).1 = .ok lock) :
    cluster.Finds plan ∧ stored = some lock := by
  have found : (cluster.serve now (.getLock plan)).1 ≠ .error (.storage .taskFailed) := by
    rw [answered]
    rintro ⟨⟩
  have finds : cluster.Finds plan := finds_of_serve rfl rfl found
  rcases stores.reads finds with ⟨text?, reads, row⟩
  rcases acts_of_serve answered with ⟨writes, acts, _⟩
  have known := acts.symm.trans (getLock_apply reads)
  rw [row] at known
  cases stored with
  | none => cases known
  | some held =>
    cases known
    exact ⟨finds, rfl⟩

/-- Whoever names the holder of a lock releases it. -/
theorem StoresLock.serve_unlock {lock requested : Lock}
    (stores : cluster.StoresLock plan (some lock)) (finds : cluster.Finds plan)
    (own : lock.sameHolder requested = true) :
    (cluster.serve now (.unlockPlan plan requested)).1 = .ok () ∧
      (cluster.serve now (.unlockPlan plan requested)).2.StoresLock plan none := by
  rcases stores.reads finds with ⟨text?, reads, row⟩
  have acts := unlock_apply reads requested
  rw [row] at acts
  simp only [Option.elim_some, own, if_true] at acts
  have canStore := Medium.canStore_of_canFind finds (lockKey_ne_empty plan)
  have accepted := Database.accepts_stage canStore .config none
  rcases serve_of_accepts now (.unlockPlan plan requested) rfl acts accepted with ⟨answered, rows⟩
  refine ⟨answered, ?_⟩
  rw [StoresLock, rows, Database.value?_delete, if_pos ⟨rfl, rfl⟩]

end Cluster

end ControlPlane
