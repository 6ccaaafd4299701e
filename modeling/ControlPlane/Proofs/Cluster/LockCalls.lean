import ControlPlane.Cluster.Schedule
import ControlPlane.Proofs.Cluster.Serving

/-!
# Calls about the lock of a plan

A plan is free where the row of its lock is missing, and held where the row is the
written form of a lock that a client once sent.  Either way it is settled what everyone
who calls about the plan is told, and of all that wait for the lock of a free plan
exactly the first gets it.
-/

namespace ControlPlane

open Plans

namespace Call

/-- The call does not write to a configuration key by its name. -/
def Spares (key : String) : Call → Prop
  | putConfig key' _ | deleteConfig key' => key' ≠ key
  | _ => True

/-- Locks are asked for as clients send them. -/
def Sent : Call → Prop
  | lockPlan _ requested => ∃ document, decodeLock document = .ok requested
  | _ => True

/-- The calls that may change the row of a plan's lock. -/
theorem part_lockKey {plan : String} {call : Call} (spares : call.Spares (lockKey plan))
    (inside : call.part .config (lockKey plan)) :
    (∃ requested, call = .lockPlan plan requested) ∨
      ∃ requested, call = .unlockPlan plan requested := by
  cases call with
  | putConfig key value => exact absurd inside.2.symm spares
  | deleteConfig key => exact absurd inside.2.symm spares
  | lockPlan plan' requested =>
    rw [lockKey_injective inside.2]
    exact .inl ⟨requested, rfl⟩
  | unlockPlan plan' requested =>
    rw [lockKey_injective inside.2]
    exact .inr ⟨requested, rfl⟩
  | putState plan' lockId state => exact absurd inside.2 (lockKey_ne_stateKey _ _)
  | deleteState plan' => exact absurd inside.2 (lockKey_ne_stateKey _ _)
  | addManifest id data => rcases inside with inside | inside <;> cases inside.1
  | addNode | updateNode | deleteNode | deleteManifest | addJujuUser | deleteJujuUser =>
    cases inside.1
  | _ => exact inside.elim

end Call

namespace Cluster

variable {cluster : Cluster} {plan : String} {lock : Lock}

/-! ## Calls about a plan -/

/-- A plan without a lock: there is no row. -/
def Free (cluster : Cluster) (plan : String) : Prop :=
  cluster.value? .config (lockKey plan) = none

/-- A lock is held: its written form is in the row, and is what a client once sent. -/
structure Held (cluster : Cluster) (plan : String) (lock : Lock) : Prop where
  row : cluster.value? .config (lockKey plan) = some (Utf8.encode lock.text)
  sent : ∃ document, decodeLock document = .ok lock

theorem Free.reads (free : cluster.Free plan) (ready : cluster.Ready) :
    ConfigItems.Reads cluster.store.database .empty (lockKey plan) none := by
  apply ConfigItems.reads_of_value
  · exact Database.canFind_of_memory ready.memory _
  · exact free

theorem Held.reads (held : cluster.Held plan lock) (ready : cluster.Ready) :
    ConfigItems.Reads cluster.store.database .empty (lockKey plan) (some lock.text) := by
  apply ConfigItems.reads_of_value
  · exact Database.canFind_of_memory ready.memory _
  · exact held.row

theorem Held.ofText? (held : cluster.Held plan lock) :
    LockRow.ofText? (some lock.text) = .held lock := by
  rcases held.sent with ⟨document, sent⟩
  exact ofText?_text sent

/-- A plan without a lock gives it to whoever asks. -/
theorem Free.serve_lock (free : cluster.Free plan) (ready : cluster.Ready) (now : Instant)
    (requested : Lock) :
    (cluster.serve now (.lockPlan plan requested)).1 = .ok () ∧
      (cluster.serve now (.lockPlan plan requested)).2.value? .config (lockKey plan) =
        some (Utf8.encode requested.text) := by
  have acts := lock_apply (free.reads ready) requested
  rcases serve_of_answer now (.lockPlan plan requested) ready.memory rfl acts with
    ⟨answered, rows⟩
  refine ⟨answered, ?_⟩
  rw [rows, Database.value?_put, if_pos ⟨rfl, rfl⟩]

theorem Free.serve_unlock (free : cluster.Free plan) (ready : cluster.Ready) (now : Instant)
    (requested : Lock) :
    (cluster.serve now (.unlockPlan plan requested)).1 = .ok () ∧
      (cluster.serve now (.unlockPlan plan requested)).2.Free plan := by
  have acts := unlock_apply (free.reads ready) requested
  rcases serve_of_answer now (.unlockPlan plan requested) ready.memory rfl acts with
    ⟨answered, rows⟩
  exact ⟨answered, (rows _ _).trans free⟩

theorem Free.serve_putState (free : cluster.Free plan) (ready : cluster.Ready) (now : Instant)
    (lockId state : String) :
    (cluster.serve now (.putState plan lockId state)).1 = .error (.lockConflict .blank) := by
  have acts := putState_apply (free.reads ready) lockId state
  exact (serve_of_failure now (.putState plan lockId state) rfl acts).1

theorem Free.serve_getLock (free : cluster.Free plan) (ready : cluster.Ready) (now : Instant) :
    (cluster.serve now (.getLock plan)).1 = .error ConfigItems.notFound := by
  have acts := getLock_apply (free.reads ready)
  exact (serve_of_failure now (.getLock plan) rfl acts).1

/-- Whoever asks for a lock that is held is refused with it. -/
theorem Held.serve_lock (held : cluster.Held plan lock) (ready : cluster.Ready) (now : Instant)
    (requested : Lock) :
    (cluster.serve now (.lockPlan plan requested)).1 = .error (refusal lock requested) := by
  have acts := lock_apply (held.reads ready) requested
  rw [held.ofText?] at acts
  exact (serve_of_failure now (.lockPlan plan requested) rfl acts).1

/-- A lock is released by its holder, and anyone else is refused with it. -/
theorem Held.serve_unlock (held : cluster.Held plan lock) (ready : cluster.Ready)
    (now : Instant) (requested : Lock) :
    if lock.sameHolder requested then
      (cluster.serve now (.unlockPlan plan requested)).1 = .ok () ∧
        (cluster.serve now (.unlockPlan plan requested)).2.Free plan
    else (cluster.serve now (.unlockPlan plan requested)).1 = .error (.lockConflict lock) := by
  have acts := unlock_apply (held.reads ready) requested
  rw [held.ofText?] at acts
  split
  · rename_i own
    simp only [own, if_true] at acts
    rcases serve_of_answer now (.unlockPlan plan requested) ready.memory rfl acts with
      ⟨answered, rows⟩
    refine ⟨answered, ?_⟩
    rw [Free, rows, Database.value?_delete, if_pos ⟨rfl, rfl⟩]
  · rename_i other
    simp only [other] at acts
    exact (serve_of_failure now (.unlockPlan plan requested) rfl acts).1

theorem Held.serve_putState (held : cluster.Held plan lock) (ready : cluster.Ready)
    (now : Instant) (lockId state : String) :
    (cluster.serve now (.putState plan lockId state)).1 =
      if lock.id = lockId then .ok () else .error (.lockConflict lock) := by
  have acts := putState_apply (held.reads ready) lockId state
  rw [held.ofText?] at acts
  split
  · rename_i own
    simp only [own, if_true] at acts
    exact (serve_of_answer now (.putState plan lockId state) ready.memory rfl acts).1
  · rename_i other
    simp only [other, if_false] at acts
    exact (serve_of_failure now (.putState plan lockId state) rfl acts).1

theorem Held.serve_getLock (held : cluster.Held plan lock) (ready : cluster.Ready)
    (now : Instant) : (cluster.serve now (.getLock plan)).1 = .ok lock := by
  have acts := getLock_apply (held.reads ready)
  rw [held.ofText?] at acts
  exact (serve_of_answer now (.getLock plan) ready.memory rfl acts).1

/-! ## What everyone is told -/

/-- What everyone is told about a plan while a lock on it is held. -/
structure ToldHeld (cluster : Cluster) (plan : String) (lock : Lock) : Prop where
  row : cluster.value? .config (lockKey plan) = some (Utf8.encode lock.text)
  getLock : ∀ now, (cluster.serve now (.getLock plan)).1 = .ok lock
  lockPlan : ∀ now requested,
    (cluster.serve now (.lockPlan plan requested)).1 = .error (refusal lock requested)
  unlockPlan : ∀ now requested, (cluster.serve now (.unlockPlan plan requested)).1 =
    if lock.sameHolder requested then .ok () else .error (.lockConflict lock)
  putState : ∀ now lockId state, (cluster.serve now (.putState plan lockId state)).1 =
    if lock.id = lockId then .ok () else .error (.lockConflict lock)

/-- What everyone is told about a plan that is not locked. -/
structure ToldFree (cluster : Cluster) (plan : String) : Prop where
  row : cluster.value? .config (lockKey plan) = none
  getLock : ∀ now, (cluster.serve now (.getLock plan)).1 = .error ConfigItems.notFound
  lockPlan : ∀ now requested, (cluster.serve now (.lockPlan plan requested)).1 = .ok ()
  unlockPlan : ∀ now requested, (cluster.serve now (.unlockPlan plan requested)).1 = .ok ()
  putState : ∀ now lockId state,
    (cluster.serve now (.putState plan lockId state)).1 = .error (.lockConflict .blank)

theorem Held.told {lock : Lock} (held : cluster.Held plan lock) (ready : cluster.Ready) :
    cluster.ToldHeld plan lock where
  row := held.row
  getLock := held.serve_getLock ready
  lockPlan := held.serve_lock ready
  unlockPlan := by
    intro now requested
    have outcome := held.serve_unlock ready now requested
    split at outcome
    · rename_i own
      rw [if_pos own]
      exact outcome.1
    · rename_i other
      rw [if_neg other]
      exact outcome
  putState := held.serve_putState ready

theorem Free.told (free : cluster.Free plan) (ready : cluster.Ready) :
    cluster.ToldFree plan where
  row := free
  getLock := free.serve_getLock ready
  lockPlan := fun now requested => (free.serve_lock ready now requested).1
  unlockPlan := fun now requested => (free.serve_unlock ready now requested).1
  putState := free.serve_putState ready

end Cluster

/-! ## Lock calls that wait for the slot -/

namespace Schedule

/-- Asks for the lock of a plan. -/
def lockRequest (plan : String) (requested : Lock) : Pending (Except Failure Unit) :=
  ⟨.lockPlan plan requested, fun outcome => outcome⟩

variable {schedule : Schedule (Except Failure Unit)} {plan : String}

/-- The schedule after a call for a lock. -/
def afterLock (schedule : Schedule (Except Failure Unit)) (clock : Nat → Instant)
    (plan : String) (requested : Lock) : Schedule (Except Failure Unit) :=
  { schedule with
    cluster := (schedule.cluster.serve (schedule.nextReading clock)
      (.lockPlan plan requested)).2 }

theorem serveAll_lockRequest (schedule : Schedule (Except Failure Unit)) (clock : Nat → Instant)
    (acc : List (Except Failure Unit)) (requested : Lock)
    (rest : List (Pending (Except Failure Unit))) :
    serveAll clock acc schedule (lockRequest plan requested :: rest) =
      serveAll clock
        ((schedule.cluster.serve (schedule.nextReading clock) (.lockPlan plan requested)).1 :: acc)
        (schedule.afterLock clock plan requested) rest := rfl

/-- While a lock is held, all that wait for it are refused with it. -/
theorem serveAll_held {lock : Lock} (held : schedule.cluster.Held plan lock)
    (ready : schedule.cluster.Ready) (clock : Nat → Instant) (acc : List (Except Failure Unit))
    (requests : List Lock) :
    (serveAll clock acc schedule (requests.map (lockRequest plan))).1 =
      acc.reverse ++ requests.map fun requested => .error (refusal lock requested) := by
  induction requests generalizing acc schedule with
  | nil => exact (List.append_nil _).symm
  | cons requested rest ih =>
    have refused := held.serve_lock ready (schedule.nextReading clock) requested
    have stillHeld : (schedule.afterLock clock plan requested).cluster.Held plan lock :=
      ⟨(Cluster.value?_serve _ _ (.inr ⟨_, refused⟩)).trans held.row, held.sent⟩
    have stillReady : (schedule.afterLock clock plan requested).cluster.Ready :=
      ready.serve _ _
    rw [List.map_cons, serveAll_lockRequest, refused, ih stillHeld stillReady, List.reverse_cons,
      List.append_assoc]
    rfl

/-- Of all that wait for the lock of a free plan, the first one gets it and the others
are refused with it. -/
theorem drain_free (free : schedule.cluster.Free plan) (ready : schedule.cluster.Ready)
    (clock : Nat → Instant) {first : Lock} (sent : ∃ document, decodeLock document = .ok first)
    (rest : List Lock)
    (waiting : schedule.waiting = (first :: rest).map (lockRequest plan)) :
    (schedule.drain clock).1 =
      .ok () :: rest.map fun requested => .error (refusal first requested) := by
  let begun : Schedule (Except Failure Unit) := { schedule with waiting := [] }
  rcases free.serve_lock ready (begun.nextReading clock) first with ⟨taken, row⟩
  have held : (begun.afterLock clock plan first).cluster.Held plan first := ⟨row, sent⟩
  have stillReady : (begun.afterLock clock plan first).cluster.Ready := ready.serve _ _
  have drained : schedule.drain clock = serveAll clock [] begun schedule.waiting := by
    rw [drain, ready.free]
  rw [drained, waiting, List.map_cons, serveAll_lockRequest, serveAll_held held stillReady]
  rw [show (begun.cluster.serve (begun.nextReading clock) (.lockPlan plan first)).1 = .ok () from
    taken]
  rfl

end Schedule

end ControlPlane
