import ControlPlane.Proofs.Cluster.LockCalls
import ControlPlane.Proofs.Store.Runs

/-!
# Who holds the lock of a plan

Calls from any number of clients are served one at a time, in the order in which they
get the writer slot.  What has been served so far settles who holds the lock of a plan:
whoever took it and has not released it since.  The row of the lock is the written form
of the lock that is held, or missing, after every run from an empty cluster in memory.
-/

namespace ControlPlane

open Plans

/-! ## Histories -/

/-- A lock was taken on a plan and no lock of the plan was released since. -/
def HoldsLock (plan : String) (history : List (Exchange Call.Answer)) (lock : Lock) : Prop :=
  ∃ before after, history = before ++ ⟨.lockPlan plan lock, .ok ()⟩ :: after ∧
    ∀ requested, ⟨.unlockPlan plan requested, .ok ()⟩ ∉ after

/-- The lock that is held after one more call. -/
theorem holdsLock_concat {plan : String} {history : List (Exchange Call.Answer)}
    {exchange : Exchange Call.Answer} {lock : Lock} :
    HoldsLock plan (history ++ [exchange]) lock ↔
      exchange = ⟨.lockPlan plan lock, .ok ()⟩ ∨
        HoldsLock plan history lock ∧
          ∀ requested, exchange ≠ ⟨.unlockPlan plan requested, .ok ()⟩ := by
  constructor
  · rintro ⟨before, after, split, kept⟩
    rcases List.eq_nil_or_concat after with rfl | ⟨later, last, rfl⟩
    · exact .inl (List.cons.inj (List.append_inj' split rfl).2).1
    · right
      rw [List.concat_eq_append, ← List.cons_append, ← List.append_assoc] at split
      rcases List.append_inj' split rfl with ⟨rfl, same⟩
      cases same
      refine ⟨⟨before, later, rfl, ?_⟩, ?_⟩
      · intro requested released
        exact kept requested (by simp [released])
      · rintro requested rfl
        exact kept requested (by simp)
  · rintro (rfl | ⟨⟨before, after, rfl, kept⟩, other⟩)
    · exact ⟨history, [], rfl, by simp⟩
    · refine ⟨before, after ++ [exchange], by simp, ?_⟩
      intro requested released
      rcases List.mem_append.1 released with earlier | last
      · exact kept requested earlier
      · exact other requested (List.mem_singleton.1 last).symm

theorem not_holdsLock_nil (plan : String) (lock : Lock) : ¬HoldsLock plan [] lock := by
  rintro ⟨before, after, split, _⟩
  cases before <;> cases split

namespace Cluster

variable {cluster : Cluster} {plan : String}

/-! ## Runs -/

/-- The runs from an empty cluster in memory: what was served so far, in the order of the
writer slot, and the cluster after it.  The clock may show anything. -/
inductive Served (member : String) : List (Exchange Call.Answer) → Cluster → Prop
  | start : Served member [] (.empty .memory member)
  | serve {history : List (Exchange Call.Answer)} {cluster : Cluster} :
      Served member history cluster → ∀ (now : Instant) (call : Call),
      Served member (history ++ [⟨call, (cluster.serve now call).1⟩])
        (cluster.serve now call).2

/-- A call whose client keeps it with its outcome. -/
def recorded (call : Call) : Pending (Exchange Call.Answer) :=
  ⟨call, fun outcome => ⟨call, outcome⟩⟩

/-- Calls that are served in turn continue a run. -/
theorem Served.serveAll {member : String} {history : List (Exchange Call.Answer)}
    {schedule : Schedule (Exchange Call.Answer)} (clock : Nat → Instant)
    (acc : List (Exchange Call.Answer)) (calls : List Call)
    (run : Served member (history ++ acc.reverse) schedule.cluster) :
    let served := Schedule.serveAll clock acc schedule (calls.map recorded)
    Served member (history ++ served.1) served.2.cluster ∧
      served.1.map Exchange.request = acc.reverse.map Exchange.request ++ calls := by
  induction calls generalizing acc schedule with
  | nil => exact ⟨run, (List.append_nil _).symm⟩
  | cons call rest ih =>
    let now := schedule.nextReading clock
    let exchange : Exchange Call.Answer := ⟨call, (schedule.cluster.serve now call).1⟩
    let next := { schedule with cluster := (schedule.cluster.serve now call).2 }
    have longer : Served member (history ++ (exchange :: acc).reverse) next.cluster := by
      rw [List.reverse_cons, ← List.append_assoc]
      exact run.serve now call
    rcases ih (exchange :: acc) longer with ⟨later, asked⟩
    rw [List.reverse_cons, List.map_append, List.append_assoc] at asked
    exact ⟨later, asked⟩

/-- Calls that wait for the slot continue a run in the order in which they came. -/
theorem Served.drain {member : String} {history : List (Exchange Call.Answer)}
    {schedule : Schedule (Exchange Call.Answer)} (run : Served member history schedule.cluster)
    (clock : Nat → Instant) {calls : List Call} (free : schedule.cluster.store.current = none)
    (waiting : schedule.waiting = calls.map recorded) :
    let served := schedule.drain clock
    Served member (history ++ served.1) served.2.cluster ∧
      served.1.map Exchange.request = calls := by
  rw [Schedule.drain, free, waiting]
  apply Served.serveAll clock [] calls
  rw [List.reverse_nil, List.append_nil]
  exact run

/-- The row of a plan's lock agrees with the history. -/
inductive Agrees (cluster : Cluster) (plan : String) (history : List (Exchange Call.Answer)) :
    Prop
  | free : cluster.Free plan → (∀ lock, ¬HoldsLock plan history lock) → Agrees cluster plan history
  | held (lock : Lock) : cluster.Held plan lock → HoldsLock plan history lock →
      (∀ other, HoldsLock plan history other → other = lock) → Agrees cluster plan history

variable {member : String} {history : List (Exchange Call.Answer)}

theorem Served.ready (run : Served member history cluster) : cluster.Ready := by
  induction run with
  | start => exact ready_empty member
  | serve _ now call ih => exact ih.serve now call

/-- A call that neither takes nor releases the lock, and leaves its row, changes nothing
about who holds it. -/
theorem Agrees.idle (agrees : cluster.Agrees plan history) {next : Cluster}
    {exchange : Exchange Call.Answer}
    (row : next.value? .config (lockKey plan) = cluster.value? .config (lockKey plan))
    (noLock : ∀ lock, exchange ≠ ⟨.lockPlan plan lock, .ok ()⟩)
    (noRelease : ∀ requested, exchange ≠ ⟨.unlockPlan plan requested, .ok ()⟩) :
    next.Agrees plan (history ++ [exchange]) := by
  have same (lock : Lock) :
      HoldsLock plan (history ++ [exchange]) lock ↔ HoldsLock plan history lock := by
    rw [holdsLock_concat]
    constructor
    · rintro (taken | ⟨holds, _⟩)
      · exact absurd taken (noLock lock)
      · exact holds
    · intro holds
      exact .inr ⟨holds, noRelease⟩
  cases agrees with
  | free free unheld =>
    apply Agrees.free
    · exact row.trans free
    · intro lock holds
      exact unheld lock ((same lock).1 holds)
  | held lock held holds unique =>
    apply Agrees.held lock
    · exact ⟨row.trans held.row, held.sent⟩
    · exact (same lock).2 holds
    · intro other holds'
      exact unique other ((same other).1 holds')

/-- One call keeps row and history in agreement. -/
theorem Agrees.serve (agrees : cluster.Agrees plan history) (ready : cluster.Ready)
    (now : Instant) {call : Call} (spares : call.Spares (lockKey plan)) (sent : call.Sent) :
    (cluster.serve now call).2.Agrees plan
      (history ++ [⟨call, (cluster.serve now call).1⟩]) := by
  by_cases inside : call.part .config (lockKey plan)
  · rcases Call.part_lockKey spares inside with ⟨requested, rfl⟩ | ⟨requested, rfl⟩
    · cases agrees with
      | free free unheld =>
        rcases free.serve_lock ready now requested with ⟨taken, row⟩
        rw [taken]
        apply Agrees.held requested ⟨row, sent⟩
        · exact holdsLock_concat.2 (.inl rfl)
        · intro other holds
          rcases holdsLock_concat.1 holds with same | ⟨earlier, _⟩
          · cases same
            rfl
          · exact absurd earlier (unheld other)
      | held lock held holds unique =>
        have refused := held.serve_lock ready now requested
        apply (Agrees.held lock held holds unique).idle
        · exact value?_serve now _ (.inr ⟨_, refused⟩)
        · intro other taken
          rw [refused] at taken
          cases taken
        · intro other released
          cases released
    · cases agrees with
      | free free unheld =>
        rcases free.serve_unlock ready now requested with ⟨released, stillFree⟩
        apply Agrees.free stillFree
        intro lock holds
        rcases holdsLock_concat.1 holds with taken | ⟨earlier, _⟩
        · cases taken
        · exact unheld lock earlier
      | held lock held holds unique =>
        have outcome := held.serve_unlock ready now requested
        split at outcome
        · rcases outcome with ⟨released, free⟩
          rw [released]
          apply Agrees.free free
          intro other holds'
          rcases holdsLock_concat.1 holds' with taken | ⟨_, kept⟩
          · cases taken
          · exact kept requested rfl
        · apply (Agrees.held lock held holds unique).idle
          · exact value?_serve now _ (.inr ⟨_, outcome⟩)
          · intro other taken
            cases taken
          · intro other released
            rw [outcome] at released
            cases released
  · apply agrees.idle (value?_serve now call (.inl inside))
    · intro lock taken
      cases congrArg Exchange.request taken
      exact inside ⟨rfl, rfl⟩
    · intro requested released
      cases congrArg Exchange.request released
      exact inside ⟨rfl, rfl⟩

/-- After every run the row of a plan's lock agrees with the history. -/
theorem Served.agrees (run : Served member history cluster)
    (spares : ∀ exchange ∈ history, exchange.request.Spares (lockKey plan))
    (sent : ∀ exchange ∈ history, exchange.request.Sent) : cluster.Agrees plan history := by
  induction run with
  | start => exact .free rfl (not_holdsLock_nil plan)
  | serve run now call ih =>
    have agrees := ih (fun exchange member => spares exchange (List.mem_append_left _ member))
      fun exchange member => sent exchange (List.mem_append_left _ member)
    exact agrees.serve run.ready now (spares _ List.mem_concat_self)
      (sent _ List.mem_concat_self)

/-- After any calls that leave the row of a plan's lock to the calls about locks:

* a state is written exactly for whoever names the identifier of the lock that is held;
* while a lock is held it is the only one, and everyone is told about it;
* otherwise the plan is free, and of all that wait for its lock exactly the first gets
  it, and the others are refused with it. -/
theorem lock_follows_history (run : Served member history cluster)
    (spares : ∀ exchange ∈ history, exchange.request.Spares (lockKey plan))
    (sent : ∀ exchange ∈ history, exchange.request.Sent) :
    (∀ now lockId state, (cluster.serve now (.putState plan lockId state)).1 = .ok () ↔
      ∃ lock, lock.id = lockId ∧ HoldsLock plan history lock) ∧
    (∀ lock, HoldsLock plan history lock → cluster.ToldHeld plan lock ∧
      ∀ other, HoldsLock plan history other → other = lock) ∧
    ((∀ lock, ¬HoldsLock plan history lock) → cluster.ToldFree plan ∧
      ∀ clock first rest, (∃ document, decodeLock document = .ok first) →
        (Schedule.drain ⟨cluster, (first :: rest).map (Schedule.lockRequest plan)⟩ clock).1 =
          .ok () :: rest.map fun requested => .error (refusal first requested)) := by
  have ready := run.ready
  cases run.agrees spares sent with
  | free free unheld =>
    have told := free.told ready
    refine ⟨?_, ?_, ?_⟩
    · intro now lockId state
      rw [told.putState]
      constructor
      · intro answered
        cases answered
      · rintro ⟨lock, _, holds⟩
        exact absurd holds (unheld lock)
    · intro lock holds
      exact absurd holds (unheld lock)
    · intro _
      refine ⟨told, ?_⟩
      intro clock first rest sentFirst
      exact Schedule.drain_free free ready clock sentFirst rest rfl
  | held lock held holds unique =>
    have told := held.told ready
    refine ⟨?_, ?_, ?_⟩
    · intro now lockId state
      rw [told.putState]
      constructor
      · intro answered
        split at answered
        · rename_i own
          exact ⟨lock, own, holds⟩
        · cases answered
      · rintro ⟨other, named, holds'⟩
        rw [unique other holds'] at named
        rw [if_pos named]
    · intro other holds'
      rw [unique other holds']
      exact ⟨told, unique⟩
    · intro unheld
      exact absurd holds (unheld lock)

/-- One lock is taken, and its holder writes a state. -/
theorem lock_follows_history_of_one_lock :
    let requested : Lock := { id := "7", who := "ops" }
    let history : List (Exchange Call.Answer) := [⟨.lockPlan "prod" requested, .ok ()⟩]
    let cluster := ((empty .memory "node-1").serve ⟨0, 0⟩ (.lockPlan "prod" requested)).2
    Served "node-1" history cluster ∧
      (∀ exchange ∈ history, exchange.request.Spares (lockKey "prod")) ∧
      (∀ exchange ∈ history, exchange.request.Sent) ∧
      (cluster.serve ⟨5, 0⟩ (.putState "prod" "7" "state")).1 = .ok () := by
  intro requested history cluster
  have free : (empty .memory "node-1").Free "prod" := rfl
  have run : Served "node-1" history cluster := by
    have begun : Served "node-1" [] (empty .memory "node-1") := .start
    have served := begun.serve ⟨0, 0⟩ (.lockPlan "prod" requested)
    rw [(free.serve_lock (ready_empty _) _ _).1] at served
    exact served
  have spares : ∀ exchange ∈ history, exchange.request.Spares (lockKey "prod") := by
    intro exchange served
    cases List.mem_singleton.1 served
    trivial
  have sent : ∀ exchange ∈ history, exchange.request.Sent := by
    intro exchange served
    cases List.mem_singleton.1 served
    refine ⟨_, decodeLock_text ?_⟩
    intro time dated
    cases dated
  refine ⟨run, spares, sent, ((lock_follows_history run spares sent).1 _ _ _).2 ?_⟩
  exact ⟨requested, rfl, [], [], rfl, fun _ released => by cases released⟩

end Cluster

end ControlPlane
