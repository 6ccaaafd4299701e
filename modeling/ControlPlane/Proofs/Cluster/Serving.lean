import ControlPlane.Proofs.Cluster.Refusals

/-!
# Serving calls in memory

In memory, a call that is not refused up front answers as its action does.  After an
answer the committed rows are those that the action saw at its end, and after a failure
they are the same as before; either way the writer slot is free again.  On both media a
call changes no row but its own.
-/

namespace ControlPlane.Cluster

/-- The committed value of a key. -/
def value? (cluster : Cluster) (table : Table) (key : String) : Option Bytes :=
  cluster.store.database.value? .empty table key

/-- The cluster keeps its rows in memory and its writer slot is free. -/
structure Ready (cluster : Cluster) : Prop where
  memory : cluster.store.database.medium = .memory
  free : cluster.store.current = none

variable {cluster : Cluster}

/-- An action that answers, and whose writes are taken, settles the outcome of its call and
the rows after it. -/
theorem serve_of_accepts (now : Instant) (call : Call) (admitted : call.refusal? = none)
    {answer : call.Answer} {writes : WriteSet}
    (acts : call.action cluster.member now cluster.store.database .empty = (.ok answer, writes))
    (accepted : cluster.store.database.accepts writes = true) :
    (cluster.serve now call).1 = .ok answer ∧
      ∀ table key, (cluster.serve now call).2.value? table key =
        cluster.store.database.value? writes table key := by
  have applied : cluster.store.database.apply writes =
      .ok { cluster.store.database with rows := cluster.store.database.seen writes } := by
    rw [Database.apply, if_pos accepted]
    rfl
  have serves : cluster.serve now call =
      (.ok answer, { cluster with store := { cluster.store with
        database := { cluster.store.database with rows := cluster.store.database.seen writes }
        begun := cluster.store.begun + 1 } }) := by
    rw [serve, admitted]
    simp only [Store.transact, acts, applied]
  rw [serves]
  exact ⟨rfl, fun table key => Database.value?_of_apply applied table key⟩

/-- In memory, an action that answers settles the outcome of its call. -/
theorem serve_of_answer (now : Instant) (call : Call)
    (memory : cluster.store.database.medium = .memory) (admitted : call.refusal? = none)
    {answer : call.Answer} {writes : WriteSet}
    (acts : call.action cluster.member now cluster.store.database .empty = (.ok answer, writes)) :
    (cluster.serve now call).1 = .ok answer ∧
      ∀ table key, (cluster.serve now call).2.value? table key =
        cluster.store.database.value? writes table key :=
  serve_of_accepts now call admitted acts (Database.accepts_of_memory _ memory)

/-- A call whose action answers and stages nothing is answered. -/
theorem serve_of_unstaged {now : Instant} {call : Call} (admitted : call.refusal? = none)
    {answer : call.Answer}
    (acts : call.action cluster.member now cluster.store.database .empty = (.ok answer, .empty)) :
    (cluster.serve now call).1 = .ok answer := by
  rw [serve, admitted]
  simp only [Store.transact, acts, Database.apply_empty]

/-- An action that fails settles the outcome of its call, and no row changes. -/
theorem serve_of_failure (now : Instant) (call : Call) (admitted : call.refusal? = none)
    {failure : Failure} {writes : WriteSet}
    (acts : call.action cluster.member now cluster.store.database .empty =
      (.error failure, writes)) :
    (cluster.serve now call).1 = .error failure ∧
      ∀ table key, (cluster.serve now call).2.value? table key = cluster.value? table key := by
  have serves : cluster.serve now call =
      (.error failure, { cluster with store := { cluster.store with
        begun := cluster.store.begun + 1 } }) := by
    rw [serve, admitted]
    simp only [Store.transact, acts]
  rw [serves]
  exact ⟨rfl, fun _ _ => rfl⟩

/-- A call that is answered is one whose action answers and whose writes are committed. -/
theorem acts_of_serve {now : Instant} {call : Call} {answer : call.Answer}
    (answered : (cluster.serve now call).1 = .ok answer) :
    ∃ writes, call.action cluster.member now cluster.store.database .empty = (.ok answer, writes) ∧
      cluster.store.database.apply writes = .ok (cluster.serve now call).2.store.database := by
  rw [serve] at answered ⊢
  cases admitted : call.refusal? with
  | some failure =>
    rw [admitted] at answered
    cases answered
  | none =>
    rw [admitted] at answered
    simp only [Store.transact] at answered ⊢
    rcases acts : call.action cluster.member now cluster.store.database .empty with
      ⟨failure | answer', writes⟩
    · simp only [acts] at answered
      cases answered
    · cases applied : cluster.store.database.apply writes with
      | error fault =>
        simp only [acts, applied] at answered
        cases answered
      | ok next =>
        simp only [acts, applied] at answered ⊢
        cases answered
        exact ⟨writes, rfl, applied⟩

/-- A call that fails is one whose action fails, or whose writes the medium refuses. -/
theorem acts_of_serve_error {now : Instant} {call : Call} (admitted : call.refusal? = none)
    {failure : Failure} (failed : (cluster.serve now call).1 = .error failure) :
    (∃ writes, call.action cluster.member now cluster.store.database .empty =
        (.error failure, writes)) ∨
      ∃ fault, failure = .storage fault := by
  rw [serve, admitted] at failed
  simp only [Store.transact] at failed
  rcases acts : call.action cluster.member now cluster.store.database .empty with
    ⟨failure' | answer, writes⟩
  · simp only [acts] at failed
    cases failed
    exact .inl ⟨writes, rfl⟩
  · cases applied : cluster.store.database.apply writes with
    | error fault =>
      simp only [acts, applied] at failed
      cases failed
      exact .inr ⟨fault, rfl⟩
    | ok next =>
      simp only [acts, applied] at failed
      cases failed

/-- A call changes no row but its own, and none at all if it fails. -/
theorem value?_serve (now : Instant) (call : Call) {table : Table} {key : String}
    (outside : ¬call.part table key ∨ ∃ failure, (cluster.serve now call).1 = .error failure) :
    (cluster.serve now call).2.value? table key = cluster.value? table key := by
  cases outcome : (cluster.serve now call).1 with
  | error failure => rw [value?, database_of_serve_error outcome, value?]
  | ok answer =>
    rcases acts_of_serve outcome with ⟨writes, acts, applied⟩
    rw [value?, Database.value?_of_apply applied, value?]
    apply Database.value?_congr
    rcases outside with outside | ⟨failure, failed⟩
    · have same := Call.staysIn_action cluster.member now call cluster.store.database .empty
        table key outside
      rw [acts] at same
      exact same
    · rw [outcome] at failed
      cases failed

/-- A call stays on its medium. -/
@[simp]
theorem medium_serve (cluster : Cluster) (now : Instant) (call : Call) :
    (cluster.serve now call).2.store.database.medium = cluster.store.database.medium := by
  cases outcome : (cluster.serve now call).1 with
  | error failure => rw [database_of_serve_error outcome]
  | ok answer =>
    rcases acts_of_serve outcome with ⟨writes, _, applied⟩
    rw [Database.medium_of_apply applied]

/-- After a call the cluster is ready for the next one. -/
theorem Ready.serve (ready : cluster.Ready) (now : Instant) (call : Call) :
    (cluster.serve now call).2.Ready := by
  rw [Cluster.serve]
  cases call.refusal? with
  | some failure => exact ready
  | none =>
    simp only [Store.transact_of_memory ready.memory]
    split
    · exact ⟨ready.memory, ready.free⟩
    · exact ⟨ready.memory, ready.free⟩

@[simp]
theorem member_serve (cluster : Cluster) (now : Instant) (call : Call) :
    (cluster.serve now call).2.member = cluster.member := by
  rw [serve]
  cases call.refusal? <;> rfl

/-- No call creates a row whose key cannot be read. -/
@[simp]
theorem unreadable_serve (cluster : Cluster) (now : Instant) (call : Call) :
    (cluster.serve now call).2.store.database.unreadable = cluster.store.database.unreadable := by
  rw [serve]
  cases call.refusal? with
  | some failure => rfl
  | none =>
    simp only [Store.transact]
    split
    · split
      · rename_i applied
        rw [Database.rows_of_apply applied]
      · rfl
    · rfl

theorem ready_empty (member : String) : (empty .memory member).Ready :=
  ⟨rfl, rfl⟩

end ControlPlane.Cluster
