import ControlPlane.Proofs.Store.PlainTables

/-!
# Failures that leave nothing behind

A transaction has no savepoint: whatever an action stages before it fails stays staged.
An action fails cleanly if it has staged nothing by then, and it does so if everything in
it that can fail comes before its first write.  Inside a transaction whose requests all
fail cleanly, those that failed might as well not have been made.
-/

namespace ControlPlane

namespace Action

variable {α β : Type}

/-- Where the action fails, it leaves the staged writes as they were. -/
def FailsCleanly (action : Action α) : Prop :=
  ∀ ⦃database writes failure after⦄,
    action database writes = (.error failure, after) → after = writes

/-- The action has an answer, whatever the rows. -/
def NeverFails (action : Action α) : Prop :=
  ∀ database writes failure after, action database writes ≠ (.error failure, after)

/-! ## Sequences -/

theorem NeverFails.failsCleanly {action : Action α} (answers : action.NeverFails) :
    action.FailsCleanly :=
  fun _ _ _ _ fails => absurd fails (answers _ _ _ _)

theorem NeverFails.bind {action : Action α} {next : α → Action β} (first : action.NeverFails)
    (rest : ∀ value, (next value).NeverFails) : (action >>= next).NeverFails := by
  intro database writes failure after fails
  rw [bind_apply] at fails
  rcases result : action database writes with ⟨failure' | value, writes'⟩
  · exact first _ _ _ _ result
  · rw [result] at fails
    exact rest value _ _ _ _ fails

theorem ReadsOnly.failsCleanly {action : Action α} (reads : action.ReadsOnly) :
    action.FailsCleanly := by
  intro database writes failure after fails
  have same := reads database writes
  rwa [fails] at same

/-- What comes first may fail as it likes, if it only reads. -/
theorem ReadsOnly.bind_failsCleanly {action : Action α} {next : α → Action β}
    (first : action.ReadsOnly) (rest : ∀ value, (next value).FailsCleanly) :
    (action >>= next).FailsCleanly := by
  intro database writes failure after fails
  have same := first database writes
  rw [bind_apply] at fails
  rcases result : action database writes with ⟨failure' | value, writes'⟩
  · rw [result] at fails same
    cases fails
    exact same
  · rw [result] at fails same
    exact (rest value fails).trans same

/-- Nothing may fail behind what may have staged something. -/
theorem FailsCleanly.bind {action : Action α} {next : α → Action β} (first : action.FailsCleanly)
    (rest : ∀ value, (next value).NeverFails) : (action >>= next).FailsCleanly := by
  intro database writes failure after fails
  rw [bind_apply] at fails
  rcases result : action database writes with ⟨failure' | value, writes'⟩
  · rw [result] at fails
    cases fails
    exact first result
  · rw [result] at fails
    exact absurd fails (rest value _ _ _ _)

/-! ## Parts of actions -/

theorem neverFails_pure (value : α) : (pure value : Action α).NeverFails := by
  intro database writes failure after fails
  cases fails

theorem neverFails_put (table : Table) (key : String) (value : Bytes) :
    (put table key value).NeverFails := by
  intro database writes failure after fails
  cases fails

theorem neverFails_stageDelete (table : Table) (key : String) :
    (stageDelete table key).NeverFails := by
  intro database writes failure after fails
  cases fails

theorem failsCleanly_delete (table : Table) (key : String) : (delete table key).FailsCleanly := by
  apply (readsOnly_contains table key).bind_failsCleanly
  rintro (_ | _)
  · exact (readsOnly_pure false).failsCleanly
  · exact ((neverFails_stageDelete table key).bind fun _ => neverFails_pure true).failsCleanly

/-- Deleting a row that has to be there: where it is not, no delete was staged. -/
theorem failsCleanly_deleteFound (table : Table) (key : String) (failure : Failure) :
    FailsCleanly (do if ← delete table key then return () else fail failure) := by
  intro database writes failure' after fails
  have same := readsOnly_contains table key database writes
  rw [bind_apply, delete, bind_apply] at fails
  rcases result : contains table key database writes with ⟨missed | found, writes'⟩
  · rw [result] at fails same
    cases fails
    exact same
  · rw [result] at fails same
    cases found with
    | false =>
      cases fails
      exact same
    | true => cases fails

theorem failsCleanly_nextRowId (table : Table) : (nextRowId table).FailsCleanly := by
  apply (readsOnly_get _ _).bind_failsCleanly
  intro row
  have count (last : UInt64) :
      FailsCleanly (do
        put .counters table.sequenceKey (Codec.unsigned.encode (last + 1))
        return last + 1) :=
    ((neverFails_put _ _ _).bind fun _ => neverFails_pure _).failsCleanly
  cases row with
  | none => exact count 0
  | some row => exact (readsOnly_decodeRow _ row).bind_failsCleanly count

end Action

/-! ## Runs without the requests that failed -/

variable {ι : Type} {Answer : ι → Type}

/-- Whether the request was answered. -/
def Exchange.isAnswered : Exchange Answer → Bool
  | ⟨_, .ok _⟩ => true
  | ⟨_, .error _⟩ => false

/-- Where all requests fail cleanly, the answers and the staged writes of a run are those
of the run without the requests that failed. -/
theorem exchanges_of_answered {act : (request : ι) → Action (Answer request)}
    (clean : ∀ request, (act request).FailsCleanly) (database : Database) (writes : WriteSet)
    (requests : List ι) :
    let run := exchanges act database writes requests
    let answered := run.1.filter Exchange.isAnswered
    exchanges act database writes (answered.map Exchange.request) = (answered, run.2) := by
  induction requests generalizing writes with
  | nil => rfl
  | cons request rest ih =>
    rcases acts : act request database writes with ⟨failure | answer, after⟩
    · have later := ih writes
      rw [clean request acts] at acts
      simp only [exchanges, acts]
      rw [List.filter_cons_of_neg Bool.false_ne_true]
      exact later
    · have later := ih after
      simp only [exchanges, acts]
      rw [List.filter_cons_of_pos rfl, List.map_cons]
      simp only [exchanges, acts, later]

end ControlPlane
