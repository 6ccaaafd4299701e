import ControlPlane.Store.Action

/-!
# What an action may change

An action that only reads leaves the staged writes as they are.  One that stays in a
set of keys stages nothing under any other key, whatever it answers and also if it
fails.  Both are closed under sequencing, so that the actions of the registries are
built from the cases of this module.
-/

namespace ControlPlane.Action

variable {α β : Type}

/-- The action stages nothing. -/
def ReadsOnly (action : Action α) : Prop :=
  ∀ database writes, (action database writes).2 = writes

/-- The action stages nothing but under the keys of `part`. -/
def StaysIn (action : Action α) (part : Table → String → Prop) : Prop :=
  ∀ database writes table key, ¬part table key →
    (action database writes).2.get? table key = writes.get? table key

/-- The row of one key. -/
def onlyRow (table : Table) (key : String) : Table → String → Prop :=
  fun other other' => other = table ∧ other' = key

/-! ## Reading -/

theorem readsOnly_pure (value : α) : (pure value : Action α).ReadsOnly :=
  fun _ _ => rfl

theorem readsOnly_fail (failure : Failure) : (fail failure : Action α).ReadsOnly :=
  fun _ _ => rfl

theorem readsOnly_ofExcept (outcome : Except Failure α) : (ofExcept outcome).ReadsOnly :=
  fun _ _ => rfl

theorem ReadsOnly.bind {action : Action α} {next : α → Action β} (first : action.ReadsOnly)
    (rest : ∀ value, (next value).ReadsOnly) : (action >>= next).ReadsOnly := by
  intro database writes
  have same := first database writes
  rw [bind_apply]
  rcases result : action database writes with ⟨_ | value, writes'⟩
  · rwa [result] at same
  · rw [result] at same
    exact (rest value database writes').trans same

/-- Behind an action that only reads, a sequence that answers has come to nothing yet. -/
theorem ReadsOnly.ok_of_bind {action : Action α} {next : α → Action β} (reads : action.ReadsOnly)
    {database : Database} {writes after : WriteSet} {answer : β}
    (acts : (action >>= next) database writes = (.ok answer, after)) :
    ∃ value, action database writes = (.ok value, writes) ∧
      next value database writes = (.ok answer, after) := by
  have same := reads database writes
  rw [bind_apply] at acts
  rcases result : action database writes with ⟨failure | value, writes'⟩
  · rw [result] at acts
    cases acts
  · rw [result] at acts same
    cases same
    exact ⟨value, rfl, acts⟩

theorem readsOnly_get (table : Table) (key : String) : (get table key).ReadsOnly := by
  intro database writes
  rw [get]
  cases writes.get? table key <;> rfl

theorem readsOnly_contains (table : Table) (key : String) : (contains table key).ReadsOnly :=
  (readsOnly_get table key).bind fun _ => readsOnly_pure _

theorem readsOnly_scan (table : Table) (start : String) : (scan table start).ReadsOnly :=
  fun _ _ => rfl

theorem readsOnly_decodeRow (codec : Codec α) (row : Bytes) :
    (decodeRow codec row).ReadsOnly := by
  rw [decodeRow]
  cases codec.read? row with
  | none => exact readsOnly_fail _
  | some value => exact readsOnly_pure value

/-! ## Writing -/

variable {part : Table → String → Prop}

theorem ReadsOnly.staysIn {action : Action α} (reads : action.ReadsOnly) :
    action.StaysIn part := by
  intro database writes table key _
  rw [reads database writes]

theorem StaysIn.mono {action : Action α} {part whole : Table → String → Prop}
    (stays : action.StaysIn part) (subset : ∀ table key, part table key → whole table key) :
    action.StaysIn whole := by
  intro database writes table key outside
  apply stays
  intro inside
  exact outside (subset table key inside)

theorem StaysIn.bind {action : Action α} {next : α → Action β} (first : action.StaysIn part)
    (rest : ∀ value, (next value).StaysIn part) : (action >>= next).StaysIn part := by
  intro database writes table key outside
  have same := first database writes table key outside
  rw [bind_apply]
  rcases result : action database writes with ⟨_ | value, writes'⟩
  · rwa [result] at same
  · rw [result] at same
    exact (rest value database writes' table key outside).trans same

theorem staysIn_put {table : Table} {key : String} (value : Bytes) (inside : part table key) :
    (put table key value).StaysIn part := by
  intro database writes other other' outside
  rw [put, WriteSet.put, WriteSet.get?_stage, if_neg]
  rintro ⟨rfl, rfl⟩
  exact outside inside

theorem staysIn_stageDelete {table : Table} {key : String} (inside : part table key) :
    (stageDelete table key).StaysIn part := by
  intro database writes other other' outside
  rw [stageDelete, WriteSet.delete, WriteSet.get?_stage, if_neg]
  rintro ⟨rfl, rfl⟩
  exact outside inside

theorem staysIn_delete {table : Table} {key : String} (inside : part table key) :
    (delete table key).StaysIn part := by
  apply (readsOnly_contains table key).staysIn.bind
  rintro (_ | _)
  · exact (readsOnly_pure _).staysIn
  · exact (staysIn_stageDelete inside).bind fun _ => (readsOnly_pure _).staysIn

/-- Deleting a row that has to be there. -/
theorem staysIn_deleteFound (table : Table) (key : String) (failure : Failure) :
    StaysIn (do if ← delete table key then return () else fail failure) (onlyRow table key) := by
  apply (staysIn_delete ⟨rfl, rfl⟩).bind
  rintro (_ | _)
  · exact (readsOnly_fail failure).staysIn
  · exact (readsOnly_pure ()).staysIn

theorem staysIn_nextRowId {table : Table} (inside : part .counters table.sequenceKey) :
    (nextRowId table).StaysIn part := by
  apply (readsOnly_get _ _).staysIn.bind
  intro row
  have count (last : UInt64) :
      StaysIn (do
        put .counters table.sequenceKey (Codec.unsigned.encode (last + 1))
        return last + 1) part :=
    (staysIn_put _ inside).bind fun _ => (readsOnly_pure _).staysIn
  cases row with
  | none => exact count 0
  | some row => exact (readsOnly_decodeRow _ row).staysIn.bind count

end ControlPlane.Action
