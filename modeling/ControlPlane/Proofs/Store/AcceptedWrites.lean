import ControlPlane.Proofs.Store.PlainTables

/-!
# Transactions that a medium takes

A medium carries out the writes of a transaction as a whole or refuses them all.  On rows
that it could store, the requests alone decide which: only a put can name a key that the
medium cannot store.  A delete is staged under no key without a value, and the counters of
row ids can be kept on every medium.
-/

namespace ControlPlane

open PlainTables (Request)

/-- The counters of row ids can be kept on every medium. -/
theorem Medium.canStore_sequenceKey (medium : Medium) (table : Table) :
    medium.canStore table.sequenceKey = true := by
  apply canStore_of_canFind (canFind_sequenceKey medium table)
  cases table <;> decide

namespace PlainTables.Request

/-- Whether the medium can store the key that the request puts a value under, if it puts
one. -/
def fits (medium : Medium) : Request → Bool
  | put _ key _ => medium.canStore key
  | _ => true

@[simp]
theorem fits_memory (request : Request) : request.fits .memory = true := by
  cases request <;> rfl

end PlainTables.Request

/-! ## What single requests stage -/

namespace Action

variable (table : Table) (key : String) (database : Database) (writes : WriteSet)

/-- A look-up fails or tells the value that is seen. -/
theorem get_cases :
    (∃ failure, get table key database writes = (.error failure, writes)) ∨
      get table key database writes = (.ok (database.value? writes table key), writes) := by
  cases found : database.medium.canFind key with
  | true => exact .inr (get_apply found)
  | false =>
    cases staged : writes.get? table key with
    | none => exact .inl ⟨_, get_of_lost found staged⟩
    | some write =>
      right
      rw [get, Database.value?_eq, staged]
      rfl

/-- A delete is staged under a key with a value, or not at all. -/
theorem delete_cases :
    (delete table key database writes).2 = writes ∨
      (delete table key database writes).2 = writes.delete table key ∧
        ∃ value, database.value? writes table key = some value := by
  rw [delete, contains, bind_apply, bind_apply]
  rcases get_cases table key database writes with ⟨failure, fails⟩ | tells
  · rw [fails]
    exact .inl rfl
  · rw [tells]
    cases database.value? writes table key with
    | none => exact .inl rfl
    | some value => exact .inr ⟨rfl, value, rfl⟩

/-- A request for a row id stages the counter of its table, or nothing. -/
theorem nextRowId_cases :
    (nextRowId table database writes).2 = writes ∨
      ∃ value, (nextRowId table database writes).2 =
        writes.put .counters table.sequenceKey value := by
  rw [nextRowId_apply]
  cases database.value? writes .counters table.sequenceKey with
  | none => exact .inr ⟨_, rfl⟩
  | some row =>
    simp only
    cases Codec.unsigned.read? row with
    | none => exact .inl rfl
    | some last => exact .inr ⟨_, rfl⟩

end Action

/-! ## Rows that the medium could store -/

namespace Database

variable {database : Database} {writes : WriteSet}

/-- Every committed row has a key that the medium can store. -/
def Storable (database : Database) : Prop :=
  ∀ table key value, database.value? .empty table key = some value →
    database.medium.canStore key = true

theorem storable_empty (medium : Medium) : (empty medium).Storable := by
  intro table key value present
  rw [value?_empty, empty, Tables.get_const] at present
  cases present

/-- Whether a medium takes some writes does not change with one to a key that it can store
if it takes them. -/
theorem accepts_stage_of_canStore {table : Table} {key : String} {write : Option Bytes}
    (canStore : database.accepts writes = true → database.medium.canStore key = true) :
    database.accepts (writes.stage table key write) = database.accepts writes := by
  rw [Bool.eq_iff_iff, accepts_stage_iff]
  exact ⟨And.right, fun accepted => ⟨canStore accepted, accepted⟩⟩

namespace Storable

variable (storable : database.Storable)

include storable

/-- Where the medium takes the staged writes, it could store every row that is seen. -/
theorem canStore_of_value? (accepted : database.accepts writes = true) {table : Table}
    {key : String} {value : Bytes} (seen : database.value? writes table key = some value) :
    database.medium.canStore key = true := by
  rw [value?_eq] at seen
  cases staged : writes.get? table key with
  | some write => exact accepts_iff.1 accepted table key write staged
  | none =>
    rw [staged, Option.getD_none, ← value?_empty] at seen
    exact storable table key value seen

/-- So it could after a commit. -/
theorem of_apply {next : Database} (applied : database.apply writes = .ok next) :
    next.Storable := by
  intro table key value present
  rw [value?_of_apply applied] at present
  rw [medium_of_apply applied]
  exact storable.canStore_of_value? (accepts_of_apply applied) present

/-- A request adds what the medium cannot store only by putting it there. -/
theorem accepts_action (writes : WriteSet) (request : Request) :
    database.accepts (request.action database writes).2 =
      (request.fits database.medium && database.accepts writes) := by
  cases request with
  | put table key value =>
    rw [Bool.eq_iff_iff, Bool.and_eq_true]
    exact accepts_stage_iff
  | get table key =>
    exact congrArg database.accepts (Action.readsOnly_get table key database writes)
  | contains table key =>
    exact congrArg database.accepts (Action.readsOnly_contains table key database writes)
  | scan table start =>
    exact congrArg database.accepts (Action.readsOnly_scan table start database writes)
  | delete table key =>
    rcases Action.delete_cases table key database writes with same | ⟨staged, value, seen⟩
    · exact congrArg database.accepts same
    · apply (congrArg database.accepts staged).trans
      exact accepts_stage_of_canStore fun accepted => storable.canStore_of_value? accepted seen
  | nextRowId table =>
    rcases Action.nextRowId_cases table database writes with same | ⟨value, staged⟩
    · exact congrArg database.accepts same
    · apply (congrArg database.accepts staged).trans
      exact accepts_stage_of_canStore fun _ => Medium.canStore_sequenceKey _ table

/-- The requests of a transaction decide whether the medium takes its writes. -/
theorem accepts_exchanges (requests : List Request) (writes : WriteSet) :
    database.accepts (exchanges Request.action database writes requests).2 =
      (requests.all (Request.fits database.medium) && database.accepts writes) := by
  induction requests generalizing writes with
  | nil => rfl
  | cons request rest ih =>
    have later := ih (request.action database writes).2
    rw [storable.accepts_action, ← Bool.and_assoc, Bool.and_comm (rest.all _)] at later
    rw [List.all_cons]
    exact later

end Storable

end Database

end ControlPlane
