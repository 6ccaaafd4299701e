import ControlPlane.Proofs.Store.KeyRanges
import ControlPlane.Proofs.Text.Utf8Bytes

/-!
# Rows under staged writes

Puts and deletes build a write set, and of the operations on a key the last one counts.
Rows that are overlaid show a key that starts as asked as its last operation left it, and
every other key as the last of the given rows has it.
-/

namespace ControlPlane

/-! ## The last of a list -/

/-- The last element of a list that has a property. -/
def IsLast {α : Type} (property : α → Prop) (list : List α) (last : α) : Prop :=
  ∃ earlier later, list = earlier ++ last :: later ∧ property last ∧
    ∀ other ∈ later, ¬property other

section

variable {α σ ν : Type} {property : α → Prop} {list : List α} {element last : α}

theorem IsLast.holds (isLast : IsLast property list last) : property last := by
  rcases isLast with ⟨_, _, _, holds, _⟩
  exact holds

theorem not_isLast_nil : ¬IsLast property [] last := by
  rintro ⟨earlier, later, split, _⟩
  exact absurd split (by simp)

/-- A first element is the last one where no later element has the property. -/
theorem isLast_cons_iff :
    IsLast property (element :: list) last ↔
      IsLast property list last ∨
        (element = last ∧ property last ∧ ∀ other ∈ list, ¬property other) := by
  constructor
  · rintro ⟨_ | ⟨first, earlier⟩, later, split, holds, rest⟩
    · rcases List.cons.inj split with ⟨rfl, rfl⟩
      exact .inr ⟨rfl, holds, rest⟩
    · rcases List.cons.inj split with ⟨rfl, rfl⟩
      exact .inl ⟨earlier, later, rfl, holds, rest⟩
  · rintro (⟨earlier, later, rfl, holds, rest⟩ | ⟨rfl, holds, rest⟩)
    · exact ⟨element :: earlier, later, rfl, holds, rest⟩
    · exact ⟨[], list, rfl, holds, rest⟩

/-- Where each step of a run either settles what is seen or leaves it, the last step that
settles it counts. -/
theorem see_foldl_iff {step : σ → α → σ} {settled : α → ν} (see : σ → ν)
    (settles : ∀ state element, property element → see (step state element) = settled element)
    (leaves : ∀ state element, ¬property element → see (step state element) = see state)
    (state : σ) (list : List α) (value : ν) :
    see (list.foldl step state) = value ↔
      (∃ last, IsLast property list last ∧ settled last = value) ∨
        ((∀ element ∈ list, ¬property element) ∧ see state = value) := by
  induction list generalizing state with
  | nil => simp [not_isLast_nil]
  | cons element rest ih =>
    rw [List.foldl_cons, ih]
    simp only [isLast_cons_iff, List.forall_mem_cons]
    by_cases holds : property element
    · rw [settles state element holds]
      constructor
      · rintro (⟨last, isLast, same⟩ | ⟨none, same⟩)
        · exact .inl ⟨last, .inl isLast, same⟩
        · exact .inl ⟨element, .inr ⟨rfl, holds, none⟩, same⟩
      · rintro (⟨last, isLast | ⟨rfl, _, none⟩, same⟩ | ⟨⟨fails, _⟩, _⟩)
        · exact .inl ⟨last, isLast, same⟩
        · exact .inr ⟨none, same⟩
        · exact absurd holds fails
    · rw [leaves state element holds]
      constructor
      · rintro (⟨last, isLast, same⟩ | ⟨none, same⟩)
        · exact .inl ⟨last, .inl isLast, same⟩
        · exact .inr ⟨⟨holds, none⟩, same⟩
      · rintro (⟨last, isLast | ⟨rfl, fulfils, _⟩, same⟩ | ⟨⟨_, none⟩, same⟩)
        · exact .inl ⟨last, isLast, same⟩
        · exact absurd fulfils holds
        · exact .inr ⟨none, same⟩

end

/-- Of rows with one key, the last one is bound. -/
theorem KeyMap.get?_ofList_iff {α : Type} {rows : List (String × α)} {key : String} {value : α} :
    (ofList rows).get? key = some value ↔
      IsLast (fun row : String × α => row.1 = key) rows (key, value) := by
  have settles (map : KeyMap α) (row : String × α) (named : row.1 = key) :
      (map.insert row.1 row.2).get? key = some row.2 := by
    rw [get?_insert, if_pos named.symm]
  have leaves (map : KeyMap α) (row : String × α) (other : ¬row.1 = key) :
      (map.insert row.1 row.2).get? key = map.get? key := by
    rw [get?_insert, if_neg fun named => other named.symm]
  rw [ofList, see_foldl_iff (fun map : KeyMap α => map.get? key) settles leaves]
  constructor
  · rintro (⟨⟨key', value'⟩, isLast, same⟩ | ⟨_, absent⟩)
    · have named : key' = key := isLast.holds
      cases named
      cases same
      exact isLast
    · cases absent
  · intro isLast
    exact .inl ⟨(key, value), isLast, rfl⟩

/-! ## Operations on a write set -/

namespace WriteSet

/-- What builds a write set. -/
inductive Operation where
  | put (table : Table) (key : String) (value : Bytes)
  | delete (table : Table) (key : String)
  deriving DecidableEq

namespace Operation

/-- Whether an operation is on a key of a table. -/
def IsOn (table : Table) (key : String) : Operation → Prop
  | put table' key' _ | delete table' key' => table' = table ∧ key' = key

/-- The write that an operation stages. -/
def write : Operation → Option Bytes
  | put _ _ value => some value
  | delete .. => none

/-- The write set after an operation. -/
def carryOut (writes : WriteSet) : Operation → WriteSet
  | put table key value => writes.put table key value
  | delete table key => writes.delete table key

variable {table : Table} {key : String}

theorem get?_carryOut_of_isOn (writes : WriteSet) {operation : Operation}
    (on : operation.IsOn table key) :
    (carryOut writes operation).get? table key = some operation.write := by
  cases operation <;> rcases on with ⟨rfl, rfl⟩ <;>
    exact (get?_stage ..).trans (if_pos ⟨rfl, rfl⟩)

theorem get?_carryOut_of_not_isOn (writes : WriteSet) {operation : Operation}
    (off : ¬operation.IsOn table key) :
    (carryOut writes operation).get? table key = writes.get? table key := by
  cases operation <;>
    exact (get?_stage ..).trans (if_neg fun same => off ⟨same.1.symm, same.2.symm⟩)

/-- An operation on a key is known from the write that it stages. -/
theorem eq_of_write {first second : Operation} (on : first.IsOn table key)
    (on' : second.IsOn table key) (same : first.write = second.write) : first = second := by
  cases first <;> cases second <;> rcases on with ⟨rfl, rfl⟩ <;> rcases on' with ⟨rfl, rfl⟩ <;>
    cases same <;> rfl

end Operation

/-- The write set that a sequence of operations builds. -/
def ofOperations (operations : List Operation) : WriteSet :=
  operations.foldl Operation.carryOut .empty

variable {operations : List Operation} {table : Table} {key start : String} {value : Bytes}

/-- A key holds what its last operation has staged, if there is one. -/
theorem get?_ofOperations_iff {staged : Option (Option Bytes)} :
    (ofOperations operations).get? table key = staged ↔
      (∃ last, IsLast (Operation.IsOn table key) operations last ∧ some last.write = staged) ∨
        ((∀ operation ∈ operations, ¬operation.IsOn table key) ∧ none = staged) := by
  rw [ofOperations, see_foldl_iff (fun writes : WriteSet => writes.get? table key)
    (fun writes _ => Operation.get?_carryOut_of_isOn writes)
    (fun writes _ => Operation.get?_carryOut_of_not_isOn writes), get?_empty]

theorem get?_eq_write_iff {operation : Operation} (on : operation.IsOn table key) :
    (ofOperations operations).get? table key = some operation.write ↔
      IsLast (Operation.IsOn table key) operations operation := by
  rw [get?_ofOperations_iff]
  constructor
  · rintro (⟨last, isLast, same⟩ | ⟨_, absent⟩)
    · rw [← Operation.eq_of_write isLast.holds on (Option.some.inj same)]
      exact isLast
    · cases absent
  · intro isLast
    exact .inl ⟨operation, isLast, rfl⟩

theorem get?_eq_put_iff :
    (ofOperations operations).get? table key = some (some value) ↔
      IsLast (Operation.IsOn table key) operations (.put table key value) := by
  have on : (Operation.put table key value).IsOn table key := ⟨rfl, rfl⟩
  exact get?_eq_write_iff on

theorem get?_eq_delete_iff :
    (ofOperations operations).get? table key = some none ↔
      IsLast (Operation.IsOn table key) operations (.delete table key) := by
  have on : (Operation.delete table key).IsOn table key := ⟨rfl, rfl⟩
  exact get?_eq_write_iff on

theorem get?_eq_none_iff :
    (ofOperations operations).get? table key = none ↔
      ∀ operation ∈ operations, ¬operation.IsOn table key := by
  rw [get?_ofOperations_iff]
  constructor
  · rintro (⟨_, _, same⟩ | ⟨untouched, _⟩)
    · cases same
    · exact untouched
  · intro untouched
    exact .inr ⟨untouched, rfl⟩

/-! ## What overlaid rows show -/

/-- A staged write counts for keys that start as asked, and the given rows for the others. -/
theorem mem_overlay_iff {writes : WriteSet} {rows : List (String × Bytes)} :
    (key, value) ∈ writes.overlay table start rows ↔
      (writes.get? table key = some (some value) ∧ startsWith key start = true) ∨
        ((writes.get? table key = none ∨ ¬startsWith key start = true) ∧
          (KeyMap.ofList rows).get? key = some value) := by
  rw [overlay_eq, KeyMap.mem_entries_iff, get?_applyTo, KeyMap.get?_filter, ← get?]
  by_cases starts : startsWith key start = true
  · rcases writes.get? table key with _ | _ | value' <;> simp [starts, Option.filter]
  · rcases writes.get? table key with _ | write <;> simp [starts, Option.filter]

/-- Rows overlaid with the writes of any puts and deletes are in ascending order of the
bytes of their keys.  They show a value under a key that starts as asked where the last
operation on it was to put this value; and under a key that no operation was on, or that
does not start as asked, where the last of the given rows with this key has it. -/
theorem overlay_shows_last_operations (operations : List Operation) (table : Table)
    (start : String) (rows : List (String × Bytes)) :
    let shown := (ofOperations operations).overlay table start rows
    let LastOn (key : String) := IsLast (Operation.IsOn table key) operations
    (shown.Pairwise fun a b => Utf8.encode a.1 < Utf8.encode b.1) ∧
      (∀ key value, (key, value) ∈ shown ↔
        (LastOn key (.put table key value) ∧ start.toList <+: key.toList) ∨
          (((∀ operation ∈ operations, ¬operation.IsOn table key) ∨
              ¬start.toList <+: key.toList) ∧
            IsLast (fun row : String × Bytes => row.1 = key) rows (key, value))) ∧
      ∀ key, LastOn key (.delete table key) → start.toList <+: key.toList →
        ∀ value, (key, value) ∉ shown := by
  intro shown LastOn
  refine ⟨?ascending, ?members, ?deleted⟩
  case ascending =>
    exact (KeyMap.ascending _).imp fun less => Utf8.encode_lt_iff.2 less
  case members =>
    intro key value
    rw [mem_overlay_iff, get?_eq_put_iff, get?_eq_none_iff, KeyMap.get?_ofList_iff,
      startsWith_iff]
  case deleted =>
    intro key isLast starts value member
    have staged := get?_eq_delete_iff.2 isLast
    rw [mem_overlay_iff, staged, startsWith_iff] at member
    rcases member with ⟨put, _⟩ | ⟨untouched | other, _⟩
    · cases put
    · cases untouched
    · exact other starts

example :
    (ofOperations [.delete .config "lock-a", .put .config "lock-c" [3], .put .config "state-c" [4],
      .put .nodes "lock-z" [5]]).overlay .config "lock-" [("lock-b", [2]), ("lock-a", [1])] =
      [("lock-b", [2]), ("lock-c", [3])] := by
  decide

end WriteSet

end ControlPlane
