import ControlPlane.Store.WriteSet

/-!
# Ranges of keys that start alike

In an ordered list of keys, those that start with a given text stand next to each other,
from the first key on that is not below it.  So a walk that sets out there and stops at the
first other key meets all of them, also where the keys of several tables stand in one list.
-/

namespace ControlPlane

/-! ## Texts that start alike -/

/-- What begins with some characters does not come before them. -/
theorem not_lt_of_isPrefix {start chars : List Char} (starts : start <+: chars) :
    ¬chars < start := by
  induction start generalizing chars with
  | nil => exact List.not_lt_nil _
  | cons char start ih =>
    rcases starts with ⟨rest, rfl⟩
    intro less
    rcases List.cons_lt_cons_iff.1 less with before | ⟨_, later⟩
    · exact Char.lt_irrefl _ before
    · exact ih (List.prefix_append _ _) later

/-- What stands between some characters and others that begin with them does so, too. -/
theorem isPrefix_of_between {start chars chars' : List Char} (least : ¬chars < start)
    (less : chars < chars') (starts : start <+: chars') : start <+: chars := by
  induction start generalizing chars chars' with
  | nil => exact List.nil_prefix
  | cons char start ih =>
    rcases starts with ⟨rest, rfl⟩
    cases chars with
    | nil => exact absurd (List.nil_lt_cons _ _) least
    | cons first chars =>
      rw [List.cons_lt_cons_iff] at least
      rcases List.cons_lt_cons_iff.1 less with before | ⟨rfl, later⟩
      · exact absurd (.inl before) least
      · rw [List.cons_prefix_cons]
        exact ⟨rfl, ih (fun before => least (.inr ⟨rfl, before⟩)) later (List.prefix_append _ _)⟩

variable {key key' start : String}

/-- No key that starts with a text is below it. -/
theorem not_lt_of_startsWith (starts : startsWith key start = true) : ¬key < start :=
  not_lt_of_isPrefix (startsWith_iff.1 starts)

/-- A key that stands between a text and a key that starts with it does so, too. -/
theorem startsWith_of_between (least : ¬key < start) (less : key < key')
    (starts : startsWith key' start = true) : startsWith key start = true :=
  startsWith_iff.2 (isPrefix_of_between least less (startsWith_iff.1 starts))

/-! ## Walks through ordered lists -/

/-- In every list of this order, the wanted elements stand next to each other, behind
those that are passed over. -/
structure Adjoin {α : Type} (order : α → α → Prop) (passed wanted : α → Bool) : Prop where
  apart : ∀ {a}, wanted a = true → ¬passed a = true
  behind : ∀ {a b}, order a b → ¬passed a = true → ¬passed b = true
  between : ∀ {a b}, order a b → ¬passed a = true → wanted b = true → wanted a = true

namespace Adjoin

variable {α : Type} {order : α → α → Prop} {passed wanted : α → Bool} {list : List α}

/-- Among elements that are not passed over, the wanted ones come first. -/
theorem takeWhile_eq_filter (adjoin : Adjoin order passed wanted) (ordered : list.Pairwise order)
    (kept : ∀ a ∈ list, ¬passed a = true) : list.takeWhile wanted = list.filter wanted := by
  induction list with
  | nil => rfl
  | cons head rest ih =>
    rcases List.pairwise_cons.1 ordered with ⟨above, orderedRest⟩
    by_cases found : wanted head = true
    · rw [List.takeWhile_cons_of_pos found, List.filter_cons_of_pos found,
        ih orderedRest fun later member => kept later (List.mem_cons_of_mem head member)]
    · rw [List.takeWhile_cons_of_neg found, List.filter_cons_of_neg found]
      symm
      rw [List.filter_eq_nil_iff]
      intro later member foundLater
      exact found (adjoin.between (above later member) (kept head List.mem_cons_self) foundLater)

/-- A walk from the first element that is not passed over to the first one that is not
wanted meets all wanted ones. -/
theorem walk_eq_filter (adjoin : Adjoin order passed wanted) (ordered : list.Pairwise order) :
    (list.dropWhile passed).takeWhile wanted = list.filter wanted := by
  induction list with
  | nil => rfl
  | cons head rest ih =>
    rcases List.pairwise_cons.1 ordered with ⟨above, orderedRest⟩
    by_cases passes : passed head = true
    · have unwanted : ¬wanted head = true := fun found => adjoin.apart found passes
      rw [List.dropWhile_cons_of_pos passes, List.filter_cons_of_neg unwanted, ih orderedRest]
    · rw [List.dropWhile_cons_of_neg passes]
      apply adjoin.takeWhile_eq_filter ordered
      intro later member
      rcases List.mem_cons.1 member with rfl | member
      · exact passes
      · exact adjoin.behind (above later member) passes

end Adjoin

/-! ## Staged writes to keys that start alike -/

namespace WriteSet

/-- Whether a write stands before another one: in order of table and then of key. -/
def Precedes (a b : Table × String × Option Bytes) : Prop :=
  a.1.index < b.1.index ∨ (a.1 = b.1 ∧ a.2.1 < b.2.1)

theorem toList_ascending (writes : WriteSet) : writes.toList.Pairwise Precedes := by
  rw [toList, List.pairwise_flatMap]
  constructor
  · intro table _
    rw [List.pairwise_map]
    exact (writes.staged.get table).ascending.imp fun less => .inr ⟨rfl, less⟩
  · apply Table.all_ascending.imp
    intro table table' less write member write' member'
    rcases List.mem_map.1 member with ⟨entry, _, rfl⟩
    rcases List.mem_map.1 member' with ⟨entry', _, rfl⟩
    exact .inl less

theorem isBefore_iff {table : Table} {start : String} {write : Table × String × Option Bytes} :
    isBefore table start write = true ↔
      write.1.index < table.index ∨ (write.1 = table ∧ write.2.1 < start) := by
  simp [isBefore]

theorem isWithin_iff {table : Table} {start : String} {write : Table × String × Option Bytes} :
    isWithin table start write = true ↔
      write.1 = table ∧ startsWith write.2.1 start = true := by
  simp [isWithin]

/-- The writes to keys of one table that start alike stand next to each other. -/
theorem adjoin_isWithin (table : Table) (start : String) :
    Adjoin Precedes (isBefore table start) (isWithin table start) where
  apart := by
    rintro ⟨other, key, write⟩ within before
    rcases isWithin_iff.1 within with ⟨rfl, starts⟩
    rcases isBefore_iff.1 before with less | ⟨_, less⟩
    · exact Nat.lt_irrefl _ less
    · exact not_lt_of_startsWith starts less
  behind := by
    rintro ⟨first, key, write⟩ ⟨second, key', write'⟩ precedes kept before
    apply kept
    rw [isBefore_iff] at before ⊢
    rcases precedes with less | ⟨rfl, less⟩ <;> rcases before with before | ⟨rfl, before⟩
    · exact .inl (Nat.lt_trans less before)
    · exact .inl less
    · exact .inl before
    · exact .inr ⟨rfl, String.lt_trans less before⟩
  between := by
    rintro ⟨first, key, write⟩ ⟨second, key', write'⟩ precedes kept within
    rcases isWithin_iff.1 within with ⟨rfl, starts⟩
    rw [isBefore_iff, not_or] at kept
    rcases precedes with less | ⟨rfl, less⟩
    · exact absurd less kept.1
    · rw [isWithin_iff]
      exact ⟨rfl, startsWith_of_between (fun before => kept.2 ⟨rfl, before⟩) less starts⟩

/-- Of the writes to one table, those to keys of the same table that start alike are met. -/
theorem filter_isWithin (table other : Table) (start : String)
    (entries : List (String × Option Bytes)) :
    ((entries.map fun entry => (other, entry.1, entry.2)).filter (isWithin table start)).map (·.2) =
      if other = table then entries.filter fun entry => startsWith entry.1 start else [] := by
  induction entries with
  | nil => exact (ite_self _).symm
  | cons entry rest ih =>
    have within : isWithin table start (other, entry.1, entry.2) =
        (decide (other = table) && startsWith entry.1 start) := rfl
    rw [List.map_cons, List.filter_cons, within]
    by_cases same : other = table
    · rw [if_pos same] at ih ⊢
      rw [List.filter_cons, ← ih]
      cases startsWith entry.1 start <;> simp [same]
    · rw [if_neg same] at ih ⊢
      simpa [same] using ih

/-- The range of a start holds the writes to all keys of the table that start with it. -/
theorem range_eq (writes : WriteSet) (table : Table) (start : String) :
    writes.range table start =
      ((writes.staged.get table).filter fun key _ => startsWith key start).entries := by
  rw [range, (adjoin_isWithin table start).walk_eq_filter writes.toList_ascending, toList,
    List.filter_flatMap, List.map_flatMap]
  simp only [filter_isWithin]
  cases table <;> simp [Table.all, KeyMap.filter]

/-- Where rows are overlaid, each table is on its own. -/
theorem overlay_eq (writes : WriteSet) (table : Table) (start : String)
    (rows : List (String × Bytes)) :
    writes.overlay table start rows =
      (applyTo (.ofList rows)
        ((writes.staged.get table).filter fun key _ => startsWith key start)).entries := by
  rw [overlay, range_eq, applyTo]

end WriteSet

end ControlPlane
