import ControlPlane.Bytes
import ControlPlane.Store.KeyMap
import ControlPlane.Store.Table

/-!
# Staged writes

A write set holds, for each table, the writes that a transaction has staged:
a key is bound to `some value` by a put and to `none` by a delete, and the last
write to a key counts.  `overlay` shows what committed rows look like through
the staged writes.
-/

namespace ControlPlane

/-- Whether a text starts with another one. -/
def startsWith (text start : String) : Bool :=
  start.toList.isPrefixOf text.toList

@[simp]
theorem startsWith_empty (text : String) : startsWith text "" = true := rfl

theorem startsWith_iff {text start : String} :
    startsWith text start = true ↔ start.toList <+: text.toList := by
  rw [startsWith, List.isPrefixOf_iff_prefix]

/-- The rows of a table. -/
abbrev Rows := KeyMap Bytes

/-- Writes staged by a transaction: `none` stands for a delete. -/
structure WriteSet where
  /-- The staged writes of each table. -/
  staged : Tables (KeyMap (Option Bytes))
  deriving DecidableEq

namespace WriteSet

/-- No writes. -/
def empty : WriteSet := ⟨.const .empty⟩

/-- The staged write to a key: `some none` for a delete, `none` if untouched. -/
def get? (writes : WriteSet) (table : Table) (key : String) : Option (Option Bytes) :=
  (writes.staged.get table).get? key

/-- Stages a write. -/
def stage (writes : WriteSet) (table : Table) (key : String) (write : Option Bytes) : WriteSet :=
  ⟨writes.staged.set table ((writes.staged.get table).insert key write)⟩

/-- Stages a put. -/
def put (writes : WriteSet) (table : Table) (key : String) (value : Bytes) : WriteSet :=
  writes.stage table key (some value)

/-- Stages a delete. -/
def delete (writes : WriteSet) (table : Table) (key : String) : WriteSet :=
  writes.stage table key none

@[simp]
theorem get?_empty (table : Table) (key : String) : empty.get? table key = none := by
  simp [get?, empty]

@[simp]
theorem get?_stage (writes : WriteSet) (table other : Table) (key other' : String)
    (write : Option Bytes) :
    (writes.stage table key write).get? other other' =
      if other = table ∧ other' = key then some write else writes.get? other other' := by
  by_cases sameTable : other = table
  · by_cases sameKey : other' = key <;> simp [get?, stage, sameTable, sameKey]
  · simp [get?, stage, sameTable]

theorem ext_get? {a b : WriteSet} (same : ∀ table key, a.get? table key = b.get? table key) :
    a = b := by
  obtain ⟨a⟩ := a
  obtain ⟨b⟩ := b
  congr 1
  exact Tables.ext_get fun table => KeyMap.ext_get? (same table)

/-- All staged writes, in order of table and then of key. -/
def toList (writes : WriteSet) : List (Table × String × Option Bytes) :=
  Table.all.flatMap fun table =>
    (writes.staged.get table).entries.map fun entry => (table, entry.1, entry.2)

/-- The number of keys with a staged write. -/
def size (writes : WriteSet) : Nat := writes.toList.length

/-- Whether nothing is staged. -/
def isEmpty (writes : WriteSet) : Bool := writes.toList.isEmpty

/-! ## Rows under staged writes -/

/-- Carries one write out on a map. -/
def applyWrite (rows : Rows) (entry : String × Option Bytes) : Rows :=
  match entry.2 with
  | some value => rows.insert entry.1 value
  | none => rows.erase entry.1

/-- Carries out the staged writes of one table. -/
def applyTo (rows : Rows) (writes : KeyMap (Option Bytes)) : Rows :=
  writes.entries.foldl applyWrite rows

/-- Whether a write stands before every write to a key of a table that is not below
`start`. -/
def isBefore (table : Table) (start : String) (write : Table × String × Option Bytes) : Bool :=
  write.1.index < table.index || (write.1 = table && write.2.1 < start)

/-- Whether a write goes to a key of a table that starts with `start`. -/
def isWithin (table : Table) (start : String) (write : Table × String × Option Bytes) : Bool :=
  write.1 = table && startsWith write.2.1 start

/-- The staged writes from the first key of a table that is not below `start`, for as long
as they go to keys of the table that start with it. -/
def range (writes : WriteSet) (table : Table) (start : String) : List (String × Option Bytes) :=
  ((writes.toList.dropWhile (isBefore table start)).takeWhile (isWithin table start)).map (·.2)

/-- The given rows, the last of equal keys counting, with the staged writes to keys
that start with `start` carried out.  The rows are taken as they come: none is
dropped for not starting with `start`. -/
def overlay (writes : WriteSet) (table : Table) (start : String)
    (rows : List (String × Bytes)) : List (String × Bytes) :=
  ((writes.range table start).foldl applyWrite (.ofList rows)).entries

theorem get?_applyWrite (rows : Rows) (entry : String × Option Bytes) (key : String) :
    (applyWrite rows entry).get? key = if key = entry.1 then entry.2 else rows.get? key := by
  obtain ⟨k, write⟩ := entry
  cases write <;> simp [applyWrite]

theorem get?_foldl_applyWrite (rows : Rows) (entries : List (String × Option Bytes))
    (ascending : entries.Pairwise fun a b => a.1 < b.1) (key : String) :
    (entries.foldl applyWrite rows).get? key =
      (KeyMap.lookup key entries).getD (rows.get? key) := by
  induction entries generalizing rows with
  | nil => rfl
  | cons head rest ih =>
    obtain ⟨k, write⟩ := head
    obtain ⟨above, sortedRest⟩ := List.pairwise_cons.1 ascending
    rw [List.foldl_cons, ih _ sortedRest, get?_applyWrite]
    by_cases same : k = key
    · subst same
      rw [KeyMap.lookup_eq_none_of_below above]
      simp [KeyMap.lookup]
    · simp [KeyMap.lookup, same, Ne.symm same]

@[simp]
theorem get?_applyTo (rows : Rows) (writes : KeyMap (Option Bytes)) (key : String) :
    (applyTo rows writes).get? key = (writes.get? key).getD (rows.get? key) :=
  get?_foldl_applyWrite rows writes.entries writes.ascending key

end WriteSet

end ControlPlane
