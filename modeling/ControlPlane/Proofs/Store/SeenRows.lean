import ControlPlane.Proofs.Store.KeyRanges
import ControlPlane.Store.Store

/-!
# Rows as a transaction sees them

A transaction sees the committed rows with its staged writes carried out.  Every
action answers from the rows that it sees, and a commit makes them the committed
rows, so that the staged writes need no mention in what follows.

Look-ups are stated for keys that the medium can find; in memory these are all
keys.
-/

namespace ControlPlane

namespace KeyMap

variable {α : Type}

theorem get?_foldl_insert (map : KeyMap α) (entries : List (String × α))
    (ascending : entries.Pairwise fun a b => a.1 < b.1) (key : String) :
    (entries.foldl (fun map pair => map.insert pair.1 pair.2) map).get? key =
      (lookup key entries).or (map.get? key) := by
  induction entries generalizing map with
  | nil => rfl
  | cons head rest ih =>
    rcases head with ⟨k, v⟩
    rcases List.pairwise_cons.1 ascending with ⟨above, ascendingRest⟩
    rw [List.foldl_cons, ih _ ascendingRest, get?_insert]
    by_cases same : k = key
    · subst same
      rw [lookup_eq_none_of_below above]
      simp [lookup]
    · simp [lookup, same, Ne.symm same]

/-- Binding the bindings of a map once more gives the map. -/
@[simp]
theorem ofList_entries (map : KeyMap α) : ofList map.entries = map := by
  apply ext_get?
  intro key
  rw [ofList, get?_foldl_insert _ _ map.ascending, get?_empty, Option.or_none]
  rfl

end KeyMap

namespace Medium

@[simp]
theorem canFind_memory (key : String) : memory.canFind key = true := rfl

@[simp]
theorem canFind_empty (medium : Medium) : medium.canFind "" = true := by
  cases medium <;> rfl

@[simp]
theorem canStore_memory (key : String) : memory.canStore key = true := rfl

/-- The keys of the row counters are short. -/
@[simp]
theorem canFind_sequenceKey (medium : Medium) (table : Table) :
    medium.canFind table.sequenceKey = true := by
  cases medium
  · rfl
  · cases table <;> decide

/-- What the persistent medium can store. -/
theorem canStore_persistent_iff {key : String} :
    persistent.canStore key = true ↔ key.utf8ByteSize ≤ keyLimit ∧ key ≠ "" := by
  have unfolded : persistent.canStore key =
      (decide (key.utf8ByteSize ≤ keyLimit) && key != "") := rfl
  rw [unfolded, Bool.and_eq_true, decide_eq_true_iff, bne_iff_ne]

/-- A key that can be written to can be looked up. -/
theorem canFind_of_canStore {medium : Medium} {key : String}
    (canStore : medium.canStore key = true) : medium.canFind key = true := by
  cases medium with
  | memory => rfl
  | persistent => exact decide_eq_true (canStore_persistent_iff.1 canStore).1

/-- A key that can be looked up can be written to, unless it is empty. -/
theorem canStore_of_canFind {medium : Medium} {key : String}
    (canFind : medium.canFind key = true) (filled : key ≠ "") : medium.canStore key = true := by
  cases medium with
  | memory => rfl
  | persistent => exact canStore_persistent_iff.2 ⟨of_decide_eq_true canFind, filled⟩

end Medium

theorem WriteSet.mem_toList {writes : WriteSet} {table : Table} {key : String}
    {write : Option Bytes} :
    (table, key, write) ∈ writes.toList ↔ writes.get? table key = some write := by
  rw [toList, get?, ← KeyMap.mem_entries_iff, List.mem_flatMap]
  constructor
  · rintro ⟨other, _, listed⟩
    rcases List.mem_map.1 listed with ⟨entry, member, same⟩
    cases same
    exact member
  · intro member
    exact ⟨table, table.mem_all, List.mem_map.2 ⟨(key, write), member, rfl⟩⟩

/-! ## What is seen -/

namespace Database

/-- The rows that a transaction sees. -/
def seen (database : Database) (writes : WriteSet) : Tables Rows :=
  database.rows.map fun table rows => WriteSet.applyTo rows (writes.staged.get table)

/-- The value that a transaction sees under a key. -/
def value? (database : Database) (writes : WriteSet) (table : Table) (key : String) :
    Option Bytes :=
  ((database.seen writes).get table).get? key

variable (database : Database) (writes : WriteSet) (table : Table) (key : String)

theorem value?_eq :
    database.value? writes table key =
      (writes.get? table key).getD ((database.rows.get table).get? key) := by
  simp [value?, seen, WriteSet.get?]

@[simp]
theorem value?_empty :
    database.value? .empty table key = (database.rows.get table).get? key := by
  simp [value?_eq]

@[simp]
theorem value?_put (value : Bytes) (other : Table) (other' : String) :
    database.value? (writes.put table key value) other other' =
      if other = table ∧ other' = key then some value
      else database.value? writes other other' := by
  simp only [value?_eq, WriteSet.put, WriteSet.get?_stage]
  split <;> rfl

@[simp]
theorem value?_delete (other : Table) (other' : String) :
    database.value? (writes.delete table key) other other' =
      if other = table ∧ other' = key then none
      else database.value? writes other other' := by
  simp only [value?_eq, WriteSet.delete, WriteSet.get?_stage]
  split <;> rfl

/-- Where two transactions have staged the same write, they see the same value. -/
theorem value?_congr {database : Database} {writes writes' : WriteSet} {table : Table}
    {key : String} (same : writes'.get? table key = writes.get? table key) :
    database.value? writes' table key = database.value? writes table key := by
  rw [value?_eq, value?_eq, same]

/-- Before anything is staged, the committed rows are seen. -/
@[simp]
theorem seen_empty : database.seen .empty = database.rows := by
  apply Tables.ext_get
  intro table
  apply KeyMap.ext_get?
  intro key
  exact database.value?_empty table key

/-! ## Databases without faults -/

/-- Memory finds every key. -/
theorem canFind_of_memory {database : Database} (memory : database.medium = .memory)
    (key : String) : database.medium.canFind key = true := by
  rw [memory]
  rfl

/-- Where all keys are texts, no scan meets another one. -/
theorem firstUnreadable?_of_readable {database : Database} {table : Table}
    (readable : database.unreadable.get table = []) (start : Bytes) :
    database.firstUnreadable? table start = none := by
  rw [firstUnreadable?, readable]
  rfl

/-! ## Commits -/

/-- A write set is taken where every key that it writes to can be stored. -/
theorem accepts_iff {database : Database} {writes : WriteSet} :
    database.accepts writes = true ↔ ∀ table key write,
      writes.get? table key = some write → database.medium.canStore key = true := by
  rw [accepts, List.all_eq_true]
  constructor
  · intro accepted table key write staged
    exact accepted (table, key, write) (WriteSet.mem_toList.2 staged)
  · rintro accepted ⟨table, key, write⟩ listed
    exact accepted table key write (WriteSet.mem_toList.1 listed)

theorem accepts_empty (database : Database) : database.accepts .empty = true := by
  apply accepts_iff.2
  intro table key write staged
  rw [WriteSet.get?_empty] at staged
  cases staged

/-- One write more is taken where its key can be stored. -/
theorem accepts_stage_iff {database : Database} {writes : WriteSet} {table : Table}
    {key : String} {write : Option Bytes} :
    database.accepts (writes.stage table key write) = true ↔
      database.medium.canStore key = true ∧ database.accepts writes = true := by
  rw [accepts_iff, accepts_iff]
  constructor
  · intro accepted
    have canStore := accepted table key write
      (by rw [WriteSet.get?_stage, if_pos ⟨rfl, rfl⟩])
    refine ⟨canStore, ?_⟩
    intro other other' write' staged
    by_cases same : other = table ∧ other' = key
    · rw [same.2]
      exact canStore
    · exact accepted other other' write' (by rw [WriteSet.get?_stage, if_neg same, staged])
  · rintro ⟨canStore, accepted⟩ other other' write' staged
    rw [WriteSet.get?_stage] at staged
    split at staged
    · rename_i same
      rw [same.2]
      exact canStore
    · exact accepted other other' write' staged

/-- A single write is taken where its key can be stored. -/
theorem accepts_stage {database : Database} {key : String}
    (canStore : database.medium.canStore key = true) (table : Table) (write : Option Bytes) :
    database.accepts (WriteSet.empty.stage table key write) = true :=
  accepts_stage_iff.2 ⟨canStore, accepts_empty database⟩

theorem accepts_of_memory {database : Database} (memory : database.medium = .memory) :
    database.accepts writes = true := by
  simp [accepts, memory]

/-- A commit makes the rows that are seen the committed ones. -/
theorem rows_of_apply {database next : Database} {writes : WriteSet}
    (applied : database.apply writes = .ok next) :
    next = { database with rows := database.seen writes } := by
  unfold apply at applied
  split at applied
  · cases applied
    rfl
  · cases applied

/-- A commit stays on its medium. -/
theorem medium_of_apply {database next : Database} {writes : WriteSet}
    (applied : database.apply writes = .ok next) : next.medium = database.medium := by
  rw [rows_of_apply applied]

/-- Memory takes every commit. -/
theorem apply_of_memory {database : Database} (memory : database.medium = .memory) :
    database.apply writes = .ok { database with rows := database.seen writes } := by
  rw [apply, if_pos (accepts_of_memory writes memory)]
  rfl

/-- Only what the medium takes is committed. -/
theorem accepts_of_apply {database next : Database} {writes : WriteSet}
    (applied : database.apply writes = .ok next) : database.accepts writes = true := by
  unfold apply at applied
  split at applied
  · assumption
  · cases applied

/-- Every key that a commit writes to is one that the medium can store. -/
theorem canStore_of_apply {database next : Database} {writes : WriteSet}
    (applied : database.apply writes = .ok next) {table : Table} {key : String}
    {write : Option Bytes} (staged : writes.get? table key = some write) :
    database.medium.canStore key = true :=
  accepts_iff.1 (accepts_of_apply applied) table key write staged

/-- After a commit, a new transaction sees what the last one saw. -/
theorem value?_of_apply {database next : Database} {writes : WriteSet}
    (applied : database.apply writes = .ok next) (table : Table) (key : String) :
    next.value? .empty table key = database.value? writes table key := by
  rw [rows_of_apply applied, value?_empty]
  rfl

end Database

/-! ## Actions on the rows that are seen -/

namespace Action

variable {database : Database} {writes : WriteSet} {table : Table} {key start : String}

theorem get_apply (found : database.medium.canFind key = true) :
    get table key database writes = (.ok (database.value? writes table key), writes) := by
  rw [get, Database.value?_eq]
  cases staged : writes.get? table key with
  | some write => rfl
  | none =>
    simp only [Database.read, if_pos found]
    rfl

/-- A key that the medium cannot find fails, unless something is staged under it. -/
theorem get_of_lost (lost : database.medium.canFind key = false)
    (unstaged : writes.get? table key = none) :
    get table key database writes = (.error (.storage .taskFailed), writes) := by
  rw [get, unstaged]
  simp only [Database.read, lost, Bool.false_eq_true, if_false]
  rfl

theorem contains_apply (found : database.medium.canFind key = true) :
    contains table key database writes =
      (.ok (database.value? writes table key).isSome, writes) := by
  simp [contains, bind_apply, get_apply found]

/-- Keeping or dropping both a staged write and the row under it. -/
theorem getD_filter (kept : Bool) (write : Option (Option Bytes)) (row : Option Bytes) :
    (write.filter fun _ => kept).getD (row.filter fun _ => kept) =
      (write.getD row).filter fun _ => kept := by
  rcases write with _ | _ | value
  · rfl
  · cases kept <;> cases row <;> rfl
  · cases kept <;> cases row <;> rfl

/-- A scan lists the rows seen whose keys start with `start`. -/
theorem scan_apply (found : database.medium.canFind start = true)
    (readable : database.firstUnreadable? table (Utf8.encode start) = none) :
    scan table start database writes =
      (.ok (((database.seen writes).get table).filter fun key _ => startsWith key start).entries,
        writes) := by
  have rows : database.scan table start =
      .ok ((database.rows.get table).filter fun key _ => startsWith key start).entries := by
    rw [Database.scan, if_pos found, readable]
  rw [scan, rows]
  -- Cutting to the keys that start with `start` before or after the writes are carried
  -- out makes no difference, one key at a time.
  have cut : writes.overlay table start
      ((database.rows.get table).filter fun key _ => startsWith key start).entries =
      (((database.seen writes).get table).filter fun key _ => startsWith key start).entries := by
    rw [WriteSet.overlay_eq, KeyMap.ofList_entries]
    apply congrArg KeyMap.entries
    apply KeyMap.ext_get?
    intro key
    rw [WriteSet.get?_applyTo, KeyMap.get?_filter, KeyMap.get?_filter, KeyMap.get?_filter,
      Database.seen, Tables.get_map, WriteSet.get?_applyTo]
    exact getD_filter _ _ _
  rw [Except.map, cut]
  rfl

/-- A delete is staged only under a key that has a value. -/
theorem delete_apply (found : database.medium.canFind key = true) :
    delete table key database writes =
      match database.value? writes table key with
      | some _ => (.ok true, writes.delete table key)
      | none => (.ok false, writes) := by
  rw [delete, bind_apply, contains_apply found]
  cases database.value? writes table key with
  | some value => rfl
  | none => rfl

/-- The next row id follows the counter that is seen. -/
theorem nextRowId_apply :
    nextRowId table database writes =
      match database.value? writes .counters table.sequenceKey with
      | none => (.ok 1, writes.put .counters table.sequenceKey (Codec.unsigned.encode 1))
      | some row =>
        match Codec.unsigned.read? row with
        | none => (.error (.storage .undecodableRow), writes)
        | some last =>
          (.ok (last + 1),
            writes.put .counters table.sequenceKey (Codec.unsigned.encode (last + 1))) := by
  rw [nextRowId, bind_apply, get_apply (Medium.canFind_sequenceKey _ _)]
  cases database.value? writes .counters table.sequenceKey with
  | none => rfl
  | some row =>
    simp only [bind_apply, decodeRow]
    cases Codec.unsigned.read? row with
    | none => rfl
    | some last => rfl

end Action

/-! ## Ends of transactions -/

namespace Store

variable {α : Type}

/-- In memory a commit makes the rows that are seen the committed ones. -/
theorem commit?_of_memory {store : Store} {transaction : Transaction}
    (current : store.current = some transaction) (memory : store.database.medium = .memory) :
    store.commit? =
      some (.ok (),
        { store with
          database := { store.database with rows := store.database.seen transaction.writes }
          current := none }) := by
  rw [commit?, current]
  simp only [Database.apply_of_memory transaction.writes memory]

/-- In memory an answer is committed as it was given, and a failure changes no row. -/
theorem transact_of_memory {store : Store} (memory : store.database.medium = .memory)
    (action : Action α) :
    store.transact action =
      match action store.database .empty with
      | (.ok value, writes) =>
        (.ok value,
          { store with
            database := { store.database with rows := store.database.seen writes }
            begun := store.begun + 1 })
      | (.error failure, _) => (.error failure, { store with begun := store.begun + 1 }) := by
  rw [transact]
  rcases action store.database .empty with ⟨_ | value, writes⟩
  · rfl
  · simp only [Database.apply_of_memory writes memory]

end Store

end ControlPlane
