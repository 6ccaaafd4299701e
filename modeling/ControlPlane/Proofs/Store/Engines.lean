import ControlPlane.Proofs.Store.SeenRows
import ControlPlane.Proofs.Text.Utf8Bytes

/-!
# Engines under a database

A database says what can be read, scanned and committed without regard to how an engine
keeps its rows.  Two engines are given here as they work.  In memory, a table is a map of
texts: a scan runs from the first key that is not below the start for as long as the keys
begin with it.  On disk, a table is a list of byte keys in ascending order: a scan takes
the rows whose bytes begin with those of the start, and reads each key as a text.  No
sequence of reads, scans and commits tells an engine from the database on its medium.
-/

namespace ControlPlane

/-! ## Engines -/

/-- What an engine offers over states of its own. -/
structure Engine (σ : Type) where
  read : σ → Table → String → Except StorageFault (Option Bytes)
  scan : σ → Table → String → Except StorageFault (List (String × Bytes))
  apply : σ → WriteSet → Except StorageFault σ

namespace Engine

variable {σ : Type}

/-- A commit on an engine and one on a database end alike. -/
inductive CommitsAlike (stands : σ → Database → Prop) :
    Except StorageFault σ → Except StorageFault Database → Prop
  | done {state : σ} {database : Database} :
      stands state database → CommitsAlike stands (.ok state) (.ok database)
  | refused (fault : StorageFault) : CommitsAlike stands (.error fault) (.error fault)

/-- States stand for databases that are read and scanned as they are, also after every
commit. -/
structure Simulation (engine : Engine σ) (stands : σ → Database → Prop) : Prop where
  read : ∀ {state database}, stands state database → ∀ table key,
    engine.read state table key = database.read table key
  scan : ∀ {state database}, stands state database → ∀ table start,
    engine.scan state table start = database.scan table start
  apply : ∀ {state database}, stands state database → ∀ writes,
    CommitsAlike stands (engine.apply state writes) (database.apply writes)

/-- Nothing tells a database from the engine in some state. -/
def Backs (engine : Engine σ) (state : σ) (database : Database) : Prop :=
  ∃ stands, engine.Simulation stands ∧ stands state database

end Engine

/-! ## Writes one after the other -/

namespace Tables

variable {α : Type}

/-- Carries out the writes of all tables in order, each on its own table. -/
def writeAll (step : α → String × Option Bytes → α) (tables : Tables α) (writes : WriteSet) :
    Tables α :=
  writes.toList.foldl
    (fun tables write => tables.set write.1 (step (tables.get write.1) write.2)) tables

/-- The writes of one table change nothing but this table. -/
theorem foldl_writes (step : α → String × Option Bytes → α) (tables : Tables α) (table : Table)
    (entries : List (String × Option Bytes)) :
    (entries.map fun entry => (table, entry.1, entry.2)).foldl
        (fun tables write => tables.set write.1 (step (tables.get write.1) write.2)) tables =
      tables.set table (entries.foldl step (tables.get table)) := by
  induction entries generalizing tables with
  | nil => cases table <;> rfl
  | cons entry rest ih =>
    rw [List.map_cons, List.foldl_cons, ih, List.foldl_cons]
    cases table <;> rfl

theorem get_writeAll (step : α → String × Option Bytes → α) (tables : Tables α)
    (writes : WriteSet) (table : Table) :
    (tables.writeAll step writes).get table =
      (writes.staged.get table).entries.foldl step (tables.get table) := by
  simp only [writeAll, WriteSet.toList, Table.all, List.flatMap_cons, List.flatMap_nil,
    List.foldl_append, List.foldl_nil, foldl_writes]
  cases table <;> rfl

end Tables

/-! ## Rows in memory -/

/-- Whether the key of a row begins with `start`. -/
def begins (start : String) (row : String × Bytes) : Bool := startsWith row.1 start

theorem begins_iff {start : String} {row : String × Bytes} :
    begins start row = true ↔ start.toList <+: row.1.toList := by
  rw [begins, startsWith_iff]

/-- Whether the key of a row is below `start`. -/
def isBelow (start : String) (row : String × Bytes) : Bool := decide (row.1 < start)

/-- The rows from the first key that is not below `start`, for as long as the keys begin
with it. -/
def rowsFrom (start : String) (rows : List (String × Bytes)) : List (String × Bytes) :=
  (rows.dropWhile (isBelow start)).takeWhile (begins start)

/-- Tables as maps of texts. -/
def Engine.memory : Engine (Tables Rows) where
  read tables table key := .ok ((tables.get table).get? key)
  scan tables table start := .ok (rowsFrom start (tables.get table).entries)
  apply tables writes := .ok (tables.writeAll WriteSet.applyWrite writes)

/-- The rows that begin with `start` stand next to each other. -/
theorem adjoin_begins (start : String) :
    Adjoin (fun a b : String × Bytes => a.1 < b.1) (isBelow start) (begins start) where
  apart starts below := not_lt_of_startsWith starts (of_decide_eq_true below)
  behind less kept below := kept (decide_eq_true (String.lt_trans less (of_decide_eq_true below)))
  between less kept starts :=
    startsWith_of_between (fun below => kept (decide_eq_true below)) less starts

/-- A scan of ascending keys takes those that begin with `start`. -/
theorem rowsFrom_eq_filter {start : String} {rows : List (String × Bytes)}
    (ascending : rows.Pairwise fun a b => a.1 < b.1) :
    rowsFrom start rows = rows.filter (begins start) :=
  (adjoin_begins start).walk_eq_filter ascending

/-- Maps of texts stand for a database in memory with the same rows. -/
structure Database.HasMaps (maps : Tables Rows) (database : Database) : Prop where
  medium : database.medium = .memory
  readable : ∀ table, database.unreadable.get table = []
  rows : database.rows = maps

namespace Engine

theorem memory_simulation : memory.Simulation Database.HasMaps where
  read := by
    rintro maps database ⟨medium, _, rfl⟩ table key
    rw [Database.read, medium]
    rfl
  scan := by
    rintro maps database ⟨medium, readable, rfl⟩ table start
    have unmet := Database.firstUnreadable?_of_readable (readable table) (Utf8.encode start)
    rw [Database.scan, medium, unmet]
    exact congrArg Except.ok (rowsFrom_eq_filter (KeyMap.ascending _))
  apply := by
    rintro maps database ⟨medium, readable, rfl⟩ writes
    rw [Database.apply_of_memory writes medium]
    apply CommitsAlike.done
    refine ⟨medium, readable, Tables.ext_get fun table => ?_⟩
    rw [Tables.get_writeAll, Database.seen, Tables.get_map]
    rfl

end Engine

/-! ## Rows on disk -/

/-- The rows of a table by the bytes of their keys. -/
def byteRows (rows : Rows) : List (Bytes × Bytes) :=
  rows.entries.map fun row => (Utf8.encode row.1, row.2)

/-- The value under a key of bytes. -/
def valueAt (key : Bytes) : List (Bytes × Bytes) → Option Bytes
  | [] => none
  | row :: rest => if row.1 = key then some row.2 else valueAt key rest

/-- Rows with their keys as texts, up to the first key that is none. -/
def readKeys (table : Table) : List (Bytes × Bytes) → Except StorageFault (List (String × Bytes))
  | [] => .ok []
  | row :: rest =>
    match Utf8.decode row.1 with
    | .error fault => .error (.keyNotText table fault)
    | .ok key => (readKeys table rest).map ((key, row.2) :: ·)

/-- Carries one write out on rows in ascending order of bytes. -/
def writeBytes (rows : List (Bytes × Bytes)) (write : String × Option Bytes) :
    List (Bytes × Bytes) :=
  match write.2 with
  | some value => Database.insertUnreadable (Utf8.encode write.1) value rows
  | none => rows.filter fun row => row.1 ≠ Utf8.encode write.1

/-- Whether the engine on disk gets along with the length of a key. -/
def isShort (key : Bytes) : Bool := decide (key.length ≤ Medium.keyLimit)

/-- Tables as rows in ascending order of bytes.  The engine gives up on keys that are too
long, and on writing an empty one. -/
def Engine.disk : Engine (Tables (List (Bytes × Bytes))) where
  read tables table key :=
    if isShort (Utf8.encode key) then .ok (valueAt (Utf8.encode key) (tables.get table))
    else .error .taskFailed
  scan tables table start :=
    if isShort (Utf8.encode start) then
      readKeys table ((tables.get table).filter fun row => (Utf8.encode start).isPrefixOf row.1)
    else .error .taskFailed
  apply tables writes :=
    if writes.toList.all fun write =>
        isShort (Utf8.encode write.2.1) && !(Utf8.encode write.2.1).isEmpty then
      .ok (tables.writeAll writeBytes writes)
    else .error .taskFailed

theorem valueAt_byteRows (key : String) (rows : Rows) :
    valueAt (Utf8.encode key) (byteRows rows) = rows.get? key := by
  rw [byteRows, KeyMap.get?]
  induction rows.entries with
  | nil => rfl
  | cons row rest ih =>
    rw [List.map_cons, valueAt, KeyMap.lookup, ih]
    by_cases same : row.1 = key
    · rw [if_pos (congrArg Utf8.encode same), if_pos same]
    · rw [if_neg fun equal => same (Utf8.encode_injective equal), if_neg same]

/-- Every key that was written as a text is read as one. -/
theorem readKeys_encoded (table : Table) (rows : List (String × Bytes)) :
    readKeys table (rows.map fun row => (Utf8.encode row.1, row.2)) = .ok rows := by
  induction rows with
  | nil => rfl
  | cons row rest ih =>
    simp only [List.map_cons, readKeys, Utf8.decode_encode, ih]
    rfl

theorem filter_byteRows (start : String) (rows : Rows) :
    ((byteRows rows).filter fun row => (Utf8.encode start).isPrefixOf row.1) =
      (rows.entries.filter (begins start)).map fun row => (Utf8.encode row.1, row.2) := by
  rw [byteRows, List.filter_map]
  congr 1
  apply List.filter_congr
  intro row _
  rw [Bool.eq_iff_iff, begins_iff, Function.comp_apply, List.isPrefixOf_iff_prefix,
    Utf8.encode_isPrefix_iff]

/-- Keys stand in the same order as texts and as bytes. -/
theorem insertUnreadable_encoded (key : String) (value : Bytes) (rows : List (String × Bytes)) :
    Database.insertUnreadable (Utf8.encode key) value
        (rows.map fun row => (Utf8.encode row.1, row.2)) =
      (KeyMap.insertEntry key value rows).map fun row => (Utf8.encode row.1, row.2) := by
  induction rows with
  | nil => rfl
  | cons row rest ih =>
    rw [List.map_cons, Database.insertUnreadable, KeyMap.insertEntry, ih]
    by_cases less : key < row.1
    · rw [if_pos (Utf8.encode_lt_iff.2 less), if_pos less]
      rfl
    · rw [if_neg fun before => less (Utf8.encode_lt_iff.1 before), if_neg less]
      by_cases same : row.1 = key
      · rw [if_pos (congrArg Utf8.encode same), if_pos same]
        rfl
      · rw [if_neg fun equal => same (Utf8.encode_injective equal), if_neg same]
        rfl

theorem writeBytes_byteRows (rows : Rows) (write : String × Option Bytes) :
    writeBytes (byteRows rows) write = byteRows (WriteSet.applyWrite rows write) := by
  rcases write with ⟨key, _ | value⟩
  · simp only [writeBytes, WriteSet.applyWrite, byteRows, KeyMap.erase, KeyMap.filter,
      List.filter_map]
    congr 1
    apply List.filter_congr
    intro row _
    rw [Function.comp_apply, decide_eq_decide]
    exact not_congr ⟨Utf8.encode_injective, congrArg Utf8.encode⟩
  · exact insertUnreadable_encoded key value rows.entries

theorem foldl_writeBytes (rows : Rows) (writes : List (String × Option Bytes)) :
    writes.foldl writeBytes (byteRows rows) = byteRows (writes.foldl WriteSet.applyWrite rows) := by
  induction writes generalizing rows with
  | nil => rfl
  | cons write rest ih => rw [List.foldl_cons, List.foldl_cons, writeBytes_byteRows, ih]

/-- Rows by their bytes stand for a database on the persistent medium with the same rows. -/
structure Database.HasBytes (tables : Tables (List (Bytes × Bytes))) (database : Database) :
    Prop where
  medium : database.medium = .persistent
  readable : ∀ table, database.unreadable.get table = []
  rows : ∀ table, tables.get table = byteRows (database.rows.get table)

namespace Engine

theorem isShort_encode (key : String) :
    isShort (Utf8.encode key) = Medium.persistent.canFind key := rfl

theorem isStored_encode (key : String) :
    (isShort (Utf8.encode key) && !(Utf8.encode key).isEmpty) = Medium.persistent.canStore key := by
  have unnamed : (Utf8.encode key).isEmpty = (key == "") := by
    rw [Bool.eq_iff_iff, List.isEmpty_iff, beq_iff_eq]
    constructor
    · intro none
      exact Utf8.encode_injective (none.trans Utf8.encode_empty.symm)
    · rintro rfl
      rfl
  rw [unnamed]
  rfl

theorem disk_simulation : disk.Simulation Database.HasBytes where
  read := by
    rintro tables database ⟨medium, _, rows⟩ table key
    rw [Database.read, medium, ← isShort_encode, ← valueAt_byteRows, ← rows]
    rfl
  scan := by
    rintro tables database ⟨medium, readable, rows⟩ table start
    have unmet := Database.firstUnreadable?_of_readable (readable table) (Utf8.encode start)
    rw [Database.scan, medium, unmet, ← isShort_encode]
    simp only [disk, rows, filter_byteRows, readKeys_encoded]
    rfl
  apply := by
    rintro tables database ⟨medium, readable, rows⟩ writes
    simp only [disk, isStored_encode, Database.apply, Database.accepts, medium]
    split
    · apply CommitsAlike.done
      refine ⟨rfl, readable, fun table => ?_⟩
      rw [Tables.get_writeAll, rows, foldl_writeBytes, Tables.get_map]
      rfl
    · exact .refused _

end Engine

end ControlPlane
