import ControlPlane.Failure
import ControlPlane.Store.WriteSet

/-!
# Committed rows

A database holds the committed rows of all tables on one of two media.  Memory
takes every key.  The persistent medium gives up on keys of more than 65535 bytes,
also when they are only looked up, and on writing an empty key; a write set that
holds such a key is refused as a whole.

The persistent medium may also hold rows whose keys are not UTF-8, which no key of
this library can name.  They make a scan that reaches them fail.
-/

namespace ControlPlane

/-- What committed rows are kept on. -/
inductive Medium where
  | memory
  | persistent
  deriving DecidableEq, Repr

namespace Medium

/-- The greatest number of bytes of a key on the persistent medium. -/
def keyLimit : Nat := 65535

/-- Whether a key, or the start of keys, can be looked up. -/
def canFind (medium : Medium) (key : String) : Bool :=
  medium == .memory || key.utf8ByteSize ≤ keyLimit

/-- Whether a write to a key can be carried out. -/
def canStore (medium : Medium) (key : String) : Bool :=
  medium == .memory || (key.utf8ByteSize ≤ keyLimit && key != "")

end Medium

/-- The committed rows of all tables. -/
structure Database where
  medium : Medium
  rows : Tables Rows
  /-- Rows whose keys are not UTF-8, in ascending order of keys. -/
  unreadable : Tables (List (Bytes × Bytes))
  deriving DecidableEq

namespace Database

/-- A database without rows. -/
def empty (medium : Medium) : Database :=
  ⟨medium, .const .empty, .const []⟩

/-- The committed value of a key. -/
def read (database : Database) (table : Table) (key : String) :
    Except StorageFault (Option Bytes) :=
  if database.medium.canFind key then .ok ((database.rows.get table).get? key)
  else .error .taskFailed

/-- The first row that is not readable among those whose keys start with the given
bytes. -/
def firstUnreadable? (database : Database) (table : Table) (start : Bytes) :
    Option (Bytes × Bytes) :=
  (database.unreadable.get table).find? fun row => start.isPrefixOf row.1

/-- The fault of a key that is not UTF-8. -/
def keyFault (table : Table) (key : Bytes) : StorageFault :=
  .keyNotText table (Utf8.firstFault 0 key)

/-- The committed rows whose keys start with `start`, in ascending order of keys. -/
def scan (database : Database) (table : Table) (start : String) :
    Except StorageFault (List (String × Bytes)) :=
  if database.medium.canFind start then
    match database.firstUnreadable? table (Utf8.encode start) with
    | some row => .error (keyFault table row.1)
    | none => .ok ((database.rows.get table).filter fun key _ => startsWith key start).entries
  else .error .taskFailed

/-- Whether the medium takes every key of a write set. -/
def accepts (database : Database) (writes : WriteSet) : Bool :=
  writes.toList.all fun write => database.medium.canStore write.2.1

/-- Carries out a write set as a unit. -/
def apply (database : Database) (writes : WriteSet) : Except StorageFault Database :=
  if database.accepts writes then
    .ok { database with
      rows := database.rows.map fun table rows =>
        WriteSet.applyTo rows (writes.staged.get table) }
  else .error .taskFailed

/-- Binds a byte key in an ascending list of rows. -/
def insertUnreadable (key value : Bytes) : List (Bytes × Bytes) → List (Bytes × Bytes)
  | [] => [(key, value)]
  | (k, v) :: rest =>
    if key < k then (key, value) :: (k, v) :: rest
    else if k = key then (key, value) :: rest
    else (k, v) :: insertUnreadable key value rest

/-- Puts one row in place under a key of any bytes. -/
def putRaw (database : Database) (table : Table) (key value : Bytes) : Database :=
  match Utf8.decode key with
  | .ok key =>
    { database with
      rows := database.rows.set table ((database.rows.get table).insert key value) }
  | .error _ =>
    { database with
      unreadable := database.unreadable.set table
        (insertUnreadable key value (database.unreadable.get table)) }

/-- All committed rows, in table order and then in ascending order of keys. -/
def dump (database : Database) : Except StorageFault (List (Table × String × Bytes)) := do
  let parts ← Table.all.mapM fun table => do
    let rows ← database.scan table ""
    pure (rows.map fun row => (table, row.1, row.2))
  pure parts.flatten

end Database

end ControlPlane
