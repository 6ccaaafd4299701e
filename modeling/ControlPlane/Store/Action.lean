import ControlPlane.Row.Codec
import ControlPlane.Store.Database

/-!
# Actions inside a transaction

An action reads the committed rows through the writes that its transaction has
staged, and may stage more.  It fails or answers, and in both cases the staged
writes stay: a failed action does not end its transaction.
-/

namespace ControlPlane

/-- A step of a transaction: given the committed rows and the staged writes, an
answer or a failure, and the staged writes after it. -/
def Action (α : Type) : Type :=
  Database → WriteSet → Except Failure α × WriteSet

namespace Action

variable {α β : Type}

/-- Answers without a look at the rows. -/
def answer (value : α) : Action α := fun _ writes => (.ok value, writes)

/-- Fails without a look at the rows. -/
def fail (failure : Failure) : Action α := fun _ writes => (.error failure, writes)

/-- Goes on with the answer of an action; a failure ends both. -/
def andThen (action : Action α) (next : α → Action β) : Action β := fun database writes =>
  match action database writes with
  | (.ok value, writes) => next value database writes
  | (.error failure, writes) => (.error failure, writes)

instance : Monad Action where
  pure := answer
  bind := andThen

/-- The answer of a computation that may fail on its own. -/
def ofExcept (outcome : Except Failure α) : Action α := fun _ writes => (outcome, writes)

@[simp]
theorem pure_apply (value : α) (database : Database) (writes : WriteSet) :
    (pure value : Action α) database writes = (.ok value, writes) := rfl

@[simp]
theorem fail_apply (failure : Failure) (database : Database) (writes : WriteSet) :
    (fail failure : Action α) database writes = (.error failure, writes) := rfl

@[simp]
theorem ofExcept_apply (outcome : Except Failure α) (database : Database) (writes : WriteSet) :
    ofExcept outcome database writes = (outcome, writes) := rfl

theorem bind_apply (action : Action α) (next : α → Action β) (database : Database)
    (writes : WriteSet) :
    (action >>= next) database writes =
      match action database writes with
      | (.ok value, writes) => next value database writes
      | (.error failure, writes) => (.error failure, writes) := rfl

/-! ## Reading -/

/-- The value of a key. -/
def get (table : Table) (key : String) : Action (Option Bytes) := fun database writes =>
  match writes.get? table key with
  | some staged => (.ok staged, writes)
  | none => ((database.read table key).mapError .storage, writes)

/-- Whether a key has a value. -/
def contains (table : Table) (key : String) : Action Bool := do
  return (← get table key).isSome

/-- The rows whose keys start with `start`, in ascending order of keys. -/
def scan (table : Table) (start : String) : Action (List (String × Bytes)) :=
  fun database writes =>
    (((database.scan table start).map (writes.overlay table start)).mapError .storage, writes)

/-- The value that a row stands for. -/
def decodeRow (codec : Codec α) (row : Bytes) : Action α :=
  match codec.read? row with
  | some value => pure value
  | none => fail (.storage .undecodableRow)

/-! ## Writing -/

/-- Stages a put. -/
def put (table : Table) (key : String) (value : Bytes) : Action Unit := fun _ writes =>
  (.ok (), writes.put table key value)

/-- Stages a delete, whether or not the key has a value. -/
def stageDelete (table : Table) (key : String) : Action Unit := fun _ writes =>
  (.ok (), writes.delete table key)

/-- Deletes the value of a key, and says whether it had one. -/
def delete (table : Table) (key : String) : Action Bool := do
  let found ← contains table key
  if found then stageDelete table key
  return found

/-- Hands out the next row id of a table: one more than the last, which is kept among
the rows, and 1 at first. -/
def nextRowId (table : Table) : Action UInt64 := do
  let last ← match ← get .counters table.sequenceKey with
    | some row => decodeRow .unsigned row
    | none => pure 0
  put .counters table.sequenceKey (Codec.unsigned.encode (last + 1))
  return last + 1

end Action

end ControlPlane
