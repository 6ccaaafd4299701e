import ControlPlane.Records.Manifest
import ControlPlane.Store.Action

/-!
# The log of manifests

A row of the table `manifest` holds a row id that grows with each creation, the
instant in nanoseconds, and the description.  The latest manifest is the one
applied last and, among those applied at the same instant, the one created last.
-/

namespace ControlPlane.Manifests

/-- A stored manifest. -/
structure Row where
  rowId : UInt64
  /-- Nanoseconds since 1970-01-01. -/
  appliedNanos : Int64
  data : String
  deriving DecidableEq, Repr

/-- How rows are stored. -/
def Row.codec : Codec Row :=
  (Codec.unsigned.pair (Codec.signed.pair Codec.text)).via
    (fun row => (row.rowId, row.appliedNanos, row.data))
    (fun (rowId, appliedNanos, data) => ⟨rowId, appliedNanos, data⟩)

/-- The manifest of a row. -/
def Row.toManifest (row : Row) (id : String) : Manifest :=
  ⟨id, .ofNanos row.appliedNanos.toInt, row.data⟩

/-- Whether a row was applied after another one, or at the same instant and created
after it. -/
def Row.isNewer (row other : Row) : Bool :=
  other.appliedNanos < row.appliedNanos ||
    (other.appliedNanos == row.appliedNanos && other.rowId < row.rowId)

/-- There is no such manifest. -/
def notFound : Failure := .notFound "ManifestItem"

/-! ## Reading -/

/-- The rows that some stored values stand for. -/
def decodeRows (acc : List (String × Row)) :
    List (String × Bytes) → Except Failure (List (String × Row))
  | [] => .ok acc.reverse
  | (id, bytes) :: rest =>
    match Row.codec.read? bytes with
    | none => .error (.storage .undecodableRow)
    | some row => decodeRows ((id, row) :: acc) rest

/-- All rows, in ascending order of identifiers. -/
def rows : Action (List (String × Row)) := do
  Action.ofExcept (decodeRows [] (← Action.scan .manifest ""))

/-- All manifests, in ascending order of identifiers. -/
def list : Action (List Manifest) := do
  return (← rows).map fun (id, row) => row.toManifest id

/-- The newest of some rows; the first of them if none is newer than another. -/
def newest? : List (String × Row) → Option (String × Row)
  | [] => none
  | first :: rest =>
    some (rest.foldl (fun best entry => if entry.2.isNewer best.2 then entry else best) first)

/-- The latest manifest. -/
def latest : Action Manifest := do
  match newest? (← rows) with
  | some (id, row) => return row.toManifest id
  | none => Action.fail notFound

/-- The manifest of an identifier, or the latest one. -/
def get (id : String) : Action Manifest := do
  if id = Manifest.latestId then latest
  else
    match ← Action.get .manifest id with
    | some bytes => return (← Action.decodeRow Row.codec bytes).toManifest id
    | none => Action.fail notFound

/-! ## Writing -/

/-- The stored count of nanoseconds of an instant, if it fits 64 bits. -/
def storedNanos? (instant : Instant) : Option Int64 :=
  if Int64.minValue.toInt ≤ instant.toNanos ∧ instant.toNanos ≤ Int64.maxValue.toInt then
    some (Int64.ofInt instant.toNanos)
  else none

/-- Records a manifest. -/
def create (id data : String) (appliedAt : Instant) : Action Unit := do
  if id = "" then Action.fail (.invalidArgument .emptyManifestId)
  else if id = Manifest.latestId then Action.fail (.invalidArgument .reservedManifestId)
  else if ← Action.contains .manifest id then Action.fail (.alreadyExists "manifest")
  else
    match storedNanos? appliedAt with
    | none => Action.fail (.invalidArgument (.appliedOutOfRange appliedAt))
    | some nanos =>
      let rowId ← Action.nextRowId .manifest
      Action.put .manifest id (Row.codec.encode ⟨rowId, nanos, data⟩)

/-- Removes a manifest. -/
def delete (id : String) : Action Unit := do
  if ← Action.delete .manifest id then return ()
  else Action.fail notFound

end ControlPlane.Manifests
