import ControlPlane.Json.Document
import ControlPlane.Json.Shape

/-!
# Deployment locks

A lock says who works on a deployment plan and why.  Two locks have the same
holder when identifier, operation and author agree; the other fields are carried
along.  The written form names all fields but an unset date.
-/

namespace ControlPlane

/-- A lock on a deployment plan. -/
structure Lock where
  id : String := ""
  operation : String := ""
  info : String := ""
  who : String := ""
  version : String := ""
  created : Option DateTime := none
  path : String := ""
  deriving DecidableEq, Repr

namespace Lock

/-- The lock with every field at its default. -/
def blank : Lock := {}

/-- Whether two locks were issued to the same author for the same operation. -/
def sameHolder (a b : Lock) : Bool :=
  a.id == b.id && a.operation == b.operation && a.who == b.who

/-- The fields of a written lock. -/
def shape : Json.Shape Lock where
  name := "Lock"
  blank := blank
  fields := [
    ⟨"ID", .text, false, fun value lock => { lock with id := value }⟩,
    ⟨"Operation", .text, false, fun value lock => { lock with operation := value }⟩,
    ⟨"Info", .text, false, fun value lock => { lock with info := value }⟩,
    ⟨"Who", .text, false, fun value lock => { lock with who := value }⟩,
    ⟨"Version", .text, false, fun value lock => { lock with version := value }⟩,
    ⟨"Created", .optionalDate, false, fun value lock => { lock with created := value }⟩,
    ⟨"Path", .text, false, fun value lock => { lock with path := value }⟩]

/-- The lock of a document. -/
def decode (document : Bytes) : Except Json.Error Lock :=
  shape.decode document

/-- The document of a lock. -/
def document (lock : Lock) : Json.Document :=
  .object <|
    [("ID", .text lock.id), ("Operation", .text lock.operation), ("Info", .text lock.info),
      ("Who", .text lock.who), ("Version", .text lock.version)] ++
    (match lock.created with
      | some time => [("Created", .text time.text)]
      | none => []) ++
    [("Path", .text lock.path)]

/-- The written form of a lock. -/
def text (lock : Lock) : String := lock.document.write

end Lock

end ControlPlane
