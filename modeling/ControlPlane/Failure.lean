import ControlPlane.Records.Lock
import ControlPlane.Store.Table
import ControlPlane.Text.Utf8

/-!
# Failures

Every operation of the cluster fails in one of six ways.  A failure says what went
wrong as a value; `Failure.message` words it, and `Failure.kind` sorts it for the
clients.  Failures over a deployment lock carry the lock that stands.
-/

namespace ControlPlane

/-- Why an operation conflicts with what is stored. -/
inductive Conflict where
  /-- The name is taken; the table is named as clients know it. -/
  | exists (entry : String)
  /-- The plan is locked by someone else, or not at all. -/
  | lockId
  /-- A conflict in words of its own. -/
  | other (text : String)
  deriving DecidableEq, Repr

/-- Why a lock cannot be taken by its own holder. -/
inductive Held where
  /-- The holder has it already. -/
  | sameId
  /-- A refusal in words of its own. -/
  | other (text : String)
  deriving DecidableEq, Repr

/-- Why an argument is refused. -/
inductive BadArgument where
  | emptyConfigKey
  | emptyNodeName
  | emptyManifestId
  | emptyUsername
  /-- The manifest identifier that stands for the latest one. -/
  | reservedManifestId
  /-- The instant does not fit the stored counter of nanoseconds. -/
  | appliedOutOfRange (appliedAt : Instant)
  | lockBody (problem : Json.Error)
  | requestBody (problem : Json.Error)
  /-- A refusal in words of its own. -/
  | other (text : String)
  deriving DecidableEq, Repr

/-- What fails in the store. -/
inductive StorageFault where
  /-- A stored row is no value of its table. -/
  | undecodableRow
  /-- A key of a table is not UTF-8. -/
  | keyNotText (table : Table) (fault : Utf8.Fault)
  /-- A configuration value is not UTF-8. -/
  | valueNotText (key : String) (fault : Utf8.Fault)
  /-- The medium gave up on a request. -/
  | taskFailed
  /-- A fault in words of its own. -/
  | other (text : String)
  deriving DecidableEq, Repr

/-- What stored records break the rules. -/
inductive Corruption where
  | lock (plan : String) (problem : Json.Error)
  | roles (problem : Json.Error)
  /-- A defect in words of its own. -/
  | other (text : String)
  deriving DecidableEq, Repr

/-- A failed operation. -/
inductive Failure where
  /-- Nothing is stored under the name; what was looked for. -/
  | notFound (what : String)
  | conflict (reason : Conflict) (lock : Option Lock)
  /-- The requester holds the lock already. -/
  | locked (reason : Held) (lock : Lock)
  | invalidArgument (reason : BadArgument)
  | storage (reason : StorageFault)
  | internal (reason : Corruption)
  deriving DecidableEq, Repr

/-! ## Wording -/

/-- The wording of a conflict. -/
def Conflict.message : Conflict → String
  | .exists entry => "this \"" ++ entry ++ "\" entry already exists"
  | .lockId => "conflict in lock ID"
  | .other text => text

/-- The wording of a refusal to the holder. -/
def Held.message : Held → String
  | .sameId => "already locked with same ID"
  | .other text => text

/-- The wording of a refused argument. -/
def BadArgument.message : BadArgument → String
  | .emptyConfigKey => "config key must not be empty"
  | .emptyNodeName => "node name must not be empty"
  | .emptyManifestId => "manifest id must not be empty"
  | .emptyUsername => "username must not be empty"
  | .reservedManifestId => "\"latest\" is reserved and cannot be used as a manifest id"
  | .appliedOutOfRange appliedAt => "applied time " ++ appliedAt.label ++ " is out of range"
  | .lockBody problem => "invalid lock body: " ++ problem.message
  | .requestBody problem => "invalid request body: " ++ problem.message
  | .other text => text

/-- The wording of a fault of the store. -/
def StorageFault.message : StorageFault → String
  | .undecodableRow => "failed to decode row: <bincode>"
  | .keyNotText table fault => "non UTF-8 key in " ++ table.name ++ ": " ++ fault.message
  | .valueNotText key fault => "config item \"" ++ key ++ "\" is not UTF-8: " ++ fault.message
  | .taskFailed => "storage task failed: <panic>"
  | .other text => text

/-- The wording of a broken record. -/
def Corruption.message : Corruption → String
  | .lock plan problem =>
    "stored lock for plan \"" ++ plan ++ "\" is corrupt: " ++ problem.message
  | .roles problem => "failed to decode roles: " ++ problem.message
  | .other text => text

namespace Failure

/-- The wording of a failure. -/
def message : Failure → String
  | .notFound what => what ++ " not found"
  | .conflict reason _ => reason.message
  | .locked reason _ => reason.message
  | .invalidArgument reason => "invalid argument: " ++ reason.message
  | .storage reason => "storage error: " ++ reason.message
  | .internal reason => "internal error: " ++ reason.message

/-! ## Classification -/

/-- The kinds of failures that clients tell apart. -/
inductive Kind where
  | notFound
  | conflict
  | locked
  | invalidArgument
  | internal
  deriving DecidableEq, Repr

/-- The kind of a failure; clients do not learn whether the store or a record is at
fault. -/
def kind : Failure → Kind
  | .notFound _ => .notFound
  | .conflict _ _ => .conflict
  | .locked _ _ => .locked
  | .invalidArgument _ => .invalidArgument
  | .storage _ | .internal _ => .internal

/-- The lock that a failure carries. -/
def lock? : Failure → Option Lock
  | .conflict _ lock => lock
  | .locked _ lock => some lock
  | _ => none

/-- The name is taken. -/
def alreadyExists (entry : String) : Failure :=
  .conflict (.exists entry) none

/-- The plan's lock stands against the request. -/
def lockConflict (lock : Lock) : Failure :=
  .conflict .lockId (some lock)

end Failure

end ControlPlane
