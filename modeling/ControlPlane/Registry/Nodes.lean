import ControlPlane.Records.Node
import ControlPlane.Store.Action

/-!
# The registry of nodes

A row of the table `nodes` holds the owner, the roles as the JSON text of their
sorted list without repetitions, the machine number and the system name.  Two
writes of the same set of roles store the same bytes.

The role filter tests whether the stored text contains the requested role, so that
a request for `compute` also finds a node with the role `compute-extra`.  Clients
rely on it.
-/

namespace ControlPlane.Nodes

/-- A stored node. -/
structure Row where
  member : String
  /-- The written list of roles. -/
  roles : String
  machineId : Int64
  systemId : String
  deriving DecidableEq, Repr

/-- How rows are stored. -/
def Row.codec : Codec Row :=
  (Codec.text.pair (Codec.text.pair (Codec.signed.pair Codec.text))).via
    (fun row => (row.member, row.roles, row.machineId, row.systemId))
    (fun (member, roles, machineId, systemId) => ⟨member, roles, machineId, systemId⟩)

/-- There is no such node. -/
def notFound : Failure := .notFound "Node"

/-! ## Roles -/

/-- Sorts texts. -/
def sortTexts (texts : List String) : List String :=
  texts.mergeSort fun a b => decide (a ≤ b)

/-- The stored text of a set of roles. -/
def encodeRoles (roles : List String) : String :=
  (Json.Document.texts (sortTexts roles).eraseReps).write

/-- The roles of a stored text, in ascending order. -/
def decodeRoles (text : String) : Except Failure (List String) :=
  match Json.decodeTexts (Utf8.encode text) with
  | .ok roles => .ok (sortTexts roles)
  | .error problem => .error (.internal (.roles problem))

/-- Whether some characters stand somewhere in others, one behind the other. -/
def containsChars (part : List Char) : List Char → Bool
  | [] => part.isEmpty
  | char :: rest => part.isPrefixOf (char :: rest) || containsChars part rest

theorem containsChars_iff (part text : List Char) :
    containsChars part text = true ↔ part <:+: text := by
  induction text with
  | nil => simp [containsChars]
  | cons char rest ih =>
    rw [containsChars, Bool.or_eq_true, ih, List.isPrefixOf_iff_prefix, List.infix_cons_iff]

/-- Whether a text contains another one. -/
def containsText (text part : String) : Bool :=
  containsChars part.toList text.toList

/-- Whether the stored roles match every requested one. -/
def hasRoles (row : Row) (wanted : List String) : Bool :=
  wanted.all (containsText row.roles)

/-- The node of a row. -/
def ofRow (name : String) (row : Row) : Except Failure Node :=
  (decodeRoles row.roles).map fun roles =>
    ⟨name, roles, row.machineId, row.systemId, row.member⟩

/-! ## Reading -/

/-- The row of a node. -/
def getRow (name : String) : Action Row := do
  match ← Action.get .nodes name with
  | some row => Action.decodeRow Row.codec row
  | none => Action.fail notFound

/-- A node. -/
def get (name : String) : Action Node := do
  Action.ofExcept (ofRow name (← getRow name))

/-- The nodes among some rows that match the requested roles.  Each row has to be one
of a node, and the roles of those that match have to be readable. -/
def select (wanted : List String) (acc : List Node) :
    List (String × Bytes) → Except Failure (List Node)
  | [] => .ok acc.reverse
  | (name, bytes) :: rest =>
    match Row.codec.read? bytes with
    | none => .error (.storage .undecodableRow)
    | some row =>
      if hasRoles row wanted then
        match ofRow name row with
        | .ok node => select wanted (node :: acc) rest
        | .error failure => .error failure
      else select wanted acc rest

/-- The nodes that match every requested role, in ascending order of names. -/
def list (wanted : List String) : Action (List Node) := do
  Action.ofExcept (select wanted [] (← Action.scan .nodes ""))

/-! ## Writing -/

/-- Registers a node for its owner. -/
def create (member name : String) (roles : List String) (machineId : Int64)
    (systemId : String) : Action Unit := do
  if name = "" then Action.fail (.invalidArgument .emptyNodeName)
  else if ← Action.contains .nodes name then Action.fail (.alreadyExists "node")
  else
    Action.put .nodes name
      (Row.codec.encode ⟨member, encodeRoles roles, machineId, systemId⟩)

/-- A row after an update: no roles, machine number -1 and an empty system name keep
what is stored, and the owner changes. -/
def Row.update (row : Row) (member : String) (roles : List String) (machineId : Int64)
    (systemId : String) : Row where
  member := member
  roles := if roles.isEmpty then row.roles else encodeRoles roles
  machineId := if machineId = Node.unsetMachineId then row.machineId else machineId
  systemId := if systemId = "" then row.systemId else systemId

/-- Updates a node. -/
def update (member name : String) (roles : List String) (machineId : Int64)
    (systemId : String) : Action Unit := do
  let row ← getRow name
  Action.put .nodes name (Row.codec.encode (row.update member roles machineId systemId))

/-- Removes a node. -/
def delete (name : String) : Action Unit := do
  if ← Action.delete .nodes name then return ()
  else Action.fail notFound

end ControlPlane.Nodes
