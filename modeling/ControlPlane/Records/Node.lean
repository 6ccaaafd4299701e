import ControlPlane.Json.Document
import ControlPlane.Json.Shape

/-!
# Nodes

A node is a machine of the cluster.  The member that wrote its record last is kept
with it, but never sent: the written form has no such field, and a field of that
name in a received document is passed over like any other that is unknown.
-/

namespace ControlPlane

/-- A machine of the cluster. -/
structure Node where
  name : String := ""
  roles : List String := []
  machineId : Int64 := -1
  systemId : String := ""
  /-- The member that wrote the record last. -/
  member : String := ""
  deriving DecidableEq, Repr

namespace Node

/-- The machine number that stands for none given. -/
def unsetMachineId : Int64 := -1

/-- The fields of a written node. -/
def shape : Json.Shape Node where
  name := "Node"
  blank := {}
  fields := [
    ⟨"name", .text, false, fun value node => { node with name := value }⟩,
    ⟨"role", .texts, false, fun value node => { node with roles := value }⟩,
    ⟨"machineid", .integer, false, fun value node => { node with machineId := value }⟩,
    ⟨"systemid", .text, false, fun value node => { node with systemId := value }⟩]

/-- The node of a document. -/
def decode (document : Bytes) : Except Json.Error Node :=
  shape.decode document

/-- The document of a node. -/
def document (node : Node) : Json.Document :=
  .object [("name", .text node.name), ("role", .texts node.roles),
    ("machineid", .integer node.machineId.toInt), ("systemid", .text node.systemId)]

/-- The written form of a node. -/
def text (node : Node) : String := node.document.write

end Node

end ControlPlane
