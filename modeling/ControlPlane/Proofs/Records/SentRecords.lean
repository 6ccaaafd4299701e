import ControlPlane.Proofs.Json.WrittenRecords
import ControlPlane.Proofs.Time.WrittenInstants
import ControlPlane.Records.JujuUser
import ControlPlane.Records.Manifest
import ControlPlane.Records.Node

/-!
# Sent records read back

Nodes, manifests and users are read back from their written form, whatever texts and
numbers they hold.  Of a node the owner is lost, which is not written, and a manifest has
to be applied at an instant that the calendar has.
-/

namespace ControlPlane

open Json

/-! ## Nodes -/

namespace Node

/-- The node without its owner. -/
def withoutOwner (node : Node) : Node := { node with member := "" }

/-- The members of a written node. -/
def members (node : Node) : List (WrittenMember shape) := [
  ⟨⟨"name", .text, false, fun value node => { node with name := value }⟩, node.name,
    .text node.name, rfl, fun _ => rfl⟩,
  ⟨⟨"role", .texts, false, fun value node => { node with roles := value }⟩, node.roles,
    .texts node.roles, rfl, read_texts node.roles⟩,
  ⟨⟨"machineid", .integer, false, fun value node => { node with machineId := value }⟩,
    node.machineId, .integer node.machineId.toInt, rfl, read_integer node.machineId⟩,
  ⟨⟨"systemid", .text, false, fun value node => { node with systemId := value }⟩,
    node.systemId, .text node.systemId, rfl, fun _ => rfl⟩]

/-- A node is read back from its written form, up to its owner. -/
theorem decode_text (node : Node) : decode (Utf8.encode node.text) = .ok node.withoutOwner := by
  have distinct : (shape.fields.map (·.name)).Nodup := by decide
  have fits : (Document.object (node.members.map (·.pair))).Fits :=
    ⟨trivial, fits_texts node.roles, fits_integer node.machineId, trivial, trivial⟩
  exact Shape.decode_all_written node.members rfl distinct fits

end Node

/-! ## Manifests -/

namespace Manifest

/-- The members of a written manifest. -/
def members (manifest : Manifest) (valid : manifest.appliedAt.Valid) :
    List (WrittenMember shape) := [
  ⟨⟨"manifestid", .text, true, fun value manifest => { manifest with id := value }⟩,
    manifest.id, .text manifest.id, rfl, fun _ => rfl⟩,
  ⟨⟨"applieddate", .date, true, fun value manifest =>
      { manifest with appliedAt := value.instant }⟩, ⟨manifest.appliedAt, 0⟩,
    .text manifest.appliedAt.text, rfl, read_date valid.ofText?_text⟩,
  ⟨⟨"data", .text, true, fun value manifest => { manifest with data := value }⟩,
    manifest.data, .text manifest.data, rfl, fun _ => rfl⟩]

/-- A manifest is read back from its written form. -/
theorem decode_text {manifest : Manifest} (valid : manifest.appliedAt.Valid) :
    decode (Utf8.encode manifest.text) = .ok manifest := by
  have distinct : (shape.fields.map (·.name)).Nodup := by decide
  have fits : (Document.object ((manifest.members valid).map (·.pair))).Fits :=
    ⟨trivial, trivial, trivial, trivial⟩
  exact Shape.decode_all_written (manifest.members valid) rfl distinct fits

end Manifest

/-! ## Users -/

namespace JujuUser

/-- The members of a written user. -/
def members (user : JujuUser) : List (WrittenMember shape) := [
  ⟨⟨"username", .text, true, fun value user => { user with username := value }⟩,
    user.username, .text user.username, rfl, fun _ => rfl⟩,
  ⟨⟨"token", .text, true, fun value user => { user with token := value }⟩, user.token,
    .text user.token, rfl, fun _ => rfl⟩]

/-- A user is read back from its written form. -/
theorem decode_text (user : JujuUser) : decode (Utf8.encode user.text) = .ok user := by
  have distinct : (shape.fields.map (·.name)).Nodup := by decide
  have fits : (Document.object (user.members.map (·.pair))).Fits := ⟨trivial, trivial, trivial⟩
  exact Shape.decode_all_written user.members rfl distinct fits

end JujuUser

end ControlPlane
