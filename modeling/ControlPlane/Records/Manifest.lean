import ControlPlane.Json.Document
import ControlPlane.Json.Shape

/-!
# Manifests

A manifest is a deployment description that was applied at some instant.  A client
that hands in a new one gives no date: the cluster assigns it.
-/

namespace ControlPlane

/-- An applied deployment description. -/
structure Manifest where
  id : String
  /-- When it was applied. -/
  appliedAt : Instant
  data : String
  deriving DecidableEq, Repr

namespace Manifest

/-- The identifier that stands for the manifest applied last. -/
def latestId : String := "latest"

/-- The fields of a written manifest.  An offset in its date is dropped. -/
def shape : Json.Shape Manifest where
  name := "Manifest"
  blank := ⟨"", ⟨0, 0⟩, ""⟩
  fields := [
    ⟨"manifestid", .text, true, fun value manifest => { manifest with id := value }⟩,
    ⟨"applieddate", .date, true, fun value manifest =>
      { manifest with appliedAt := value.instant }⟩,
    ⟨"data", .text, true, fun value manifest => { manifest with data := value }⟩]

/-- The manifest of a document. -/
def decode (document : Bytes) : Except Json.Error Manifest :=
  shape.decode document

/-- The document of a manifest. -/
def document (manifest : Manifest) : Json.Document :=
  .object [("manifestid", .text manifest.id), ("applieddate", .text manifest.appliedAt.text),
    ("data", .text manifest.data)]

/-- The written form of a manifest. -/
def text (manifest : Manifest) : String := manifest.document.write

end Manifest

/-- A manifest that a client hands in. -/
structure NewManifest where
  id : String
  data : String
  deriving DecidableEq, Repr

namespace NewManifest

/-- The fields of a manifest that is handed in. -/
def shape : Json.Shape NewManifest where
  name := "NewManifest"
  blank := ⟨"", ""⟩
  fields := [
    ⟨"manifestid", .text, true, fun value manifest => { manifest with id := value }⟩,
    ⟨"data", .text, false, fun value manifest => { manifest with data := value }⟩]

/-- The manifest that a document hands in. -/
def decode (document : Bytes) : Except Json.Error NewManifest :=
  shape.decode document

end NewManifest

end ControlPlane
