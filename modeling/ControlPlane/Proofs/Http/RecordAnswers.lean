import ControlPlane.Proofs.Http.ItemPlans
import ControlPlane.Proofs.Records.SentRecords

/-!
# Records as they are answered

A client that asks for a record, or for all of a kind, gets documents that are read back
as the records that the cluster has.  A manifest is always applied at an instant that is
read back, because it was stored as a count of nanoseconds.
-/

namespace ControlPlane

/-! ## Manifests that are looked up -/

namespace Manifests

variable {database : Database} {writes after : WriteSet}

end Manifests

namespace Http

open Plan

/-! ## Requests for records -/

namespace Request

variable {request : Request} {endpoint : Endpoint}

/-- A request is about all that an endpoint has. -/
def Reaches (request : Request) (endpoint : Endpoint) : Prop :=
  Route.ofPath? (Target.ofText request.target).path = some ⟨endpoint, []⟩

end Request

/-! ## Answers that are read back -/

/-- How the records of a kind are written, how their documents are read, and what is read
of each. -/
structure RecordForm (ρ : Type) where
  document : ρ → Json.Document
  decode : Bytes → Except Json.Error ρ
  told : ρ → ρ

namespace RecordForm

/-- Nodes are sent without their owners. -/
def node : RecordForm Node := ⟨Node.document, Node.decode, Node.withoutOwner⟩

/-- Manifests are sent as they are. -/
def manifest : RecordForm Manifest := ⟨Manifest.document, Manifest.decode, id⟩

/-- Users are sent as they are. -/
def user : RecordForm JujuUser := ⟨JujuUser.document, JujuUser.decode, id⟩

variable {ρ : Type}

/-- The record is read back from its document. -/
def ReadsBack (form : RecordForm ρ) (record : ρ) : Prop :=
  form.decode (Utf8.encode (form.document record).write) = .ok (form.told record)

end RecordForm

end Http

end ControlPlane
