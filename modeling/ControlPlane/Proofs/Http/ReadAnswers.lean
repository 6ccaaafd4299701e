import ControlPlane.Http.Response
import ControlPlane.Proofs.Json.WrittenRecords

/-!
# Answers as clients read them

A client that gets a text in an envelope reads it back as it is, and so does a client that
gets it as a JSON document of its own, whatever characters are in it.
-/

namespace ControlPlane

open Json

/-- The text that a document consists of. -/
def Json.decodeText (document : Bytes) : Except Error String :=
  whole (readText "a string") document

theorem Json.decodeText_quote (text : String) :
    decodeText (Utf8.encode (quote text)) = .ok text := by
  have tokens : Json.tokens (Utf8.encode (Document.text text).write) = [.text (some text)] :=
    Document.tokens_encode_write trivial
  rw [Document.write] at tokens
  rw [decodeText, whole, tokens]
  rfl

namespace Http

/-- An envelope around a text. -/
structure TextEnvelope where
  kind : String := ""
  status : String := ""
  statusCode : Int64 := 0
  operation : String := ""
  errorCode : Int64 := 0
  error : String := ""
  metadata : String := ""
  deriving DecidableEq, Repr

namespace TextEnvelope

/-- The fields of an envelope, all of which have to be there. -/
def shape : Shape TextEnvelope where
  name := "TextEnvelope"
  blank := {}
  fields := [
    ⟨"type", .text, true, fun value answer => { answer with kind := value }⟩,
    ⟨"status", .text, true, fun value answer => { answer with status := value }⟩,
    ⟨"status_code", .integer, true, fun value answer => { answer with statusCode := value }⟩,
    ⟨"operation", .text, true, fun value answer => { answer with operation := value }⟩,
    ⟨"error_code", .integer, true, fun value answer => { answer with errorCode := value }⟩,
    ⟨"error", .text, true, fun value answer => { answer with error := value }⟩,
    ⟨"metadata", .text, true, fun value answer => { answer with metadata := value }⟩]

/-- The envelope in a document. -/
def decode (document : Bytes) : Except Error TextEnvelope :=
  shape.decode document

/-- The envelope of a successful answer that is a text. -/
def success (text : String) : TextEnvelope :=
  { kind := "sync", status := "Success", statusCode := 200, metadata := text }

/-- The members of the envelope of a successful answer. -/
def members (text : String) : List (WrittenMember shape) := [
  ⟨⟨"type", .text, true, fun value answer => { answer with kind := value }⟩, "sync",
    .text "sync", rfl, fun _ => rfl⟩,
  ⟨⟨"status", .text, true, fun value answer => { answer with status := value }⟩, "Success",
    .text "Success", rfl, fun _ => rfl⟩,
  ⟨⟨"status_code", .integer, true, fun value answer => { answer with statusCode := value }⟩,
    (200 : Int64), .integer 200, rfl, fun _ => rfl⟩,
  ⟨⟨"operation", .text, true, fun value answer => { answer with operation := value }⟩, "",
    .text "", rfl, fun _ => rfl⟩,
  ⟨⟨"error_code", .integer, true, fun value answer => { answer with errorCode := value }⟩,
    (0 : Int64), .integer 0, rfl, fun _ => rfl⟩,
  ⟨⟨"error", .text, true, fun value answer => { answer with error := value }⟩, "",
    .text "", rfl, fun _ => rfl⟩,
  ⟨⟨"metadata", .text, true, fun value answer => { answer with metadata := value }⟩, text,
    .text text, rfl, fun _ => rfl⟩]

/-- A text that is answered in an envelope is read from it. -/
theorem decode_sync (text : String) :
    decode (Utf8.encode (Response.sync (.text text)).body) = .ok (success text) := by
  have distinct : (shape.fields.map (·.name)).Nodup := by decide
  have fits : (Document.object ((members text).map (·.pair))).Fits := by
    simp [members, WrittenMember.pair, Document.Fits, Document.Fits.membersFit, FitsNumber,
      significandLimit]
  exact Shape.decode_all_written (members text) rfl distinct fits

end TextEnvelope

end Http

end ControlPlane
