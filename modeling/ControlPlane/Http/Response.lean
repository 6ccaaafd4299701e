import ControlPlane.Failure
import ControlPlane.Json.Document

/-!
# Responses

Most answers are JSON envelopes.  A state is sent as it is stored.  A failure over
a deployment lock is sent as that lock and nothing else, because this is what the
deployment tool shows its user as the holder.
-/

namespace ControlPlane.Http

/-- A response. -/
structure Response where
  status : Nat
  contentType : Option String := none
  body : String := ""
  /-- The methods that the target allows, where the request's is none of them. -/
  allow : Option String := none
  deriving DecidableEq, Repr

namespace Response

/-- The content type of JSON documents. -/
def jsonType : String := "application/json"

/-- The content type of plain texts. -/
def plainType : String := "text/plain; charset=utf-8"

/-- A JSON document that is already written. -/
def json (status : Nat) (body : String) : Response :=
  { status, contentType := some jsonType, body }

/-- A plain text. -/
def plain (status : Nat) (body : String) : Response :=
  { status, contentType := some plainType, body }

/-- The envelope around every answer. -/
def envelope (kind status : String) (statusCode : Int) (errorCode : Int) (error : String)
    (metadata : Json.Document) : Json.Document :=
  .object [("type", .text kind), ("status", .text status), ("status_code", .integer statusCode),
    ("operation", .text ""), ("error_code", .integer errorCode), ("error", .text error),
    ("metadata", metadata)]

/-- A successful answer. -/
def sync (metadata : Json.Document) : Response :=
  json 200 (envelope "sync" "Success" 200 0 "" metadata).write

/-- A successful answer that has nothing to say. -/
def done : Response := sync (.object [])

/-- The status of a kind of failures. -/
def statusOf : Failure.Kind → Nat
  | .notFound => 404
  | .conflict => 409
  | .locked => 423
  | .invalidArgument => 400
  | .internal => 500

/-- A failure in an envelope. -/
def failure (failure : Failure) : Response :=
  let status := statusOf failure.kind
  json status (envelope "error" "" 0 status failure.message .null).write

/-- A failure of a request about a deployment plan: the lock that it carries is the
whole answer. -/
def planFailure (failure : Failure) : Response :=
  match failure.lock? with
  | some lock => json (statusOf failure.kind) lock.text
  | none => Response.failure failure

/-- There is no such target. -/
def notFound : Response := { status := 404 }

/-- The target does not serve the method. -/
def methodNotAllowed (allowed : String) : Response := { status := 405, allow := some allowed }

/-- The parameter of the path is not UTF-8. -/
def badParameter (name : String) : Response :=
  plain 400 ("Invalid URL: Invalid UTF-8 in `" ++ name ++ "`")

/-- A parameter of the query comes twice. -/
def duplicateParameter (name : String) : Response :=
  plain 400 ("Failed to deserialize query string: duplicate field `" ++ name ++ "`")

/-- The body is longer than the limit. -/
def bodyTooLong : Response :=
  plain 413 "Failed to buffer the request body: length limit exceeded"

/-- The body is not UTF-8. -/
def bodyNotText (fault : Utf8.Fault) : Response :=
  plain 400 ("Request body didn't contain valid UTF-8: " ++ fault.message)

/-- The response without its body. -/
def withoutBody (response : Response) : Response := { response with body := "" }

end Response

end ControlPlane.Http
