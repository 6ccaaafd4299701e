import ControlPlane.Text.Quoted

/-!
# Problems of JSON documents

A reader reports the first problem that it meets.  Problems with the fields of a
record have wordings of their own; that a text is not JSON at all, or holds a date
or a number that no value stands for, is one problem without further detail.
-/

namespace ControlPlane.Json

/-- What was found in place of a value of the wanted kind. -/
inductive Found where
  | null
  | boolean (value : Bool)
  | integer (value : Int)
  | real
  | text (value : String)
  | sequence
  | map
  deriving DecidableEq, Repr

/-- The wording of what was found. -/
def Found.label : Found → String
  | .null => "null"
  | .boolean value => "boolean `" ++ (if value then "true" else "false") ++ "`"
  | .integer value => "integer `" ++ toString value ++ "`"
  | .real => "floating point"
  | .text value => "string " ++ Text.quoted value
  | .sequence => "sequence"
  | .map => "map"

/-- A problem of a JSON document. -/
inductive Error where
  /-- The text is not JSON, or a value in it stands for nothing. -/
  | malformed
  /-- A record lacks a field that it needs. -/
  | missingField (name : String)
  /-- A record has a field twice. -/
  | duplicateField (name : String)
  /-- A value of the wrong kind. -/
  | invalidType (found : Found) (wanted : String)
  /-- A value of the right kind that is out of range. -/
  | invalidValue (found : Found) (wanted : String)
  /-- A record given as a sequence that is too short. -/
  | invalidLength (length : Nat) (wanted : String)
  deriving DecidableEq, Repr

/-- The wording of a problem. -/
def Error.message : Error → String
  | .malformed => "<json>"
  | .missingField name => "missing field `" ++ name ++ "`"
  | .duplicateField name => "duplicate field `" ++ name ++ "`"
  | .invalidType found wanted => "invalid type: " ++ found.label ++ ", expected " ++ wanted
  | .invalidValue found wanted => "invalid value: " ++ found.label ++ ", expected " ++ wanted
  | .invalidLength length wanted => s!"invalid length {length}, expected {wanted}"

end ControlPlane.Json
