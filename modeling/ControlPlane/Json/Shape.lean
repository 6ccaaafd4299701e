import ControlPlane.Json.Reader

/-!
# Reading records

A record is written as an object or as the list of its fields in order.  A shape
lists the fields, and reading starts from the record that has every field at its
default.

In an object, members with other names are passed over, a name that comes twice is
refused when the second one is read, and a field that is needed is missed at the
closing brace.  In a list, fields with a default may be left out at the end; a
field that is needed is missed at the closing bracket, and more elements than
fields are malformed.
-/

namespace ControlPlane.Json

/-- A field of a record. -/
structure Field (ρ : Type) where
  name : String
  kind : Kind
  /-- Whether the field has no default. -/
  required : Bool
  /-- Gives the field a value. -/
  set : kind.Value → ρ → ρ

/-- The fields of a record, in order. -/
structure Shape (ρ : Type) where
  name : String
  /-- The record with every field at its default. -/
  blank : ρ
  fields : List (Field ρ)

namespace Shape

variable {ρ : Type}

/-- What is wanted in place of a record. -/
def wanted (shape : Shape ρ) : String :=
  "struct " ++ shape.name

/-- The field of a name. -/
def field? (shape : Shape ρ) (name : String) : Option (Field ρ) :=
  shape.fields.find? fun field => field.name == name

/-! ## Objects -/

/-- The record at the end of an object, unless a field is missing. -/
def close (shape : Shape ρ) (record : ρ) (seen : List String) : Except Error ρ :=
  match shape.fields.find? fun field => field.required && !seen.contains field.name with
  | some field => .error (.missingField field.name)
  | none => .ok record

/-- Reads one member of an object.  The names of the fields read so far are kept. -/
def readMember (shape : Shape ρ) (record : ρ) (seen : List String) :
    List Token → Except Error ((ρ × List String) × List Token)
  | .text (some name) :: rest =>
    match shape.field? name with
    | none =>
      match rest with
      | .colon :: rest => (skipValue rest).map fun rest => ((record, seen), rest)
      | _ => .error .malformed
    | some field =>
      if seen.contains name then .error (.duplicateField name)
      else
        match rest with
        | .colon :: rest =>
          (field.kind.read rest).map fun (value, rest) =>
            ((field.set value record, name :: seen), rest)
        | _ => .error .malformed
  | _ => .error .malformed

theorem length_of_readMember {shape : Shape ρ} {record record' : ρ} {seen seen' : List String}
    {tokens rest : List Token}
    (read : shape.readMember record seen tokens = .ok ((record', seen'), rest)) :
    rest.length < tokens.length := by
  unfold readMember at read
  split at read
  · simp only [List.length_cons]
    split at read
    · split at read
      · rename_i tail
        match outcome : skipValue tail with
        | .ok rest' =>
          rw [outcome] at read
          injection read with same
          obtain ⟨-, rfl⟩ := Prod.mk.inj same
          have shorter := length_of_skipFrom outcome
          simp only [List.length_cons]
          omega
        | .error _ =>
          rw [outcome] at read
          cases read
      · cases read
    · split at read
      · cases read
      · split at read
        · rename_i field _ _ _ tail
          match outcome : field.kind.read tail with
          | .ok (value, rest') =>
            rw [outcome] at read
            injection read with same
            obtain ⟨-, rfl⟩ := Prod.mk.inj same
            have shorter := Kind.length_of_read outcome
            simp only [List.length_cons]
            omega
          | .error _ =>
            rw [outcome] at read
            cases read
        · cases read
  · cases read

/-- Reads the members of an object, at least one, and its closing brace. -/
def readMembers (shape : Shape ρ) (record : ρ) (seen : List String) (tokens : List Token) :
    Except Error (ρ × List Token) :=
  match _read : shape.readMember record seen tokens with
  | .error problem => .error problem
  | .ok ((record', seen'), .comma :: rest) => shape.readMembers record' seen' rest
  | .ok ((record', seen'), .closeBrace :: rest) =>
    (shape.close record' seen').map fun record => (record, rest)
  | .ok _ => .error .malformed
termination_by tokens.length
decreasing_by
  have shorter := length_of_readMember _read
  rw [List.length_cons] at shorter
  omega

/-! ## Lists -/

/-- The record at the end of a list that has the given number of elements, unless one
of the fields that are left is needed. -/
def closeList (shape : Shape ρ) (record : ρ) (length : Nat) (left : List (Field ρ)) :
    Except Error ρ :=
  match left.findIdx? fun field => field.required with
  | some index =>
    .error (.invalidLength (length + index)
      s!"struct {shape.name} with {shape.fields.length} elements")
  | none => .ok record

/-- Reads the elements of a list behind its first one, and its closing bracket. -/
def readElements (shape : Shape ρ) (record : ρ) (length : Nat) :
    List (Field ρ) → List Token → Except Error (ρ × List Token)
  | left, .closeBracket :: rest =>
    (shape.closeList record length left).map fun record => (record, rest)
  | field :: left, .comma :: rest =>
    match field.kind.read rest with
    | .ok (value, rest) => shape.readElements (field.set value record) (length + 1) left rest
    | .error problem => .error problem
  | _, _ => .error .malformed

/-- Reads the elements of a list, and its closing bracket. -/
def readList (shape : Shape ρ) : List Token → Except Error (ρ × List Token)
  | .closeBracket :: rest =>
    (shape.closeList shape.blank 0 shape.fields).map fun record => (record, rest)
  | tokens => shape.readElements shape.blank 0 shape.fields (.comma :: tokens)

/-! ## Records -/

/-- Reads a record. -/
def read (shape : Shape ρ) : List Token → Except Error (ρ × List Token)
  | .openBrace :: .closeBrace :: rest =>
    (shape.close shape.blank []).map fun record => (record, rest)
  | .openBrace :: rest => shape.readMembers shape.blank [] rest
  | .openBracket :: rest => shape.readList rest
  | token :: _ => .error (wrongKind token shape.wanted)
  | [] => .error .malformed

end Shape

/-! ## Whole documents -/

/-- The value of a document that a reader accepts from its first token to its last. -/
def whole {α : Type} (read : List Token → Except Error (α × List Token)) (document : Bytes) :
    Except Error α :=
  match read (tokens document) with
  | .ok (value, []) => .ok value
  | .ok _ => .error .malformed
  | .error problem => .error problem

/-- The record of a document. -/
def Shape.decode {ρ : Type} (shape : Shape ρ) (document : Bytes) : Except Error ρ :=
  whole shape.read document

/-- The texts of a document that is a list of them. -/
def decodeTexts (document : Bytes) : Except Error (List String) :=
  whole readTexts document

end ControlPlane.Json
