import ControlPlane.Json.Error
import ControlPlane.Json.Token
import ControlPlane.Time.Reader

/-!
# Reading values from tokens

A reader takes one value from the front of a list of tokens and returns the
tokens behind it.  A value of the wrong kind is refused as soon as its first token
is read, whatever comes after it.  `Kind` lists the kinds of values that records
have; a value that nobody asked for is passed over by `skipValue`, at any depth.
-/

namespace ControlPlane.Json

/-- The problem that a token is where a value of another kind is wanted. -/
def wrongKind (token : Token) (wanted : String) : Error :=
  match token with
  | .null => .invalidType .null wanted
  | .boolean value => .invalidType (.boolean value) wanted
  | .number (.integer value) => .invalidType (.integer value) wanted
  | .number (.real true) => .invalidType .real wanted
  | .text (some value) => .invalidType (.text value) wanted
  | .openBracket => .invalidType .sequence wanted
  | .openBrace => .invalidType .map wanted
  | _ => .malformed

/-! ## Values of records -/

/-- Reads a text. -/
def readText (wanted : String) : List Token → Except Error (String × List Token)
  | .text (some value) :: rest => .ok (value, rest)
  | token :: _ => .error (wrongKind token wanted)
  | [] => .error .malformed

/-- Reads the texts of a list behind its first element, onto those read so far. -/
def readMoreTexts (acc : List String) : List Token → Except Error (List String × List Token)
  | .closeBracket :: rest => .ok (acc.reverse, rest)
  | .comma :: .text (some value) :: rest => readMoreTexts (value :: acc) rest
  | .comma :: token :: _ => .error (wrongKind token "a string")
  | _ => .error .malformed

/-- Reads a list of texts. -/
def readTexts : List Token → Except Error (List String × List Token)
  | .openBracket :: .closeBracket :: rest => .ok ([], rest)
  | .openBracket :: .text (some value) :: rest => readMoreTexts [value] rest
  | .openBracket :: token :: _ => .error (wrongKind token "a string")
  | [.openBracket] => .error .malformed
  | token :: _ => .error (wrongKind token "a sequence")
  | [] => .error .malformed

/-- Reads a signed number of 64 bits. -/
def readInteger : List Token → Except Error (Int64 × List Token)
  | .number (.integer value) :: rest =>
    if value ≤ Int64.maxValue.toInt then .ok (Int64.ofInt value, rest)
    else .error (.invalidValue (.integer value) "i64")
  | token :: _ => .error (wrongKind token "i64")
  | [] => .error .malformed

/-- What is wanted in place of a date. -/
def wantedDate : String := "an RFC 3339 formatted date and time string"

/-- Reads a date and time. -/
def readDate : List Token → Except Error (DateTime × List Token)
  | .text (some value) :: rest =>
    match DateTime.ofText? value with
    | some time => .ok (time, rest)
    | none => .error .malformed
  | token :: _ => .error (wrongKind token wantedDate)
  | [] => .error .malformed

/-- Reads a date and time, or null for none. -/
def readOptionalDate : List Token → Except Error (Option DateTime × List Token)
  | .null :: rest => .ok (none, rest)
  | tokens => (readDate tokens).map fun (time, rest) => (some time, rest)

/-- The kinds of values that the fields of records have. -/
inductive Kind where
  | text
  | texts
  | integer
  | date
  | optionalDate
  deriving DecidableEq, Repr

/-- The values of a kind. -/
abbrev Kind.Value : Kind → Type
  | .text => String
  | .texts => List String
  | .integer => Int64
  | .date => DateTime
  | .optionalDate => Option DateTime

/-- Reads a value of a kind. -/
def Kind.read : (kind : Kind) → List Token → Except Error (kind.Value × List Token)
  | .text => readText "a string"
  | .texts => readTexts
  | .integer => readInteger
  | .date => readDate
  | .optionalDate => readOptionalDate

/-! ## Values that nobody asked for -/

/-- What stands around a place of a document. -/
inductive Frame where
  | list
  | object
  deriving DecidableEq, Repr

/-- What may come next while a value is passed over. -/
inductive Expectation where
  | value
  /-- A value or the end of the list that has just begun. -/
  | valueOrEnd
  | key
  /-- A key or the end of the object that has just begun. -/
  | keyOrEnd
  | colon
  /-- A comma or the end of what the value stands in. -/
  | commaOrEnd
  deriving DecidableEq, Repr

/-- The place behind a token that begins a value. -/
def beginValue (frames : List Frame) : Token → Option (Expectation × List Frame)
  | .openBracket => some (.valueOrEnd, .list :: frames)
  | .openBrace => some (.keyOrEnd, .object :: frames)
  | .null | .boolean _ | .number _ | .text _ => some (.commaOrEnd, frames)
  | _ => none

/-- The place behind a token, if the token may stand there.  The frames that are open
are listed from the innermost one. -/
def step (next : Expectation) (frames : List Frame) (token : Token) :
    Option (Expectation × List Frame) :=
  match next with
  | .value => beginValue frames token
  | .valueOrEnd =>
    if token = .closeBracket then some (.commaOrEnd, frames.tail) else beginValue frames token
  | .key =>
    match token with
    | .text _ => some (.colon, frames)
    | _ => none
  | .keyOrEnd =>
    match token with
    | .text _ => some (.colon, frames)
    | .closeBrace => some (.commaOrEnd, frames.tail)
    | _ => none
  | .colon => if token = .colon then some (.value, frames) else none
  | .commaOrEnd =>
    match token, frames with
    | .comma, .list :: _ => some (.value, frames)
    | .comma, .object :: _ => some (.key, frames)
    | .closeBracket, .list :: outer => some (.commaOrEnd, outer)
    | .closeBrace, .object :: outer => some (.commaOrEnd, outer)
    | _, _ => none

/-- Passes over tokens up to the end of the outermost value. -/
def skipFrom (next : Expectation) (frames : List Frame) : List Token → Except Error (List Token)
  | [] => .error .malformed
  | token :: rest =>
    match step next frames token with
    | none => .error .malformed
    | some (.commaOrEnd, []) => .ok rest
    | some (next, frames) => skipFrom next frames rest

/-- Passes over a value. -/
def skipValue (tokens : List Token) : Except Error (List Token) :=
  skipFrom .value [] tokens

/-! ## Readers move forward -/

theorem length_of_skipFrom {next : Expectation} {frames : List Frame} {tokens rest : List Token}
    (read : skipFrom next frames tokens = .ok rest) : rest.length < tokens.length := by
  induction tokens generalizing next frames with
  | nil => cases read
  | cons token tail ih =>
    rw [skipFrom] at read
    split at read
    · cases read
    · injection read with same
      subst same
      simp
    · have shorter := ih read
      simp only [List.length_cons]
      omega

theorem length_of_readMoreTexts {acc values : List String} {tokens rest : List Token}
    (read : readMoreTexts acc tokens = .ok (values, rest)) : rest.length < tokens.length := by
  fun_induction readMoreTexts acc tokens with
  | case1 =>
    injection read with same
    obtain ⟨-, rfl⟩ := Prod.mk.inj same
    simp
  | case2 _ _ _ ih =>
    have shorter := ih read
    simp only [List.length_cons]
    omega
  | case3 => cases read
  | case4 => cases read

theorem length_of_readText {wanted value : String} {tokens rest : List Token}
    (read : readText wanted tokens = .ok (value, rest)) : rest.length < tokens.length := by
  unfold readText at read
  split at read
  · injection read with same
    obtain ⟨-, rfl⟩ := Prod.mk.inj same
    simp
  · cases read
  · cases read

theorem length_of_readDate {value : DateTime} {tokens rest : List Token}
    (read : readDate tokens = .ok (value, rest)) : rest.length < tokens.length := by
  unfold readDate at read
  split at read
  · split at read
    · injection read with same
      obtain ⟨-, rfl⟩ := Prod.mk.inj same
      simp
    · cases read
  · cases read
  · cases read

/-- A value of any kind takes at least one token. -/
theorem Kind.length_of_read {kind : Kind} {value : kind.Value} {tokens rest : List Token}
    (read : kind.read tokens = .ok (value, rest)) : rest.length < tokens.length := by
  cases kind with
  | text => exact length_of_readText read
  | texts =>
    simp only [Kind.read] at read
    unfold readTexts at read
    split at read
    · injection read with same
      obtain ⟨-, rfl⟩ := Prod.mk.inj same
      simp only [List.length_cons]
      omega
    · have shorter := length_of_readMoreTexts read
      simp only [List.length_cons]
      omega
    · cases read
    · cases read
    · cases read
    · cases read
  | integer =>
    simp only [Kind.read] at read
    unfold readInteger at read
    split at read
    · split at read
      · injection read with same
        obtain ⟨-, rfl⟩ := Prod.mk.inj same
        simp
      · cases read
    · cases read
    · cases read
  | date => exact length_of_readDate read
  | optionalDate =>
    simp only [Kind.read] at read
    unfold readOptionalDate at read
    split at read
    · injection read with same
      obtain ⟨-, rfl⟩ := Prod.mk.inj same
      simp
    · match outcome : readDate tokens with
      | .ok (time, tail) =>
        rw [outcome] at read
        injection read with same
        obtain ⟨-, rfl⟩ := Prod.mk.inj same
        exact length_of_readDate outcome
      | .error _ =>
        rw [outcome] at read
        cases read

end ControlPlane.Json
