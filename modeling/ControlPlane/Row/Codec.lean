import ControlPlane.Text.Utf8

/-!
# Row codecs

A codec writes values as byte strings that need no terminator: reading starts at
the front and returns the bytes that follow.  Unsigned numbers take one byte below
251; larger ones are a tag for their width and then two, four or eight bytes, least
significant first.  The reader accepts a wider form than needed.  Signed numbers
alternate in sign (0, -1, 1, -2, …) before they are written.  A text or a list is
its length and then its bytes or elements.
-/

namespace ControlPlane

/-- A way to write values as bytes and to read them back from the front of a byte
string. -/
structure Codec (α : Type) where
  encode : α → Bytes
  /-- The value at the front and the bytes that follow it. -/
  decode : Bytes → Option (α × Bytes)

namespace Codec

variable {α β : Type}

/-- The value at the front of a byte string, whatever follows it. -/
def read? (codec : Codec α) (bytes : Bytes) : Option α :=
  (codec.decode bytes).map (·.1)

/-! ## Bytes of fixed and variable width -/

/-- The given number of bytes, least significant first. -/
def littleEndian : Nat → Nat → Bytes
  | 0, _ => []
  | width + 1, value => UInt8.ofNat (value % 256) :: littleEndian width (value / 256)

/-- The number that bytes stand for, least significant first. -/
def ofLittleEndian : Bytes → Nat
  | [] => 0
  | byte :: rest => byte.toNat + 256 * ofLittleEndian rest

/-- The given number of bytes from the front, if there are so many. -/
def splitBytes? (count : Nat) (bytes : Bytes) : Option (Bytes × Bytes) :=
  let (front, rest) := bytes.splitAt count
  if front.length = count then some (front, rest) else none

/-- A number of the given width at the front. -/
def decodeFixed (width : Nat) (bytes : Bytes) : Option (Nat × Bytes) :=
  (splitBytes? width bytes).map fun (front, rest) => (ofLittleEndian front, rest)

/-- Writes a number of 64 bits. -/
def encodeNumber (value : Nat) : Bytes :=
  if value < 251 then [UInt8.ofNat value]
  else if value < UInt16.size then 251 :: littleEndian 2 value
  else if value < UInt32.size then 252 :: littleEndian 4 value
  else 253 :: littleEndian 8 value

/-- Reads a number of 64 bits; the two remaining tags belong to no such number. -/
def decodeNumber : Bytes → Option (Nat × Bytes)
  | [] => none
  | tag :: rest =>
    if tag < 251 then some (tag.toNat, rest)
    else if tag = 251 then decodeFixed 2 rest
    else if tag = 252 then decodeFixed 4 rest
    else if tag = 253 then decodeFixed 8 rest
    else none

/-! ## Numbers, truth values and texts -/

/-- Unsigned numbers of 64 bits. -/
def unsigned : Codec UInt64 where
  encode value := encodeNumber value.toNat
  decode bytes := (decodeNumber bytes).map fun (value, rest) => (UInt64.ofNat value, rest)

/-- Interleaves the signed numbers: 0, -1, 1, -2, … become 0, 1, 2, 3, …. -/
def interleave (value : Int) : Nat :=
  if 0 ≤ value then 2 * value.toNat else 2 * (-value).toNat - 1

/-- The signed number at a place of the interleaving. -/
def uninterleave (place : Nat) : Int :=
  if place % 2 = 0 then (place / 2 : Nat) else -((place / 2 : Nat) : Int) - 1

theorem uninterleave_interleave (value : Int) : uninterleave (interleave value) = value := by
  unfold uninterleave interleave
  split <;> split <;> omega

/-- Signed numbers of 64 bits. -/
def signed : Codec Int64 where
  encode value := encodeNumber (interleave value.toInt)
  decode bytes := (decodeNumber bytes).map fun (place, rest) =>
    (Int64.ofInt (uninterleave place), rest)

/-- Truth values, as 0 and 1. -/
def bool : Codec Bool where
  encode value := [if value then 1 else 0]
  decode
    | 0 :: rest => some (false, rest)
    | 1 :: rest => some (true, rest)
    | _ => none

/-- Texts, as the length of their UTF-8 bytes and these bytes. -/
def text : Codec String where
  encode value := encodeNumber (Utf8.encode value).length ++ Utf8.encode value
  decode bytes :=
    match decodeNumber bytes with
    | none => none
    | some (count, rest) =>
      match splitBytes? count rest with
      | none => none
      | some (front, rest) =>
        match Utf8.decode front with
        | .ok value => some (value, rest)
        | .error _ => none

/-! ## Combinations -/

/-- An optional value: 0, or 1 and the value. -/
def option (codec : Codec α) : Codec (Option α) where
  encode
    | none => [0]
    | some value => 1 :: codec.encode value
  decode
    | 0 :: rest => some (none, rest)
    | 1 :: rest => (codec.decode rest).map fun (value, rest) => (some value, rest)
    | _ => none

/-- Reads the given number of elements onto those read so far, last first. -/
def decodeElements (codec : Codec α) (acc : List α) : Nat → Bytes → Option (List α × Bytes)
  | 0, bytes => some (acc.reverse, bytes)
  | count + 1, bytes =>
    match codec.decode bytes with
    | none => none
    | some (value, rest) => decodeElements codec (value :: acc) count rest

/-- A list, as its length and its elements. -/
def list (codec : Codec α) : Codec (List α) where
  encode values := encodeNumber values.length ++ values.flatMap codec.encode
  decode bytes :=
    match decodeNumber bytes with
    | none => none
    | some (count, rest) => decodeElements codec [] count rest

/-- Two values, one after the other. -/
def pair (first : Codec α) (second : Codec β) : Codec (α × β) where
  encode value := first.encode value.1 ++ second.encode value.2
  decode bytes :=
    match first.decode bytes with
    | none => none
    | some (a, rest) => (second.decode rest).map fun (b, rest) => ((a, b), rest)

/-- The codec of a type whose values are told apart by their images. -/
def via (codec : Codec α) (image : β → α) (preimage : α → β) : Codec β where
  encode value := codec.encode (image value)
  decode bytes := (codec.decode bytes).map fun (value, rest) => (preimage value, rest)

end Codec

end ControlPlane
