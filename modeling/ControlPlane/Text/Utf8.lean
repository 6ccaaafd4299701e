import ControlPlane.Bytes

/-!
# UTF-8

A text is stored and sent as its UTF-8 bytes.  `decode` accepts exactly the byte
strings that `encode` produces (`decode_encode`, `encode_of_decode`).  Where a
byte string is not UTF-8, the fault names the first place that no text can have:
either some bytes that no continuation could complete, or an end of input inside
a character that was well formed so far.

`decodeLossy` reads any byte string: each such unit becomes one replacement
character U+FFFD.
-/

namespace ControlPlane.Utf8

/-! ## One character -/

/-- What the front of a byte string is. -/
inductive Front where
  /-- A whole character, with the number of bytes that follow its first byte. -/
  | whole (char : Char) (more : Nat)
  /-- Bytes that cannot begin a character; the number that follow the first one. -/
  | broken (more : Nat)
  /-- The input ends inside a character that is well formed so far. -/
  | cut
  deriving DecidableEq, Repr

/-- A byte that continues a character. -/
def isTail (byte : UInt8) : Bool :=
  0x80 ≤ byte && byte ≤ 0xBF

/-- The range that the second byte of a character of three or four bytes has to be
in: it rules out overlong forms, surrogates and values above U+10FFFF. -/
def secondRange (first : UInt8) : UInt8 × UInt8 :=
  if first = 0xE0 then (0xA0, 0xBF)
  else if first = 0xED then (0x80, 0x9F)
  else if first = 0xF0 then (0x90, 0xBF)
  else if first = 0xF4 then (0x80, 0x8F)
  else (0x80, 0xBF)

/-- The six bits that a continuation byte carries. -/
def tailBits (byte : UInt8) : Nat :=
  byte.toNat % 64

/-- Classifies the character that starts with `first`, by the bytes after it. -/
def front (first : UInt8) (rest : Bytes) : Front :=
  if first < 0x80 then .whole (Char.ofNat first.toNat) 0
  else if 0xC2 ≤ first && first ≤ 0xDF then
    match rest with
    | [] => .cut
    | b :: _ =>
      if isTail b then .whole (Char.ofNat (first.toNat % 32 * 64 + tailBits b)) 1 else .broken 0
  else if 0xE0 ≤ first && first ≤ 0xEF then
    match rest with
    | [] => .cut
    | b :: rest =>
      if (secondRange first).1 ≤ b && b ≤ (secondRange first).2 then
        match rest with
        | [] => .cut
        | c :: _ =>
          if isTail c then
            .whole (Char.ofNat (first.toNat % 16 * 4096 + tailBits b * 64 + tailBits c)) 2
          else .broken 1
      else .broken 0
  else if 0xF0 ≤ first && first ≤ 0xF4 then
    match rest with
    | [] => .cut
    | b :: rest =>
      if (secondRange first).1 ≤ b && b ≤ (secondRange first).2 then
        match rest with
        | [] => .cut
        | c :: rest =>
          if isTail c then
            match rest with
            | [] => .cut
            | d :: _ =>
              if isTail d then
                .whole (Char.ofNat (first.toNat % 8 * 262144 + tailBits b * 4096 +
                  tailBits c * 64 + tailBits d)) 3
              else .broken 2
          else .broken 1
      else .broken 0
  else .broken 0

/-! ## Faults -/

/-- Where and how a byte string stops being UTF-8. -/
inductive Fault where
  /-- `count` bytes from `index` on cannot be part of any text. -/
  | invalid (count index : Nat)
  /-- The input ends inside the character that starts at `index`. -/
  | incomplete (index : Nat)
  deriving DecidableEq, Repr

/-- The wording of a fault. -/
def Fault.message : Fault → String
  | .invalid count index => s!"invalid utf-8 sequence of {count} bytes from index {index}"
  | .incomplete index => s!"incomplete utf-8 byte sequence from index {index}"

/-- The first fault of a byte string that is not UTF-8, counting from `index`. -/
def firstFault (index : Nat) : Bytes → Fault
  | [] => .incomplete index
  | first :: rest =>
    match front first rest with
    | .whole _ more => firstFault (index + 1 + more) (rest.drop more)
    | .broken more => .invalid (more + 1) index
    | .cut => .incomplete index
termination_by bytes => bytes.length
decreasing_by simp only [List.length_drop, List.length_cons]; omega

/-! ## Texts and byte strings -/

/-- The bytes of a text. -/
def encode (text : String) : Bytes :=
  text.toByteArray.data.toList

/-- The text of a byte string, or its first fault. -/
def decode (bytes : Bytes) : Except Fault String :=
  if valid : (ByteArray.mk bytes.toArray).IsValidUTF8 then
    .ok (String.ofByteArray (ByteArray.mk bytes.toArray) valid)
  else .error (firstFault 0 bytes)

@[simp]
theorem decode_encode (text : String) : decode (encode text) = .ok text := by
  have same : ByteArray.mk (encode text).toArray = text.toByteArray := by
    simp [encode]
  have valid : (ByteArray.mk (encode text).toArray).IsValidUTF8 := by
    rw [same]; exact text.isValidUTF8
  rw [decode, dif_pos valid]
  exact congrArg Except.ok (String.toByteArray_inj.1 same)

theorem encode_of_decode {bytes : Bytes} {text : String} (decoded : decode bytes = .ok text) :
    encode text = bytes := by
  unfold decode at decoded
  split at decoded
  · injection decoded with equal
    subst equal
    simp [encode]
  · cases decoded

theorem encode_injective {a b : String} (same : encode a = encode b) : a = b := by
  have read := decode_encode a
  rw [same, decode_encode] at read
  injection read with equal
  exact equal.symm

@[simp]
theorem encode_append (a b : String) : encode (a ++ b) = encode a ++ encode b := by
  simp [encode]

@[simp]
theorem encode_empty : encode "" = [] := rfl

/-! ## Reading with replacement -/

/-- Reads characters onto those read so far, which are kept last first. -/
def replaceInto (acc : List Char) : Bytes → List Char
  | [] => acc
  | first :: rest =>
    match front first rest with
    | .whole char more => replaceInto (char :: acc) (rest.drop more)
    | .broken more => replaceInto ('\uFFFD' :: acc) (rest.drop more)
    | .cut => '\uFFFD' :: acc
termination_by bytes => bytes.length
decreasing_by all_goals simp only [List.length_drop, List.length_cons]; omega

/-- The text of any byte string, with one U+FFFD for each part that is not UTF-8. -/
def decodeLossy (bytes : Bytes) : String :=
  String.ofList (replaceInto [] bytes).reverse

end ControlPlane.Utf8
