/-!
# Byte strings

Stored values, request bodies and encoded rows are lists of bytes.  The only
written form that the library needs of a byte string is lower-case hexadecimal,
two digits a byte; `ofHex?_toHex` says that reading it back loses nothing.
-/

namespace ControlPlane

/-- A byte string. -/
abbrev Bytes := List UInt8

namespace Bytes

/-! ## Hexadecimal digits -/

/-- The lower-case digit of a value below sixteen. -/
def hexDigit (value : Nat) : Char :=
  Char.ofNat (if value < 10 then 48 + value else 87 + value)

/-- The value of a hexadecimal digit of either case. -/
def hexValue? (digit : Char) : Option Nat :=
  let code := digit.toNat
  if 48 ≤ code ∧ code ≤ 57 then some (code - 48)
  else if 97 ≤ code ∧ code ≤ 102 then some (code - 87)
  else if 65 ≤ code ∧ code ≤ 70 then some (code - 55)
  else none

theorem hexValue?_hexDigit (value : Nat) (small : value < 16) :
    hexValue? (hexDigit value) = some value := by
  have all : ∀ v : Fin 16, hexValue? (hexDigit v) = some v.val := by decide
  exact all ⟨value, small⟩

/-! ## Hexadecimal text -/

/-- Two lower-case digits for each byte. -/
def toHexDigits (bytes : Bytes) : List Char :=
  bytes.flatMap fun byte => [hexDigit (byte.toNat / 16), hexDigit (byte.toNat % 16)]

/-- Reads pairs of digits onto the bytes read so far, which are kept last first. -/
def ofHexDigits? (acc : Bytes) : List Char → Option Bytes
  | [] => some acc.reverse
  | [_] => none
  | high :: low :: rest =>
    match hexValue? high, hexValue? low with
    | some h, some l => ofHexDigits? (UInt8.ofNat (16 * h + l) :: acc) rest
    | _, _ => none

/-- The hexadecimal text of a byte string. -/
def toHex (bytes : Bytes) : String :=
  String.ofList (toHexDigits bytes)

/-- The byte string of a hexadecimal text, if it is one. -/
def ofHex? (text : String) : Option Bytes :=
  ofHexDigits? [] text.toList

theorem ofHexDigits?_toHexDigits (acc bytes : Bytes) :
    ofHexDigits? acc (toHexDigits bytes) = some (acc.reverse ++ bytes) := by
  induction bytes generalizing acc with
  | nil => simp [toHexDigits, ofHexDigits?]
  | cons byte rest ih =>
    have high : byte.toNat / 16 < 16 := by have := byte.toNat_lt; omega
    have low : byte.toNat % 16 < 16 := by omega
    have whole : UInt8.ofNat (16 * (byte.toNat / 16) + byte.toNat % 16) = byte := by
      rw [show 16 * (byte.toNat / 16) + byte.toNat % 16 = byte.toNat by omega]
      exact UInt8.ofNat_toNat
    have step : toHexDigits (byte :: rest) =
        hexDigit (byte.toNat / 16) :: hexDigit (byte.toNat % 16) :: toHexDigits rest := rfl
    rw [step, ofHexDigits?, hexValue?_hexDigit _ high, hexValue?_hexDigit _ low]
    simp only [whole, ih]
    simp

@[simp]
theorem ofHex?_toHex (bytes : Bytes) : ofHex? (toHex bytes) = some bytes := by
  simp [ofHex?, toHex, ofHexDigits?_toHexDigits]

end Bytes

end ControlPlane
