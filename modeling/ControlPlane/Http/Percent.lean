import ControlPlane.Text.Utf8

/-!
# Percent encoding

A byte of a request target may be written as `%` and two hexadecimal digits of
either case.  A percent sign that no two digits follow stands for itself.
-/

namespace ControlPlane.Http

/-- The value of a hexadecimal digit given as a byte. -/
def hexByte? (byte : UInt8) : Option Nat :=
  Bytes.hexValue? (Char.ofUInt8 byte)

/-- The byte that two hexadecimal digits at the front stand for. -/
def hexPair? : Bytes → Option UInt8
  | high :: low :: _ =>
    match hexByte? high, hexByte? low with
    | some h, some l => some (UInt8.ofNat (16 * h + l))
    | _, _ => none
  | _ => none

/-- Decodes bytes onto those decoded so far, which are kept last first. -/
def percentDecodeOnto (acc : Bytes) : Bytes → Bytes
  | [] => acc.reverse
  | byte :: rest =>
    match if byte = 0x25 then hexPair? rest else none with
    | some value => percentDecodeOnto (value :: acc) (rest.drop 2)
    | none => percentDecodeOnto (byte :: acc) rest
termination_by bytes => bytes.length
decreasing_by all_goals simp only [List.length_cons, List.length_drop]; omega

/-- The bytes that a percent-encoded byte string stands for. -/
def percentDecode (bytes : Bytes) : Bytes :=
  percentDecodeOnto [] bytes

/-- Writes every byte as a percent sign and two digits. -/
def percentEncode (bytes : Bytes) : List Char :=
  bytes.flatMap fun byte =>
    ['%', Bytes.hexDigit (byte.toNat / 16), Bytes.hexDigit (byte.toNat % 16)]

/-- The text that a percent-encoded text stands for, if it stands for one. -/
def percentDecodeText (text : List Char) : Except Utf8.Fault String :=
  Utf8.decode (percentDecode (Utf8.encode (String.ofList text)))

end ControlPlane.Http
