import ControlPlane.Bytes
import ControlPlane.Text.Reader

/-!
# Addresses to listen at

An address is the number of a host and a port.  Hosts have four octets with points
between them, or eight groups of sixteen bits with colons between them, in brackets and
perhaps with a scope.  Of the eight groups, the last two may be written as four octets,
and one run of zeros may be left out.
-/

namespace ControlPlane.Launch

open Text (Reader)

/-- The number of a host. -/
inductive Host where
  | octets (values : List Nat)
  | groups (values : List Nat) (scope : Option Nat)
  deriving DecidableEq, Repr

/-- The number of a host and a port. -/
structure Address where
  host : Host
  port : Nat
  deriving DecidableEq, Repr

namespace Address

/-! ## Numbers -/

/-- A decimal number below a bound. -/
def number (bound : Nat) : Reader Nat := do
  let value := Text.ofDigits (← Reader.someRun Text.isDigit)
  if value < bound then return value else failure

/-- One of four octets, which does not begin with zero unless it is zero. -/
def octet : Reader Nat := do
  let digits ← Reader.someRun Text.isDigit
  if digits.head? = some '0' ∧ digits.length ≠ 1 then failure
  let value := Text.ofDigits digits
  if value < 256 then return value else failure

/-- Four octets. -/
def octets : Reader (List Nat) := do
  let first ← octet
  Reader.mark '.'
  let second ← octet
  Reader.mark '.'
  let third ← octet
  Reader.mark '.'
  return [first, second, third, ← octet]

/-- One of eight groups, in at most four hexadecimal digits. -/
def group : Reader Nat := do
  let digits ← Reader.someRun fun char => (Bytes.hexValue? char).isSome
  if 4 < digits.length then failure
  return digits.foldl (fun value char => 16 * value + (Bytes.hexValue? char).getD 0) 0

/-! ## Groups -/

/-- As many groups as there are, up to a limit, and whether the last two of them were
written as octets.  Behind the first group, each follows a colon. -/
def groupsUpTo : (limit : Nat) → (first : Bool) → Reader (List Nat × Bool)
  | 0, _ => return ([], false)
  | limit + 1, first =>
    let colon : Reader Unit := if first then return () else Reader.mark ':'
    (do
      if limit = 0 then failure
      colon
      match ← octets with
      | [a, b, c, d] => return ([256 * a + b, 256 * c + d], true)
      | _ => failure) <|>
    (do
      colon
      let value ← group
      let (values, asOctets) ← groupsUpTo limit false
      return (value :: values, asOctets)) <|>
    return ([], false)

/-- Eight groups, of which a run of zeros may be left out. -/
def groups : Reader (List Nat) := do
  let (front, asOctets) ← groupsUpTo 8 true
  if front.length = 8 then return front
  if asOctets then failure
  Reader.word "::"
  let (back, _) ← groupsUpTo (7 - front.length) true
  return front ++ List.replicate (8 - front.length - back.length) 0 ++ back

/-! ## Whole addresses -/

/-- A host. -/
def anyHost : Reader Host :=
  (do return .octets (← octets)) <|> do
    Reader.mark '['
    let values ← groups
    let scope ← optional do Reader.mark '%'; number UInt32.size
    Reader.mark ']'
    return .groups values scope

/-- An address. -/
def reader : Reader Address := do
  let host ← anyHost
  Reader.mark ':'
  return ⟨host, ← number UInt16.size⟩

/-- The address that a text stands for. -/
def ofText? (text : String) : Option Address :=
  reader.whole? text.toList

end Address

end ControlPlane.Launch
