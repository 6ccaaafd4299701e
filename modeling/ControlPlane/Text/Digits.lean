/-!
# Decimal digits

Numbers are written in decimal with `padded`, which fills up with zeros on the
left, and read from runs of digits with `ofDigits`.  `floatBound` is where floating
point values end.
-/

namespace ControlPlane.Text

/-- Whether a character is one of the ten decimal digits. -/
def isDigit (char : Char) : Bool :=
  '0' ≤ char && char ≤ '9'

/-- The value of a decimal digit. -/
def digitValue (char : Char) : Nat :=
  char.toNat - 48

/-- The digit of a value below ten. -/
def digitOf (value : Nat) : Char :=
  Char.ofNat (48 + value)

/-- The number that a run of digits stands for. -/
def ofDigits (digits : List Char) : Nat :=
  digits.foldl (fun value digit => 10 * value + digitValue digit) 0

/-- The last `width` digits of a number. -/
def lastDigits : Nat → Nat → List Char
  | 0, _ => []
  | width + 1, value => lastDigits width (value / 10) ++ [digitOf (value % 10)]

/-- The digits of a number, filled up with zeros to at least `width` places. -/
def padded (width value : Nat) : String :=
  if value < Nat.pow 10 width then String.ofList (lastDigits width value) else toString value

/-- The least number that is too large for a floating point value of 64 bits: half way
from the largest of them to the next power of two. -/
def floatBound : Nat :=
  Nat.pow 2 1024 - Nat.pow 2 970

end ControlPlane.Text
