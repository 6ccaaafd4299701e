import ControlPlane.Bytes
import ControlPlane.Text.Reader
import ControlPlane.Time.Calendar

/-!
# Numbers and dates of a TOML document

Whole numbers are signed and have 64 bits.  Other numbers have a fraction or an
exponent, and the positive ones are refused where they are too large for a floating
point value.  Dates and times are those of the calendar, with second 60 allowed
anywhere.  Digits may be grouped by single underscores.  The readers only say where
the number ends, because no setting is a number.
-/

namespace ControlPlane.Toml

open Text (Reader)

/-! ## Digits -/

/-- A digit, and more digits of which each may follow an underscore. -/
def digits (isDigit : Char → Bool) : Reader (List Char) := do
  let first ← Reader.satisfying isDigit
  let more ← Reader.many <|
    Reader.satisfying isDigit <|> do Reader.mark '_'; Reader.satisfying isDigit
  return first :: more

/-- A sign: whether it is a minus. -/
def sign : Reader Bool :=
  (do Reader.mark '-'; return true) <|> (do Reader.mark '+'; return false) <|> return false

/-- Decimal digits that begin with zero only if there is no other one. -/
def wholePart : Reader (List Char) := do
  let all ← digits Text.isDigit
  if all.head? = some '0' ∧ all.length ≠ 1 then failure else return all

/-! ## Whole numbers -/

/-- A whole number in decimal digits. -/
def decimal : Reader Unit := do
  let negative ← sign
  let size : Int := Text.ofDigits (← wholePart)
  let value := if negative then -size else size
  if Int64.minValue.toInt ≤ value ∧ value ≤ Int64.maxValue.toInt then return () else failure

/-- A whole number in another base, behind the word that announces it. -/
def based (announcement : String) (base : Nat) : Reader Unit := do
  Reader.word announcement
  let written ← digits fun char => (Bytes.hexValue? char).any (· < base)
  let value :=
    written.foldl (fun value char => base * value + (Bytes.hexValue? char).getD 0) 0
  if (value : Int) ≤ Int64.maxValue.toInt then return () else failure

/-! ## Other numbers -/

/-- Whether a number is too large for a floating point value: `value` times ten to the
power of `exponent`, compared with `Text.floatBound`.  The powers are not written out
where the number of digits settles the question. -/
def isTooLarge (value : Nat) (exponent : Int) : Bool :=
  let places := (Nat.toDigits 10 value).length + exponent
  if value = 0 ∨ places < 300 then false
  else if 320 < places then true
  else Text.floatBound * Nat.pow 10 (-exponent).toNat ≤ value * Nat.pow 10 exponent.toNat

/-- An exponent. -/
def exponent : Reader Int := do
  Reader.mark 'e' <|> Reader.mark 'E'
  let negative ← sign
  let size := Text.ofDigits (← digits Text.isDigit)
  return if negative then -size else size

/-- A number with a fraction, an exponent or both. -/
def real : Reader Unit := do
  let negative ← sign
  let whole ← wholePart
  let fraction ← optional do Reader.mark '.'; digits Text.isDigit
  let power ← if fraction.isSome then optional exponent else some <$> exponent
  let fraction := fraction.getD []
  let value := Text.ofDigits (whole ++ fraction)
  if !negative && isTooLarge value (power.getD 0 - fraction.length) then failure
  else return ()

/-- Infinity, or what is no number. -/
def unusual : Reader Unit := do
  let _ ← sign
  Reader.word "inf" <|> Reader.word "nan"

/-! ## Dates and times -/

/-- A number of two digits within bounds. -/
def twoDigits (least greatest : Nat) : Reader Nat := do
  let value := Text.ofDigits (← Reader.exactly 2 Text.isDigit)
  if least ≤ value ∧ value ≤ greatest then return value else failure

/-- A date of the calendar. -/
def date : Reader Unit := do
  let year := Text.ofDigits (← Reader.exactly 4 Text.isDigit)
  Reader.mark '-'
  let month ← twoDigits 1 12
  Reader.mark '-'
  let day ← twoDigits 1 31
  if day ≤ Date.daysInMonth year month then return () else failure

/-- A time of the day. -/
def time : Reader Unit := do
  let _ ← twoDigits 0 23
  Reader.mark ':'
  let _ ← twoDigits 0 59
  Reader.mark ':'
  let _ ← twoDigits 0 60
  let _ ← optional do Reader.mark '.'; Reader.someRun Text.isDigit

/-- How far a time is ahead. -/
def offset : Reader Unit :=
  Reader.mark 'Z' <|> Reader.mark 'z' <|> do
    Reader.mark '+' <|> Reader.mark '-'
    let _ ← twoDigits 0 23
    Reader.mark ':'
    let _ ← twoDigits 0 59

/-- A date, which a time and its offset may follow, or a time. -/
def moment : Reader Unit :=
  (do
    date
    let _ ← optional do
      Reader.mark 'T' <|> Reader.mark 't' <|> Reader.mark ' '
      time
      optional offset) <|>
  time

/-- A number of any kind. -/
def number : Reader Unit :=
  real <|> based "0x" 16 <|> based "0o" 8 <|> based "0b" 2 <|> decimal <|> unusual

end ControlPlane.Toml
