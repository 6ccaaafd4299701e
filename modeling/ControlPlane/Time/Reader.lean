import ControlPlane.Text.Blank
import ControlPlane.Time.DateTime

/-!
# Reading dates and times

`DateTime.ofText?` accepts more than the written form: white space before each
number and around the separators, numbers of one digit, years with a sign and any
number of digits, any number of digits in the fraction (those after the ninth are
dropped), `t` or a space for `T`, and several spellings of the offset.  A text is
refused where the calendar has no such date or the instant lies outside of the
range of years.
-/

namespace ControlPlane.DateTime

/-! ## Parts of the text

Each reader takes its part from the front of the text and returns the rest. -/

/-- The longest run of digits at the front, of at most `limit`, if there is one. -/
def takeDigits? (limit : Nat) (text : List Char) : Option (List Char × List Char) :=
  let digits := (text.take limit).takeWhile Text.isDigit
  if digits.isEmpty then none else some (digits, text.drop digits.length)

/-- White space and then a number of at most two digits. -/
def takeNumber? (text : List Char) : Option (Nat × List Char) :=
  (takeDigits? 2 (Text.trimStart text)).map fun (digits, rest) => (Text.ofDigits digits, rest)

/-- White space and then a year: one to four digits, or a sign and any number of them. -/
def takeYear? (text : List Char) : Option (Int × List Char) :=
  match Text.trimStart text with
  | '-' :: rest =>
    (takeDigits? rest.length rest).map fun (digits, rest) => (-(Text.ofDigits digits : Int), rest)
  | '+' :: rest =>
    (takeDigits? rest.length rest).map fun (digits, rest) => ((Text.ofDigits digits : Int), rest)
  | rest => (takeDigits? 4 rest).map fun (digits, rest) => ((Text.ofDigits digits : Int), rest)

/-- White space and then the given character. -/
def takeMark? (mark : Char) (text : List Char) : Option (List Char) :=
  match Text.trimStart text with
  | char :: rest => if char = mark then some rest else none
  | [] => none

/-- The fraction of a second in nanoseconds, if a point follows. -/
def takeFraction? : List Char → Option (Nat × List Char)
  | '.' :: text =>
    (takeDigits? 9 text).map fun (digits, rest) =>
      (Text.ofDigits digits * Nat.pow 10 (9 - digits.length), rest.dropWhile Text.isDigit)
  | text => some (0, text)

/-- The hours and minutes of an offset, in seconds. -/
def takeOffsetSize? : List Char → Option (Nat × List Char)
  | h₁ :: h₂ :: rest =>
    match rest.dropWhile fun char => char == ':' || Text.isBlank char with
    | m₁ :: m₂ :: rest =>
      if Text.isDigit h₁ && Text.isDigit h₂ && Text.isDigit m₁ && Text.isDigit m₂ &&
          Text.digitValue m₁ < 6 then
        some (3600 * Text.ofDigits [h₁, h₂] + 60 * Text.ofDigits [m₁, m₂], rest)
      else none
    | _ => none
  | _ => none

/-- White space and then an offset in seconds east: `Z`, `UTC`, or a sign and a size. -/
def takeOffset? (text : List Char) : Option (Int × List Char) :=
  let text := Text.trimStart text
  if (text.take 3).map Char.toUpper = ['U', 'T', 'C'] then some (0, text.drop 3)
  else
    match text with
    | sign :: rest =>
      if sign = 'Z' ∨ sign = 'z' then some (0, rest)
      else if sign = '+' then (takeOffsetSize? rest).map fun (size, rest) => ((size : Int), rest)
      else if sign = '-' ∨ sign = '\u2212' then
        (takeOffsetSize? rest).map fun (size, rest) => (-(size : Int), rest)
      else none
    | [] => none

/-! ## Whole texts -/

/-- The numbers of a written date and time, before any of them is checked. -/
structure Parts where
  date : Date
  hour : Nat
  minute : Nat
  second : Nat
  nanos : Nat
  offset : Int
  deriving DecidableEq, Repr

/-- Splits a written date and time into its numbers. -/
def parts? (text : List Char) : Option Parts := do
  let (year, text) ← takeYear? text
  let text ← takeMark? '-' text
  let (month, text) ← takeNumber? text
  let text ← takeMark? '-' text
  let (day, text) ← takeNumber? text
  let text ← match text with
    | char :: rest => if char = 'T' ∨ char = 't' ∨ char = ' ' then some rest else none
    | [] => none
  let (hour, text) ← takeNumber? text
  let text ← takeMark? ':' text
  let (minute, text) ← takeNumber? text
  let text ← takeMark? ':' text
  let (second, text) ← takeNumber? text
  let (nanos, text) ← takeFraction? text
  let (offset, text) ← takeOffset? text
  if Text.trimStart text = [] then
    some ⟨⟨year, month, day⟩, hour, minute, second, nanos, offset⟩
  else none

/-- The date and time of some numbers, if they are one.  Second 60 is kept as a leap
second after second 59. -/
def ofParts? (parts : Parts) : Option DateTime :=
  if firstYear ≤ parts.date.year ∧ parts.date.year ≤ lastYear ∧ parts.date.Exists ∧
      parts.hour < 24 ∧ parts.minute < 60 ∧ parts.second ≤ 60 ∧
      parts.offset.natAbs < secondsPerDay then
    let secondOfDay := 3600 * parts.hour + 60 * parts.minute + min parts.second 59
    let instant : Instant :=
      { seconds := parts.date.toDays * secondsPerDay + secondOfDay - parts.offset
        nanos := parts.nanos + (if parts.second = 60 then nanosPerSecond else 0) }
    if instant.InRange then some ⟨instant, parts.offset⟩ else none
  else none

/-- The date and time that a text stands for. -/
def ofText? (text : String) : Option DateTime :=
  (parts? text.toList).bind ofParts?

end ControlPlane.DateTime
