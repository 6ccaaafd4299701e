import ControlPlane.Text.Digits

/-!
# Readers of texts

A reader takes a value from the front of a text and leaves the rest, or refuses the
text.  Where one alternative refuses, the next one starts from the same place.
-/

namespace ControlPlane.Text

/-- Takes a value from the front of a text, if the text starts with one. -/
abbrev Reader := StateT (List Char) Option

namespace Reader

variable {α : Type}

/-- The value of a text that a reader takes as a whole. -/
def whole? (reader : Reader α) (text : List Char) : Option α :=
  match reader text with
  | some (value, []) => some value
  | _ => none

/-- The first character, if it has a property. -/
def satisfying (wanted : Char → Bool) : Reader Char
  | char :: rest => if wanted char then some (char, rest) else none
  | [] => none

/-- The given character. -/
def mark (wanted : Char) : Reader Unit := do
  let _ ← satisfying (· == wanted)

/-- The given characters, one after the other. -/
def word (wanted : String) : Reader Unit := fun text =>
  if wanted.toList.isPrefixOf text then some ((), text.drop wanted.length) else none

/-- All characters at the front that have a property; there may be none. -/
def run (wanted : Char → Bool) : Reader (List Char) := fun text =>
  some (text.takeWhile wanted, text.dropWhile wanted)

/-- All characters at the front that have a property, of which there is at least one. -/
def someRun (wanted : Char → Bool) : Reader (List Char) := fun text =>
  match text.takeWhile wanted with
  | [] => none
  | chars => some (chars, text.dropWhile wanted)

/-- The given number of characters that all have a property. -/
def exactly (count : Nat) (wanted : Char → Bool) : Reader (List Char) := fun text =>
  let chars := text.take count
  if chars.length = count ∧ chars.all wanted then some (chars, text.drop count) else none

/-- Takes values one after the other, onto those taken so far, until the reader refuses
or has been asked as often as `bound` has elements. -/
def manyFrom (reader : Reader α) (taken : List α) : (bound text : List Char) → List α × List Char
  | _ :: bound, text =>
    match reader text with
    | some (value, rest) => manyFrom reader (value :: taken) bound rest
    | none => (taken.reverse, text)
  | [], text => (taken.reverse, text)

/-- As many values as a reader takes one after the other; there may be none.  The reader
has to take at least one character for each of them: then the characters of the text
are a bound on their number. -/
def many (reader : Reader α) : Reader (List α) := fun text => some (manyFrom reader [] text text)

/-- Values with something between each two of them; there may be none. -/
def separated (separator : Reader Unit) (item : Reader α) : Reader (List α) :=
  (do return (← item) :: (← many (do separator; item))) <|> pure []

end Reader

end ControlPlane.Text
