import ControlPlane.Settings.Tree
import ControlPlane.Text.Blank
import ControlPlane.Toml.Number
import ControlPlane.Toml.Quoted

/-!
# Settings from environment variables

A variable sets something if its name starts with `CLUSTERD_` in upper or lower case.
The rest of the name, in lower case, is a path whose levels are separated by two
underscores or by a point.  The text of a variable may be a truth value, a number, a
list in brackets, a group of named values in braces, a text between double quotes or
one character between single quotes.  Whatever is none of these as a whole stands for
itself.
-/

namespace ControlPlane.Settings

open Text (Reader)

namespace Variable

/-! ## Names -/

/-- What the names of variables start with, in lower case. -/
def start : String := "clusterd_"

/-- The levels of a path, each in lower case. -/
def levels : List Char → List (List Char)
  | [] => [[]]
  | '_' :: '_' :: rest => [] :: levels rest
  | '.' :: rest => [] :: levels rest
  | char :: rest =>
    match levels rest with
    | level :: others => (char.toLower :: level) :: others
    | [] => [[char.toLower]]

/-- The path that a variable sets, if it sets anything. -/
def path? (name : String) : Option (List String) :=
  let chars := Text.trim name.toList
  if (chars.take start.length).map Char.toLower = start.toList then
    let path := levels (Text.trim (chars.drop start.length))
    if path.any List.isEmpty then none else some (path.map String.ofList)
  else none

/-! ## Words -/

/-- Whether a character is a blank between values. -/
def isBlank (char : Char) : Bool :=
  char == ' ' || char == '\t' || char == '\n' || char == '\x0c' || char == '\r'

/-- The blanks at the front. -/
def blanks : Reader Unit := do
  let _ ← Reader.run isBlank

/-- Whether a character ends a word. -/
def isSeparator (char : Char) : Bool :=
  char == ',' || char == '{' || char == '}' || char == '[' || char == ']'

/-- A whole number of 64 bits, signed or unsigned. -/
def whole : Reader Unit := do
  let negative ← Toml.sign
  let size := Text.ofDigits (← Reader.someRun Text.isDigit)
  let fits := if negative then Int64.minValue.toInt ≤ -(size : Int) else size < UInt64.size
  if fits then return () else failure

/-- A number with a point. -/
def real : Reader Unit := do
  let _ ← Toml.sign
  let front ← Reader.run Text.isDigit
  Reader.mark '.'
  let back ← Reader.run Text.isDigit
  if front.isEmpty && back.isEmpty then failure
  let _ ← optional do
    Reader.mark 'e' <|> Reader.mark 'E'
    let _ ← Toml.sign
    Reader.someRun Text.isDigit

/-- Whether a word is a number. -/
def isNumber (word : List Char) : Bool :=
  (whole.whole? word).isSome || (real.whole? word).isSome

/-- A word without quotes: a number or a text. -/
def word : Reader Tree := do
  let chars := Text.trim (← Reader.run fun char => !isSeparator char)
  return if isNumber chars then .plain else .text (String.ofList chars)

/-! ## Values -/

/-- Values between the given marks, with commas between them and perhaps behind the last
one. -/
def enclosed {α : Type} (opening closing : Char) (item : Reader α) : Reader (List α) := do
  let more : Reader α := fun text => if text.head? = some closing then none else item text
  Reader.mark opening
  let items ← Reader.separated (Reader.mark ',') more
  if !items.isEmpty then
    let _ ← optional (Reader.mark ',')
  Reader.mark closing
  return items

/-- The name of a member: a bare word or a text between quotes. -/
def memberName : Reader String := do
  blanks
  let chars ← Toml.lineText '"' <|> Reader.someRun Toml.isBareKey
  blanks
  return String.ofList chars

/-- A named value of a group. -/
def member (item : Reader Tree) : Reader (String × Tree) := do
  let name ← memberName
  Reader.mark '='
  return (name, ← item)

/-- A value in which no other values stand, if it does not start like a word. -/
def scalar? : List Char → Option (Reader Tree)
  | 't' :: 'r' :: 'u' :: 'e' :: _ => some do Reader.word "true"; return .plain
  | 'f' :: 'a' :: 'l' :: 's' :: 'e' :: _ => some do Reader.word "false"; return .plain
  | '"' :: _ => some do return .text (String.ofList (← Toml.lineText '"'))
  | '\'' :: _ => some do
    Reader.mark '\''
    let char ← Reader.satisfying fun _ => true
    Reader.mark '\''
    return .text (String.singleton char)
  | _ => none

/-- A value without blanks around it, given a reader of the values that stand in it. -/
def bareValue (inner : Reader Tree) : Reader Tree := fun text =>
  match text with
  | '[' :: _ => (do return .list (← enclosed '[' ']' inner) : Reader Tree) text
  | '{' :: _ =>
    -- Of two members of one name, the last counts.
    (do return .group (← enclosed '{' '}' (member inner)).reverse : Reader Tree) text
  | _ => (scalar? text).getD word text

/-- A value in which other values may stand up to the given number of levels deep, with
blanks around it. -/
def value : Nat → Reader Tree
  | 0 => failure
  | depth + 1 => do
    blanks
    let tree ← bareValue (value depth)
    blanks
    return tree

/-- What the text of a variable says.  Each level of lists and groups takes a character,
and the words in them are one level more. -/
def ofText (text : String) : Tree :=
  let chars := Text.trim text.toList
  ((value (chars.length + 1)).whole? chars).getD (.text (String.ofList chars))

end Variable

/-- What some variables say, of which a later one is laid over those before it. -/
def ofVariables (environment : List (String × String)) : Tree :=
  environment.foldl
    (fun below (name, text) =>
      match Variable.path? name with
      | some path => (Tree.nest path (Variable.ofText text)).overlay below
      | none => below)
    .empty

end ControlPlane.Settings
