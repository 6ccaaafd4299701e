import ControlPlane.Bytes
import ControlPlane.Text.Reader

/-!
# Texts and keys of a TOML document

A text stands between double quotes, where a backslash begins an escape, or between
single quotes, where it stands for itself.  Three quotes of either kind enclose a text
of several lines: a line break right behind the opening quotes is dropped, every other
one counts as a line feed, and one or two quotes at the end belong to the text.  A key
is a bare word or a text of one line.
-/

namespace ControlPlane.Toml

open Text (Reader)

/-! ## Characters -/

/-- Whether a character may stand for itself in a text or a comment. -/
def isPlain (char : Char) : Bool :=
  char == '\t' || (' ' ≤ char && char != '\x7f')

/-- Whether a character separates words of a line. -/
def isBlank (char : Char) : Bool :=
  char == ' ' || char == '\t'

/-- The blanks at the front. -/
def blanks : Reader Unit := do
  let _ ← Reader.run isBlank

/-- A line break: a line feed, which a carriage return may precede. -/
def lineBreak : Reader Unit :=
  Reader.mark '\n' <|> Reader.word "\r\n"

/-! ## Escapes -/

/-- The character of a code point in hexadecimal digits. -/
def codePoint (digits : Nat) : Reader Char := do
  let written ← Reader.exactly digits fun char => (Bytes.hexValue? char).isSome
  let code := written.foldl (fun code char => 16 * code + (Bytes.hexValue? char).getD 0) 0
  if code.isValidChar then return Char.ofNat code else failure

/-- The character that an escape stands for. -/
def escape : Reader (List Char) := do
  Reader.mark '\\'
  match ← Reader.satisfying fun _ => true with
  | 'b' => return ['\x08']
  | 't' => return ['\t']
  | 'n' => return ['\n']
  | 'f' => return ['\x0c']
  | 'r' => return ['\r']
  | '"' => return ['"']
  | '\\' => return ['\\']
  | 'u' => return [← codePoint 4]
  | 'U' => return [← codePoint 8]
  | _ => failure

/-- A backslash at the end of a line, which swallows all blanks and line breaks up to
the next character. -/
def lineJoin : Reader (List Char) := do
  Reader.mark '\\'
  blanks
  lineBreak
  let _ ← Reader.many (lineBreak <|> do let _ ← Reader.someRun isBlank)
  return []

/-! ## Texts of one line -/

/-- The plain characters at the front that are no quote and begin no escape. -/
def plainRun (quote : Char) : Reader (List Char) :=
  Reader.someRun fun char =>
    isPlain char && char != quote && (quote == '\'' || char != '\\')

/-- A text of one line between the given quotes. -/
def lineText (quote : Char) : Reader (List Char) := do
  Reader.mark quote
  let pieces ← Reader.many <|
    plainRun quote <|> if quote == '"' then escape else failure
  Reader.mark quote
  return pieces.flatten

/-! ## Texts of several lines -/

/-- One or two quotes that do not end a text of several lines. -/
def fewQuotes (quote : Char) : Reader (List Char) := fun text =>
  let quotes := text.takeWhile (· == quote)
  if quotes.length = 1 ∨ quotes.length = 2 then some (quotes, text.drop quotes.length) else none

/-- The quotes that end a text of several lines, and those before them that belong to
the text. -/
def closingQuotes (quote : Char) : Reader (List Char) := fun text =>
  let count := (text.takeWhile (· == quote)).length
  if count < 3 then none
  else
    let extra := min (count - 3) 2
    some (List.replicate extra quote, text.drop (extra + 3))

/-- A text of several lines between three of the given quotes. -/
def blockText (quote : Char) : Reader (List Char) := do
  Reader.mark quote
  Reader.mark quote
  Reader.mark quote
  let _ ← optional lineBreak
  let pieces ← Reader.many <|
    plainRun quote <|> (do lineBreak; return ['\n']) <|> fewQuotes quote <|>
      if quote == '"' then lineJoin <|> escape else failure
  let extra ← closingQuotes quote
  return pieces.flatten ++ extra

/-- A text in any of its four forms. -/
def anyText : Reader (List Char) := fun text =>
  match text with
  | '"' :: '"' :: '"' :: _ => blockText '"' text
  | '\'' :: '\'' :: '\'' :: _ => blockText '\'' text
  | '\'' :: _ => lineText '\'' text
  | _ => lineText '"' text

/-! ## Keys -/

/-- Whether a character may stand in a bare key. -/
def isBareKey (char : Char) : Bool :=
  char.isAlphanum || char == '_' || char == '-'

/-- One key of a path, with blanks around it. -/
def key : Reader String := do
  blanks
  let chars ← lineText '"' <|> lineText '\'' <|> Reader.someRun isBareKey
  blanks
  return String.ofList chars

/-- The number of levels that a document does not reach, neither by a path of keys nor
by values within values. -/
def levelLimit : Nat := 80

/-- A path of keys with points between them. -/
def path : Reader (List String) := do
  let keys ← Reader.separated (Reader.mark '.') key
  if keys.isEmpty || levelLimit ≤ keys.length then failure else return keys

end ControlPlane.Toml
