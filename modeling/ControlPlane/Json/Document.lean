import ControlPlane.Json.Token

/-!
# Writing JSON documents

A document is a tree of values and is written without white space.  In a text,
quotes, backslashes and the characters below U+0020 are escaped and everything
else is written as it is.  `Document.tokens` lists the tokens of the written form.
-/

namespace ControlPlane.Json

/-- A document. -/
inductive Document where
  | null
  | integer (value : Int)
  | text (value : String)
  | list (items : List Document)
  | object (members : List (String × Document))

/-- A character in a written text. -/
def escapeChar (char : Char) : List Char :=
  if char = '"' then ['\\', '"']
  else if char = '\\' then ['\\', '\\']
  else if char = '\x08' then ['\\', 'b']
  else if char = '\x0c' then ['\\', 'f']
  else if char = '\n' then ['\\', 'n']
  else if char = '\r' then ['\\', 'r']
  else if char = '\t' then ['\\', 't']
  else if char.toNat < 32 then
    ['\\', 'u', '0', '0', Bytes.hexDigit (char.toNat / 16), Bytes.hexDigit (char.toNat % 16)]
  else [char]

/-- A text between quotes. -/
def quote (text : String) : String :=
  "\"" ++ String.ofList (text.toList.flatMap escapeChar) ++ "\""

/-- Texts with commas between them. -/
def joinCommas (texts : List String) : String :=
  String.intercalate "," texts

/-- An object of members that are already written. -/
def writeObject (members : List (String × String)) : String :=
  "\x7b" ++ joinCommas (members.map fun (name, value) => quote name ++ ":" ++ value) ++ "\x7d"

/-- A list of values that are already written. -/
def writeList (items : List String) : String :=
  "[" ++ joinCommas items ++ "]"

namespace Document

/-- The written form of a document. -/
def write : Document → String
  | .null => "null"
  | .integer value => toString value
  | .text value => quote value
  | .list items => writeList (writeItems [] items)
  | .object members => writeObject (writeMembers [] members)
where
  /-- Adds the written forms of items to those so far, which are kept last first. -/
  writeItems (acc : List String) : List Document → List String
    | [] => acc.reverse
    | item :: rest => writeItems (item.write :: acc) rest
  /-- Adds the names and the written forms of members to those so far. -/
  writeMembers (acc : List (String × String)) :
      List (String × Document) → List (String × String)
    | [] => acc.reverse
    | (name, value) :: rest => writeMembers ((name, value.write) :: acc) rest

theorem writeItems_eq (acc : List String) (items : List Document) :
    write.writeItems acc items = acc.reverse ++ items.map write := by
  induction items generalizing acc with
  | nil => simp [write.writeItems]
  | cons item rest ih => simp [write.writeItems, ih]

theorem writeMembers_eq (acc : List (String × String)) (members : List (String × Document)) :
    write.writeMembers acc members =
      acc.reverse ++ members.map fun member => (member.1, member.2.write) := by
  induction members generalizing acc with
  | nil => simp [write.writeMembers]
  | cons member rest ih => simp [write.writeMembers, ih]

/-- The document of a list of texts. -/
def texts (values : List String) : Document :=
  .list (values.map .text)

/-- The tokens of the written form of a document. -/
def tokens : Document → List Token
  | .null => [.null]
  | .integer value => [.number (.integer value)]
  | .text value => [.text (some value)]
  | .list [] => [.openBracket, .closeBracket]
  | .list (item :: rest) => .openBracket :: (item.tokens ++ moreItems rest)
  | .object [] => [.openBrace, .closeBrace]
  | .object ((name, value) :: rest) =>
    .openBrace :: .text (some name) :: .colon :: (value.tokens ++ moreMembers rest)
where
  /-- The tokens behind the first item of a list. -/
  moreItems : List Document → List Token
    | [] => [.closeBracket]
    | item :: rest => .comma :: (item.tokens ++ moreItems rest)
  /-- The tokens behind the first member of an object. -/
  moreMembers : List (String × Document) → List Token
    | [] => [.closeBrace]
    | (name, value) :: rest =>
      .comma :: .text (some name) :: .colon :: (value.tokens ++ moreMembers rest)

end Document

end ControlPlane.Json
