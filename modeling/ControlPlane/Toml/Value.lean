import ControlPlane.Toml.Number
import ControlPlane.Toml.Quoted
import ControlPlane.Toml.Table

/-!
# Values of a TOML document

A list may spread over several lines, with comments, and may end in a comma.  A table
in braces stands on one line, and nothing outside of the braces can add to it.  A date
counts as a table without members.
-/

namespace ControlPlane.Toml

open Settings (Tree)
open Text (Reader)

/-- A comment, up to the end of its line. -/
def comment : Reader Unit := do
  Reader.mark '#'
  let _ ← Reader.run isPlain

/-- Blanks, line breaks and comments. -/
def gap : Reader Unit := do
  let _ ← Reader.many <|
    lineBreak <|> (do let _ ← Reader.someRun isBlank) <|> do comment; lineBreak

/-- A list of values, behind its opening bracket. -/
def listOf (item : Reader Tree) : Reader Tree := do
  let items ← Reader.separated (Reader.mark ',') do gap; let tree ← item; gap; return tree
  if !items.isEmpty then
    let _ ← optional (Reader.mark ',')
  gap
  Reader.mark ']'
  return .list items

/-- A key or a path of keys, and its value. -/
def assignment (item : Reader Tree) : Reader (List String × Tree) := do
  let keys ← path
  Reader.mark '='
  blanks
  return (keys, ← item)

/-- A table, behind its opening brace. -/
def tableOf (item : Reader Tree) : Reader Tree := do
  blanks
  let entries ← Reader.separated (Reader.mark ',') do
    let entry ← assignment item
    blanks
    return entry
  blanks
  Reader.mark '}'
  match entries.foldlM (fun members (keys, tree) => Members.addValue tree true members keys) [] with
  | some members => return .group (Members.toTrees members)
  | none => failure

/-- A value in which other values may stand up to the given number of levels deep. -/
def value : Nat → Reader Tree
  | depth, text =>
    match text with
    | '[' :: rest =>
      match depth with
      | 0 => none
      | depth + 1 => listOf (value depth) rest
    | '{' :: rest =>
      match depth with
      | 0 => none
      | depth + 1 => tableOf (value depth) rest
    | '"' :: _ | '\'' :: _ => (do return .text (String.ofList (← anyText)) : Reader Tree) text
    | 't' :: _ => (do Reader.word "true"; return .plain : Reader Tree) text
    | 'f' :: _ => (do Reader.word "false"; return .plain : Reader Tree) text
    | _ =>
      ((do moment; return .group []) <|> (do number; return .plain) : Reader Tree) text

end ControlPlane.Toml
