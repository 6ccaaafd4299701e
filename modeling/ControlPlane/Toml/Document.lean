import ControlPlane.Text.Utf8
import ControlPlane.Toml.Value

/-!
# TOML documents

A document is a list of lines: headers, each of which opens a table or adds one to a
list of tables, and values with their keys, which go to the table that was opened last.
`document?` gives the tree of a document, if each of its lines is well formed and none
contradicts the lines before it.
-/

namespace ControlPlane.Toml

open Settings (Tree)
open Text (Reader)

/-- A line of a document that says something. -/
inductive Line where
  | header (path : List String)
  | listedHeader (path : List String)
  | value (path : List String) (tree : Tree)

/-! ## Lines -/

/-- The end of the text. -/
def textEnd : Reader Unit
  | [] => some ((), [])
  | _ :: _ => none

/-- The end of a line, which a comment may precede. -/
def lineEnd : Reader Unit := do
  blanks
  let _ ← optional comment
  lineBreak <|> textEnd

/-- A header. -/
def header : Reader Line :=
  (do
    Reader.word "[["
    let keys ← path
    Reader.word "]]"
    lineEnd
    return .listedHeader keys) <|>
  do
    Reader.mark '['
    let keys ← path
    Reader.mark ']'
    lineEnd
    return .header keys

/-- A value with its keys. -/
def entry : Reader Line := do
  let (keys, tree) ← assignment (value (levelLimit - 1))
  lineEnd
  return .value keys tree

/-- A line that says nothing. -/
def silentLine : Reader Unit := do
  let _ ← optional comment
  lineBreak

/-- A line, if it says something. -/
def line : Reader (Option Line) := do
  blanks
  some <$> (header <|> entry) <|> do silentLine; return none

/-- The lines of a text that say something.  The last line may end with the text. -/
def lines? (text : List Char) : Option (List Line) := do
  let lines ← (do
    let lines ← Reader.many line
    lineEnd
    return lines : Reader (List (Option Line))).whole? text
  return lines.filterMap id

/-! ## Documents -/

/-- The state of a document: its members, and the path of the table that was opened
last, which is empty at first. -/
structure Draft where
  members : Members
  opened : List String

/-- Adds what a line says. -/
def Draft.add? (draft : Draft) : Line → Option Draft
  | .value keys tree => do
    let members ← Members.under (Members.addValue tree true · keys) draft.members draft.opened
    return { draft with members }
  | .header keys => do
    let key ← keys.getLast?
    return ⟨← Members.under (Members.openTable key) draft.members keys.dropLast, keys⟩
  | .listedHeader keys => do
    let key ← keys.getLast?
    return ⟨← Members.under (Members.openListed key) draft.members keys.dropLast, keys⟩

/-- The text without a byte order mark. -/
def withoutMark : List Char → List Char
  | '\ufeff' :: rest => rest
  | text => text

/-- The tree of a document. -/
def document? (bytes : Bytes) : Option Tree := do
  let text ← (Utf8.decode bytes).toOption
  let draft ← (← lines? (withoutMark text.toList)).foldlM Draft.add? ⟨[], []⟩
  return .group draft.members.toTrees

end ControlPlane.Toml
