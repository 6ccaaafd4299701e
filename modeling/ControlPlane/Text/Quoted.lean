import ControlPlane.Text.Hidden

/-!
# Quoted texts in messages

A text that a message repeats stands between double quotes.  Quotes, backslashes
and characters that do not show by themselves are written as escapes.
-/

namespace ControlPlane.Text

/-- A character in a quoted text. -/
def quotedChar (char : Char) : String :=
  if char = '\x00' then "\\0"
  else if char = '\t' then "\\t"
  else if char = '\r' then "\\r"
  else if char = '\n' then "\\n"
  else if char = '\\' then "\\\\"
  else if char = '"' then "\\\""
  else if isHidden char then
    "\\u\x7b" ++ String.ofList (Nat.toDigits 16 char.toNat) ++ "\x7d"
  else char.toString

/-- A text between quotes, as messages repeat it. -/
def quoted (text : String) : String :=
  "\"" ++ String.join (text.toList.map quotedChar) ++ "\""

end ControlPlane.Text
