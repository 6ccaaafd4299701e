/-!
# Splitting texts

A text is split at each occurrence of a separator, or at the first one only.
-/

namespace ControlPlane.Text

/-- The parts of a text between the occurrences of a separator; always at least one. -/
def splitAll (separator : Char) (text : List Char) : List (List Char) :=
  text.foldr
    (fun char parts =>
      if char = separator then [] :: parts
      else
        match parts with
        | part :: rest => (char :: part) :: rest
        | [] => [[char]])
    [[]]

/-- The text before the first separator and, if there is one, the text behind it. -/
def splitFirst (separator : Char) (text : List Char) : List Char × Option (List Char) :=
  match text.dropWhile fun char => char != separator with
  | [] => (text, none)
  | _ :: rest => (text.takeWhile fun char => char != separator, some rest)

end ControlPlane.Text
