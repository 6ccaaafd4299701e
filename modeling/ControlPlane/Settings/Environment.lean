import ControlPlane.Text.Split
import ControlPlane.Text.Utf8

/-!
# Environment blocks

The environment of a process is a block of bytes: for each variable its name, an equals
sign and its text, and then a zero byte.
-/

namespace ControlPlane.Settings

/-- The variable that an entry of a block sets, if it has a name. -/
def entry? (written : List Char) : Option (String × String) :=
  match Text.splitFirst '=' written with
  | (name, some text) =>
    if name.isEmpty then none else some (String.ofList name, String.ofList text)
  | (_, none) => none

/-- The variables of an environment block. -/
def variablesOf (block : Bytes) : List (String × String) :=
  (Text.splitAll '\x00' (Utf8.decodeLossy block).toList).filterMap entry?

end ControlPlane.Settings
