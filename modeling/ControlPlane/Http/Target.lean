import ControlPlane.Http.Percent
import ControlPlane.Text.Split

/-!
# Request targets

A target is a path and perhaps a query behind a question mark; whatever follows a
number sign is cut off.  It may begin with a scheme and an authority, which do not
count; a path that is missing behind an authority is `/`.

A query is a list of parameters.  In their names and values a plus sign stands for
a space, percent encoding is undone, and what is not UTF-8 is replaced.
-/

namespace ControlPlane.Http

/-- A target, its path still percent-encoded. -/
structure Target where
  path : List Char
  query : List Char := []
  deriving DecidableEq, Repr

/-- The text behind the first `://`, if there is one before any slash, question mark or
number sign. -/
def behindScheme? (text : List Char) : Option (List Char) :=
  match Text.splitFirst ':' text with
  | (scheme, some ('/' :: '/' :: rest)) =>
    if scheme.any fun char => char == '/' || char == '?' || char == '#' then none else some rest
  | _ => none

/-- The target of a text. -/
def Target.ofText (text : String) : Target :=
  let text := (Text.splitFirst '#' text.toList).1
  let text :=
    match behindScheme? text with
    | none => text
    | some rest =>
      let resource := rest.dropWhile fun char => char != '/' && char != '?'
      match resource with
      | '/' :: _ => resource
      | _ => '/' :: resource
  let (path, query) := Text.splitFirst '?' text
  ⟨path, query.getD []⟩

/-- The text of a name or a value in a query. -/
def queryText (text : List Char) : String :=
  let spaced := text.map fun char => if char = '+' then ' ' else char
  Utf8.decodeLossy (percentDecode (Utf8.encode (String.ofList spaced)))

/-- The parameters of a target, in order. -/
def Target.parameters (target : Target) : List (String × String) :=
  ((Text.splitAll '&' target.query).filter fun part => part ≠ []).map fun part =>
    let (name, value) := Text.splitFirst '=' part
    (queryText name, queryText (value.getD []))

/-- The value of the parameter of a name, or none if it is missing; a parameter that
comes twice is an error. -/
def Target.single? (target : Target) (name : String) : Except Unit (Option String) :=
  match target.parameters.filter fun parameter => parameter.1 == name with
  | [] => .ok none
  | [(_, value)] => .ok (some value)
  | _ => .error ()

end ControlPlane.Http
