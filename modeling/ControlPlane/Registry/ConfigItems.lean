import ControlPlane.Store.Action

/-!
# Configuration items

Texts by key, kept as their UTF-8 bytes in the table `config`.  Any key can be
written, but a client that asks for a missing one learns that no such item exists.
-/

namespace ControlPlane.ConfigItems

/-- What is looked for under a configuration key. -/
def itemName : String := "ConfigItem"

/-- There is no such item. -/
def notFound : Failure := .notFound itemName

/-- The text of a stored value. -/
def decodeValue (key : String) (value : Bytes) : Except Failure String :=
  (Utf8.decode value).mapError fun fault => .storage (.valueNotText key fault)

/-- The text of a key, if it has one. -/
def get? (key : String) : Action (Option String) := do
  match ← Action.get .config key with
  | some value => return some (← Action.ofExcept (decodeValue key value))
  | none => return none

/-- The text of a key. -/
def get (key : String) : Action String := do
  match ← get? key with
  | some value => return value
  | none => Action.fail notFound

/-- The keys that start with `start`, in ascending order. -/
def keys (start : String) : Action (List String) := do
  return (← Action.scan .config start).map (·.1)

/-- Writes a text, whether or not the key has one. -/
def upsert (key value : String) : Action Unit :=
  Action.put .config key (Utf8.encode value)

/-- Writes a text under a key that has none. -/
def create (key value : String) : Action Unit := do
  if ← Action.contains .config key then Action.fail (.alreadyExists "config")
  else upsert key value

/-- Removes the text of a key, if it has one. -/
def delete (key : String) : Action Unit := do
  let _ ← Action.delete .config key
  return ()

end ControlPlane.ConfigItems
