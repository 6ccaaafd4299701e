import ControlPlane.Records.JujuUser
import ControlPlane.Store.Action

/-!
# The registry of Juju users

A row of the table `jujuuser` holds the registration token of the user that is its
key.
-/

namespace ControlPlane.JujuUsers

/-- How rows are stored. -/
def rowCodec : Codec String := Codec.text

/-- There is no such user. -/
def notFound : Failure := .notFound "JujuUser"

/-- The users that some stored values stand for. -/
def decodeRows (acc : List JujuUser) : List (String × Bytes) → Except Failure (List JujuUser)
  | [] => .ok acc.reverse
  | (username, bytes) :: rest =>
    match rowCodec.read? bytes with
    | none => .error (.storage .undecodableRow)
    | some token => decodeRows (⟨username, token⟩ :: acc) rest

/-- All users, in ascending order of names. -/
def list : Action (List JujuUser) := do
  Action.ofExcept (decodeRows [] (← Action.scan .jujuUser ""))

/-- A user. -/
def get (username : String) : Action JujuUser := do
  match ← Action.get .jujuUser username with
  | some bytes => return ⟨username, ← Action.decodeRow rowCodec bytes⟩
  | none => Action.fail notFound

/-- Adds a user. -/
def create (username token : String) : Action Unit := do
  if username = "" then Action.fail (.invalidArgument .emptyUsername)
  else if ← Action.contains .jujuUser username then Action.fail (.alreadyExists "jujuuser")
  else Action.put .jujuUser username (rowCodec.encode token)

/-- Removes a user. -/
def delete (username : String) : Action Unit := do
  if ← Action.delete .jujuUser username then return ()
  else Action.fail notFound

end ControlPlane.JujuUsers
