import ControlPlane.Json.Document
import ControlPlane.Json.Shape

/-!
# Juju users

A user of the deployment tool and the token that registers it.
-/

namespace ControlPlane

/-- A user and its registration token. -/
structure JujuUser where
  username : String
  token : String
  deriving DecidableEq, Repr

namespace JujuUser

/-- The fields of a written user. -/
def shape : Json.Shape JujuUser where
  name := "JujuUser"
  blank := ⟨"", ""⟩
  fields := [
    ⟨"username", .text, true, fun value user => { user with username := value }⟩,
    ⟨"token", .text, true, fun value user => { user with token := value }⟩]

/-- The user of a document. -/
def decode (document : Bytes) : Except Json.Error JujuUser :=
  shape.decode document

/-- The document of a user. -/
def document (user : JujuUser) : Json.Document :=
  .object [("username", .text user.username), ("token", .text user.token)]

/-- The written form of a user. -/
def text (user : JujuUser) : String := user.document.write

end JujuUser

end ControlPlane
