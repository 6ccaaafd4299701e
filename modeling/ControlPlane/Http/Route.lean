import ControlPlane.Http.Target

/-!
# Routes

Every route begins with the segment `1.0`.  An endpoint is named by its segments as
they are written; where an endpoint has a parameter, it is one more segment, which
is not empty.  Endpoints differ in the methods that they serve, and `HEAD` is
served wherever `GET` is.
-/

namespace ControlPlane.Http

/-- A method of a request that some endpoint serves. -/
inductive Method where
  | get
  | put
  | post
  | delete
  deriving DecidableEq, Repr

/-- The name of a method. -/
def Method.name : Method → String
  | .get => "GET"
  | .put => "PUT"
  | .post => "POST"
  | .delete => "DELETE"

/-- What a request is about. -/
inductive Endpoint where
  | health
  | configItems
  | configItem
  | nodes
  | node
  | manifests
  | manifest
  | jujuUsers
  | jujuUser
  | states
  | state
  | locks
  | lock
  | unlock
  deriving DecidableEq, Repr

namespace Endpoint

/-- The endpoint of a fixed segment. -/
def ofSegment? (segment : String) : Option Endpoint :=
  match segment with
  | "health" => some .health
  | "config" => some .configItems
  | "nodes" => some .nodes
  | "manifests" => some .manifests
  | "jujuusers" => some .jujuUsers
  | "terraformstate" => some .states
  | "terraformlock" => some .locks
  | _ => none

/-- The endpoint of a fixed segment that a parameter follows. -/
def withParameter? (segment : String) : Option Endpoint :=
  match segment with
  | "config" => some .configItem
  | "nodes" => some .node
  | "manifests" => some .manifest
  | "jujuusers" => some .jujuUser
  | "terraformstate" => some .state
  | "terraformlock" => some .lock
  | "terraformunlock" => some .unlock
  | _ => none

/-- The name of the parameter. -/
def parameterName : Endpoint → String
  | configItem => "key"
  | manifest => "manifestid"
  | _ => "name"

/-- The methods that an endpoint serves, in alphabetical order. -/
def methods : Endpoint → List Method
  | health | configItems | states | locks => [.get]
  | nodes | manifests | jujuUsers => [.get, .post]
  | configItem | node | state => [.delete, .get, .put]
  | manifest | jujuUser => [.delete, .get]
  | lock => [.get, .put]
  | unlock => [.put]

/-- The names of the methods that a client may use, in alphabetical order. -/
def allowed (endpoint : Endpoint) : String :=
  ",".intercalate <| endpoint.methods.flatMap fun method =>
    if method = .get then ["GET", "HEAD"] else [method.name]

/-- The method that serves requests of a name: the one of that name, or `GET` for
`HEAD`. -/
def method? (endpoint : Endpoint) (name : String) : Option Method :=
  endpoint.methods.find? fun method => method.name == name || (method = .get && name == "HEAD")

end Endpoint

/-- An endpoint and its parameter, still percent-encoded. -/
structure Route where
  endpoint : Endpoint
  parameter : List Char := []
  deriving DecidableEq, Repr

/-- The route of a path. -/
def Route.ofPath? (path : List Char) : Option Route :=
  match Text.splitAll '/' path with
  | [[], root, segment] =>
    if String.ofList root = "1.0" then
      (Endpoint.ofSegment? (String.ofList segment)).map fun endpoint => ⟨endpoint, []⟩
    else none
  | [[], root, segment, parameter] =>
    if String.ofList root = "1.0" ∧ parameter ≠ [] then
      (Endpoint.withParameter? (String.ofList segment)).map fun endpoint => ⟨endpoint, parameter⟩
    else none
  | _ => none

end ControlPlane.Http
