import ControlPlane.Cluster.Schedule
import ControlPlane.Http.Response
import ControlPlane.Http.Route

/-!
# Requests and what they ask of the cluster

A request is turned into a plan: a response that is known at once, or a call and
the response that its answer makes.  The path is looked at first, then the query,
then the body.
-/

namespace ControlPlane.Http

/-- A request. -/
structure Request where
  method : String
  target : String
  body : Bytes := []
  deriving DecidableEq, Repr

/-- What a request comes to. -/
inductive Plan where
  /-- The response is known. -/
  | reply (response : Response)
  /-- The response depends on the answer to a call. -/
  | ask (pending : Pending Response)

namespace Plan

/-- A call whose failures are sent in envelopes. -/
def call (call : Call) (answer : call.Answer → Response) : Plan :=
  .ask ⟨call, fun
    | .ok value => answer value
    | .error failure => .failure failure⟩

/-- A call about a deployment plan. -/
def planCall (call : Call) (answer : call.Answer → Response) : Plan :=
  .ask ⟨call, fun
    | .ok value => answer value
    | .error failure => .planFailure failure⟩

/-- The plan whose responses have no body. -/
def withoutBody : Plan → Plan
  | .reply response => .reply response.withoutBody
  | .ask pending => .ask ⟨pending.call, fun outcome => (pending.receive outcome).withoutBody⟩

end Plan

/-! ## Bodies -/

/-- The greatest number of bytes of a body. -/
def bodyLimit : Nat := 2097152

/-- Goes on with the bytes of the body. -/
def withBytes (body : Bytes) (next : Bytes → Plan) : Plan :=
  if bodyLimit < body.length then .reply .bodyTooLong else next body

/-- Goes on with the text of the body. -/
def withText (body : Bytes) (next : String → Plan) : Plan :=
  withBytes body fun body =>
    match Utf8.decode body with
    | .ok text => next text
    | .error fault => .reply (.bodyNotText fault)

/-- Goes on with the record in the body. -/
def withRecord {ρ : Type} (decode : Bytes → Except Json.Error ρ) (body : Bytes)
    (next : ρ → Plan) : Plan :=
  withBytes body fun body =>
    match decode body with
    | .ok record => next record
    | .error problem => .reply (.failure (.invalidArgument (.requestBody problem)))

/-- Goes on with the lock in the body. -/
def withLock (body : Bytes) (next : Lock → Plan) : Plan :=
  withText body fun text =>
    match Plans.decodeLock (Utf8.encode text) with
    | .ok lock => next lock
    | .error failure => .reply (.planFailure failure)

/-- Goes on with the parameter of a name in the query. -/
def withQuery (target : Target) (name : String) (next : Option String → Plan) : Plan :=
  match target.single? name with
  | .ok value => next value
  | .error () => .reply (.duplicateParameter name)

/-! ## Endpoints -/

/-- The document of a list of records. -/
def documents {ρ : Type} (document : ρ → Json.Document) (records : List ρ) : Json.Document :=
  .list (records.map document)

/-- The roles that a query asks for. -/
def wantedRoles (target : Target) : List String :=
  (target.parameters.filter fun parameter => parameter.1 == "role").map (·.2)

/-- The plan of a request to an endpoint without a parameter. -/
def planCollection (member : String) (target : Target) (body : Bytes) :
    Endpoint → Method → Plan
  | .health, _ => .reply (.sync (.object [("member", .text member)]))
  | .configItems, _ => withQuery target "prefix" fun start =>
    .call (.listConfigKeys (start.getD "")) fun keys => .sync (.texts keys)
  | .nodes, .post => withRecord Node.decode body fun node =>
    .call (.addNode node.name node.roles node.machineId node.systemId) fun _ => .done
  | .nodes, _ => .call (.listNodes (wantedRoles target)) fun nodes =>
    .sync (documents Node.document nodes)
  | .manifests, .post => withRecord NewManifest.decode body fun manifest =>
    .call (.addManifest manifest.id manifest.data) fun _ => .done
  | .manifests, _ => .call .listManifests fun manifests =>
    .sync (documents Manifest.document manifests)
  | .jujuUsers, .post => withRecord JujuUser.decode body fun user =>
    .call (.addJujuUser user.username user.token) fun _ => .done
  | .jujuUsers, _ => .call .listJujuUsers fun users => .sync (documents JujuUser.document users)
  | .states, _ => .call .listStates fun plans => .sync (.texts plans)
  | .locks, _ => .call .listLocks fun plans => .sync (.texts plans)
  | _, _ => .reply .notFound

/-- The plan of a request to an endpoint with a parameter. -/
def planItem (target : Target) (body : Bytes) (name : String) : Endpoint → Method → Plan
  | .configItem, .put => withText body fun value => .call (.putConfig name value) fun _ => .done
  | .configItem, .delete => .call (.deleteConfig name) fun _ => .done
  | .configItem, _ => .call (.getConfig name) fun value => .sync (.text value)
  | .node, .put => withRecord Node.decode body fun node =>
    .call (.updateNode name node.roles node.machineId node.systemId) fun _ => .done
  | .node, .delete => .call (.deleteNode name) fun _ => .done
  | .node, _ => .call (.getNode name) fun node => .sync node.document
  | .manifest, .delete => .call (.deleteManifest name) fun _ => .done
  | .manifest, _ => .call (.getManifest name) fun manifest => .sync manifest.document
  | .jujuUser, .delete => .call (.deleteJujuUser name) fun _ => .done
  | .jujuUser, _ => .call (.getJujuUser name) fun user => .sync user.document
  | .state, .put => withQuery target "ID" fun lockId => withText body fun state =>
    .planCall (.putState name (lockId.getD "") state) fun _ => .done
  | .state, .delete => .planCall (.deleteState name) fun _ => .done
  | .state, _ => .planCall (.getState name) fun state => .json 200 state
  | .lock, .put => withLock body fun lock => .planCall (.lockPlan name lock) fun _ => .done
  | .lock, _ => .planCall (.getLock name) fun lock => .json 200 (Json.quote lock.text)
  | .unlock, _ => withLock body fun lock => .planCall (.unlockPlan name lock) fun _ => .done
  | _, _ => .reply .notFound

/-- The plan of a request whose route and method are served. -/
def planRoute (member : String) (target : Target) (body : Bytes) (route : Route)
    (method : Method) : Plan :=
  if route.parameter = [] then planCollection member target body route.endpoint method
  else
    match percentDecodeText route.parameter with
    | .ok name => planItem target body name route.endpoint method
    | .error _ => .reply (.badParameter route.endpoint.parameterName)

/-- The plan of a request, for the member that serves it. -/
def Request.plan (request : Request) (member : String) : Plan :=
  let target := Target.ofText request.target
  match Route.ofPath? target.path with
  | none => .reply .notFound
  | some route =>
    match route.endpoint.method? request.method with
    | none => .reply (.methodNotAllowed route.endpoint.allowed)
    | some method =>
      let plan := planRoute member target request.body route method
      if request.method = "HEAD" then plan.withoutBody else plan

/-- Hands a request in.  A response that is known is given at once, whoever has the writer
slot; otherwise the request waits its turn like the call that it comes to. -/
def Request.submit (request : Request) (schedule : Schedule Response) (clock : Nat → Instant) :
    Option Response × Schedule Response :=
  match request.plan schedule.cluster.member with
  | .reply response => (some response, schedule)
  | .ask pending => schedule.submit clock pending

end ControlPlane.Http
