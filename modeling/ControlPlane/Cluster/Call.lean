import ControlPlane.Registry.JujuUsers
import ControlPlane.Registry.Manifests
import ControlPlane.Registry.Nodes
import ControlPlane.Registry.Plans
import ControlPlane.Store.Store

/-!
# Calls to the cluster

A call is what a client asks of the cluster; `Call.Answer` is the type of its
answer.  Most calls are one action.  The member that serves a call becomes the
owner of the nodes that it writes, and a manifest is dated by the clock reading
that the call is given.
-/

namespace ControlPlane

/-- A call to the cluster. -/
inductive Call where
  | getConfig (key : String)
  | listConfigKeys (start : String)
  | putConfig (key value : String)
  | deleteConfig (key : String)
  | listNodes (roles : List String)
  | getNode (name : String)
  | addNode (name : String) (roles : List String) (machineId : Int64) (systemId : String)
  | updateNode (name : String) (roles : List String) (machineId : Int64) (systemId : String)
  | deleteNode (name : String)
  | listManifests
  | getManifest (id : String)
  | addManifest (id data : String)
  | deleteManifest (id : String)
  | listJujuUsers
  | getJujuUser (username : String)
  | addJujuUser (username token : String)
  | deleteJujuUser (username : String)
  | listStates
  | getState (plan : String)
  | putState (plan lockId state : String)
  | deleteState (plan : String)
  | listLocks
  | getLock (plan : String)
  | lockPlan (plan : String) (requested : Lock)
  | unlockPlan (plan : String) (requested : Lock)
  deriving DecidableEq, Repr

namespace Call

/-- The answers to a call. -/
abbrev Answer : Call → Type
  | getConfig _ => String
  | listConfigKeys _ => List String
  | listNodes _ => List Node
  | getNode _ => Node
  | listManifests => List Manifest
  | getManifest _ => Manifest
  | listJujuUsers => List JujuUser
  | getJujuUser _ => JujuUser
  | listStates => List String
  | getState _ => String
  | listLocks => List String
  | getLock _ => Lock
  | putConfig .. | deleteConfig _ | addNode .. | updateNode .. | deleteNode _ | addManifest ..
  | deleteManifest _ | addJujuUser .. | deleteJujuUser _ | putState .. | deleteState _
  | lockPlan .. | unlockPlan .. => Unit

/-- The failure of a call that is refused before it takes the writer slot. -/
def refusal? : Call → Option Failure
  | putConfig key _ => if key = "" then some (.invalidArgument .emptyConfigKey) else none
  | _ => none

/-- What a call does inside its transaction. -/
def action (member : String) (now : Instant) : (call : Call) → Action call.Answer
  | getConfig key => ConfigItems.get key
  | listConfigKeys start => ConfigItems.keys start
  | putConfig key value => ConfigItems.upsert key value
  | deleteConfig key => do
    let _ ← ConfigItems.get key
    ConfigItems.delete key
  | listNodes roles => Nodes.list roles
  | getNode name => Nodes.get name
  | addNode name roles machineId systemId => Nodes.create member name roles machineId systemId
  | updateNode name roles machineId systemId =>
    Nodes.update member name roles machineId systemId
  | deleteNode name => Nodes.delete name
  | listManifests => Manifests.list
  | getManifest id => Manifests.get id
  | addManifest id data => Manifests.create id data now
  | deleteManifest id => Manifests.delete id
  | listJujuUsers => JujuUsers.list
  | getJujuUser username => JujuUsers.get username
  | addJujuUser username token => JujuUsers.create username token
  | deleteJujuUser username => JujuUsers.delete username
  | listStates => Plans.listStates
  | getState plan => Plans.getState plan
  | putState plan lockId state => Plans.putState plan lockId state
  | deleteState plan => Plans.deleteState plan
  | listLocks => Plans.listLocks
  | getLock plan => Plans.getLock plan
  | lockPlan plan requested => Plans.lock plan requested
  | unlockPlan plan requested => Plans.unlock plan requested

end Call

/-- A member of the cluster and its store. -/
structure Cluster where
  /-- The name of the member. -/
  member : String
  store : Store
  deriving DecidableEq

namespace Cluster

/-- A cluster without rows. -/
def empty (medium : Medium) (member : String) : Cluster := ⟨member, .empty medium⟩

/-- Serves a call while the writer slot is free: a refused one is answered at once,
any other has a transaction of its own. -/
def serve (cluster : Cluster) (now : Instant) (call : Call) :
    Except Failure call.Answer × Cluster :=
  match call.refusal? with
  | some failure => (.error failure, cluster)
  | none =>
    let (outcome, store) := cluster.store.transact (call.action cluster.member now)
    (outcome, { cluster with store })

end Cluster

end ControlPlane
