import ControlPlane.Records.Lock
import ControlPlane.Registry.ConfigItems

/-!
# Deployment plans

A plan has at most one state document and at most one lock.  Both are
configuration items, told apart by the start of their keys.

* A lock is taken if the plan has none.  Its holder is told that it has it already,
  anyone else that there is a conflict.
* A lock is released by its holder; releasing a plan without a lock does nothing.
* A state is replaced by whoever names the identifier of the lock that the plan has.
* A state is deleted whether or not the plan has a lock.

A refusal carries the lock that stands, or a blank one where a state was to be
written without any.
-/

namespace ControlPlane.Plans

/-- The start of the keys of states. -/
def stateStart : String := "tfstate-"

/-- The start of the keys of locks. -/
def lockStart : String := "tflock-"

/-- The key of a plan's state. -/
def stateKey (plan : String) : String := stateStart ++ plan

/-- The key of a plan's lock. -/
def lockKey (plan : String) : String := lockStart ++ plan

/-! ## Locks as texts -/

/-- The lock that a client sends. -/
def decodeLock (text : Bytes) : Except Failure Lock :=
  (Lock.decode text).mapError fun problem => .invalidArgument (.lockBody problem)

/-- The lock that is stored for a plan. -/
def storedLock? (plan : String) : Action (Option Lock) := do
  match ← ConfigItems.get? (lockKey plan) with
  | some text =>
    match Lock.decode (Utf8.encode text) with
    | .ok lock => return some lock
    | .error problem => Action.fail (.internal (.lock plan problem))
  | none => return none

/-! ## Names of plans -/

/-- A key without its start. -/
def dropStart (start key : String) : String :=
  String.ofList (key.toList.drop start.length)

/-- The names that follow a start of keys. -/
def plansWith (start : String) : Action (List String) := do
  return (← ConfigItems.keys start).map (dropStart start)

/-- The plans with a state, in ascending order. -/
def listStates : Action (List String) := plansWith stateStart

/-- The plans with a lock, in ascending order. -/
def listLocks : Action (List String) := plansWith lockStart

/-! ## States -/

/-- The state of a plan. -/
def getState (plan : String) : Action String := do
  match ← ConfigItems.get? (stateKey plan) with
  | some state => return state
  | none => Action.fail ConfigItems.notFound

/-- Replaces the state of a plan for the holder of its lock. -/
def putState (plan lockId state : String) : Action Unit := do
  match ← storedLock? plan with
  | some lock =>
    if lock.id = lockId then ConfigItems.upsert (stateKey plan) state
    else Action.fail (.lockConflict lock)
  | none => Action.fail (.lockConflict .blank)

/-- Deletes the state of a plan. -/
def deleteState (plan : String) : Action Unit := do
  match ← ConfigItems.get? (stateKey plan) with
  | some _ => ConfigItems.delete (stateKey plan)
  | none => Action.fail ConfigItems.notFound

/-! ## Locks -/

/-- The lock of a plan. -/
def getLock (plan : String) : Action Lock := do
  match ← storedLock? plan with
  | some lock => return lock
  | none => Action.fail ConfigItems.notFound

/-- Takes the lock of a plan. -/
def lock (plan : String) (requested : Lock) : Action Unit := do
  match ← storedLock? plan with
  | none => ConfigItems.upsert (lockKey plan) requested.text
  | some held =>
    if held.sameHolder requested then Action.fail (.locked .sameId held)
    else Action.fail (.lockConflict held)

/-- Releases the lock of a plan. -/
def unlock (plan : String) (requested : Lock) : Action Unit := do
  match ← storedLock? plan with
  | none => return ()
  | some held =>
    if held.sameHolder requested then ConfigItems.delete (lockKey plan)
    else Action.fail (.lockConflict held)

end ControlPlane.Plans
