import ControlPlane.Cluster.Call

/-!
# Waiting for the writer slot

Clients share the one writer slot.  While it is taken, calls wait in a queue and
are served in the order in which they came.  The slot counts as taken while a
transaction is open, and also while calls wait, so that a later call never
overtakes an earlier one.  A call that is refused without a transaction does not
wait.

A waiting call comes with what its client makes of the answer.
-/

namespace ControlPlane

/-- A call and what its client makes of the answer. -/
structure Pending (ω : Type) where
  call : Call
  /-- What the client sees. -/
  receive : Except Failure call.Answer → ω

/-- The cluster and the calls that wait for its writer slot, the first one first. -/
structure Schedule (ω : Type) where
  cluster : Cluster
  waiting : List (Pending ω) := []

namespace Schedule

variable {ω : Type}

/-- Whether the writer slot can be taken at once. -/
def isFree (schedule : Schedule ω) : Bool :=
  schedule.cluster.store.current.isNone && schedule.waiting.isEmpty

/-- The clock reading for the transaction that begins next, where readings are given by
the number of the transaction. -/
def nextReading (schedule : Schedule ω) (clock : Nat → Instant) : Instant :=
  clock (schedule.cluster.store.begun + 1)

/-- Serves a request while the slot is free. -/
def serve (schedule : Schedule ω) (clock : Nat → Instant) (request : Pending ω) :
    ω × Schedule ω :=
  let (outcome, cluster) := schedule.cluster.serve (schedule.nextReading clock) request.call
  (request.receive outcome, { schedule with cluster })

/-- Hands in a request.  It is answered at once if it is refused or the slot is free,
and waits otherwise. -/
def submit (schedule : Schedule ω) (clock : Nat → Instant) (request : Pending ω) :
    Option ω × Schedule ω :=
  match request.call.refusal? with
  | some failure => (some (request.receive (.error failure)), schedule)
  | none =>
    if schedule.isFree then
      let (seen, schedule) := schedule.serve clock request
      (some seen, schedule)
    else (none, { schedule with waiting := schedule.waiting ++ [request] })

/-- Serves the given requests in turn, and lists what their clients see. -/
def serveAll (clock : Nat → Instant) (acc : List ω) (schedule : Schedule ω) :
    List (Pending ω) → List ω × Schedule ω
  | [] => (acc.reverse, schedule)
  | request :: rest =>
    let (seen, schedule) := schedule.serve clock request
    serveAll clock (seen :: acc) schedule rest

/-- Serves the waiting calls for as long as the slot is free. -/
def drain (schedule : Schedule ω) (clock : Nat → Instant) : List ω × Schedule ω :=
  match schedule.cluster.store.current with
  | some _ => ([], schedule)
  | none => serveAll clock [] { schedule with waiting := [] } schedule.waiting

/-- Begins a transaction if the slot is free. -/
def begin? (schedule : Schedule ω) : Option (Transaction × Schedule ω) :=
  if schedule.isFree then
    schedule.cluster.store.begin?.map fun (transaction, store) =>
      (transaction, { schedule with cluster := { schedule.cluster with store } })
  else none

end Schedule

end ControlPlane
