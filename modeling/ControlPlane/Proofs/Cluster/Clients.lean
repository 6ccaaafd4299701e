import Mathlib.Logic.Function.Basic
import ControlPlane.Proofs.Http.KnownResponses
import ControlPlane.Proofs.Store.Runs

/-!
# Clients that share a cluster

Any number of clients ask one cluster for something, at any time.  What is known without
the rows is told at once.  Everything else needs a transaction: its client waits behind
those that came before, takes the writer slot when it is first and the slot is free, and
opens a transaction of its own.  Nothing but the slot keeps a second client from having a
transaction open beside it, and no rule looks at the slot once a transaction is open.

A call is carried out in parts, cut anywhere, and a client with a transaction of its own
makes one request after the other.  Between any two steps of a client the others may take
steps of theirs.  What happens is recorded as a list of events.
-/

namespace ControlPlane

/-- What a client sees of a call or a request. -/
inductive Seen where
  | outcome (exchange : Exchange Call.Answer)
  | response (response : Http.Response)

/-- What a client does with the transaction that it waits for. -/
inductive Work where
  /-- A call is served, and the client sees what it makes of the outcome. -/
  | serve (pending : Pending Seen)
  /-- The client makes requests as it likes, and ends the transaction. -/
  | own

/-- What a client asks for. -/
inductive Demand where
  | call (call : Call)
  | request (request : Http.Request)
  | transaction

namespace Demand

/-- What is seen of a call at once if it is refused, or else the work that it is. -/
def resolveCall (pending : Pending Seen) : Seen ⊕ Work :=
  match pending.call.refusal? with
  | some failure => .inl (pending.receive (.error failure))
  | none => .inr (.serve pending)

/-- What is known at once of a demand, or the work that needs a transaction. -/
def resolve (member : String) : Demand → Seen ⊕ Work
  | .call asked => resolveCall ⟨asked, fun outcome => .outcome ⟨asked, outcome⟩⟩
  | .request asked =>
    match asked.plan member with
    | .reply response => .inl (.response response)
    | .ask pending =>
      resolveCall ⟨pending.call, fun outcome => .response (pending.receive outcome)⟩
  | .transaction => .inr .own

variable {member : String} {pending : Pending Seen}

/-- A call that is refused is known at once. -/
theorem resolveCall_of_refused {failure : Failure}
    (refused : pending.call.refusal? = some failure) :
    resolveCall pending = .inl (pending.receive (.error failure)) := by
  rw [resolveCall, refused]

/-- So is a request whose response is known. -/
theorem resolve_of_isKnown {request : Http.Request} (known : (request.plan member).IsKnown) :
    ∃ response, (Demand.request request).resolve member = .inl (.response response) := by
  rcases known with ⟨response, planned⟩
  exact ⟨response, by rw [resolve, planned]⟩

theorem refusal?_of_resolveCall {asked : Pending Seen}
    (needs : resolveCall asked = .inr (.serve pending)) : pending.call.refusal? = none := by
  cases refused : asked.call.refusal? with
  | some failure =>
    rw [resolveCall_of_refused refused] at needs
    cases needs
  | none =>
    rw [resolveCall, refused] at needs
    cases needs
    exact refused

/-- No call that is refused waits. -/
theorem refusal?_of_resolve {demand : Demand}
    (needs : demand.resolve member = .inr (.serve pending)) : pending.call.refusal? = none := by
  cases demand with
  | call asked => exact refusal?_of_resolveCall needs
  | transaction => cases needs
  | request asked =>
    rw [resolve] at needs
    cases planned : asked.plan member with
    | reply response =>
      rw [planned] at needs
      cases needs
    | ask pending' =>
      rw [planned] at needs
      exact refusal?_of_resolveCall needs

end Demand

/-- How a client ends a transaction of its own. -/
inductive Ending where
  | committed (outcome : Except Failure Unit)
  | rolledBack
  | dropped

variable {κ ι : Type} {Answer : ι → Type}

/-! ## Clients and their transactions -/

/-- What the holder of a transaction is at. -/
inductive Task where
  /-- Serving a call, dated by a clock reading, of which something is left to do. -/
  | serving (pending : Pending Seen) (now : Instant) (left : Action pending.call.Answer)
  | own

/-- The work at its beginning. -/
def Work.task (member : String) (now : Instant) : Work → Task
  | serve pending => .serving pending now (pending.call.action member now)
  | own => .own

/-- Clients named by `κ` and what they share. -/
structure Clients (κ : Type) where
  member : String
  database : Database
  /-- The number of transactions that were opened. -/
  begun : Nat := 0
  /-- The client that has the writer slot. -/
  slot : Option κ := none
  /-- The clients that wait for the slot, the first one first. -/
  waiting : List (κ × Work) := []
  /-- The transaction that a client has open, and what it is at. -/
  holds : κ → Option (Transaction × Task) := fun _ => none

namespace Clients

/-- The clients before any of them asks for something. -/
def fresh (member : String) (database : Database) : Clients κ := { member, database }

/-- The cluster while no transaction is open. -/
def cluster (clients : Clients κ) : Cluster :=
  ⟨clients.member, ⟨clients.database, clients.begun, none⟩⟩

/-- A client that neither waits nor has a transaction. -/
def Idle (clients : Clients κ) (client : κ) : Prop :=
  client ∉ clients.waiting.map Prod.fst ∧ clients.holds client = none

variable [DecidableEq κ]

/-- A client goes on with its transaction. -/
def goOn (clients : Clients κ) (client : κ) (transaction : Transaction) (task : Task) :
    Clients κ :=
  { clients with holds := Function.update clients.holds client (some (transaction, task)) }

/-- The first client that waits opens a transaction. -/
def open_ (clients : Clients κ) (client : κ) (work : Work) (rest : List (κ × Work))
    (now : Instant) : Clients κ :=
  { clients.goOn client ⟨clients.begun + 1, .empty⟩ (work.task clients.member now) with
    begun := clients.begun + 1, slot := some client, waiting := rest }

/-- A client ends its transaction and gives back the slot. -/
def close (clients : Clients κ) (client : κ) (database : Database) : Clients κ :=
  { clients with
    database, slot := none, holds := Function.update clients.holds client none }

end Clients

/-! ## Events -/

/-- What happens at a step of a client. -/
inductive Event (κ : Type) (Answer : ι → Type) where
  /-- What is known is told at once. -/
  | answered (client : κ) (demand : Demand) (seen : Seen)
  | queued (client : κ) (demand : Demand) (work : Work)
  | began (client : κ) (id : Nat) (work : Work)
  /-- A part of a call was carried out. -/
  | worked (client : κ)
  | served (client : κ) (now : Instant) (seen : Seen)
  /-- A request was made inside a transaction of the client's own. -/
  | acted (client : κ) (exchange : Exchange Answer)
  | ended (client : κ) (ending : Ending)

namespace Event

/-- The client whose step it is. -/
def client : Event κ Answer → κ
  | answered client .. | queued client .. | began client .. | worked client | served client ..
  | acted client _ | ended client _ => client

/-- Whether something is learnt or done that needs the slot. -/
def inSlot : Event κ Answer → Bool
  | began .. | served .. | acted .. | ended .. => true
  | answered .. | queued .. | worked _ => false

/-- The client that begins to wait, and its work. -/
def queued? : Event κ Answer → Option (κ × Work)
  | queued client _ work => some (client, work)
  | _ => none

/-- The client that takes the slot, and its work. -/
def began? : Event κ Answer → Option (κ × Work)
  | began client _ work => some (client, work)
  | _ => none

/-- The number of the transaction that is opened. -/
def id? : Event κ Answer → Option Nat
  | began _ id _ => some id
  | _ => none

/-- What a client sees of the call that it waited for. -/
def seen? : Event κ Answer → Option Seen
  | served _ _ seen => some seen
  | _ => none

end Event

/-! ## Steps -/

section Steps

variable [DecidableEq κ] (act : (request : ι) → Action (Answer request))

/-- The steps of clients. -/
inductive Step : Clients κ → Event κ Answer → Clients κ → Prop
  | answer {clients : Clients κ} {client : κ} {demand : Demand} {seen : Seen} :
      demand.resolve clients.member = .inl seen →
      Step clients (.answered client demand seen) clients
  | queue {clients : Clients κ} {client : κ} {demand : Demand} {work : Work} :
      demand.resolve clients.member = .inr work → clients.Idle client →
      Step clients (.queued client demand work)
        { clients with waiting := clients.waiting ++ [(client, work)] }
  | begin {clients : Clients κ} {client : κ} {work : Work} {rest : List (κ × Work)}
      (now : Instant) :
      clients.slot = none → clients.waiting = (client, work) :: rest →
      Step clients (.began client (clients.begun + 1) work) (clients.open_ client work rest now)
  | part {clients : Clients κ} {client : κ} {transaction : Transaction} {pending : Pending Seen}
      {now : Instant} {β : Type} {first : Action β} {next : β → Action pending.call.Answer}
      {value : β} {writes : WriteSet} :
      clients.holds client = some (transaction, .serving pending now (first >>= next)) →
      first clients.database transaction.writes = (.ok value, writes) →
      Step clients (.worked client)
        (clients.goOn client { transaction with writes } (.serving pending now (next value)))
  | partFails {clients : Clients κ} {client : κ} {transaction : Transaction}
      {pending : Pending Seen} {now : Instant} {β : Type} {first : Action β}
      {next : β → Action pending.call.Answer} {failure : Failure} {writes : WriteSet} :
      clients.holds client = some (transaction, .serving pending now (first >>= next)) →
      first clients.database transaction.writes = (.error failure, writes) →
      Step clients (.worked client)
        (clients.goOn client { transaction with writes }
          (.serving pending now (Action.fail failure)))
  | finish {clients : Clients κ} {client : κ} {transaction : Transaction}
      {pending : Pending Seen} {now : Instant} {answer : pending.call.Answer} :
      clients.holds client = some (transaction, .serving pending now (pure answer)) →
      Step clients
        (.served client now
          (pending.receive (clients.database.settle transaction.writes answer).1))
        (clients.close client (clients.database.settle transaction.writes answer).2)
  | giveUp {clients : Clients κ} {client : κ} {transaction : Transaction}
      {pending : Pending Seen} {now : Instant} {failure : Failure} :
      clients.holds client = some (transaction, .serving pending now (Action.fail failure)) →
      Step clients (.served client now (pending.receive (.error failure)))
        (clients.close client clients.database)
  | ask {clients : Clients κ} {client : κ} {transaction : Transaction} (request : ι) :
      clients.holds client = some (transaction, .own) →
      Step clients
        (.acted client ⟨request, (act request clients.database transaction.writes).1⟩)
        (clients.goOn client
          { transaction with writes := (act request clients.database transaction.writes).2 } .own)
  | commit {clients : Clients κ} {client : κ} {transaction : Transaction} :
      clients.holds client = some (transaction, .own) →
      Step clients
        (.ended client (.committed (clients.database.settle transaction.writes ()).1))
        (clients.close client (clients.database.settle transaction.writes ()).2)
  | rollBack {clients : Clients κ} {client : κ} {transaction : Transaction} :
      clients.holds client = some (transaction, .own) →
      Step clients (.ended client .rolledBack) (clients.close client clients.database)
  | drop {clients : Clients κ} {client : κ} {transaction : Transaction} :
      clients.holds client = some (transaction, .own) →
      Step clients (.ended client .dropped) (clients.close client clients.database)

/-- What happens from some clients on, step by step. -/
inductive Steps (start : Clients κ) : List (Event κ Answer) → Clients κ → Prop
  | start : Steps start [] start
  | step {events : List (Event κ Answer)} {clients next : Clients κ} {event : Event κ Answer} :
      Steps start events clients → Step act clients event next →
      Steps start (events ++ [event]) next

/-! ## One after the other -/

/-- What happens where whatever is begun is ended before anything else begins: calls that
the cluster serves, and transactions in which requests are made.  A transaction that is
rolled back or dropped leaves nothing but its number. -/
inductive Serial (start : Cluster) : List (Event κ Answer) → Cluster → Prop
  | nothing : Serial start [] start
  | serve {events : List (Event κ Answer)} {cluster : Cluster} (client : κ)
      (pending : Pending Seen) (now : Instant) :
      Serial start events cluster →
      Serial start
        (events ++ [.began client (cluster.store.begun + 1) (.serve pending),
          .served client now (pending.receive (cluster.serve now pending.call).1)])
        (cluster.serve now pending.call).2
  | commit {events : List (Event κ Answer)} {cluster : Cluster} (client : κ)
      {transaction : Transaction} {opened ended closed : Store} {requests : List ι}
      {answers : List (Exchange Answer)} {outcome : Except Failure Unit} :
      Serial start events cluster →
      cluster.store.begin? = some (transaction, opened) →
      opened.insideAll? act requests = some (answers, ended) →
      ended.commit? = some (outcome, closed) →
      Serial start
        (events ++ ((.began client transaction.id .own :: answers.map (.acted client)) ++
          [.ended client (.committed outcome)]))
        { cluster with store := closed }
  | abandon {events : List (Event κ Answer)} {cluster : Cluster} (client : κ)
      {transaction : Transaction} {opened ended : Store} {requests : List ι}
      {answers : List (Exchange Answer)} {ending : Ending} :
      Serial start events cluster →
      cluster.store.begin? = some (transaction, opened) →
      opened.insideAll? act requests = some (answers, ended) →
      ending = .rolledBack ∨ ending = .dropped →
      Serial start
        (events ++ ((.began client transaction.id .own :: answers.map (.acted client)) ++
          [.ended client ending]))
        { cluster with store := { cluster.store with begun := cluster.store.begun + 1 } }

end Steps

variable [DecidableEq κ] {act : (request : ι) → Action (Answer request)}

/-- Steps after steps. -/
theorem Steps.trans {first middle last : Clients κ} {earlier later : List (Event κ Answer)}
    (begins : Steps act first earlier middle) (ends : Steps act middle later last) :
    Steps act first (earlier ++ later) last := by
  induction ends with
  | start =>
    rw [List.append_nil]
    exact begins
  | step _ step ih =>
    rw [← List.append_assoc]
    exact .step ih step

/-! ## Calls that nobody interrupts -/

/-- A call that is not refused has a transaction of its own. -/
theorem Cluster.serve_of_transact {cluster : Cluster} {now : Instant} {call : Call}
    {outcome : Except Failure call.Answer} {store : Store} (admitted : call.refusal? = none)
    (ends : cluster.store.transact (call.action cluster.member now) = (outcome, store)) :
    cluster.serve now call = (outcome, ⟨cluster.member, store⟩) := by
  rw [serve, admitted]
  simp only [ends]

/-- What is left of a transaction that was opened and ended. -/
theorem Clients.close_goOn_open_ {clients : Clients κ} {client : κ} {work : Work}
    {rest : List (κ × Work)} {now : Instant} (free : clients.slot = none)
    (unheld : clients.holds client = none) (transaction : Transaction) (task : Task)
    (database : Database) :
    ((clients.open_ client work rest now).goOn client transaction task).close client database =
      { clients with database, begun := clients.begun + 1, waiting := rest } := by
  have forgotten : Function.update clients.holds client none = clients.holds := by
    rw [← unheld]
    exact Function.update_eq_self client clients.holds
  simp only [close, goOn, open_, Function.update_idem, forgotten, free]

variable (act) in
/-- The first client that waits can have its call served in three steps, as the cluster
serves it. -/
theorem Steps.serveFirst {clients : Clients κ} {client : κ} {pending : Pending Seen}
    {rest : List (κ × Work)} (free : clients.slot = none)
    (first : clients.waiting = (client, .serve pending) :: rest)
    (unheld : clients.holds client = none) (admitted : pending.call.refusal? = none)
    (now : Instant) :
    let served := clients.cluster.serve now pending.call
    let next := { clients with
      database := served.2.store.database, begun := clients.begun + 1, waiting := rest }
    next.cluster = served.2 ∧
      Steps act clients
        [.began client (clients.begun + 1) (.serve pending), .worked client,
          .served client now (pending.receive served.1)] next := by
  intro served next
  have begun : Steps act clients [.began client (clients.begun + 1) (.serve pending)]
      (clients.open_ client (.serve pending) rest now) := Steps.start.step (.begin now free first)
  have holds : (clients.open_ client (.serve pending) rest now).holds client =
      some (⟨clients.begun + 1, .empty⟩, .serving pending now
        (pending.call.action clients.member now >>= pure)) := by
    rw [Action.bind_pure]
    exact Function.update_self _ _ _
  rcases acts : pending.call.action clients.member now clients.database .empty with
    ⟨failure | answer, writes⟩
  · have serves : served = (.error failure, _) :=
      Cluster.serve_of_transact admitted (Store.transact_of_failure acts)
    have ended := (begun.step (.partFails holds acts)).step (.giveUp (Function.update_self _ _ _))
    rw [Clients.close_goOn_open_ free unheld] at ended
    simp only [next, serves]
    exact ⟨rfl, ended⟩
  · have serves : served = ((clients.database.settle writes answer).1, _) :=
      Cluster.serve_of_transact admitted (Store.transact_of_answer acts)
    have ended := (begun.step (.part holds acts)).step (.finish (Function.update_self _ _ _))
    rw [Clients.close_goOn_open_ free unheld] at ended
    simp only [next, serves]
    exact ⟨rfl, ended⟩

/-- Clients whose calls are served one after the other see what the schedule would show
them, and leave the rows that it would leave. -/
theorem Steps.serveAll {clients : Clients κ} (free : clients.slot = none)
    {callers : List (κ × Pending Seen)}
    (waiting : clients.waiting = callers.map fun caller => (caller.1, .serve caller.2))
    (unheld : ∀ caller ∈ callers, clients.holds caller.1 = none)
    (admitted : ∀ caller ∈ callers, caller.2.call.refusal? = none) (clock : Nat → Instant)
    (acc : List Seen) :
    let served := Schedule.serveAll clock acc ⟨clients.cluster, []⟩ (callers.map Prod.snd)
    ∃ events after, Steps act clients events after ∧
      acc.reverse ++ events.filterMap Event.seen? = served.1 ∧
      after.cluster = served.2.cluster ∧ after.slot = none ∧ after.waiting = [] := by
  induction callers generalizing clients acc with
  | nil => exact ⟨[], clients, .start, List.append_nil _, rfl, free, waiting⟩
  | cons caller rest ih =>
    rcases caller with ⟨client, pending⟩
    let now := clock (clients.begun + 1)
    let served := clients.cluster.serve now pending.call
    let next : Clients κ := { clients with
      database := served.2.store.database, begun := clients.begun + 1
      waiting := rest.map fun caller => (caller.1, .serve caller.2) }
    have first := Steps.serveFirst act free waiting (unheld _ List.mem_cons_self)
      (admitted _ List.mem_cons_self) now
    have stillFree : next.slot = none := free
    have unheldRest : ∀ caller ∈ rest, next.holds caller.1 = none := fun caller waits =>
      unheld caller (List.mem_cons_of_mem _ waits)
    rcases ih stillFree rfl unheldRest
      (fun caller waits => admitted caller (List.mem_cons_of_mem _ waits))
      (pending.receive served.1 :: acc) with ⟨events, after, later, seen, same, ended⟩
    rw [first.1] at seen same
    refine ⟨_, after, first.2.trans later, ?_, same, ended⟩
    rw [List.reverse_cons, List.append_assoc] at seen
    rw [List.filterMap_append]
    exact seen

/-- Letting the queue of a schedule run empty is one way for clients to take their steps. -/
theorem Steps.drain {clients : Clients κ} (free : clients.slot = none)
    {callers : List (κ × Pending Seen)}
    (waiting : clients.waiting = callers.map fun caller => (caller.1, .serve caller.2))
    (unheld : ∀ caller ∈ callers, clients.holds caller.1 = none)
    (admitted : ∀ caller ∈ callers, caller.2.call.refusal? = none) (clock : Nat → Instant) :
    let drained := Schedule.drain ⟨clients.cluster, callers.map Prod.snd⟩ clock
    ∃ events after, Steps act clients events after ∧
      events.filterMap Event.seen? = drained.1 ∧ after.cluster = drained.2.cluster :=
  let ⟨events, after, run, seen, same, _⟩ :=
    Steps.serveAll free waiting unheld admitted clock []
  ⟨events, after, run, seen, same⟩

end ControlPlane
