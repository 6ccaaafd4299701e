import ControlPlane.Proofs.Store.Footprint
import ControlPlane.Store.Store

/-!
# Runs inside one transaction

A client of a transaction makes requests one after the other and takes each answer
before the next request; a failed request does not end the transaction.  A rule says
what an abstract machine may answer to a single request.  Where every request keeps
to the rule, whole runs do, and a rule with one answer to each request has one run
for each list of requests.
-/

namespace ControlPlane

variable {ι σ : Type} {Answer : ι → Type}

/-- A request and how it ended. -/
structure Exchange (Answer : ι → Type) where
  request : ι
  outcome : Except Failure (Answer request)

/-- Makes requests one after the other through the staged writes. -/
def exchanges (act : (request : ι) → Action (Answer request)) (database : Database) :
    WriteSet → List ι → List (Exchange Answer) × WriteSet
  | writes, [] => ([], writes)
  | writes, request :: rest =>
    let (outcome, writes) := act request database writes
    let (later, writes) := exchanges act database writes rest
    (⟨request, outcome⟩ :: later, writes)

/-- A run with one request more. -/
theorem exchanges_concat {act : (request : ι) → Action (Answer request)} {database : Database}
    {writes middle : WriteSet} {requests : List ι} {answers : List (Exchange Answer)}
    (run : exchanges act database writes requests = (answers, middle)) (request : ι) :
    exchanges act database writes (requests ++ [request]) =
      (answers ++ [⟨request, (act request database middle).1⟩],
        (act request database middle).2) := by
  induction requests generalizing writes answers with
  | nil =>
    cases run
    rfl
  | cons head rest ih =>
    cases run
    have later := ih rfl
    simp only [List.cons_append, exchanges, later]

/-- A run stays in the keys that its requests stay in. -/
theorem exchanges_outside {act : (request : ι) → Action (Answer request)}
    {part : Table → String → Prop} {requests : List ι}
    (stays : ∀ request ∈ requests, (act request).StaysIn part) (database : Database)
    (writes : WriteSet) {table : Table} {key : String} (outside : ¬part table key) :
    (exchanges act database writes requests).2.get? table key = writes.get? table key := by
  induction requests generalizing writes with
  | nil => rfl
  | cons request rest ih =>
    have later := ih (fun other member => stays other (List.mem_cons_of_mem _ member))
      (act request database writes).2
    exact later.trans (stays request List.mem_cons_self database writes table key outside)

namespace Store

/-- Makes requests one after the other inside the open transaction, if there is one. -/
def insideAll? (act : (request : ι) → Action (Answer request)) (store : Store) :
    List ι → Option (List (Exchange Answer) × Store)
  | [] => some ([], store)
  | request :: rest => do
    let (outcome, store) ← store.inside? (act request)
    let (later, store) ← insideAll? act store rest
    return (⟨request, outcome⟩ :: later, store)

/-- Requests inside a transaction change its staged writes and nothing else. -/
theorem insideAll?_eq (act : (request : ι) → Action (Answer request)) {store : Store}
    {transaction : Transaction} (current : store.current = some transaction)
    (requests : List ι) :
    store.insideAll? act requests =
      let run := exchanges act store.database transaction.writes requests
      some (run.1, { store with current := some { transaction with writes := run.2 } }) := by
  induction requests generalizing store transaction with
  | nil =>
    rcases store with ⟨database, begun, _⟩
    cases current
    rfl
  | cons request rest ih =>
    rw [insideAll?, inside?, current]
    simp only [Option.bind_eq_bind, Option.bind_some]
    rw [ih rfl]
    rfl

end Store

/-! ## Parts of actions -/

namespace Action

variable {α β : Type} {first : Action β} {next : β → Action α} {database : Database}
  {writes writes' : WriteSet}

/-- What is left after a part that answers. -/
theorem bind_of_ok {value : β} (acts : first database writes = (.ok value, writes')) :
    (first >>= next) database writes = next value database writes' := by
  rw [bind_apply, acts]

/-- A part that fails leaves nothing but the failure. -/
theorem bind_of_error {failure : Failure}
    (acts : first database writes = (.error failure, writes')) :
    (first >>= next) database writes = (.error failure, writes') := by
  rw [bind_apply, acts]

@[simp]
theorem bind_pure (action : Action α) : (action >>= pure) = action := by
  funext database writes
  rw [bind_apply]
  rcases action database writes with ⟨failure | value, writes⟩ <;> rfl

end Action

/-! ## How transactions end -/

/-- The outcome of an answer whose writes are committed, and the rows after it. -/
def Database.settle {α : Type} (database : Database) (writes : WriteSet) (answer : α) :
    Except Failure α × Database :=
  match database.apply writes with
  | .ok next => (.ok answer, next)
  | .error fault => (.error (.storage fault), database)

namespace Store

variable {α : Type} {database : Database} {number : Nat} {transaction : Transaction}

/-- How a transaction of its own ends when its action answers. -/
theorem transact_of_answer {action : Action α} {answer : α} {writes : WriteSet}
    (acts : action database .empty = (.ok answer, writes)) :
    transact ⟨database, number, none⟩ action =
      ((database.settle writes answer).1,
        ⟨(database.settle writes answer).2, number + 1, none⟩) := by
  rw [transact]
  simp only [acts, Database.settle]
  cases database.apply writes <;> rfl

/-- How a transaction of its own ends when its action fails. -/
theorem transact_of_failure {action : Action α} {failure : Failure} {writes : WriteSet}
    (acts : action database .empty = (.error failure, writes)) :
    transact ⟨database, number, none⟩ action =
      (.error failure, ⟨database, number + 1, none⟩) := by
  rw [transact]
  simp only [acts]

/-- How an open transaction ends when it is committed. -/
theorem commit?_eq_settle :
    commit? ⟨database, number, some transaction⟩ =
      some ((database.settle transaction.writes ()).1,
        ⟨(database.settle transaction.writes ()).2, number, none⟩) := by
  rw [commit?]
  simp only [Database.settle]
  cases database.apply transaction.writes <;> rfl

end Store

/-! ## Rules -/

/-- What a machine may do on a request: the state before, the outcome, and the state
after. -/
abbrev Rule (σ : Type) (Answer : ι → Type) : Type :=
  σ → (request : ι) → Except Failure (Answer request) → σ → Prop

/-- The rule leaves no choice of the outcome, nor of the state after it. -/
def Rule.Settled (rule : Rule σ Answer) : Prop :=
  ∀ ⦃before request outcome after outcome' after'⦄, rule before request outcome after →
    rule before request outcome' after' → outcome = outcome' ∧ after = after'

/-- The runs of a machine that keeps to a rule. -/
inductive Follows (rule : Rule σ Answer) : σ → List (Exchange Answer) → σ → Prop
  | done (state : σ) : Follows rule state [] state
  | next {before middle after : σ} {request : ι} {outcome : Except Failure (Answer request)}
      {later : List (Exchange Answer)} :
      rule before request outcome middle → Follows rule middle later after →
      Follows rule before (⟨request, outcome⟩ :: later) after

/-- A run may be cut at any place. -/
theorem Follows.cut {rule : Rule σ Answer} {before after : σ}
    {earlier later : List (Exchange Answer)} (run : Follows rule before (earlier ++ later) after) :
    ∃ middle, Follows rule before earlier middle ∧ Follows rule middle later after := by
  induction earlier generalizing before with
  | nil => exact ⟨before, .done before, run⟩
  | cons exchange rest ih =>
    cases run with
    | next kept others =>
      rcases ih others with ⟨middle, first, second⟩
      exact ⟨middle, .next kept first, second⟩

/-- What every exchange of a run preserves, the run preserves. -/
theorem Follows.preserves {rule : Rule σ Answer} {holds : σ → Prop} {before after : σ}
    {history : List (Exchange Answer)} (run : Follows rule before history after)
    (step : ∀ exchange ∈ history, ∀ before after,
      rule before exchange.request exchange.outcome after → holds before → holds after)
    (held : holds before) : holds after := by
  induction run with
  | done => exact held
  | next kept later ih =>
    exact ih (fun exchange member => step exchange (List.mem_cons_of_mem _ member))
      (step _ List.mem_cons_self _ _ kept held)

/-- Where single requests keep to a rule, as long as the staged writes are sound, and
leave them sound, runs do. -/
theorem follows_exchanges {rule : Rule σ Answer} {act : (request : ι) → Action (Answer request)}
    {database : Database} {view : WriteSet → σ} {Sound : WriteSet → Prop} {Allowed : ι → Prop}
    (step : ∀ request, Allowed request → ∀ writes, Sound writes →
      rule (view writes) request (act request database writes).1
        (view (act request database writes).2) ∧ Sound (act request database writes).2)
    {requests : List ι} (allowed : ∀ request ∈ requests, Allowed request)
    {writes : WriteSet} (sound : Sound writes) :
    Follows rule (view writes) (exchanges act database writes requests).1
        (view (exchanges act database writes requests).2) ∧
      Sound (exchanges act database writes requests).2 := by
  induction requests generalizing writes with
  | nil => exact ⟨.done _, sound⟩
  | cons request rest ih =>
    rcases step request (allowed request List.mem_cons_self) writes sound with ⟨kept, sound'⟩
    rcases ih (fun other member => allowed other (List.mem_cons_of_mem _ member)) sound' with
      ⟨later, soundAfter⟩
    exact ⟨.next kept later, soundAfter⟩

/-- A run answers its requests in order. -/
theorem requests_exchanges (act : (request : ι) → Action (Answer request))
    (database : Database) (writes : WriteSet) (requests : List ι) :
    (exchanges act database writes requests).1.map Exchange.request = requests := by
  induction requests generalizing writes with
  | nil => rfl
  | cons request rest ih => exact congrArg (request :: ·) (ih _)

/-- A rule that settles single requests settles runs. -/
theorem Follows.unique {rule : Rule σ Answer} (settled : rule.Settled)
    {before after after' : σ} {history history' : List (Exchange Answer)}
    (run : Follows rule before history after) (run' : Follows rule before history' after')
    (same : history.map Exchange.request = history'.map Exchange.request) :
    history = history' ∧ after = after' := by
  induction run generalizing history' with
  | done state =>
    cases run' with
    | done => exact ⟨rfl, rfl⟩
    | next => cases same
  | next kept later ih =>
    cases run' with
    | done => cases same
    | next kept' later' =>
      rcases List.cons.inj same with ⟨sameRequest, sameRest⟩
      cases sameRequest
      rcases settled kept kept' with ⟨rfl, rfl⟩
      rcases ih later' sameRest with ⟨rfl, rfl⟩
      exact ⟨rfl, rfl⟩

end ControlPlane
