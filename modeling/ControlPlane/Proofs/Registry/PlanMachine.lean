import Mathlib.Data.List.Sort
import ControlPlane.Proofs.Registry.PlanRows
import ControlPlane.Proofs.Store.Runs

/-!
# Deployment plans as a machine

The machine knows of each plan whether it is locked, by whom, and which state it has,
and answers requests from this alone.  A row that does not read as a lock is a lock
of its own kind: it stops every request that asks for the lock and stays.

Whatever texts the configuration items are, a transaction answers requests about plans
as the machine does, and the rows that it sees stand for the plans of the machine.
-/

namespace ControlPlane.Plans

/-! ## The machine -/

/-- What is known of a plan. -/
structure Standing where
  lock : LockRow
  state : Option String

/-- What is known of every plan. -/
abbrev Machine := String → Standing

namespace Machine

/-- Replaces the lock of a plan. -/
def setLock (machine : Machine) (plan : String) (lock : LockRow) : Machine := fun other =>
  if other = plan then { machine other with lock } else machine other

/-- Replaces the state of a plan. -/
def setState (machine : Machine) (plan : String) (state : Option String) : Machine := fun other =>
  if other = plan then { machine other with state } else machine other

end Machine

/-- What can be asked about plans. -/
inductive Request where
  | lock (plan : String) (requested : Lock)
  | unlock (plan : String) (requested : Lock)
  | putState (plan lockId state : String)
  | deleteState (plan : String)
  | getLock (plan : String)
  | getState (plan : String)
  | listLocks
  | listStates
  deriving DecidableEq

namespace Request

/-- The answers to a request. -/
abbrev Answer : Request → Type
  | lock .. | unlock .. | putState .. | deleteState _ => Unit
  | getLock _ => Lock
  | getState _ => String
  | listLocks | listStates => List String

/-- What a transaction does on a request. -/
def action : (request : Request) → Action request.Answer
  | lock plan requested => Plans.lock plan requested
  | unlock plan requested => Plans.unlock plan requested
  | putState plan lockId state => Plans.putState plan lockId state
  | deleteState plan => Plans.deleteState plan
  | getLock plan => Plans.getLock plan
  | getState plan => Plans.getState plan
  | listLocks => Plans.listLocks
  | listStates => Plans.listStates

/-- The key, or the start of keys, that is looked up first. -/
def key : Request → String
  | lock plan _ | unlock plan _ | putState plan _ _ | getLock plan => lockKey plan
  | deleteState plan | getState plan => stateKey plan
  | listLocks => lockStart
  | listStates => stateStart

/-- Locks are asked for as clients send them. -/
def Sent : Request → Prop
  | lock _ requested => ∃ document, decodeLock document = .ok requested
  | _ => True

/-- The keys that a request may write under. -/
def part : Request → Table → String → Prop
  | lock plan _ | unlock plan _ => Action.onlyRow .config (lockKey plan)
  | putState plan _ _ | deleteState plan => Action.onlyRow .config (stateKey plan)
  | getLock _ | getState _ | listLocks | listStates => fun _ _ => False

end Request

/-- The plans are listed, each of them once, in ascending order. -/
structure Lists (wanted : String → Prop) (plans : List String) : Prop where
  ascending : plans.Pairwise (· < ·)
  mem_iff : ∀ plan, plan ∈ plans ↔ wanted plan

/-- How the machine answers. -/
def Answers : Rule Machine Request.Answer
  | before, .lock plan requested, outcome, after =>
    match (before plan).lock with
    | .absent => outcome = .ok () ∧ after = before.setLock plan (.held requested)
    | .held held => outcome = .error (refusal held requested) ∧ after = before
    | .corrupt problem => outcome = .error (.internal (.lock plan problem)) ∧ after = before
  | before, .unlock plan requested, outcome, after =>
    match (before plan).lock with
    | .absent => outcome = .ok () ∧ after = before
    | .held held =>
      if held.sameHolder requested then outcome = .ok () ∧ after = before.setLock plan .absent
      else outcome = .error (.lockConflict held) ∧ after = before
    | .corrupt problem => outcome = .error (.internal (.lock plan problem)) ∧ after = before
  | before, .putState plan lockId state, outcome, after =>
    match (before plan).lock with
    | .absent => outcome = .error (.lockConflict .blank) ∧ after = before
    | .held held =>
      if held.id = lockId then outcome = .ok () ∧ after = before.setState plan (some state)
      else outcome = .error (.lockConflict held) ∧ after = before
    | .corrupt problem => outcome = .error (.internal (.lock plan problem)) ∧ after = before
  | before, .deleteState plan, outcome, after =>
    match (before plan).state with
    | none => outcome = .error ConfigItems.notFound ∧ after = before
    | some _ => outcome = .ok () ∧ after = before.setState plan none
  | before, .getLock plan, outcome, after =>
    match (before plan).lock with
    | .absent => outcome = .error ConfigItems.notFound ∧ after = before
    | .held held => outcome = .ok held ∧ after = before
    | .corrupt problem => outcome = .error (.internal (.lock plan problem)) ∧ after = before
  | before, .getState plan, outcome, after =>
    match (before plan).state with
    | none => outcome = .error ConfigItems.notFound ∧ after = before
    | some state => outcome = .ok state ∧ after = before
  | before, .listLocks, outcome, after =>
    (∃ plans, outcome = .ok plans ∧ Lists (fun plan => (before plan).lock ≠ .absent) plans) ∧
      after = before
  | before, .listStates, outcome, after =>
    (∃ plans, outcome = .ok plans ∧ Lists (fun plan => (before plan).state ≠ none) plans) ∧
      after = before

theorem Lists.unique {wanted : String → Prop} {plans plans' : List String}
    (lists : Lists wanted plans) (lists' : Lists wanted plans') : plans = plans' := by
  apply lists.ascending.eq_of_mem_iff lists'.ascending
  intro plan
  exact (lists.mem_iff plan).trans (lists'.mem_iff plan).symm

/-- The machine has no choice. -/
theorem answers_settled : Rule.Settled Answers := by
  intro before request outcome after outcome' after' kept kept'
  have agree {answer : Except Failure request.Answer} {machine : Machine}
      (one : outcome = answer ∧ after = machine) (other : outcome' = answer ∧ after' = machine) :
      outcome = outcome' ∧ after = after' :=
    ⟨one.1.trans other.1.symm, one.2.trans other.2.symm⟩
  cases request with
  | lock plan requested | getLock plan =>
    simp only [Answers] at kept kept'
    cases stands : (before plan).lock <;> rw [stands] at kept kept' <;> exact agree kept kept'
  | unlock plan requested | putState plan lockId state =>
    simp only [Answers] at kept kept'
    cases stands : (before plan).lock with
    | absent | corrupt => rw [stands] at kept kept'; exact agree kept kept'
    | held held =>
      rw [stands] at kept kept'
      dsimp only at kept kept'
      split at kept
      · rename_i own
        rw [if_pos own] at kept'
        exact agree kept kept'
      · rename_i own
        rw [if_neg own] at kept'
        exact agree kept kept'
  | deleteState plan | getState plan =>
    simp only [Answers] at kept kept'
    cases stands : (before plan).state <;> rw [stands] at kept kept' <;> exact agree kept kept'
  | listLocks | listStates =>
    rcases kept with ⟨⟨plans, rfl, lists⟩, rfl⟩
    rcases kept' with ⟨⟨plans', rfl, lists'⟩, rfl⟩
    rw [lists.unique lists']
    exact ⟨rfl, rfl⟩

/-! ## Rows as a machine -/

/-- The plans that a transaction sees. -/
def machine (database : Database) (writes : WriteSet) : Machine := fun plan =>
  ⟨.ofText? (database.text? writes (lockKey plan)), database.text? writes (stateKey plan)⟩

variable {database : Database} {writes : WriteSet}

theorem machine_setLock {writes' : WriteSet} {plan : String} {text? : Option String}
    (changed : ∀ key, database.text? writes' key =
      if key = lockKey plan then text? else database.text? writes key) :
    machine database writes' = (machine database writes).setLock plan (.ofText? text?) := by
  funext other
  rw [Machine.setLock, machine, machine, changed, changed, if_neg (stateKey_ne_lockKey _ _)]
  by_cases same : other = plan
  · rw [if_pos same, if_pos (congrArg lockKey same)]
  · rw [if_neg same, if_neg fun equal => same (lockKey_injective equal)]

theorem machine_setState {writes' : WriteSet} {plan : String} {text? : Option String}
    (changed : ∀ key, database.text? writes' key =
      if key = stateKey plan then text? else database.text? writes key) :
    machine database writes' = (machine database writes).setState plan text? := by
  funext other
  rw [Machine.setState, machine, machine, changed, changed, if_neg (lockKey_ne_stateKey _ _)]
  by_cases same : other = plan
  · rw [if_pos same, if_pos (congrArg stateKey same)]
  · rw [if_neg same, if_neg fun equal => same (stateKey_injective equal)]

/-- The plans with a text behind a start of keys are listed. -/
theorem lists_plansWith (texts : database.HoldsTexts writes) {start : String}
    (canFind : database.medium.canFind start = true)
    (readable : database.unreadable.get .config = []) :
    ∃ plans, plansWith start database writes = (.ok plans, writes) ∧
      Lists (fun plan => database.text? writes (start ++ plan) ≠ none) plans := by
  rcases plansWith_apply canFind readable writes with ⟨plans, listed, ascending, mem_iff⟩
  refine ⟨plans, listed, ascending, ?_⟩
  intro plan
  rw [mem_iff, texts.value?_eq, Option.isSome_map, Option.ne_none_iff_isSome]

/-- A single request is answered as the machine answers it. -/
theorem answers_action (texts : database.HoldsTexts writes)
    (readable : database.unreadable.get .config = []) {request : Request} (sent : request.Sent)
    (canFind : database.medium.canFind request.key = true) :
    Answers (machine database writes) request (request.action database writes).1
        (machine database (request.action database writes).2) ∧
      database.HoldsTexts (request.action database writes).2 := by
  cases request with
  | lock plan requested =>
    rcases sent with ⟨document, sent⟩
    rw [Request.action, lock_apply (ConfigItems.reads_of_texts texts canFind), Answers, machine]
    cases stands : LockRow.ofText? (database.text? writes (lockKey plan)) with
    | absent =>
      refine ⟨⟨rfl, ?_⟩, texts.put _ _⟩
      rw [← ofText?_text sent]
      exact machine_setLock (Database.text?_put _ _)
    | held held => exact ⟨⟨rfl, rfl⟩, texts⟩
    | corrupt problem => exact ⟨⟨rfl, rfl⟩, texts⟩
  | unlock plan requested =>
    rw [Request.action, unlock_apply (ConfigItems.reads_of_texts texts canFind), Answers, machine]
    cases LockRow.ofText? (database.text? writes (lockKey plan)) with
    | absent => exact ⟨⟨rfl, rfl⟩, texts⟩
    | held held =>
      by_cases own : held.sameHolder requested = true
      · simp only [own, if_true]
        exact ⟨⟨trivial, machine_setLock (Database.text?_delete _)⟩, texts.delete _⟩
      · simp only [own]
        exact ⟨⟨rfl, rfl⟩, texts⟩
    | corrupt problem => exact ⟨⟨rfl, rfl⟩, texts⟩
  | putState plan lockId state =>
    rw [Request.action, putState_apply (ConfigItems.reads_of_texts texts canFind), Answers, machine]
    cases LockRow.ofText? (database.text? writes (lockKey plan)) with
    | absent => exact ⟨⟨rfl, rfl⟩, texts⟩
    | held held =>
      by_cases own : held.id = lockId
      · simp only [own, if_true]
        exact ⟨⟨trivial, machine_setState (Database.text?_put _ _)⟩, texts.put _ _⟩
      · simp only [own, if_false]
        exact ⟨⟨trivial, trivial⟩, texts⟩
    | corrupt problem => exact ⟨⟨rfl, rfl⟩, texts⟩
  | deleteState plan =>
    rw [Request.action, deleteState_apply (ConfigItems.reads_of_texts texts canFind), Answers,
      machine]
    cases database.text? writes (stateKey plan) with
    | none => exact ⟨⟨rfl, rfl⟩, texts⟩
    | some state => exact ⟨⟨rfl, machine_setState (Database.text?_delete _)⟩, texts.delete _⟩
  | getLock plan =>
    rw [Request.action, getLock_apply (ConfigItems.reads_of_texts texts canFind), Answers, machine]
    cases LockRow.ofText? (database.text? writes (lockKey plan)) <;>
      exact ⟨⟨rfl, rfl⟩, texts⟩
  | getState plan =>
    rw [Request.action, getState_apply (ConfigItems.reads_of_texts texts canFind), Answers, machine]
    cases database.text? writes (stateKey plan) <;> exact ⟨⟨rfl, rfl⟩, texts⟩
  | listLocks =>
    rcases lists_plansWith texts canFind readable with ⟨plans, listed, lists⟩
    refine ⟨⟨⟨plans, congrArg Prod.fst listed, lists.ascending, ?_⟩, ?_⟩, ?_⟩
    · intro plan
      rw [lists.mem_iff, ne_eq, ne_eq, machine, LockRow.ofText?_eq_absent]
      rfl
    · exact congrArg (machine database) (congrArg Prod.snd listed)
    · rw [show (Request.listLocks.action database writes).2 = writes from
        congrArg Prod.snd listed]
      exact texts
  | listStates =>
    rcases lists_plansWith texts canFind readable with ⟨plans, listed, lists⟩
    refine ⟨⟨⟨plans, congrArg Prod.fst listed, lists⟩, ?_⟩, ?_⟩
    · exact congrArg (machine database) (congrArg Prod.snd listed)
    · rw [show (Request.listStates.action database writes).2 = writes from
        congrArg Prod.snd listed]
      exact texts

/-- A request writes under its own keys only. -/
theorem staysIn_action (request : Request) : request.action.StaysIn request.part := by
  cases request with
  | lock plan requested => exact staysIn_lock plan requested
  | unlock plan requested => exact staysIn_unlock plan requested
  | putState plan lockId state => exact staysIn_putState plan lockId state
  | deleteState plan => exact staysIn_deleteState plan
  | getLock plan => exact (readsOnly_getLock plan).staysIn
  | getState plan => exact (readsOnly_getState plan).staysIn
  | listLocks => exact (readsOnly_plansWith lockStart).staysIn
  | listStates => exact (readsOnly_plansWith stateStart).staysIn

/-- A request whose key the medium cannot find fails as a whole. -/
theorem action_of_lost {request : Request} (lost : database.medium.canFind request.key = false)
    (unstaged : writes.get? .config request.key = none) :
    request.action database writes = (.error (.storage .taskFailed), writes) := by
  cases request with
  | lock plan _ | unlock plan _ | putState plan _ _ | getLock plan =>
    have failed : Action.get .config (lockKey plan) database writes =
        (.error (.storage .taskFailed), writes) := Action.get_of_lost lost unstaged
    simp only [Request.action, Plans.lock, Plans.unlock, Plans.putState, Plans.getLock,
      storedLock?, ConfigItems.get?, Action.bind_apply, failed]
  | deleteState plan | getState plan =>
    have failed : Action.get .config (stateKey plan) database writes =
        (.error (.storage .taskFailed), writes) := Action.get_of_lost lost unstaged
    simp only [Request.action, Plans.deleteState, Plans.getState, ConfigItems.get?,
      Action.bind_apply, failed]
  | listLocks | listStates =>
    -- The starts of the keys are short enough for every medium.
    cases medium : database.medium <;> rw [medium] at lost <;> exact absurd lost (by decide)

/-- Requests about plans are answered as the machine answers them, and in no other way,
whatever texts the configuration items are.  The items stay texts, no row changes but
those of plans that are written to, and after a commit the machine stands as the
requests have left it.

Locks are those that clients send, and the keys that are looked up are those that the
medium can find: all of them in memory.  A request with any other key fails and changes
nothing. -/
theorem requests_follow_machine (texts : database.HoldsTexts writes)
    (readable : database.unreadable.get .config = []) {requests : List Request}
    (sent : ∀ request ∈ requests, request.Sent)
    (canFind : ∀ request ∈ requests, database.medium.canFind request.key = true) :
    ∃ history after, exchanges Request.action database writes requests = (history, after) ∧
      (∀ history' final,
        Follows Answers (machine database writes) history' final ∧
            history'.map Exchange.request = requests ↔
          history' = history ∧ final = machine database after) ∧
      database.HoldsTexts after ∧
      (∀ table key, (∀ request ∈ requests, ¬request.part table key) →
        database.value? after table key = database.value? writes table key) ∧
      (∀ committed, database.apply after = .ok committed →
        machine committed .empty = machine database after) ∧
      ∀ request : Request, database.medium.canFind request.key = false →
        after.get? .config request.key = none →
        request.action database after = (.error (.storage .taskFailed), after) := by
  have allowed : ∀ request ∈ requests,
      request.Sent ∧ database.medium.canFind request.key = true :=
    fun request member => ⟨sent request member, canFind request member⟩
  rcases follows_exchanges
    (fun request allowed writes texts => answers_action texts readable allowed.1 allowed.2)
    allowed texts with ⟨follows, textsAfter⟩
  refine ⟨_, _, rfl, ?_, textsAfter, ?_, ?_, fun _ => action_of_lost⟩
  · intro history' final
    constructor
    · rintro ⟨follows', asked⟩
      apply follows'.unique answers_settled follows
      rw [asked, requests_exchanges]
    · rintro ⟨rfl, rfl⟩
      exact ⟨follows, requests_exchanges _ _ _ _⟩
  · intro table key outside
    have stays : ∀ request ∈ requests, request.action.StaysIn
        fun table key => ∃ request ∈ requests, request.part table key := by
      intro request member
      exact (staysIn_action request).mono fun _ _ inside => ⟨request, member, inside⟩
    apply Database.value?_congr
    apply exchanges_outside stays
    rintro ⟨request, member, inside⟩
    exact outside request member inside
  · intro committed applied
    funext plan
    rw [machine, machine, Database.text?, Database.text?, Database.value?_of_apply applied,
      Database.value?_of_apply applied]
    rfl

/-- One plan with a row that is no lock, and requests about it and another plan. -/
theorem requests_follow_machine_beside_corrupt_row :
    let rows := KeyMap.empty.insert (lockKey "dev") (Utf8.encode "oops")
    let database : Database := ⟨.memory, (Tables.const .empty).set .config rows, .const []⟩
    let requested : Lock := { id := "7", who := "ops" }
    let requests : List Request :=
      [.lock "prod" requested, .unlock "dev" requested, .putState "prod" "7" "s", .listLocks]
    database.HoldsTexts .empty ∧ database.unreadable.get .config = [] ∧
      (∀ request ∈ requests, request.Sent) ∧
      (∀ request ∈ requests, database.medium.canFind request.key = true) ∧
      ∃ history final, Follows Answers (machine database .empty) history final ∧
        history.map Exchange.request = requests := by
  intro rows database requested requests
  have texts : database.HoldsTexts .empty := by
    intro key value row
    rw [Database.value?_empty, Tables.get_set, if_pos rfl, KeyMap.get?_insert] at row
    split at row
    · exact ⟨"oops", (Option.some.inj row).symm⟩
    · cases row
  have sent : ∀ request ∈ requests, request.Sent := by
    have plain : requested.Dated := by
      intro time dated
      cases dated
    intro request member
    simp only [requests, List.mem_cons, List.not_mem_nil, or_false] at member
    rcases member with rfl | rfl | rfl | rfl
    · exact ⟨_, decodeLock_text plain⟩
    · trivial
    · trivial
    · trivial
  have canFind : ∀ request ∈ requests, database.medium.canFind request.key = true :=
    fun _ _ => rfl
  rcases requests_follow_machine texts rfl sent canFind with
    ⟨history, after, _, answers, _⟩
  exact ⟨texts, rfl, sent, canFind, history, _, (answers history _).2 ⟨rfl, rfl⟩⟩

end ControlPlane.Plans
