import ControlPlane.Proofs.Cluster.Clients
import ControlPlane.Proofs.Http.KnownResponses

/-!
# One after the other

Clients that share a cluster may take their steps in any order.  What they learn, and what
becomes of the rows, is nevertheless what it would be if each of them had come back only
after the one before it was done, in the order in which they took the writer slot.

Two invariants carry this.  The slot belongs to the one client that has a transaction open,
and those that wait have none.  What was done in the slot is done one after the other, up to
the transaction that is open, whose staged writes are those of a run from the rows that it
found.
-/

namespace ControlPlane

variable {κ ι : Type} {Answer : ι → Type} {act : (request : ι) → Action (Answer request)}
  {clients next : Clients κ} {client : κ} {event : Event κ Answer}
  {events : List (Event κ Answer)} {start : Cluster}

/-! ## Who has the slot -/

namespace Clients

/-- The slot belongs to the client that has a transaction open.  Those that wait have none,
and wait only once and for what is not refused. -/
structure Coherent (clients : Clients κ) : Prop where
  holder : ∀ client, clients.holds client ≠ none ↔ clients.slot = some client
  idle : ∀ entry ∈ clients.waiting, clients.holds entry.1 = none
  once : (clients.waiting.map Prod.fst).Nodup
  admitted : ∀ client pending, (client, .serve pending) ∈ clients.waiting →
    pending.call.refusal? = none

theorem Coherent.slot_of_holds (coherent : clients.Coherent) {held : Transaction × Task}
    (holds : clients.holds client = some held) : clients.slot = some client := by
  apply (coherent.holder client).1
  rw [holds]
  exact Option.some_ne_none held

theorem Coherent.queue (coherent : clients.Coherent) {demand : Demand} {work : Work}
    (needs : demand.resolve clients.member = .inr work) (idle : clients.Idle client) :
    ({ clients with waiting := clients.waiting ++ [(client, work)] } : Clients κ).Coherent where
  holder := coherent.holder
  idle := by
    intro entry waits
    rcases List.mem_append.1 waits with earlier | last
    · exact coherent.idle entry earlier
    · cases List.mem_singleton.1 last
      exact idle.2
  once := by
    rw [List.map_append]
    apply List.nodup_append.2
    refine ⟨coherent.once, List.pairwise_singleton _ _, ?_⟩
    rintro earlier waits last same rfl
    cases List.mem_singleton.1 same
    exact idle.1 waits
  admitted := by
    intro other pending waits
    rcases List.mem_append.1 waits with earlier | last
    · exact coherent.admitted other pending earlier
    · cases List.mem_singleton.1 last
      exact Demand.refusal?_of_resolve needs

variable [DecidableEq κ]

theorem Coherent.open_ (coherent : clients.Coherent) {work : Work} {rest : List (κ × Work)}
    (free : clients.slot = none) (first : clients.waiting = (client, work) :: rest)
    (now : Instant) : (clients.open_ client work rest now).Coherent where
  holder := by
    intro other
    have unheld := coherent.holder other
    rw [free] at unheld
    by_cases same : other = client
    · subst same
      simp [Clients.open_, goOn]
    · have different : client ≠ other := Ne.symm same
      simpa [Clients.open_, goOn, same, different] using unheld
  idle := by
    intro entry waits
    have others := coherent.once
    rw [first, List.map_cons, List.nodup_cons] at others
    have different : entry.1 ≠ client := by
      intro same
      exact others.1 (List.mem_map.2 ⟨entry, waits, same⟩)
    have unheld := coherent.idle entry (by rw [first]; exact List.mem_cons_of_mem _ waits)
    simpa [Clients.open_, goOn, different] using unheld
  once := by
    have others := coherent.once
    rw [first, List.map_cons] at others
    exact others.of_cons
  admitted := by
    intro other pending waits
    apply coherent.admitted other pending
    rw [first]
    exact List.mem_cons_of_mem _ waits

theorem Coherent.goOn (coherent : clients.Coherent) {held : Transaction × Task}
    (holds : clients.holds client = some held) (transaction : Transaction) (task : Task) :
    (clients.goOn client transaction task).Coherent where
  holder := by
    intro other
    by_cases same : other = client
    · subst same
      simpa [Clients.goOn] using coherent.slot_of_holds holds
    · simpa [Clients.goOn, same] using coherent.holder other
  idle := by
    intro entry waits
    have unheld := coherent.idle entry waits
    have different : entry.1 ≠ client := by
      intro same
      rw [same, holds] at unheld
      cases unheld
    simpa [Clients.goOn, different] using unheld
  once := coherent.once
  admitted := coherent.admitted

theorem Coherent.close (coherent : clients.Coherent) {held : Transaction × Task}
    (holds : clients.holds client = some held) (database : Database) :
    (clients.close client database).Coherent where
  holder := by
    intro other
    by_cases same : other = client
    · subst same
      simp [Clients.close]
    · have unheld : clients.holds other = none := by
        by_contra open_
        have taken := (coherent.holder other).1 open_
        rw [coherent.slot_of_holds holds] at taken
        exact same (Option.some.inj taken).symm
      simp [Clients.close, same, unheld]
  idle := by
    intro entry waits
    have unheld := coherent.idle entry waits
    by_cases same : entry.1 = client
    · simp [Clients.close, same]
    · simpa [Clients.close, same] using unheld
  once := coherent.once
  admitted := coherent.admitted

/-- Every step keeps the slot with the one client that has a transaction open. -/
theorem Coherent.step (coherent : clients.Coherent) (step : Step act clients event next) :
    next.Coherent := by
  cases step with
  | answer _ => exact coherent
  | queue needs idle => exact coherent.queue needs idle
  | begin now free first => exact coherent.open_ free first now
  | part holds _ | partFails holds _ | ask _ holds => exact coherent.goOn holds _ _
  | finish holds | giveUp holds | commit holds | rollBack holds | drop holds =>
    exact coherent.close holds _

/-- The cluster once the slot is given back. -/
theorem cluster_close {number : Nat} (count : clients.begun = number)
    (database : Database) :
    (clients.close client database).cluster =
      ⟨clients.member, ⟨database, number, none⟩⟩ := by
  subst count
  rfl

end Clients

/-! ## What was done in the slot -/

/-- How what happened in the slot comes about one after the other, up to the transaction
that is open. -/
inductive Explains (act : (request : ι) → Action (Answer request)) (start : Cluster) :
    List (Event κ Answer) → Clients κ → Prop
  | between {events : List (Event κ Answer)} {clients : Clients κ} :
      clients.slot = none → Serial act start events clients.cluster →
      Explains act start events clients
  | serving {earlier : List (Event κ Answer)} {clients : Clients κ} {client : κ} {number : Nat}
      {writes : WriteSet} {pending : Pending Seen} {now : Instant}
      {left : Action pending.call.Answer} :
      clients.holds client = some (⟨number + 1, writes⟩, .serving pending now left) →
      clients.begun = number + 1 →
      Serial act start earlier ⟨clients.member, ⟨clients.database, number, none⟩⟩ →
      pending.call.refusal? = none →
      left clients.database writes =
        pending.call.action clients.member now clients.database .empty →
      Explains act start (earlier ++ [.began client (number + 1) (.serve pending)]) clients
  | own {earlier : List (Event κ Answer)} {clients : Clients κ} {client : κ} {number : Nat}
      {writes : WriteSet} {requests : List ι} {answers : List (Exchange Answer)} :
      clients.holds client = some (⟨number + 1, writes⟩, .own) →
      clients.begun = number + 1 →
      Serial act start earlier ⟨clients.member, ⟨clients.database, number, none⟩⟩ →
      exchanges act clients.database .empty requests = (answers, writes) →
      Explains act start
        (earlier ++ .began client (number + 1) .own :: answers.map (.acted client)) clients

namespace Explains

/-- A client that begins to wait changes nothing in the slot. -/
theorem queue (explains : Explains act start events clients) (waiting : List (κ × Work)) :
    Explains act start events { clients with waiting } := by
  cases explains with
  | between free serial => exact .between free serial
  | serving holds count serial admitted same => exact .serving holds count serial admitted same
  | own holds count serial run => exact .own holds count serial run

/-- While the slot is free, everything is done. -/
theorem serial (explains : Explains act start events clients) (coherent : clients.Coherent)
    (free : clients.slot = none) : Serial act start events clients.cluster := by
  cases explains with
  | between _ serial => exact serial
  | serving holds => exact absurd (coherent.slot_of_holds holds) (by simp [free])
  | own holds => exact absurd (coherent.slot_of_holds holds) (by simp [free])

/-- A client that serves a call is the one whose transaction is explained. -/
theorem of_serving (explains : Explains act start events clients) (coherent : clients.Coherent)
    {transaction : Transaction} {pending : Pending Seen} {now : Instant}
    {left : Action pending.call.Answer}
    (holds : clients.holds client = some (transaction, .serving pending now left)) :
    ∃ earlier number, events = earlier ++ [.began client (number + 1) (.serve pending)] ∧
      transaction.id = number + 1 ∧ clients.begun = number + 1 ∧
      Serial act start earlier ⟨clients.member, ⟨clients.database, number, none⟩⟩ ∧
      pending.call.refusal? = none ∧
      left clients.database transaction.writes =
        pending.call.action clients.member now clients.database .empty := by
  have taken := coherent.slot_of_holds holds
  cases explains with
  | between free =>
    rw [free] at taken
    cases taken
  | serving holds' count serial admitted same =>
    cases taken.symm.trans (coherent.slot_of_holds holds')
    cases holds.symm.trans holds'
    exact ⟨_, _, rfl, rfl, count, serial, admitted, same⟩
  | own holds' =>
    cases taken.symm.trans (coherent.slot_of_holds holds')
    cases holds.symm.trans holds'

/-- So is a client with a transaction of its own. -/
theorem of_own (explains : Explains act start events clients) (coherent : clients.Coherent)
    {transaction : Transaction} (holds : clients.holds client = some (transaction, .own)) :
    ∃ earlier number requests answers,
      events = earlier ++ .began client (number + 1) .own :: answers.map (.acted client) ∧
      transaction.id = number + 1 ∧ clients.begun = number + 1 ∧
      Serial act start earlier ⟨clients.member, ⟨clients.database, number, none⟩⟩ ∧
      exchanges act clients.database .empty requests = (answers, transaction.writes) := by
  have taken := coherent.slot_of_holds holds
  cases explains with
  | between free =>
    rw [free] at taken
    cases taken
  | serving holds' =>
    cases taken.symm.trans (coherent.slot_of_holds holds')
    cases holds.symm.trans holds'
  | own holds' count serial run =>
    cases taken.symm.trans (coherent.slot_of_holds holds')
    cases holds.symm.trans holds'
    exact ⟨_, _, _, _, rfl, rfl, count, serial, run⟩

/-- The transaction that a client has open is the one that the store would have open after
the same requests. -/
theorem opened (explains : Explains act start events clients) (coherent : clients.Coherent)
    {transaction : Transaction} (holds : clients.holds client = some (transaction, .own)) :
    ∃ earlier number opened requests answers,
      events = earlier ++ .began client (number + 1) .own :: answers.map (.acted client) ∧
      clients.begun = number + 1 ∧
      Serial act start earlier ⟨clients.member, ⟨clients.database, number, none⟩⟩ ∧
      Store.begin? ⟨clients.database, number, none⟩ = some (⟨number + 1, .empty⟩, opened) ∧
      opened.insideAll? act requests =
        some (answers, ⟨clients.database, number + 1, some transaction⟩) := by
  rcases explains.of_own coherent holds with
    ⟨earlier, number, requests, answers, rfl, numbered, count, serial, run⟩
  rcases transaction with ⟨id, writes⟩
  cases numbered
  refine ⟨earlier, number, ⟨clients.database, number + 1, some _⟩, requests, answers, rfl, count,
    serial, rfl, ?_⟩
  rw [Store.insideAll?_eq act rfl, run]

variable [DecidableEq κ]

theorem begin (explains : Explains act start events clients) (coherent : clients.Coherent)
    (free : clients.slot = none) {work : Work} {rest : List (κ × Work)}
    (first : clients.waiting = (client, work) :: rest) (now : Instant) :
    Explains act start (events ++ [.began client (clients.begun + 1) work])
      (clients.open_ client work rest now) := by
  have serial := explains.serial coherent free
  cases work with
  | serve pending =>
    refine .serving (Function.update_self _ _ _) rfl serial ?_ rfl
    exact coherent.admitted client pending (by rw [first]; exact List.mem_cons_self)
  | own =>
    let answers : List (Exchange Answer) := []
    have unasked : exchanges act clients.database .empty [] = (answers, .empty) := rfl
    show Explains act start
      (events ++ .began client (clients.begun + 1) .own :: answers.map (.acted client)) _
    exact .own (Function.update_self _ _ _) rfl serial unasked

/-- A part of a call leaves as much of it to do as there was before. -/
theorem goOn (explains : Explains act start events clients) (coherent : clients.Coherent)
    {transaction : Transaction} {pending : Pending Seen} {now : Instant}
    {left left' : Action pending.call.Answer} {writes : WriteSet}
    (holds : clients.holds client = some (transaction, .serving pending now left))
    (same : left clients.database transaction.writes = left' clients.database writes) :
    Explains act start events
      (clients.goOn client { transaction with writes } (.serving pending now left')) := by
  rcases explains.of_serving coherent holds with
    ⟨earlier, number, rfl, numbered, count, serial, admitted, whole⟩
  rcases transaction with ⟨id, _⟩
  cases numbered
  exact .serving (Function.update_self _ _ _) count serial admitted (same.symm.trans whole)

/-- A call that is done ends as the cluster would have served it. -/
theorem served (explains : Explains act start events clients) (coherent : clients.Coherent)
    {transaction : Transaction} {pending : Pending Seen} {now : Instant}
    {left : Action pending.call.Answer} {outcome : Except Failure pending.call.Answer}
    {database : Database}
    (holds : clients.holds client = some (transaction, .serving pending now left))
    (ends : ∀ number, left clients.database transaction.writes =
        pending.call.action clients.member now clients.database .empty →
      Store.transact ⟨clients.database, number, none⟩
        (pending.call.action clients.member now) = (outcome, ⟨database, number + 1, none⟩)) :
    Explains act start (events ++ [.served client now (pending.receive outcome)])
      (clients.close client database) := by
  rcases explains.of_serving coherent holds with
    ⟨earlier, number, rfl, numbered, count, serial, admitted, whole⟩
  have serves : Cluster.serve ⟨clients.member, ⟨clients.database, number, none⟩⟩ now
      pending.call = (outcome, ⟨clients.member, ⟨database, number + 1, none⟩⟩) :=
    Cluster.serve_of_transact admitted (ends number whole)
  have longer := serial.serve client pending now
  rw [serves] at longer
  rw [List.append_assoc]
  apply Explains.between rfl
  rw [Clients.cluster_close count]
  exact longer

/-- A request inside a transaction is one request more of its run. -/
theorem ask (explains : Explains act start events clients) (coherent : clients.Coherent)
    {transaction : Transaction} (request : ι)
    (holds : clients.holds client = some (transaction, .own)) :
    Explains act start
      (events ++ [.acted client ⟨request, (act request clients.database transaction.writes).1⟩])
      (clients.goOn client
        { transaction with writes := (act request clients.database transaction.writes).2 }
        .own) := by
  rcases explains.of_own coherent holds with
    ⟨earlier, number, requests, answers, rfl, numbered, count, serial, run⟩
  rcases transaction with ⟨id, writes⟩
  cases numbered
  have longer := exchanges_concat run request
  rw [List.append_assoc, List.cons_append, ← List.map_singleton, ← List.map_append]
  exact .own (Function.update_self _ _ _) count serial longer

theorem commit (explains : Explains act start events clients) (coherent : clients.Coherent)
    {transaction : Transaction} (holds : clients.holds client = some (transaction, .own)) :
    Explains act start
      (events ++ [.ended client (.committed (clients.database.settle transaction.writes ()).1)])
      (clients.close client (clients.database.settle transaction.writes ()).2) := by
  rcases explains.opened coherent holds with
    ⟨earlier, number, opened, requests, answers, rfl, count, serial, begins, runs⟩
  have longer := serial.commit client begins runs Store.commit?_eq_settle
  rw [List.append_assoc]
  apply Explains.between rfl
  rw [Clients.cluster_close count]
  exact longer

theorem abandon (explains : Explains act start events clients) (coherent : clients.Coherent)
    {transaction : Transaction} {ending : Ending}
    (holds : clients.holds client = some (transaction, .own))
    (abandoned : ending = .rolledBack ∨ ending = .dropped) :
    Explains act start (events ++ [.ended client ending])
      (clients.close client clients.database) := by
  rcases explains.opened coherent holds with
    ⟨earlier, number, opened, requests, answers, rfl, count, serial, begins, runs⟩
  have longer := serial.abandon client begins runs abandoned
  rw [List.append_assoc]
  apply Explains.between rfl
  rw [Clients.cluster_close count]
  exact longer

/-- Every step keeps what was done in the slot explained. -/
theorem step (explains : Explains act start events clients) (coherent : clients.Coherent)
    (step : Step act clients event next) :
    Explains act start (events ++ [event].filter Event.inSlot) next := by
  cases step with
  | answer _ => simpa [Event.inSlot] using explains
  | queue _ _ => simpa [Event.inSlot] using explains.queue _
  | begin now free first => exact explains.begin coherent free first now
  | part holds acts =>
    simpa [Event.inSlot] using explains.goOn coherent holds (Action.bind_of_ok acts)
  | partFails holds acts =>
    simpa [Event.inSlot] using explains.goOn coherent holds (Action.bind_of_error acts)
  | finish holds =>
    apply explains.served coherent holds
    intro number whole
    exact Store.transact_of_answer whole.symm
  | giveUp holds =>
    apply explains.served coherent holds
    intro number whole
    exact Store.transact_of_failure whole.symm
  | ask request holds => exact explains.ask coherent request holds
  | commit holds => exact explains.commit coherent holds
  | rollBack holds => exact explains.abandon coherent holds (.inl rfl)
  | drop holds => exact explains.abandon coherent holds (.inr rfl)

end Explains

/-! ## The queue and the numbers -/

variable [DecidableEq κ]

/-- Who takes the slot at a step is the first that waits, and who begins to wait is the
last. -/
theorem Step.waiting_eq (step : Step act clients event next) :
    clients.waiting ++ [event].filterMap Event.queued? =
      [event].filterMap Event.began? ++ next.waiting := by
  cases step with
  | queue _ _ => rfl
  | begin now free first => exact (List.append_nil _).trans first
  | _ => exact List.append_nil _

/-- A step opens at most one transaction, and gives it the next number. -/
theorem Step.begun_eq (step : Step act clients event next) :
    ∃ opened, [event].filterMap Event.id? = List.range' (clients.begun + 1) opened ∧
      next.begun = clients.begun + opened := by
  cases step with
  | begin now free first => exact ⟨1, rfl, rfl⟩
  | _ => exact ⟨0, rfl, rfl⟩

theorem Step.member_eq (step : Step act clients event next) : next.member = clients.member := by
  cases step <;> rfl

/-! ## Runs of clients -/

namespace Steps

variable {member : String} {database : Database}

theorem member_eq (run : Steps act (.fresh member database) events clients) :
    clients.member = member := by
  induction run with
  | start => rfl
  | step _ step ih => exact step.member_eq.trans ih

theorem coherent (run : Steps act (.fresh member database) events clients) :
    clients.Coherent := by
  induction run with
  | start =>
    constructor
    · intro client
      simp [Clients.fresh]
    · intro entry waits
      cases waits
    · exact List.nodup_nil
    · intro client pending waits
      cases waits
  | step _ step ih => exact ih.step step

theorem explains (run : Steps act (.fresh member database) events clients) :
    Explains act ⟨member, ⟨database, 0, none⟩⟩ (events.filter Event.inSlot) clients := by
  induction run with
  | start => exact .between rfl .nothing
  | step run step ih =>
    rw [List.filter_append]
    exact ih.step run.coherent step

/-- Clients take the slot in the order in which they began to wait. -/
theorem waiting_eq (run : Steps act (.fresh member database) events clients) :
    events.filterMap Event.queued? = events.filterMap Event.began? ++ clients.waiting := by
  induction run with
  | start => rfl
  | step _ step ih =>
    rw [List.filterMap_append, List.filterMap_append, ih, List.append_assoc, step.waiting_eq,
      List.append_assoc]

/-- Transactions are numbered from 1 in the order in which they take the slot. -/
theorem ids_eq (run : Steps act (.fresh member database) events clients) :
    events.filterMap Event.id? = List.range' 1 clients.begun := by
  induction run with
  | start => rfl
  | step _ step ih =>
    rcases step.begun_eq with ⟨opened, numbered, count⟩
    rw [List.filterMap_append, ih, numbered, count, Nat.add_comm _ 1, List.range'_append_1]

/-- As long as there are few enough transactions, their numbers fit in 64 bits. -/
theorem toNat_ofNat_id (run : Steps act (.fresh member database) events clients)
    (few : clients.begun < UInt64.size) {id : Nat} (given : id ∈ events.filterMap Event.id?) :
    (UInt64.ofNat id).toNat = id := by
  rw [run.ids_eq, List.mem_range'_1] at given
  have bound : id < UInt64.size := by omega
  exact UInt64.toNat_ofNat_of_lt' bound

/-- Clients may take their steps in any order, and calls may be cut anywhere.  Still:

* no two of them have a transaction open;
* one that waits has none, and until it takes the slot it is told only what is known
  without the rows;
* the slot is taken in the order in which clients began to wait, and the transactions are
  numbered in that order, without gaps; the numbers fit in 64 bits as long as fewer than
  2 ^ 64 transactions were opened;
* what is learnt in the slot, and what becomes of the rows, is what comes of serving call
  after call and transaction after transaction, each as a whole, in that order;
* what is known at once changes nothing and never waits: the refusal of an empty key, the
  health of the member, and what a body is answered that cannot be read. -/
theorem clients_take_turns (run : Steps act (.fresh member database) events clients) :
    (∀ one other, clients.holds one ≠ none → clients.holds other ≠ none → one = other) ∧
    (∀ client work, (client, work) ∈ clients.waiting → clients.holds client = none ∧
      ∀ (event : Event κ Answer) next, Step act clients event next → event.client = client →
        (∃ id, event = .began client id work ∧ clients.slot = none) ∨
        ∃ demand seen, event = .answered client demand seen ∧
          demand.resolve member = .inl seen ∧ next = clients) ∧
    events.filterMap Event.queued? = events.filterMap Event.began? ++ clients.waiting ∧
    events.filterMap Event.id? = List.range' 1 clients.begun ∧
    (clients.begun < UInt64.size →
      ∀ id ∈ events.filterMap Event.id?, (UInt64.ofNat id).toNat = id) ∧
    Explains act ⟨member, ⟨database, 0, none⟩⟩ (events.filter Event.inSlot) clients ∧
    (clients.slot = none →
      Serial act ⟨member, ⟨database, 0, none⟩⟩ (events.filter Event.inSlot) clients.cluster) ∧
    (∀ demand seen, demand.resolve member = .inl seen → ∀ client,
      Step act clients (.answered client demand seen) clients ∧
      ∀ work next, ¬Step act clients (.queued client demand work) next) ∧
    (∀ value, (Demand.call (.putConfig "" value)).resolve member =
      .inl (.outcome ⟨.putConfig "" value, .error (.invalidArgument .emptyConfigKey)⟩)) ∧
    ∀ request : Http.Request, request.SparesRows →
      ∃ response, (Demand.request request).resolve member = .inl (.response response) := by
  have coherent := run.coherent
  have member := run.member_eq
  refine ⟨?open_, ?waiting, run.waiting_eq, run.ids_eq, fun few id => run.toNat_ofNat_id few,
    run.explains, run.explains.serial coherent, ?known, fun _ => rfl, ?_⟩
  case open_ =>
    intro one other holds holds'
    have taken := (coherent.holder one).1 holds
    rw [(coherent.holder other).1 holds'] at taken
    exact (Option.some.inj taken).symm
  case waiting =>
    intro client work waits
    have unheld := coherent.idle _ waits
    refine ⟨unheld, ?_⟩
    intro event next step mine
    cases step with
    | answer known =>
      rw [member] at known
      exact .inr ⟨_, _, by rw [← mine]; rfl, known, rfl⟩
    | queue needs idle =>
      cases mine
      exact absurd (List.mem_map_of_mem waits) idle.1
    | begin now free first =>
      cases mine
      rw [first] at waits
      rcases List.mem_cons.1 waits with same | later
      · cases same
        exact .inl ⟨_, rfl, free⟩
      · have once := coherent.once
        rw [first, List.map_cons, List.nodup_cons] at once
        exact absurd (List.mem_map_of_mem later) once.1
    | part holds _ | partFails holds _ | finish holds | giveUp holds | ask _ holds
    | commit holds | rollBack holds | drop holds =>
      rw [← mine] at unheld
      exact absurd (holds.symm.trans unheld) (Option.some_ne_none _)
  case known =>
    intro demand seen known client
    rw [← member] at known
    refine ⟨.answer known, ?_⟩
    intro work next queues
    cases queues with
    | queue needs _ =>
      rw [known] at needs
      cases needs
  · intro request spares
    exact Demand.resolve_of_isKnown (request.isKnown_plan _ spares)

/-- While one client has a transaction open, another one waits with a call, and an empty key
is refused. -/
theorem clients_take_turns_of_reader_behind_writer :
    let act (value : Bytes) : Action Unit := .put .config "a" value
    let reads : Pending Seen := ⟨.getConfig "a", fun outcome => .outcome ⟨.getConfig "a", outcome⟩⟩
    let refused : Seen :=
      .outcome ⟨.putConfig "" "w", .error (.invalidArgument .emptyConfigKey)⟩
    ∃ (events : List (Event Bool fun _ : Bytes => Unit)) (clients : Clients Bool),
      Steps act (.fresh "node-1" (.empty .memory)) events clients ∧
      events = [
        .queued true .transaction .own, .began true 1 .own,
        .queued false (.call reads.call) (.serve reads),
        .acted true ⟨Utf8.encode "v", .ok ()⟩, .answered true (.call (.putConfig "" "w")) refused,
        .ended true (.committed (.ok ())),
        .began false 2 (.serve reads), .worked false,
        .served false ⟨5, 0⟩ (.outcome ⟨.getConfig "a", .ok "v"⟩)] ∧
      Serial act ⟨"node-1", ⟨.empty .memory, 0, none⟩⟩ (events.filter Event.inSlot)
        clients.cluster := by
  intro act reads refused
  let start : Clients Bool := .fresh "node-1" (.empty .memory)
  let opening : Clients Bool := { start with waiting := [(true, .own)] }
  let opened := opening.open_ true .own [] ⟨0, 0⟩
  let shared : Clients Bool := { opened with waiting := [(false, .serve reads)] }
  let writes := WriteSet.empty.put .config "a" (Utf8.encode "v")
  let written := shared.goOn true ⟨1, writes⟩ .own
  let closed := written.close true (written.database.settle writes ()).2
  have queues : Step act start (.queued true .transaction .own) opening :=
    .queue rfl ⟨List.not_mem_nil, rfl⟩
  have begins : Step act opening (.began true 1 .own) opened := .begin ⟨0, 0⟩ rfl rfl
  have waits : Step act opened (.queued false (.call reads.call) (.serve reads)) shared :=
    .queue rfl ⟨List.not_mem_nil, rfl⟩
  have holds : shared.holds true = some (⟨1, .empty⟩, .own) := rfl
  have acts : Step act shared (.acted true ⟨Utf8.encode "v", .ok ()⟩) written := .ask _ holds
  have told : Step act written (.answered true (.call (.putConfig "" "w")) refused) written :=
    .answer rfl
  have holds : written.holds true = some (⟨1, writes⟩, .own) := rfl
  have ends : Step act written (.ended true (.committed (.ok ()))) closed := .commit holds
  have served : Steps act closed _ _ := (Steps.serveFirst act rfl rfl rfl rfl ⟨5, 0⟩).2
  have run := (((((Steps.start.step queues).step begins).step waits).step acts).step
    told).step ends |>.trans served
  have value : (closed.cluster.serve ⟨5, 0⟩ reads.call).1 = .ok "v" := rfl
  refine ⟨_, _, run, ?_, run.clients_take_turns.2.2.2.2.2.2.1 rfl⟩
  rw [value]
  rfl

end Steps

end ControlPlane
