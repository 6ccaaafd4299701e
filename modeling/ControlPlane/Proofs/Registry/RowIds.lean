import ControlPlane.Proofs.Registry.RegistryRows
import ControlPlane.Proofs.Row.WrittenRows
import ControlPlane.Proofs.Store.AcceptedWrites

/-!
# Row ids in the order of commits

The last row id of a table is a row like any other, which a transaction reads through its
staged writes.  Transactions that take their turns on a store without rows hand out, for
each table, the ids behind those that were committed so far.  So the committed ones are 1,
2, 3 and so on, and those of a transaction that is given up are handed out again.  A
transaction is committed if its client asks for it and the medium can store what it puts.

One invariant carries this: the counter of each table, as the open transaction sees it,
stands at the number of ids that were committed and of those that it has handed out itself.
-/

namespace ControlPlane

open PlainTables (Request)

/-! ## Ids that are asked for and handed out -/

namespace PlainTables.Request

/-- Whether the request asks for a row id of a table. -/
def asksFor (table : Table) : Request → Bool
  | nextRowId other => other = table
  | _ => false

/-- The request writes no row among the counters, save by asking for a row id. -/
def SparesCounters : Request → Prop
  | put table _ _ | delete table _ => table ≠ .counters
  | _ => True

end PlainTables.Request

/-- The number of row ids of a table that are asked for. -/
def asked (table : Table) (requests : List Request) : Nat :=
  requests.countP (Request.asksFor table)

theorem asked_cons (table : Table) (request : Request) (rest : List Request) :
    asked table (request :: rest) =
      asked table rest + if request.asksFor table then 1 else 0 :=
  List.countP_cons

/-- The row id of a table that is handed out. -/
def rowId? (table : Table) : Exchange Request.Answer → Option UInt64
  | ⟨.nextRowId other, .ok id⟩ => if other = table then some id else none
  | _ => none

/-- The row ids of a table that are handed out, in order. -/
def rowIds (table : Table) (history : List (Exchange Request.Answer)) : List UInt64 :=
  history.filterMap (rowId? table)

theorem rowIds_cons (table : Table) (exchange : Exchange Request.Answer)
    (rest : List (Exchange Request.Answer)) :
    rowIds table (exchange :: rest) = (rowId? table exchange).toList ++ rowIds table rest := by
  rw [rowIds, List.filterMap_cons, rowIds]
  cases rowId? table exchange <;> rfl

/-- The row ids behind a count. -/
def idsBehind (count number : Nat) : List UInt64 :=
  (List.range' (count + 1) number).map UInt64.ofNat

@[simp]
theorem length_idsBehind (count number : Nat) : (idsBehind count number).length = number := by
  rw [idsBehind, List.length_map, List.length_range']

theorem idsBehind_succ (count number : Nat) :
    idsBehind count (number + 1) = UInt64.ofNat (count + 1) :: idsBehind (count + 1) number := by
  rw [idsBehind, List.range'_succ, List.map_cons, idsBehind]

theorem idsBehind_append (count first second : Nat) :
    idsBehind count first ++ idsBehind (count + first) second =
      idsBehind count (first + second) := by
  rw [idsBehind, idsBehind, idsBehind, ← List.map_append, ← List.range'_append_1,
    Nat.add_right_comm]

/-- Of two lists of ids behind one count, the shorter one is the start of the other. -/
theorem idsBehind_comparable (count first second : Nat) :
    idsBehind count first <+: idsBehind count second ∨
      idsBehind count second <+: idsBehind count first := by
  rcases Nat.le_total first second with fewer | fewer
  · left
    rw [← Nat.add_sub_of_le fewer, ← idsBehind_append]
    exact List.prefix_append _ _
  · right
    rw [← Nat.add_sub_of_le fewer, ← idsBehind_append]
    exact List.prefix_append _ _

/-- As long as there is room, the ids are the numbers behind the count. -/
theorem toNat_idsBehind {count number : Nat} (room : count + number < 2 ^ 64) :
    (idsBehind count number).map UInt64.toNat = List.range' (count + 1) number := by
  rw [idsBehind, List.map_map]
  have exact_ : ∀ id ∈ List.range' (count + 1) number, (UInt64.toNat ∘ UInt64.ofNat) id = id := by
    intro id member
    apply UInt64.toNat_ofNat_of_lt'
    have bound := (List.mem_range'_1.1 member).2
    change id < 2 ^ 64
    omega
  rw [List.map_congr_left exact_, List.map_id']

/-! ## One request -/

namespace Database

/-- The counters of row ids, as a transaction sees them, stand at some numbers. -/
def CountsTo (database : Database) (writes : WriteSet) (count : Table → Nat) : Prop :=
  ∀ table, database.lastRowId? writes table = some (.ofNat (count table))

variable {database : Database} {writes : WriteSet} {count : Table → Nat}

/-- What a transaction sees of the counters is all that matters. -/
theorem CountsTo.congr {database' : Database} {writes' : WriteSet}
    (counts : database.CountsTo writes count)
    (same : ∀ key, database'.value? writes' .counters key = database.value? writes .counters key) :
    database'.CountsTo writes' count := by
  intro table
  rw [lastRowId?, same, ← lastRowId?]
  exact counts table

theorem countsTo_empty (medium : Medium) : (empty medium).CountsTo .empty fun _ => 0 := by
  intro table
  rw [lastRowId?, value?_empty, empty, Tables.get_const]
  rfl

/-- The counter of one table moves on. -/
theorem CountsTo.put (counts : database.CountsTo writes count) (table : Table) (number : Nat) :
    database.CountsTo (writes.put .counters table.sequenceKey
        (Codec.unsigned.encode (.ofNat number)))
      fun other => if other = table then number else count other := by
  intro other
  rw [lastRowId?, value?_put]
  by_cases same : other = table
  · subst same
    simp only [and_self, if_true, (Codec.readsBack_unsigned _).read?]
  · have apart : other.sequenceKey ≠ table.sequenceKey :=
      fun equal => same (Table.sequenceKey_injective equal)
    rw [if_neg fun both => apart both.2, ← lastRowId?, counts other]
    simp only [if_neg same]

/-- A request for a row id is answered by the number behind the counter, which moves on; no
other request touches a counter. -/
theorem CountsTo.request (counts : database.CountsTo writes count) {request : Request}
    (spares : request.SparesCounters) :
    database.CountsTo (request.action database writes).2
        (fun table => count table + if request.asksFor table then 1 else 0) ∧
      ∀ table, rowId? table ⟨request, (request.action database writes).1⟩ =
        if request.asksFor table then some (.ofNat (count table + 1)) else none := by
  -- Requests for anything else do not reach the counters.
  have others (asksNothing : ∀ table, request.asksFor table = false)
      (stays : request.action.StaysIn fun table _ => table ≠ .counters) :
      database.CountsTo (request.action database writes).2
        (fun table => count table + if request.asksFor table then 1 else 0) := by
    simp only [asksNothing, Bool.false_eq_true, if_false, Nat.add_zero]
    apply counts.congr
    intro key
    exact value?_congr (stays database writes .counters key fun other => other rfl)
  cases request with
  | nextRowId table =>
    have handed : Request.action (.nextRowId table) database writes =
        (.ok (.ofNat (count table + 1)), writes.put .counters table.sequenceKey
          (Codec.unsigned.encode (.ofNat (count table + 1)))) := by
      rw [Request.action, Action.nextRowId_of_last (counts table), UInt64.ofNat_add]
      rfl
    rw [handed]
    constructor
    · have moved := counts.put table (count table + 1)
      intro other
      rw [moved other]
      by_cases same : other = table
      · subst same
        simp [Request.asksFor]
      · simp [Request.asksFor, same, Ne.symm same]
    · intro other
      by_cases same : table = other
      · subst same
        simp [rowId?, Request.asksFor]
      · simp [rowId?, Request.asksFor, same]
  | get table key =>
    exact ⟨others (fun _ => rfl) (Action.readsOnly_get table key).staysIn, fun _ => rfl⟩
  | contains table key =>
    exact ⟨others (fun _ => rfl) (Action.readsOnly_contains table key).staysIn, fun _ => rfl⟩
  | scan table start =>
    exact ⟨others (fun _ => rfl) (Action.readsOnly_scan table start).staysIn, fun _ => rfl⟩
  | put table key value =>
    exact ⟨others (fun _ => rfl) (Action.staysIn_put value spares), fun _ => rfl⟩
  | delete table key =>
    exact ⟨others (fun _ => rfl) (Action.staysIn_delete spares), fun _ => rfl⟩

/-! ## One transaction -/

/-- A run of requests hands out the ids behind the counters, one for each request for one. -/
theorem CountsTo.exchanges {requests : List Request} {writes : WriteSet} {count : Table → Nat}
    (counts : database.CountsTo writes count)
    (spared : ∀ request ∈ requests, request.SparesCounters) :
    let run := ControlPlane.exchanges Request.action database writes requests
    database.CountsTo run.2 (fun table => count table + asked table requests) ∧
      ∀ table, rowIds table run.1 = idsBehind (count table) (asked table requests) := by
  induction requests generalizing writes count with
  | nil => exact ⟨counts, fun _ => rfl⟩
  | cons request rest ih =>
    rcases counts.request (spared request List.mem_cons_self) with ⟨counts', handed⟩
    rcases ih counts' fun other member => spared other (List.mem_cons_of_mem _ member) with
      ⟨last, later⟩
    constructor
    · intro table
      simp only [asked_cons]
      rw [Nat.add_comm (asked table rest), ← Nat.add_assoc]
      exact last table
    · intro table
      rw [ControlPlane.exchanges, rowIds_cons, handed, later, asked_cons]
      cases request.asksFor table with
      | true => exact (idsBehind_succ _ _).symm
      | false => rfl

end Database

/-! ## Transactions one after the other -/

/-- What a client makes of its transaction in the end. -/
inductive Script.Ending where
  | commit
  | rollback
  /-- The transaction is given up without a word. -/
  | drop
  deriving DecidableEq

/-- A transaction as its client plans it: requests, one after the other, and the end. -/
structure Script where
  requests : List Request
  ending : Script.Ending

/-- Whether a medium commits the transaction once its client asks for it: memory always
does, and the persistent medium if it can store every key that a value is put under. -/
def Script.isCommitted (script : Script) : Medium → Bool
  | .memory => script.ending = .commit
  | .persistent => script.ending = .commit && script.requests.all (Request.fits .persistent)

/-- Memory can store every key, so that one condition covers both media. -/
theorem Script.isCommitted_eq (script : Script) (medium : Medium) :
    script.isCommitted medium =
      (decide (script.ending = .commit) && script.requests.all (Request.fits medium)) := by
  cases medium with
  | memory => simp [isCommitted]
  | persistent => rfl

/-- A transaction that has ended. -/
structure Visit where
  history : List (Exchange Request.Answer)
  committed : Bool

namespace Visit

/-- The requests that were made. -/
def requests (visit : Visit) : List Request :=
  visit.history.map Exchange.request

/-- The row ids of a table that were committed. -/
def keptIds (table : Table) (visit : Visit) : List UInt64 :=
  if visit.committed then rowIds table visit.history else []

end Visit

/-- The row ids of a table that were committed, in the order of the commits. -/
def committedIds (table : Table) (visits : List Visit) : List UInt64 :=
  visits.flatMap (Visit.keptIds table)

namespace Store

/-- Goes through a transaction.  A commit that the medium refuses commits nothing. -/
def follow? (store : Store) (script : Script) : Option (Visit × Store) := do
  let (_, opened) ← store.begin?
  let (history, ended) ← opened.insideAll? Request.action script.requests
  match script.ending with
  | .commit =>
    let (outcome, closed) ← ended.commit?
    return (⟨history, outcome.isOk⟩, closed)
  | .rollback | .drop =>
    let closed ← ended.rollback?
    return (⟨history, false⟩, closed)

/-- Goes through some transactions, one after the other. -/
def followAll? (store : Store) : List Script → Option (List Visit × Store)
  | [] => some ([], store)
  | script :: rest => do
    let (visit, store) ← store.follow? script
    let (visits, store) ← followAll? store rest
    return (visit :: visits, store)

/-- A transaction has the answers of its run of requests.  It is committed if its client
asks for it and the medium takes its writes; then its rows are the committed ones, and
otherwise the committed rows stay. -/
theorem follow?_of_free {store : Store} (free : store.current = none) (script : Script) :
    ∃ visit after, store.follow? script = some (visit, after) ∧ after.current = none ∧
      let run := exchanges Request.action store.database .empty script.requests
      visit.history = run.1 ∧
        visit.committed = (decide (script.ending = .commit) && store.database.accepts run.2) ∧
        ((visit.committed = true ∧ store.database.apply run.2 = .ok after.database) ∨
          visit.committed = false ∧ after.database = store.database) := by
  rcases store with ⟨database, begun, current⟩
  cases free
  let opened : Store := ⟨database, begun + 1, some ⟨begun + 1, .empty⟩⟩
  have current : opened.current = some ⟨begun + 1, .empty⟩ := rfl
  have inside := insideAll?_eq Request.action current script.requests
  rw [follow?]
  simp only [begin?, Option.bind_eq_bind, Option.bind_some]
  rw [inside]
  simp only [Option.bind_some]
  cases script.ending with
  | rollback | drop => exact ⟨_, _, rfl, rfl, rfl, rfl, .inr ⟨rfl, rfl⟩⟩
  | commit =>
    rw [commit?_eq_settle]
    simp only [Database.settle, Database.apply, Option.bind_some]
    cases database.accepts (exchanges Request.action database .empty script.requests).2 with
    | true => exact ⟨_, _, rfl, rfl, rfl, rfl, .inl ⟨rfl, rfl⟩⟩
    | false => exact ⟨_, _, rfl, rfl, rfl, rfl, .inr ⟨rfl, rfl⟩⟩

/-- Which transactions are committed is settled by what their clients plan. -/
theorem followAll?_committed {store after : Store} (free : store.current = none)
    (storable : store.database.Storable) {scripts : List Script} {visits : List Visit}
    (went : store.followAll? scripts = some (visits, after)) :
    visits.map Visit.committed = scripts.map (Script.isCommitted · store.database.medium) := by
  induction scripts generalizing store visits with
  | nil =>
    cases went
    rfl
  | cons script rest ih =>
    rcases follow?_of_free free script with ⟨visit, middle, first, free', -, flag, ended⟩
    rw [storable.accepts_exchanges, Database.accepts_empty, Bool.and_true] at flag
    have kept : middle.database.medium = store.database.medium ∧ middle.database.Storable := by
      rcases ended with ⟨-, applied⟩ | ⟨-, same⟩
      · exact ⟨Database.medium_of_apply applied, storable.of_apply applied⟩
      · rw [same]
        exact ⟨rfl, storable⟩
    rw [followAll?, first] at went
    simp only [Option.bind_eq_bind, Option.bind_some, Option.bind_eq_some_iff] at went
    rcases went with ⟨⟨visits', after'⟩, later, same⟩
    cases same
    rw [List.map_cons, List.map_cons, script.isCommitted_eq, flag, ih free' kept.2 later, kept.1]

end Store

/-- Transactions that hand out the row ids behind some counts: each of them those behind
what was committed before it. -/
def Numbered : (Table → Nat) → List Visit → Prop
  | _, [] => True
  | count, visit :: later =>
    (∀ table, rowIds table visit.history =
      idsBehind (count table) (asked table visit.requests)) ∧
    Numbered (fun table => count table + (visit.keptIds table).length) later

namespace Numbered

variable {count : Table → Nat} {visits earlier later : List Visit}

/-- The transactions behind some others begin where these have ended. -/
theorem cut (numbered : Numbered count (earlier ++ later)) :
    Numbered count earlier ∧
      Numbered (fun table => count table + (committedIds table earlier).length) later := by
  induction earlier generalizing count with
  | nil => exact ⟨trivial, numbered⟩
  | cons visit rest ih =>
    rcases numbered with ⟨first, others⟩
    rcases ih others with ⟨before, behind⟩
    refine ⟨⟨first, before⟩, ?_⟩
    simpa only [committedIds, List.flatMap_cons, List.length_append, Nat.add_assoc] using behind

/-- The committed ids are those behind the count. -/
theorem committedIds_eq (numbered : Numbered count visits) (table : Table) :
    committedIds table visits = idsBehind (count table) (committedIds table visits).length := by
  induction visits generalizing count with
  | nil => rfl
  | cons visit later ih =>
    rcases numbered with ⟨first, others⟩
    have kept : visit.keptIds table =
        idsBehind (count table) (visit.keptIds table).length := by
      rw [Visit.keptIds]
      split
      · rw [first, length_idsBehind]
      · rfl
    have parts : committedIds table (visit :: later) =
        visit.keptIds table ++ committedIds table later := List.flatMap_cons
    rw [parts, List.length_append, ← idsBehind_append, ← kept, ← ih others]

/-- No more ids are committed than are asked for. -/
theorem length_committedIds_le (numbered : Numbered count visits) (table : Table) :
    (committedIds table visits).length ≤ asked table (visits.flatMap Visit.requests) := by
  induction visits generalizing count with
  | nil => exact Nat.le_refl 0
  | cons visit later ih =>
    rcases numbered with ⟨first, others⟩
    have kept : (visit.keptIds table).length ≤ asked table visit.requests := by
      rw [Visit.keptIds]
      split
      · exact Nat.le_of_eq (by rw [first, length_idsBehind])
      · exact Nat.zero_le _
    have rest := ih others
    rw [asked] at kept rest ⊢
    rw [committedIds, List.flatMap_cons, List.length_append, List.flatMap_cons,
      List.countP_append]
    exact Nat.add_le_add kept rest

end Numbered

namespace Store

/-- Transactions on counters that stand at some numbers hand out the ids behind them, and
leave the counters at the last ids that were committed. -/
theorem followAll?_numbered {store : Store} (free : store.current = none)
    {count : Table → Nat} (counts : store.database.CountsTo .empty count)
    {scripts : List Script}
    (spared : ∀ request ∈ scripts.flatMap Script.requests, request.SparesCounters) :
    ∃ visits after, store.followAll? scripts = some (visits, after) ∧ after.current = none ∧
      visits.map Visit.requests = scripts.map Script.requests ∧ Numbered count visits ∧
      after.database.CountsTo .empty
        fun table => count table + (committedIds table visits).length := by
  induction scripts generalizing store count with
  | nil => exact ⟨[], store, rfl, free, rfl, trivial, counts⟩
  | cons script rest ih =>
    rw [List.flatMap_cons] at spared
    rcases follow?_of_free free script with ⟨visit, middle, went, free', history, -, ended⟩
    rcases counts.exchanges fun request member => spared request
      (List.mem_append_left _ member) with ⟨counted, handed⟩
    have requests : visit.requests = script.requests := by
      rw [Visit.requests, history, requests_exchanges]
    have first (table : Table) : rowIds table visit.history =
        idsBehind (count table) (asked table visit.requests) := by
      rw [history, handed, requests]
    have counts' : middle.database.CountsTo .empty
        fun table => count table + (visit.keptIds table).length := by
      rcases ended with ⟨committed, applied⟩ | ⟨lost, same⟩
      · simp only [Visit.keptIds, committed, if_true, first, requests, length_idsBehind]
        exact counted.congr (Database.value?_of_apply applied .counters)
      · simp only [Visit.keptIds, lost, Bool.false_eq_true, if_false]
        rw [same]
        exact counts
    rcases ih free' counts' fun request member => spared request
      (List.mem_append_right _ member) with ⟨visits, after, wentOn, free'', asked', later, last⟩
    refine ⟨visit :: visits, after, ?_, free'', ?_, ⟨first, later⟩, ?_⟩
    · rw [followAll?, went]
      simp only [Option.bind_eq_bind, Option.bind_some, wentOn]
      rfl
    · rw [List.map_cons, List.map_cons, requests, asked']
    · simpa only [committedIds, List.flatMap_cons, List.length_append, Nat.add_assoc] using last

end Store

/-- The row ids of a table in some transactions, the first one of which found none. -/
structure RowIdsInOrder (table : Table) (visits : List Visit) : Prop where
  /-- Those that are committed are 1, 2, 3 and so on, in the order of the commits. -/
  committed : (committedIds table visits).map UInt64.toNat =
    List.range' 1 (committedIds table visits).length
  /-- Every transaction, committed or not, goes on behind what was committed before it, with
  one id for each request. -/
  each : ∀ earlier visit later, visits = earlier ++ visit :: later →
    (rowIds table visit.history).map UInt64.toNat =
      List.range' ((committedIds table earlier).length + 1) (asked table visit.requests)
  /-- Behind a transaction that is not committed, its ids are handed out again. -/
  again : ∀ earlier lost next later, visits = earlier ++ lost :: next :: later →
    lost.committed = false → rowIds table lost.history <+: rowIds table next.history ∨
      rowIds table next.history <+: rowIds table lost.history

/-- Transactions that find no row id hand them out in order, as long as there are enough. -/
theorem Numbered.rowIdsInOrder {visits : List Visit} (numbered : Numbered (fun _ => 0) visits)
    {table : Table} (few : asked table (visits.flatMap Visit.requests) < 2 ^ 64) :
    RowIdsInOrder table visits where
  committed := by
    rw [numbered.committedIds_eq table, toNat_idsBehind, length_idsBehind]
    have most := numbered.length_committedIds_le table
    omega
  each := by
    rintro earlier visit later rfl
    rcases numbered.cut with ⟨before, first, _⟩
    have most := before.length_committedIds_le table
    simp only [Nat.zero_add] at first
    rw [first table, toNat_idsBehind]
    rw [List.flatMap_append, List.flatMap_cons, asked, List.countP_append,
      List.countP_append] at few
    rw [asked] at most ⊢
    omega
  again := by
    rintro earlier lost next later rfl notKept
    rcases numbered.cut with ⟨_, first, second, _⟩
    rw [first table, second table]
    simp only [Visit.keptIds, notKept, Bool.false_eq_true, if_false, List.length_nil,
      Nat.add_zero]
    exact idsBehind_comparable _ _ _

/-- Whatever transactions take their turns on a store without rows, the row ids of each
table are handed out in order of the commits.  Those are committed whose clients ask for
it, unless the medium cannot store a key that is put.  While another transaction is open,
it has handed out the ids behind the committed ones, and the last id that it sees leaves
room for one more.

The transactions write no other rows among the counters, and they ask for fewer row ids of
any table than there are. -/
theorem Store.row_ids_follow_commits (medium : Medium) (scripts : List Script)
    (requests : List Request)
    (spared : ∀ request ∈ scripts.flatMap Script.requests ++ requests, request.SparesCounters)
    (few : ∀ table, asked table (scripts.flatMap Script.requests ++ requests) < 2 ^ 64 - 1) :
    ∃ visits store transaction opened history ended,
      (empty medium).followAll? scripts = some (visits, store) ∧
      store.begin? = some (transaction, opened) ∧
      opened.insideAll? Request.action requests = some (history, ended) ∧
      visits.map Visit.requests = scripts.map Script.requests ∧
      visits.map Visit.committed = scripts.map (Script.isCommitted · medium) ∧
      history.map Exchange.request = requests ∧
      ∀ table, RowIdsInOrder table visits ∧
        (rowIds table history).map UInt64.toNat =
          List.range' ((committedIds table visits).length + 1) (asked table requests) ∧
        ∃ writes last, ended.current = some ⟨transaction.id, writes⟩ ∧
          ended.database.lastRowId? writes table = some last ∧
          last.toNat = (committedIds table visits).length + asked table requests ∧
          last.toNat + 1 < 2 ^ 64 := by
  have idle : (empty medium).current = none := rfl
  rcases followAll?_numbered idle (Database.countsTo_empty medium) fun request member =>
    spared request (List.mem_append_left _ member) with
    ⟨visits, store, went, free, asked', numbered, counts⟩
  rcases counts.exchanges fun request member => spared request
    (List.mem_append_right _ member) with ⟨counted, handed⟩
  simp only [Nat.zero_add] at counted handed
  let transaction : Transaction := ⟨store.begun + 1, .empty⟩
  let opened : Store := { store with begun := store.begun + 1, current := some transaction }
  have begun : store.begin? = some (transaction, opened) := by
    rw [begin?, free]
  have current : opened.current = some transaction := rfl
  refine ⟨visits, store, transaction, opened, _, _, went, begun,
    insideAll?_eq Request.action current requests, asked',
    followAll?_committed idle (Database.storable_empty medium) went,
    requests_exchanges _ _ _ _, ?_⟩
  intro table
  -- What is committed and what is asked for now has been asked for in all.
  have room : asked table (visits.flatMap Visit.requests) + asked table requests < 2 ^ 64 - 1 := by
    have total := few table
    rw [asked, List.countP_append] at total
    rwa [List.flatMap_def, asked', ← List.flatMap_def, asked, asked]
  have most := numbered.length_committedIds_le table
  have last : (UInt64.ofNat ((committedIds table visits).length + asked table requests)).toNat =
      (committedIds table visits).length + asked table requests :=
    UInt64.toNat_ofNat_of_lt' (show _ < 2 ^ 64 by omega)
  refine ⟨numbered.rowIdsInOrder (by omega), ?_, _, _, rfl, counted table, last, ?_⟩
  · exact (congrArg _ (handed table)).trans (toNat_idsBehind (by omega))
  · rw [last]
    omega

/-- Of four transactions on disk, the second one is rolled back and the third one refused
for a key that cannot be written; a fifth one is open. -/
theorem Store.row_ids_follow_commits_of_refused_commit :
    let next : Request := .nextRowId .manifest
    let scripts : List Script :=
      [⟨[next, next, .nextRowId .nodes], .commit⟩, ⟨[next], .rollback⟩,
        ⟨[.put .config "" [1], next], .commit⟩, ⟨[next], .commit⟩]
    (∀ request ∈ scripts.flatMap Script.requests ++ [next], request.SparesCounters) ∧
      (∀ table, asked table (scripts.flatMap Script.requests ++ [next]) < 2 ^ 64 - 1) ∧
      ∃ visits store transaction opened history ended,
        (empty .persistent).followAll? scripts = some (visits, store) ∧
        store.begin? = some (transaction, opened) ∧
        opened.insideAll? Request.action [next] = some (history, ended) ∧
        RowIdsInOrder .manifest visits ∧
        visits.map Visit.committed = [true, false, false, true] ∧
        (visits.map fun visit => (rowIds .manifest visit.history).map UInt64.toNat) =
          [[1, 2], [3], [3], [3]] ∧
        (rowIds .manifest history).map UInt64.toNat = [4] := by
  intro next scripts
  have spared : ∀ request ∈ scripts.flatMap Script.requests ++ [next],
      request.SparesCounters := by
    simp [scripts, next, Request.SparesCounters]
  have few : ∀ table, asked table (scripts.flatMap Script.requests ++ [next]) < 2 ^ 64 - 1 := by
    intro table
    apply Nat.lt_of_le_of_lt List.countP_le_length
    decide
  rcases Store.row_ids_follow_commits .persistent scripts [next] spared few with
    ⟨visits, store, transaction, opened, history, ended, went, begun, made, requests, committed,
      _, ordered⟩
  rcases ordered .manifest with ⟨inOrder, last, _⟩
  have flags : visits.map Visit.committed = [true, false, false, true] :=
    committed.trans (by decide)
  rcases List.map_eq_cons_iff.1 flags with ⟨one, _, rfl, kept₁, flags₁⟩
  rcases List.map_eq_cons_iff.1 flags₁ with ⟨two, _, rfl, lost₂, flags₂⟩
  rcases List.map_eq_cons_iff.1 flags₂ with ⟨three, _, rfl, lost₃, flags₃⟩
  rcases List.map_eq_cons_iff.1 flags₃ with ⟨four, _, rfl, kept₄, flags₄⟩
  rcases List.map_eq_nil_iff.1 flags₄ with rfl
  simp only [scripts, List.map_cons, List.map_nil, List.cons.injEq, and_true] at requests
  rcases requests with ⟨asked₁, asked₂, asked₃, asked₄⟩
  -- Each transaction goes on behind what those before it have committed.
  have ids₁ : (rowIds .manifest one.history).map UInt64.toNat = [1, 2] :=
    (inOrder.each [] one [two, three, four] rfl).trans (by rw [asked₁]; decide)
  have number₁ : (rowIds .manifest one.history).length = 2 := by
    simpa using congrArg List.length ids₁
  have behind₁ : (committedIds .manifest [one]).length = 2 := by
    simp [committedIds, Visit.keptIds, kept₁, number₁]
  have ids₂ : (rowIds .manifest two.history).map UInt64.toNat = [3] :=
    (inOrder.each [one] two [three, four] rfl).trans (by rw [behind₁, asked₂]; decide)
  have behind₂ : (committedIds .manifest [one, two]).length = 2 := by
    simp [committedIds, Visit.keptIds, kept₁, lost₂, number₁]
  have ids₃ : (rowIds .manifest three.history).map UInt64.toNat = [3] :=
    (inOrder.each [one, two] three [four] rfl).trans (by rw [behind₂, asked₃]; decide)
  have behind₃ : (committedIds .manifest [one, two, three]).length = 2 := by
    simp [committedIds, Visit.keptIds, kept₁, lost₂, lost₃, number₁]
  have ids₄ : (rowIds .manifest four.history).map UInt64.toNat = [3] :=
    (inOrder.each [one, two, three] four [] rfl).trans (by rw [behind₃, asked₄]; decide)
  have number₄ : (rowIds .manifest four.history).length = 1 := by
    simpa using congrArg List.length ids₄
  have behind₄ : (committedIds .manifest [one, two, three, four]).length = 3 := by
    simp [committedIds, Visit.keptIds, kept₁, lost₂, lost₃, kept₄, number₁, number₄]
  refine ⟨spared, few, _, store, transaction, opened, history, ended, went, begun, made, inOrder,
    flags, ?_, last.trans (by rw [behind₄]; decide)⟩
  simp only [List.map_cons, List.map_nil, ids₁, ids₂, ids₃, ids₄]

end ControlPlane
