import ControlPlane.Proofs.Store.Runs
import ControlPlane.Proofs.Store.SeenRows
import ControlPlane.Proofs.Text.Utf8Bytes

/-!
# Transactions against plain tables

Plain tables have a value or none under each key, and nothing is staged: a write
changes them at once.  A transaction in memory cannot be told apart from plain
tables that start as the committed rows, whatever is asked of it in whatever order.
Until it ends, the committed rows stay; a commit makes them the plain tables as the
requests have left them, and a rollback leaves them.
-/

namespace ControlPlane

/-- A value or none for each key of each table. -/
abbrev PlainTables := Table → String → Option Bytes

namespace PlainTables

/-- Gives a key a value or takes it. -/
def set (tables : PlainTables) (table : Table) (key : String) (value : Option Bytes) :
    PlainTables :=
  fun other other' => if other = table ∧ other' = key then value else tables other other'

/-- The rows are those of the keys that start with `start`, each of them once, in
ascending order of the bytes of the keys. -/
structure Lists (tables : PlainTables) (table : Table) (start : String)
    (rows : List (String × Bytes)) : Prop where
  ascending : rows.Pairwise fun a b => Utf8.encode a.1 < Utf8.encode b.1
  mem_iff : ∀ key value,
    (key, value) ∈ rows ↔ tables table key = some value ∧ start.toList <+: key.toList

/-- What can be asked of a transaction. -/
inductive Request where
  | get (table : Table) (key : String)
  | contains (table : Table) (key : String)
  | scan (table : Table) (start : String)
  | put (table : Table) (key : String) (value : Bytes)
  | delete (table : Table) (key : String)
  | nextRowId (table : Table)
  deriving DecidableEq

namespace Request

/-- The answers to a request. -/
abbrev Answer : Request → Type
  | get .. => Option Bytes
  | contains .. | delete .. => Bool
  | scan .. => List (String × Bytes)
  | put .. => Unit
  | nextRowId _ => UInt64

/-- What a transaction does on a request. -/
def action : (request : Request) → Action request.Answer
  | get table key => Action.get table key
  | contains table key => Action.contains table key
  | scan table start => Action.scan table start
  | put table key value => Action.put table key value
  | delete table key => Action.delete table key
  | nextRowId table => Action.nextRowId table

end Request

/-- How plain tables answer. -/
def Answers : Rule PlainTables Request.Answer
  | before, .get table key, outcome, after =>
    outcome = .ok (before table key) ∧ after = before
  | before, .contains table key, outcome, after =>
    outcome = .ok (before table key).isSome ∧ after = before
  | before, .scan table start, outcome, after =>
    (∃ rows, outcome = .ok rows ∧ before.Lists table start rows) ∧ after = before
  | before, .put table key value, outcome, after =>
    outcome = .ok () ∧ after = before.set table key (some value)
  | before, .delete table key, outcome, after =>
    outcome = .ok (before table key).isSome ∧ after = before.set table key none
  | before, .nextRowId table, outcome, after =>
    match before .counters table.sequenceKey with
    | none =>
      outcome = .ok 1 ∧
        after = before.set .counters table.sequenceKey (some (Codec.unsigned.encode 1))
    | some row =>
      match Codec.unsigned.read? row with
      | none => outcome = .error (.storage .undecodableRow) ∧ after = before
      | some last =>
        outcome = .ok (last + 1) ∧
          after = before.set .counters table.sequenceKey
            (some (Codec.unsigned.encode (last + 1)))

/-! ## The rule settles the answers -/

variable {tables : PlainTables} {table : Table} {start : String}

/-- Taking a value from a key without one changes nothing. -/
theorem set_none_of_absent {key : String} (absent : tables table key = none) :
    tables.set table key none = tables := by
  funext other other'
  rw [set]
  split
  · rename_i same
    rw [same.1, same.2, absent]
  · rfl

/-- No two lists of rows fit the same scan. -/
theorem Lists.unique {rows rows' : List (String × Bytes)} (lists : tables.Lists table start rows)
    (lists' : tables.Lists table start rows') : rows = rows' := by
  have sorted := lists.ascending.imp fun less => Utf8.encode_lt_iff.1 less
  have sorted' := lists'.ascending.imp fun less => Utf8.encode_lt_iff.1 less
  apply KeyMap.eq_of_lookup_eq sorted sorted'
  intro key
  apply Option.ext
  intro value
  constructor
  · intro found
    apply KeyMap.lookup_of_mem sorted'
    exact (lists'.mem_iff key value).2 ((lists.mem_iff key value).1 (KeyMap.mem_of_lookup found))
  · intro found
    apply KeyMap.lookup_of_mem sorted
    exact (lists.mem_iff key value).2 ((lists'.mem_iff key value).1 (KeyMap.mem_of_lookup found))

theorem answers_settled : Rule.Settled Answers := by
  intro before request outcome after outcome' after' kept kept'
  cases request with
  | scan table start =>
    rcases kept with ⟨⟨rows, rfl, lists⟩, rfl⟩
    rcases kept' with ⟨⟨rows', rfl, lists'⟩, rfl⟩
    rw [lists.unique lists']
    exact ⟨rfl, rfl⟩
  | nextRowId table =>
    simp only [Answers] at kept kept'
    split at kept
    · rename_i fresh
      rw [fresh] at kept'
      exact ⟨kept.1.trans kept'.1.symm, kept.2.trans kept'.2.symm⟩
    · rename_i row found
      rw [found] at kept'
      simp only at kept'
      split at kept
      · rename_i unread
        rw [unread] at kept'
        exact ⟨kept.1.trans kept'.1.symm, kept.2.trans kept'.2.symm⟩
      · rename_i last read
        rw [read] at kept'
        exact ⟨kept.1.trans kept'.1.symm, kept.2.trans kept'.2.symm⟩
  | get | contains | put | delete =>
    exact ⟨kept.1.trans kept'.1.symm, kept.2.trans kept'.2.symm⟩

end PlainTables

/-! ## What a transaction sees as plain tables -/

namespace Database

/-- The rows that a transaction sees, as plain tables. -/
def plain (database : Database) (writes : WriteSet) : PlainTables :=
  fun table key => database.value? writes table key

/-- Committed rows whose keys are texts, as plain tables. -/
structure Holds (database : Database) (tables : PlainTables) : Prop where
  readable : ∀ table, database.unreadable.get table = []
  rows : ∀ table key, (database.rows.get table).get? key = tables table key

variable {database : Database} {writes : WriteSet}

theorem plain_put (table : Table) (key : String) (value : Bytes) :
    database.plain (writes.put table key value) =
      (database.plain writes).set table key (some value) := by
  funext other other'
  rw [plain, value?_put]
  rfl

theorem plain_delete (table : Table) (key : String) :
    database.plain (writes.delete table key) = (database.plain writes).set table key none := by
  funext other other'
  rw [plain, value?_delete]
  rfl

/-- The rows seen are listed in order. -/
theorem lists_seen (table : Table) (start : String) :
    (database.plain writes).Lists table start
      (((database.seen writes).get table).filter fun key _ => startsWith key start).entries := by
  constructor
  · exact (KeyMap.ascending _).imp fun less => Utf8.encode_lt_iff.2 less
  · intro key value
    rw [KeyMap.mem_entries_iff, KeyMap.get?_filter, Option.filter_eq_some_iff, startsWith_iff]
    rfl

end Database

namespace PlainTables

variable {database : Database}

/-- A single request is answered as plain tables answer it. -/
theorem answers_action (memory : database.medium = .memory)
    (readable : ∀ table, database.unreadable.get table = []) (request : Request)
    (writes : WriteSet) :
    Answers (database.plain writes) request (request.action database writes).1
      (database.plain (request.action database writes).2) := by
  have found := Database.canFind_of_memory memory
  cases request with
  | get table key =>
    rw [Request.action, Action.get_apply (found key)]
    exact ⟨rfl, rfl⟩
  | contains table key =>
    rw [Request.action, Action.contains_apply (found key)]
    exact ⟨rfl, rfl⟩
  | scan table start =>
    rw [Request.action, Action.scan_apply (found start)
      (Database.firstUnreadable?_of_readable (readable _) _)]
    exact ⟨⟨_, rfl, Database.lists_seen table start⟩, rfl⟩
  | put table key value => exact ⟨rfl, Database.plain_put table key value⟩
  | delete table key =>
    rw [Request.action, Action.delete_apply (found key)]
    cases present : database.value? writes table key with
    | none =>
      have absent : database.plain writes table key = none := present
      constructor
      · rw [absent]
        rfl
      · exact (set_none_of_absent absent).symm
    | some value =>
      constructor
      · rw [Database.plain, present]
        rfl
      · exact Database.plain_delete table key
  | nextRowId table =>
    rw [Request.action, Action.nextRowId_apply, Answers]
    cases last : database.value? writes .counters table.sequenceKey with
    | none =>
      simp only [Database.plain, last]
      exact ⟨trivial, Database.plain_put _ _ _⟩
    | some row =>
      simp only [Database.plain, last]
      cases Codec.unsigned.read? row with
      | none => exact ⟨rfl, rfl⟩
      | some count => exact ⟨rfl, Database.plain_put _ _ _⟩

end PlainTables

open PlainTables in
/-- A transaction in memory answers every list of requests as plain tables do, and in
no other way.  The rows stay as they are while it is open and when it is rolled back;
its commit makes them what the plain tables have become. -/
theorem Store.transaction_follows_plain_tables {store : Store} {tables : PlainTables}
    (free : store.current = none) (memory : store.database.medium = .memory)
    (holds : store.database.Holds tables) (requests : List Request) :
    ∃ transaction opened history ended final,
      store.begin? = some (transaction, opened) ∧
      opened.insideAll? Request.action requests = some (history, ended) ∧
      (∀ history' final',
        Follows Answers tables history' final' ∧
            history'.map Exchange.request = requests ↔
          history' = history ∧ final' = final) ∧
      ended.database = store.database ∧
      (∃ committed, ended.commit? = some (.ok (), committed) ∧
        committed.current = none ∧ committed.database.Holds final) ∧
      ∃ dropped, ended.rollback? = some dropped ∧
        dropped.current = none ∧ dropped.database = store.database := by
  let transaction : Transaction := ⟨store.begun + 1, .empty⟩
  let opened : Store := ⟨store.database, store.begun + 1, some transaction⟩
  let run := exchanges Request.action store.database .empty requests
  have start : store.database.plain .empty = tables := by
    funext table key
    rw [Database.plain, Database.value?_empty, holds.rows]
  have follows : Follows Answers tables run.1 (store.database.plain run.2) := by
    have step (request : Request) (_ : True) (writes : WriteSet) (_ : True) :=
      And.intro (answers_action memory holds.readable request writes) trivial
    rw [← start]
    exact (follows_exchanges step (fun _ _ => trivial) trivial).1
  refine ⟨transaction, opened, run.1, { opened with current := some ⟨store.begun + 1, run.2⟩ },
    store.database.plain run.2, ?begun, ?inside, ?answers, rfl, ?commit, ?rollback⟩
  case begun =>
    rw [begin?, free]
  case inside =>
    have current : opened.current = some transaction := rfl
    exact insideAll?_eq Request.action current requests
  case answers =>
    intro history' final'
    constructor
    · rintro ⟨follows', asked⟩
      apply follows'.unique answers_settled follows
      rw [asked, requests_exchanges]
    · rintro ⟨rfl, rfl⟩
      exact ⟨follows, requests_exchanges _ _ _ _⟩
  case commit =>
    exact ⟨_, commit?_of_memory rfl memory, rfl, holds.readable, fun _ _ => rfl⟩
  case rollback =>
    exact ⟨_, rfl, rfl, rfl⟩

open PlainTables in
/-- A put, a delete, a scan and a count over rows whose keys start alike. -/
theorem Store.transaction_follows_plain_tables_over_rows :
    let rows := (KeyMap.empty.insert "a" [1]).insert "ab" [2]
    let store : Store := ⟨⟨.memory, (Tables.const .empty).set .config rows, .const []⟩, 0, none⟩
    let requests : List Request :=
      [.put .config "abc" [3], .delete .config "ab", .scan .config "a", .nextRowId .nodes]
    store.current = none ∧ store.database.medium = .memory ∧
      store.database.Holds (store.database.plain .empty) ∧
      ∃ history final, Follows Answers (store.database.plain .empty) history final ∧
        history.map Exchange.request = requests := by
  intro rows store requests
  have holds : store.database.Holds (store.database.plain .empty) := by
    constructor
    · intro table
      exact Tables.get_const [] table
    · intro table key
      exact (store.database.value?_empty table key).symm
  rcases Store.transaction_follows_plain_tables rfl rfl holds requests with
    ⟨_, _, history, _, final, _, _, answers, _⟩
  exact ⟨rfl, rfl, holds, history, final, (answers history final).2 ⟨rfl, rfl⟩⟩

end ControlPlane
