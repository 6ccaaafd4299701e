import ControlPlane.Proofs.Cluster.CallReads
import ControlPlane.Proofs.Cluster.Serving
import ControlPlane.Proofs.Cluster.TimedRuns

/-!
# Calls with disjoint footprints

The footprint of a call consists of the rows that it may look at or change.  A call does not
notice another one that changes none of them, whether or not the other one fails, and
whatever the rows hold.  So two calls without a common row come to the same in either order:
each is answered alike, and the same cluster is left behind.
-/

namespace ControlPlane

open ControlPlane.Action (onlyRow)

/-! ## Clusters with the same rows -/

/-- A key that can be found is read as a new transaction sees it. -/
theorem Database.read_eq (database : Database) (table : Table) (key : String) :
    database.read table key =
      if database.medium.canFind key then .ok (database.value? .empty table key)
      else .error .taskFailed := by
  rw [value?_empty]
  rfl

/-- Rows that have the same values are scanned alike. -/
theorem Database.scan_of_value? {a b : Database} (medium : a.medium = b.medium)
    (unreadable : a.unreadable = b.unreadable) {table : Table} {start : String}
    (same : ∀ key, startsWith key start = true →
      a.value? .empty table key = b.value? .empty table key) :
    a.scan table start = b.scan table start := by
  have cut : ((a.rows.get table).filter fun key _ => startsWith key start) =
      (b.rows.get table).filter fun key _ => startsWith key start := by
    apply KeyMap.ext_get?
    intro key
    rw [KeyMap.get?_filter, KeyMap.get?_filter]
    cases starts : startsWith key start with
    | false => simp
    | true =>
      have known := same key starts
      rw [value?_empty, value?_empty] at known
      rw [known]
  rw [scan, scan, firstUnreadable?, firstUnreadable?, medium, unreadable, cut]

namespace Cluster

variable {cluster cluster' : Cluster}

/-- A row is read alike where it has the same value on the same medium. -/
theorem read_of_value? (medium : cluster.store.database.medium = cluster'.store.database.medium)
    {table : Table} {key : String} (same : cluster.value? table key = cluster'.value? table key) :
    cluster.store.database.read table key = cluster'.store.database.read table key := by
  rw [value?, value?] at same
  rw [Database.read_eq, Database.read_eq, medium, same]

/-- A cluster is determined by its rows and by what no call changes, but for the number of
transactions that have begun. -/
theorem ext_value? (member : cluster.member = cluster'.member)
    (medium : cluster.store.database.medium = cluster'.store.database.medium)
    (unreadable : cluster.store.database.unreadable = cluster'.store.database.unreadable)
    (values : ∀ table key, cluster.value? table key = cluster'.value? table key)
    (begun : cluster.store.begun = cluster'.store.begun)
    (current : cluster.store.current = cluster'.store.current) : cluster = cluster' := by
  have rows : cluster.store.database.rows = cluster'.store.database.rows := by
    apply Tables.ext_get
    intro table
    apply KeyMap.ext_get?
    intro key
    have same := values table key
    rwa [value?, value?, Database.value?_empty, Database.value?_empty] at same
  rcases cluster with ⟨_, ⟨⟨_, _, _⟩, _, _⟩⟩
  rcases cluster' with ⟨_, ⟨⟨_, _, _⟩, _, _⟩⟩
  cases member
  cases medium
  cases unreadable
  cases rows
  cases begun
  cases current
  rfl

/-- A transaction begins for every call that is not refused up front. -/
theorem begun_serve (cluster : Cluster) (now : Instant) (call : Call) :
    (cluster.serve now call).2.store.begun =
      cluster.store.begun + if call.refusal?.isNone then 1 else 0 := by
  rw [serve]
  cases call.refusal? with
  | some failure => rfl
  | none =>
    simp only [Store.transact]
    split
    · split <;> rfl
    · rfl

section Congr

variable {now now' : Instant} {call : Call}
  (medium : cluster.store.database.medium = cluster'.store.database.medium)
  (acts : call.action cluster.member now cluster.store.database =
    call.action cluster'.member now' cluster'.store.database)

include medium acts

/-- A call has the same outcome on clusters where its action does the same. -/
theorem outcome_congr : (cluster.serve now call).1 = (cluster'.serve now' call).1 := by
  have accepts (writes : WriteSet) :
      cluster.store.database.accepts writes = cluster'.store.database.accepts writes := by
    rw [Database.accepts, Database.accepts, medium]
  rw [serve, serve]
  cases call.refusal? with
  | some failure => rfl
  | none =>
    simp only [Store.transact, acts]
    rcases call.action cluster'.member now' cluster'.store.database .empty with
      ⟨failure | answer, writes⟩
    · rfl
    · simp only [Database.apply, accepts]
      cases cluster'.store.database.accepts writes <;> rfl

/-- A row that has the same value before such a call has the same value after it. -/
theorem value?_serve_congr {table : Table} {key : String}
    (same : cluster.value? table key = cluster'.value? table key) :
    (cluster.serve now call).2.value? table key =
      (cluster'.serve now' call).2.value? table key := by
  have outcomes := outcome_congr medium acts
  cases outcome : (cluster'.serve now' call).1 with
  | error failure =>
    rw [value?, value?, database_of_serve_error outcome,
      database_of_serve_error (outcomes.trans outcome)]
    exact same
  | ok answer =>
    rcases acts_of_serve outcome with ⟨writes, acted, applied⟩
    rcases acts_of_serve (outcomes.trans outcome) with ⟨writes', acted', applied'⟩
    rw [acts, acted] at acted'
    cases acted'
    rw [value?, value?, Database.value?_of_apply applied, Database.value?_of_apply applied',
      Database.value?_eq, Database.value?_eq]
    exact congrArg _ same

end Congr

end Cluster

/-! ## Footprints -/

/-- The rows of a table whose keys start in one way. -/
def Action.rowsFrom (table : Table) (start : String) : Table → String → Prop :=
  fun other key => other = table ∧ startsWith key start = true

namespace Call

/-- The rows that a call may look at or change: those of its record, of its plan or of its
list. -/
def footprint : Call → Table → String → Prop
  | getConfig key | putConfig key _ | deleteConfig key => onlyRow .config key
  | listConfigKeys start => Action.rowsFrom .config start
  | getNode name | addNode name _ _ _ | updateNode name _ _ _ | deleteNode name =>
    onlyRow .nodes name
  | listNodes _ => Action.rowsFrom .nodes ""
  | getManifest id =>
    if id = Manifest.latestId then Action.rowsFrom .manifest "" else onlyRow .manifest id
  | deleteManifest id => onlyRow .manifest id
  | addManifest id _ => Manifests.counted id
  | listManifests => Action.rowsFrom .manifest ""
  | getJujuUser username | addJujuUser username _ | deleteJujuUser username =>
    onlyRow .jujuUser username
  | listJujuUsers => Action.rowsFrom .jujuUser ""
  | getLock plan | lockPlan plan _ | unlockPlan plan _ => onlyRow .config (Plans.lockKey plan)
  | getState plan | deleteState plan => onlyRow .config (Plans.stateKey plan)
  | putState plan _ _ => fun table key =>
    onlyRow .config (Plans.lockKey plan) table key ∨ onlyRow .config (Plans.stateKey plan) table key
  | listLocks => Action.rowsFrom .config Plans.lockStart
  | listStates => Action.rowsFrom .config Plans.stateStart

variable {call other : Call} {table : Table} {key : String}

theorem footprint_of_part (inside : call.part table key) : call.footprint table key := by
  cases call with
  | putState plan lockId state => exact .inr inside
  | getConfig | listConfigKeys | listNodes | getNode | listManifests | getManifest | listJujuUsers
  | getJujuUser | listStates | getState | listLocks | getLock => exact inside.elim
  | _ => exact inside

theorem footprint_of_looksUp (looks : call.looksUp table key) : call.footprint table key := by
  cases call with
  | putState plan lockId state => exact .inl looks
  | getManifest id =>
    rw [footprint, if_neg looks.1]
    exact looks.2
  | putConfig | listConfigKeys | listNodes | listManifests | listJujuUsers | listStates
  | listLocks => exact looks.elim
  | _ => exact looks

theorem footprint_of_scansFor {start : String} (scans : call.scansFor table start)
    (starts : startsWith key start = true) : call.footprint table key := by
  cases call with
  | listConfigKeys | listNodes | listManifests | listJujuUsers | listStates | listLocks =>
    rcases scans with ⟨rfl, rfl⟩
    exact ⟨rfl, starts⟩
  | getManifest id =>
    rcases scans with ⟨latest, rfl, rfl⟩
    rw [footprint, if_pos latest]
    exact ⟨rfl, starts⟩
  | _ => exact scans.elim

/-- Two calls have no row in common. -/
def Apart (call other : Call) : Prop :=
  ∀ table key, call.footprint table key → ¬other.footprint table key

theorem Apart.symm (apart : call.Apart other) : other.Apart call :=
  fun table key inside inside' => apart table key inside' inside

end Call

/-! ## Calls one behind the other -/

namespace Cluster

variable {cluster : Cluster} {now now' : Instant} {call other : Call}

/-- A call does the same whether or not a call was served before that changes no row of its
footprint. -/
theorem action_after (spares : ∀ table key, other.part table key → ¬call.footprint table key) :
    call.action (cluster.serve now other).2.member now' (cluster.serve now other).2.store.database =
      call.action cluster.member now' cluster.store.database := by
  have kept {table : Table} {key : String} (inside : call.footprint table key) :
      (cluster.serve now other).2.value? table key = cluster.value? table key :=
    value?_serve now other (.inl fun changed => spares table key changed inside)
  rw [member_serve]
  apply Call.action_congr
  · intro table key looks
    exact read_of_value? (medium_serve _ _ _) (kept (Call.footprint_of_looksUp looks))
  · intro table start scans
    apply Database.scan_of_value? (medium_serve _ _ _) (unreadable_serve _ _ _)
    intro key starts
    exact kept (Call.footprint_of_scansFor scans starts)

/-- A call is answered alike before and after one that changes no row of its footprint. -/
theorem outcome_after (spares : ∀ table key, other.part table key → ¬call.footprint table key) :
    ((cluster.serve now other).2.serve now' call).1 = (cluster.serve now' call).1 :=
  outcome_congr (medium_serve _ _ _) (action_after spares)

end Cluster

namespace Call

variable {call other : Call}

/-- Two calls are answered alike in either order, and leave the same cluster behind. -/
def Commutes (call other : Call) : Prop :=
  ∀ (cluster : Cluster) (now now' : Instant),
    let before := cluster.serve now call
    let before' := cluster.serve now' other
    (before'.2.serve now call).1 = before.1 ∧ (before.2.serve now' other).1 = before'.1 ∧
      (before'.2.serve now call).2 = (before.2.serve now' other).2

theorem Apart.spares (apart : call.Apart other) {table : Table} {key : String}
    (changed : other.part table key) : ¬call.footprint table key :=
  fun inside => apart table key inside (footprint_of_part changed)

/-- Calls without a common row commute. -/
theorem Apart.commutes (apart : call.Apart other) : call.Commutes other := by
  intro cluster now now' before before'
  have spares (table : Table) (key : String) (changed : other.part table key) :
      ¬call.footprint table key := apart.spares changed
  have spares' (table : Table) (key : String) (changed : call.part table key) :
      ¬other.footprint table key := apart.symm.spares changed
  refine ⟨Cluster.outcome_after spares, Cluster.outcome_after spares', ?_⟩
  apply Cluster.ext_value?
  case member => simp only [before, before', Cluster.member_serve]
  case medium => simp only [before, before', Cluster.medium_serve]
  case unreadable => simp only [before, before', Cluster.unreadable_serve]
  case begun =>
    simp only [before, before', Cluster.begun_serve]
    omega
  case current => simp only [before, before', Cluster.current_serve]
  case values =>
    intro table key
    -- At most one of the calls changes the row, and does so alike before and after the other.
    by_cases changed : other.part table key
    · have outside : ¬call.part table key := fun both =>
        spares table key changed (footprint_of_part both)
      rw [Cluster.value?_serve now call (.inl outside)]
      exact (Cluster.value?_serve_congr (Cluster.medium_serve _ _ _) (Cluster.action_after spares')
        (Cluster.value?_serve now call (.inl outside))).symm
    · rw [Cluster.value?_serve now' other (.inl changed)]
      exact Cluster.value?_serve_congr (Cluster.medium_serve _ _ _) (Cluster.action_after spares)
        (Cluster.value?_serve now' other (.inl changed))

/-! ## Calls about plans -/

/-- The plan that a call is about. -/
def plan? : Call → Option String
  | getState plan | putState plan _ _ | deleteState plan | getLock plan | lockPlan plan _
  | unlockPlan plan _ => some plan
  | _ => none

/-- The configuration item that a call is about. -/
def item? : Call → Option String
  | getConfig key | putConfig key _ | deleteConfig key => some key
  | _ => none

theorem footprint_of_plan? {plan : String} (about : call.plan? = some plan) {table : Table}
    {key : String} (inside : call.footprint table key) :
    table = .config ∧ (key = Plans.lockKey plan ∨ key = Plans.stateKey plan) := by
  cases call with
  | getLock | lockPlan | unlockPlan =>
    cases about
    exact ⟨inside.1, .inl inside.2⟩
  | getState | deleteState =>
    cases about
    exact ⟨inside.1, .inr inside.2⟩
  | putState =>
    cases about
    rcases inside with inside | inside
    · exact ⟨inside.1, .inl inside.2⟩
    · exact ⟨inside.1, .inr inside.2⟩
  | _ => cases about

theorem footprint_of_item? {item : String} (about : call.item? = some item) :
    call.footprint = onlyRow .config item := by
  cases call with
  | getConfig | putConfig | deleteConfig =>
    cases about
    rfl
  | _ => cases about

/-- Different plans have no row in common. -/
theorem apart_of_plans {plan plan' : String} (about : call.plan? = some plan)
    (about' : other.plan? = some plan') (different : plan ≠ plan') : call.Apart other := by
  intro table key inside inside'
  rcases footprint_of_plan? about inside with ⟨-, rfl | rfl⟩ <;>
    rcases footprint_of_plan? about' inside' with ⟨-, same | same⟩
  · exact different (Plans.lockKey_injective same)
  · exact Plans.lockKey_ne_stateKey plan plan' same
  · exact Plans.stateKey_ne_lockKey plan plan' same
  · exact different (Plans.stateKey_injective same)

/-- A plan has two rows, and no other configuration item touches it. -/
theorem apart_of_item {plan item : String} (about : call.plan? = some plan)
    (about' : other.item? = some item)
    (foreign : item ≠ Plans.lockKey plan ∧ item ≠ Plans.stateKey plan) : call.Apart other := by
  intro table key inside inside'
  rw [footprint_of_item? about'] at inside'
  rcases inside' with ⟨rfl, rfl⟩
  rcases (footprint_of_plan? about inside).2 with same | same
  · exact foreign.1 same
  · exact foreign.2 same

end Call

/-! ## Runs -/

/-- A call and a run of calls without a common row come to the same in either order. -/
theorem Cluster.serveEach_apart {call : Call} {calls : List TimedCall}
    (apart : ∀ asked ∈ calls, call.Apart asked.call) (cluster : Cluster) (now : Instant) :
    let before := cluster.serve now call
    let run := cluster.serveEach calls
    (run.2.serve now call).1 = before.1 ∧ (before.2.serveEach calls).1 = run.1 ∧
      (run.2.serve now call).2 = (before.2.serveEach calls).2 := by
  induction calls generalizing cluster with
  | nil => exact ⟨rfl, rfl, rfl⟩
  | cons asked later ih =>
    intro before run
    have first := (apart asked List.mem_cons_self).commutes cluster now asked.now
    have rest := ih (fun other listed => apart other (List.mem_cons_of_mem _ listed))
      (cluster.serve asked.now asked.call).2
    rcases first with ⟨answer, answer', same⟩
    rcases rest with ⟨last, history, final⟩
    rw [same] at history final
    refine ⟨last.trans answer, ?_, final⟩
    simp only [before, run, serveEach, answer', history]

/-- Two calls without a common row commute, and so do two calls about different plans, and one
about a plan and one about a configuration item that is not a row of the plan.

Nor does it make a difference whether a call comes before or after a run of calls without a
common row. -/
theorem disjoint_calls_commute :
    (∀ call other : Call, call.Apart other → call.Commutes other) ∧
    (∀ (call other : Call) (plan plan' : String), call.plan? = some plan →
      other.plan? = some plan' → plan ≠ plan' → call.Commutes other) ∧
    (∀ (call other : Call) (plan item : String), call.plan? = some plan →
      other.item? = some item → item ≠ Plans.lockKey plan ∧ item ≠ Plans.stateKey plan →
      call.Commutes other) ∧
    ∀ (call : Call) (calls : List TimedCall), (∀ asked ∈ calls, call.Apart asked.call) →
      ∀ (cluster : Cluster) (now : Instant),
      let before := cluster.serve now call
      let run := cluster.serveEach calls
      (run.2.serve now call).1 = before.1 ∧ (before.2.serveEach calls).1 = run.1 ∧
        (run.2.serve now call).2 = (before.2.serveEach calls).2 :=
  ⟨fun _ _ apart => apart.commutes,
    fun _ _ _ _ about about' different => (Call.apart_of_plans about about' different).commutes,
    fun _ _ _ _ about about' foreign => (Call.apart_of_item about about' foreign).commutes,
    fun _ _ apart => Cluster.serveEach_apart apart⟩

/-- A new manifest beside a state whose lock cannot be read, two plans, and an item whose key
is that of the lock of another plan. -/
theorem disjoint_calls_commute_of_corrupt_lock :
    let lock : Lock := { id := "7" }
    let rows := (Tables.const KeyMap.empty).set .config
      (KeyMap.empty.insert (Plans.lockKey "a") [0xff])
    let cluster : Cluster := ⟨"node-1", ⟨⟨.memory, rows, .const []⟩, 0, none⟩⟩
    let addManifest : Call := .addManifest "m" "x"
    let putState : Call := .putState "a" "7" "[]"
    (cluster.serve ⟨0, 0⟩ addManifest).1.isOk = true ∧
      (cluster.serve ⟨0, 0⟩ putState).1.isOk = false ∧
      addManifest.Commutes putState ∧ putState.Commutes (.lockPlan "b" lock) ∧
      putState.Commutes (.deleteConfig (Plans.lockKey "b")) ∧
      ((cluster.serveEach [⟨⟨1, 0⟩, putState⟩]).2.serve ⟨0, 0⟩ addManifest).2 =
        ((cluster.serve ⟨0, 0⟩ addManifest).2.serveEach [⟨⟨1, 0⟩, putState⟩]).2 := by
  intro lock rows cluster addManifest putState
  have apart : addManifest.Apart putState := by
    rintro table key (⟨rfl, -⟩ | ⟨rfl, -⟩) (⟨other, -⟩ | ⟨other, -⟩) <;> cases other
  rcases disjoint_calls_commute with ⟨commute, plans, items, runs⟩
  refine ⟨by decide +kernel, by decide +kernel, commute _ _ apart,
    plans _ _ "a" "b" rfl rfl (by decide), items _ _ "a" _ rfl rfl (by decide), ?_⟩
  exact (runs addManifest [⟨⟨1, 0⟩, putState⟩] (by simpa using apart) cluster ⟨0, 0⟩).2.2

end ControlPlane
