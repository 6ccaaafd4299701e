import ControlPlane.Proofs.Cluster.SoundRuns
import ControlPlane.Proofs.Cluster.TimedRuns

/-!
# The log of manifests along a run

The manifests that a run created, and has not deleted since, form a log in the order of
their creation.  The rows of a cluster in memory hold this log: the row ids are as the
log is ordered, across deletions and the creation of a deleted manifest anew, and the
instants are the readings of the clock.  So the newest row, wherever its identifier puts
it among the others, is that of the last creation at the latest reading.
-/

namespace ControlPlane

/-! ## The order of instants -/

namespace Instant

/-- An instant is before another one by its second, or within the second. -/
def IsBefore (a b : Instant) : Prop :=
  a.seconds < b.seconds ∨ (a.seconds = b.seconds ∧ a.nanos < b.nanos)

variable {a b : Instant}

theorem isBefore_iff (regular : a.nanos < nanosPerSecond) (regular' : b.nanos < nanosPerSecond) :
    a.IsBefore b ↔ a.toNanos < b.toNanos := by
  simp only [IsBefore, toNanos, nanosPerSecond] at regular regular' ⊢
  omega

/-- Outside leap seconds an instant is settled by its nanoseconds. -/
theorem ofNanos_toNanos (regular : a.nanos < nanosPerSecond) : ofNanos a.toNanos = a := by
  rcases a with ⟨seconds, nanos⟩
  simp only [ofNanos, toNanos, nanosPerSecond, Instant.mk.injEq] at regular ⊢
  omega

end Instant

/-! ## The newest of some rows -/

namespace Manifests

/-- Rows are compared by their instants, and by their row ids where these are the same. -/
theorem Row.isNewer_iff (row other : Row) :
    row.isNewer other = true ↔ other.appliedNanos.toInt < row.appliedNanos.toInt ∨
      (other.appliedNanos.toInt = row.appliedNanos.toInt ∧
        other.rowId.toNat < row.rowId.toNat) := by
  rw [isNewer, Bool.or_eq_true, Bool.and_eq_true, decide_eq_true_iff, decide_eq_true_iff,
    beq_iff_eq, Int64.lt_iff_toInt_lt, UInt64.lt_iff_toNat_lt, Int64.toInt_inj]

/-- A row that is not newer than another one is not newer than what is not older. -/
theorem Row.not_isNewer_trans {a b c : Row} (ab : a.isNewer b = false)
    (bc : b.isNewer c = false) : a.isNewer c = false := by
  rw [Bool.eq_false_iff, ne_eq, isNewer_iff] at ab bc ⊢
  omega

theorem Row.not_isNewer_of_isNewer {a b : Row} (newer : a.isNewer b = true) :
    b.isNewer a = false := by
  rw [Bool.eq_false_iff, ne_eq, isNewer_iff]
  rw [isNewer_iff] at newer
  omega

/-- The newest of some rows is one of them, and none of them is newer. -/
theorem foldl_newest (best : String × Row) (rest : List (String × Row)) :
    let newest := rest.foldl (fun best entry => if entry.2.isNewer best.2 then entry else best) best
    newest ∈ best :: rest ∧ ∀ entry ∈ best :: rest, entry.2.isNewer newest.2 = false := by
  induction rest generalizing best with
  | nil =>
    refine ⟨List.mem_cons_self, ?_⟩
    intro entry member
    rw [List.mem_singleton.1 member]
    cases self : best.2.isNewer best.2 with
    | false => exact self
    | true => exact Row.not_isNewer_of_isNewer self
  | cons entry rest ih =>
    rw [List.foldl_cons]
    by_cases newer : entry.2.isNewer best.2 = true
    · rw [if_pos newer]
      rcases ih entry with ⟨member, none⟩
      refine ⟨List.mem_cons_of_mem _ member, List.forall_mem_cons.2 ⟨?_, none⟩⟩
      exact Row.not_isNewer_trans (Row.not_isNewer_of_isNewer newer)
        (none entry List.mem_cons_self)
    · rw [if_neg newer]
      rcases ih best with ⟨member, none⟩
      rcases List.forall_mem_cons.1 none with ⟨first, others⟩
      refine ⟨?_, List.forall_mem_cons.2 ⟨first, List.forall_mem_cons.2 ⟨?_, others⟩⟩⟩
      · exact List.mem_cons.2 ((List.mem_cons.1 member).imp_right (List.mem_cons_of_mem _))
      · exact Row.not_isNewer_trans (Bool.eq_false_iff.2 newer) first

theorem newest?_spec {entries : List (String × Row)} {best : String × Row}
    (found : newest? entries = some best) :
    best ∈ entries ∧ ∀ entry ∈ entries, entry.2.isNewer best.2 = false := by
  cases entries with
  | nil => cases found
  | cons first rest =>
    cases found
    exact foldl_newest first rest

theorem newest?_eq_none {entries : List (String × Row)} :
    newest? entries = none ↔ entries = [] := by
  cases entries with
  | nil => exact iff_of_true rfl rfl
  | cons first rest => exact iff_of_false nofun nofun

end Manifests

/-! ## The log -/

/-- A manifest that was created. -/
structure Creation where
  id : String
  /-- What the clock showed. -/
  now : Instant
  data : String
  deriving DecidableEq

namespace Creation

/-- The manifest as it is told. -/
def manifest (creation : Creation) : Manifest :=
  ⟨creation.id, .ofNanos creation.now.toNanos, creation.data⟩

/-- A creation is the last one of a log among those with the most nanoseconds. -/
def HasMostNanos (newest : Creation) (log : List Creation) : Prop :=
  ∃ earlier later, log = earlier ++ newest :: later ∧
    (∀ other ∈ earlier, other.now.toNanos ≤ newest.now.toNanos) ∧
    ∀ other ∈ later, other.now.toNanos < newest.now.toNanos

/-- A creation is the last one of a log at the latest reading of the clock. -/
def IsNewest (newest : Creation) (log : List Creation) : Prop :=
  ∃ earlier later, log = earlier ++ newest :: later ∧
    (∀ other ∈ earlier, ¬newest.now.IsBefore other.now) ∧
    ∀ other ∈ later, other.now.IsBefore newest.now

/-- Outside leap seconds the nanoseconds tell the newest creation. -/
theorem HasMostNanos.isNewest {newest : Creation} {log : List Creation}
    (most : newest.HasMostNanos log)
    (regular : ∀ creation ∈ log, creation.now.nanos < nanosPerSecond) : newest.IsNewest log := by
  rcases most with ⟨earlier, later, rfl, notLater, before⟩
  have own := regular newest (List.mem_append_right _ List.mem_cons_self)
  refine ⟨earlier, later, rfl, ?_, ?_⟩
  · intro other member
    rw [Instant.isBefore_iff own (regular other (List.mem_append_left _ member))]
    exact Int.not_lt.2 (notLater other member)
  · intro other member
    have later := List.mem_append_right earlier (List.mem_cons_of_mem newest member)
    rw [Instant.isBefore_iff (regular other later) own]
    exact before other member

end Creation

namespace Exchange

/-- The log after one exchange more. -/
def logs (log : List Creation) : Exchange TimedCall.Answer → List Creation
  | ⟨⟨now, .addManifest id data⟩, .ok _⟩ => log ++ [⟨id, now, data⟩]
  | ⟨⟨_, .deleteManifest id⟩, .ok _⟩ => log.filter fun creation => creation.id ≠ id
  | _ => log

/-- An exchange apart from the reading of the clock. -/
def untimed (exchange : Exchange TimedCall.Answer) : Exchange Call.Answer :=
  ⟨exchange.request.call, exchange.outcome⟩

end Exchange

/-- The manifests that were created, and not deleted since, in the order of their creation. -/
def manifestLog (history : List (Exchange TimedCall.Answer)) : List Creation :=
  history.foldl Exchange.logs []

/-- A creation has a row, among those of the manifests that were created by then. -/
structure Creation.HasRow (creation : Creation) (row : Manifests.Row) (created : Nat) : Prop where
  named : creation.id ≠ Manifest.latestId
  counted : row.rowId.toNat ≤ created
  dated : row.appliedNanos.toInt = creation.now.toNanos
  described : row.data = creation.data

theorem Creation.HasRow.toManifest {creation : Creation} {row : Manifests.Row} {created : Nat}
    (has : creation.HasRow row created) : row.toManifest creation.id = creation.manifest := by
  rw [Manifests.Row.toManifest, manifest, has.dated, has.described]

/-- The rows of manifests hold a log, each creation with its row. -/
structure HoldsLog (rows : String → Option Bytes) (created : Nat)
    (entries : List (Creation × Manifests.Row)) : Prop where
  numbered : entries.Pairwise fun a b => a.2.rowId < b.2.rowId
  each : ∀ entry ∈ entries, entry.1.HasRow entry.2 created
  present : ∀ entry ∈ entries, ∃ value, rows entry.1.id = some value ∧
    Manifests.Row.codec.read? value = some entry.2
  listed : ∀ {id value}, rows id = some value → ∃ entry ∈ entries, entry.1.id = id ∧
    Manifests.Row.codec.read? value = some entry.2

namespace HoldsLog

variable {rows : String → Option Bytes} {created : Nat}
  {entries : List (Creation × Manifests.Row)}

/-- A creation under the next row id is the last of the log. -/
theorem append (holds : HoldsLog rows created entries) {creation : Creation} {row : Manifests.Row}
    (free : rows creation.id = none) (next : row.rowId.toNat = created + 1)
    (has : creation.HasRow row (created + 1)) (measured : Codec.Measured row.data) :
    HoldsLog (Function.update rows creation.id (some (Manifests.Row.codec.encode row)))
      (created + 1) (entries ++ [(creation, row)]) := by
  have read := (Manifests.readsBack_row measured).read?
  constructor
  · rw [List.pairwise_append]
    refine ⟨holds.numbered, List.pairwise_singleton _ _, fun entry member => ?_⟩
    rw [List.forall_mem_singleton, UInt64.lt_iff_toNat_lt, next]
    exact Nat.lt_succ_of_le (holds.each entry member).counted
  · rw [List.forall_mem_append, List.forall_mem_singleton]
    refine ⟨fun entry member => ?_, has⟩
    have before := holds.each entry member
    exact { before with counted := Nat.le_succ_of_le before.counted }
  · rw [List.forall_mem_append, List.forall_mem_singleton, Function.update_self]
    refine ⟨fun entry member => ?_, _, rfl, read⟩
    rcases holds.present entry member with ⟨value, stored, read'⟩
    rw [Function.update_of_ne]
    · exact ⟨value, stored, read'⟩
    · intro same
      rw [same, free] at stored
      cases stored
  · intro id value stored
    by_cases same : id = creation.id
    · rw [same, Function.update_self] at stored
      cases stored
      exact ⟨_, List.mem_concat_self, same.symm, read⟩
    · rw [Function.update_of_ne same] at stored
      rcases holds.listed stored with ⟨entry, member, rest⟩
      exact ⟨entry, List.mem_append_left _ member, rest⟩

/-- A deletion takes away what was created under the identifier. -/
theorem filter (holds : HoldsLog rows created entries) (id : String) :
    HoldsLog (Function.update rows id none) created
      (entries.filter fun entry => entry.1.id ≠ id) where
  numbered := holds.numbered.filter _
  each entry member := holds.each entry (List.mem_filter.1 member).1
  present := by
    intro entry member
    rcases List.mem_filter.1 member with ⟨before, other⟩
    rw [Function.update_of_ne (of_decide_eq_true other)]
    exact holds.present entry before
  listed := by
    intro other value stored
    by_cases same : other = id
    · rw [same, Function.update_self] at stored
      cases stored
    · rw [Function.update_of_ne same] at stored
      rcases holds.listed stored with ⟨entry, member, rfl, read⟩
      exact ⟨entry, List.mem_filter.2 ⟨member, decide_eq_true same⟩, rfl, read⟩

/-- The newest of the rows that are held is that of the newest creation. -/
theorem newest (holds : HoldsLog rows created entries) {listed : List (String × Manifests.Row)}
    (mem_iff : ∀ {entry}, entry ∈ listed ↔
      ∃ value, rows entry.1 = some value ∧ Manifests.Row.codec.read? value = some entry.2) :
    (entries = [] ∧ Manifests.newest? listed = none) ∨
      ∃ (creation : Creation) (row : Manifests.Row), creation.HasMostNanos (entries.map (·.1)) ∧
        Manifests.newest? listed = some (creation.id, row) ∧
        row.toManifest creation.id = creation.manifest := by
  have among {entry : Creation × Manifests.Row} (member : entry ∈ entries) :
      (entry.1.id, entry.2) ∈ listed :=
    mem_iff.2 (holds.present entry member)
  cases found : Manifests.newest? listed with
  | none =>
    refine .inl ⟨?_, rfl⟩
    rw [Manifests.newest?_eq_none] at found
    apply List.eq_nil_iff_forall_not_mem.2
    intro entry member
    have inside := among member
    rw [found] at inside
    exact List.not_mem_nil inside
  | some best =>
    rcases Manifests.newest?_spec found with ⟨member, none⟩
    rcases mem_iff.1 member with ⟨value, stored, read⟩
    rcases holds.listed stored with ⟨⟨creation, row⟩, held, same, read'⟩
    have bestRow : best = (creation.id, row) :=
      Prod.ext same.symm (Option.some.inj (read.symm.trans read'))
    rw [bestRow] at none
    refine .inr ⟨creation, row, ?_, congrArg some bestRow, ?_⟩
    · rcases List.append_of_mem held with ⟨earlier, later, whole⟩
      have numbered := holds.numbered
      rw [whole, List.pairwise_append, List.pairwise_cons] at numbered
      -- None is newer, by its instant first and by its row id where the instants agree.
      have order (entry : Creation × Manifests.Row) (inside : entry ∈ entries) :
          ¬(creation.now.toNanos < entry.1.now.toNanos ∨
            creation.now.toNanos = entry.1.now.toNanos ∧
              row.rowId.toNat < entry.2.rowId.toNat) := by
        have notNewer := none _ (among inside)
        rw [Bool.eq_false_iff, ne_eq, Manifests.Row.isNewer_iff,
          (holds.each entry inside).dated, (holds.each _ held).dated] at notNewer
        exact notNewer
      refine ⟨earlier.map (·.1), later.map (·.1), ?_, ?_, ?_⟩
      · rw [whole, List.map_append, List.map_cons]
      · intro other listed'
        rcases List.mem_map.1 listed' with ⟨entry, inside, rfl⟩
        have notNewer := order entry (whole ▸ List.mem_append_left _ inside)
        omega
      · intro other listed'
        rcases List.mem_map.1 listed' with ⟨entry, inside, rfl⟩
        have notNewer := order entry
          (whole ▸ List.mem_append_right _ (List.mem_cons_of_mem _ inside))
        have above := UInt64.lt_iff_toNat_lt.1 (numbered.2.1.1 entry inside)
        simp only at above
        omega
    · exact (holds.each _ held).toManifest

end HoldsLog

/-! ## What calls do to the log -/

section Actions

variable {database : Database} {writes writes' : WriteSet} {id data : String} {now : Instant}

/-- A manifest that was recorded was free, and has the next row id. -/
theorem Manifests.of_create (found : database.medium.canFind id = true)
    (acts : create id data now database writes = (.ok (), writes')) :
    id ≠ Manifest.latestId ∧ database.value? writes .manifest id = none ∧
      ∃ nanos last, nanos.toInt = now.toNanos ∧
        database.lastRowId? writes .manifest = some last ∧
        writes' = record writes id data (last + 1) nanos := by
  rw [create_apply found] at acts
  split at acts
  · cases acts
  · split at acts
    · cases acts
    · rename_i named
      cases free : database.value? writes .manifest id with
      | some value =>
        rw [free] at acts
        cases acts
      | none =>
        rw [free] at acts
        by_cases fits : Int64.minValue.toInt ≤ now.toNanos ∧
            now.toNanos ≤ Int64.maxValue.toInt
        · rcases storedNanos?_of_fits fits with ⟨nanos, stored, same⟩
          simp only [stored] at acts
          cases counted : database.lastRowId? writes .manifest with
          | none =>
            rw [counted] at acts
            cases acts
          | some last =>
            rw [counted] at acts
            cases acts
            exact ⟨named, rfl, nanos, last, same, rfl, rfl⟩
        · simp only [storedNanos?_of_not_fits fits] at acts
          cases acts

theorem Manifests.of_delete (found : database.medium.canFind id = true)
    (acts : delete id database writes = (.ok (), writes')) :
    writes' = writes.delete .manifest id := by
  rw [delete_apply found] at acts
  split at acts
  · exact (congrArg Prod.snd acts).symm
  · cases acts

end Actions

/-- A call that fails leaves the log as it is. -/
theorem Exchange.logs_of_error (log : List Creation) (asked : TimedCall) (failure : Failure) :
    logs log ⟨asked, .error failure⟩ = log := by
  rcases asked with ⟨now, call⟩
  cases call <;> rfl

/-- Apart from two calls, none concerns the log. -/
theorem Call.spares_log (call : Call) :
    (∃ id data, call = .addManifest id data) ∨ (∃ id, call = .deleteManifest id) ∨
      (call.creations = 0 ∧ (∀ log now outcome, Exchange.logs log ⟨⟨now, call⟩, outcome⟩ = log) ∧
        ∀ key, ¬call.part .manifest key ∧ ¬call.part .counters key) := by
  cases call with
  | addManifest id data => exact .inl ⟨id, data, rfl⟩
  | deleteManifest id => exact .inr (.inl ⟨id, rfl⟩)
  | _ => exact .inr (.inr ⟨rfl, fun _ _ _ => rfl, fun _ => ⟨nofun, nofun⟩⟩)

namespace Cluster

/-- A cluster in memory whose rows of manifests hold a log. -/
structure Logs (cluster : Cluster) (log : List Creation) (created : Nat) : Prop
    extends cluster.Ready where
  readable : cluster.store.database.unreadable.get .manifest = []
  counter : PlainTables.Counts cluster.value? .manifest created
  held : ∃ entries, entries.map (·.1) = log ∧ HoldsLog (cluster.value? .manifest) created entries

variable {cluster : Cluster} {log : List Creation} {created : Nat}

theorem logs_empty (member : String) : (empty .memory member).Logs [] 0 where
  toReady := ready_empty member
  readable := Tables.get_const [] _
  counter := by
    rw [PlainTables.Counts]
    rfl
  held := by
    have none (entry : Creation × Manifests.Row) : entry ∉ [] := List.not_mem_nil
    refine ⟨[], rfl, .nil, fun entry inside => absurd inside (none entry),
      fun entry inside => absurd inside (none entry), ?_⟩
    intro id value stored
    cases stored

/-- The log stays as long as the rows of manifests and their counter do. -/
theorem Logs.serve_of_same (logs : cluster.Logs log created) (now : Instant) (call : Call)
    (same : ∀ key, (cluster.serve now call).2.value? .manifest key = cluster.value? .manifest key ∧
      (cluster.serve now call).2.value? .counters key = cluster.value? .counters key) :
    (cluster.serve now call).2.Logs log created where
  toReady := logs.toReady.serve now call
  readable := by
    rw [unreadable_serve]
    exact logs.readable
  counter := by
    rw [PlainTables.Counts, (same _).2]
    exact logs.counter
  held := by
    rw [funext fun key => (same key).1]
    exact logs.held

/-- A manifest that is recorded is the last of the log. -/
theorem Logs.record (logs : cluster.Logs log created) {now : Instant} {id data : String}
    (measured : Codec.Measured data) (room : created + 1 < 2 ^ 64)
    (answered : (cluster.serve now (.addManifest id data)).1 = .ok ()) :
    (cluster.serve now (.addManifest id data)).2.Logs (log ++ [⟨id, now, data⟩])
      (created + 1) := by
  rcases acts_of_serve answered with ⟨writes, acts, applied⟩
  rcases Manifests.of_create (Database.canFind_of_memory logs.memory id) acts with
    ⟨named, free, nanos, last, dated, counted, rfl⟩
  let row : Manifests.Row := ⟨last + 1, nanos, data⟩
  have seen : (cluster.serve now (.addManifest id data)).2.value? =
      (PlainTables.set cluster.value? .counters Table.manifest.sequenceKey
        (some (Codec.unsigned.encode row.rowId))).set .manifest id
          (some (Manifests.Row.codec.encode row)) := by
    have plain := funext fun table => funext (Database.value?_of_apply applied table)
    refine Eq.trans plain ?_
    exact (Database.plain_put ..).trans (congrArg (PlainTables.set · _ _ _) (Database.plain_put ..))
  have next : row.rowId = UInt64.ofNat (created + 1) := by
    rw [logs.counter.lastRowId?] at counted
    cases counted
    exact (UInt64.ofNat_add created 1).symm
  have number : row.rowId.toNat = created + 1 := by
    rw [next]
    exact UInt64.toNat_ofNat_of_lt' room
  refine ⟨logs.toReady.serve .., ?_, ?_, ?_⟩
  · rw [unreadable_serve]
    exact logs.readable
  · rw [PlainTables.Counts, seen,
      PlainTables.set_of_ne (show Table.counters ≠ .manifest by decide),
      PlainTables.set_eq_update, Function.update_self, Function.update_self]
    simp only
    rw [(Codec.readsBack_unsigned _).read?, next]
  · rcases logs.held with ⟨entries, rfl, holds⟩
    let creation : Creation := ⟨id, now, data⟩
    have has : creation.HasRow row (created + 1) := ⟨named, Nat.le_of_eq number, dated, rfl⟩
    refine ⟨entries ++ [(creation, row)], List.map_append, ?_⟩
    rw [seen, PlainTables.set_eq_update, Function.update_self,
      PlainTables.set_of_ne (show Table.manifest ≠ .counters by decide)]
    have absent : cluster.value? .manifest creation.id = none := free
    exact holds.append absent number has measured

/-- A manifest that is deleted is taken from the log. -/
theorem Logs.delete (logs : cluster.Logs log created) {now : Instant} {id : String}
    (answered : (cluster.serve now (.deleteManifest id)).1 = .ok ()) :
    (cluster.serve now (.deleteManifest id)).2.Logs
      (log.filter fun creation => creation.id ≠ id) created := by
  rcases acts_of_serve answered with ⟨writes, acts, applied⟩
  rcases Manifests.of_delete (Database.canFind_of_memory logs.memory id) acts with rfl
  have seen : (cluster.serve now (.deleteManifest id)).2.value? =
      PlainTables.set cluster.value? .manifest id none := by
    have plain := funext fun table => funext (Database.value?_of_apply applied table)
    refine Eq.trans plain ?_
    exact Database.plain_delete ..
  refine ⟨logs.toReady.serve .., ?_, ?_, ?_⟩
  · rw [unreadable_serve]
    exact logs.readable
  · rw [PlainTables.Counts, seen,
      PlainTables.set_of_ne (show Table.counters ≠ .manifest by decide)]
    exact logs.counter
  · rcases logs.held with ⟨entries, rfl, holds⟩
    refine ⟨entries.filter fun entry => entry.1.id ≠ id, ?_, ?_⟩
    · rw [List.filter_map]
      rfl
    · rw [seen, PlainTables.set_eq_update, Function.update_self]
      exact holds.filter id

/-- A call does to the log what its outcome says. -/
theorem Logs.serve (logs : cluster.Logs log created) {asked : TimedCall}
    {exchange : Exchange TimedCall.Answer}
    (made : exchange = ⟨asked, (cluster.serve asked.now asked.call).1⟩)
    (measured : asked.call.Measured cluster.member)
    (room : created + exchange.untimed.creations < 2 ^ 64) :
    (cluster.serve asked.now asked.call).2.Logs (exchange.logs log)
      (created + exchange.untimed.creations) := by
  rcases asked with ⟨now, call⟩
  cases outcome : (cluster.serve now call).1 with
  | error failure =>
    rw [outcome] at made
    subst made
    rw [Exchange.logs_of_error]
    apply logs.serve_of_same
    intro key
    exact ⟨value?_serve now call (.inr ⟨failure, outcome⟩),
      value?_serve now call (.inr ⟨failure, outcome⟩)⟩
  | ok answer =>
    rw [outcome] at made
    subst made
    rcases call.spares_log with ⟨id, data, rfl⟩ | ⟨id, rfl⟩ | ⟨none, spares, outside⟩
    · exact logs.record measured room outcome
    · exact logs.delete outcome
    · rw [spares]
      have creates : created + Exchange.creations ⟨call, .ok answer⟩ = created := by
        rw [Exchange.creations, none, Nat.add_zero]
      rw [Exchange.untimed, creates]
      apply logs.serve_of_same
      intro key
      exact ⟨value?_serve now call (.inl (outside key).1),
        value?_serve now call (.inl (outside key).2)⟩

/-- Calls one after the other do to the log what their outcomes say. -/
theorem Logs.serveEach (logs : cluster.Logs log created) (calls : List TimedCall)
    (measured : ∀ asked ∈ calls, asked.call.Measured cluster.member)
    (room : created + manifestsCreated ((cluster.serveEach calls).1.map Exchange.untimed) <
      2 ^ 64) :
    (cluster.serveEach calls).2.Logs
      ((cluster.serveEach calls).1.foldl (fun log exchange => exchange.logs log) log)
      (created + manifestsCreated ((cluster.serveEach calls).1.map Exchange.untimed)) := by
  induction calls generalizing cluster log created with
  | nil => exact logs
  | cons asked later ih =>
    rw [Cluster.serveEach] at room ⊢
    simp only [List.map_cons, manifestsCreated, List.foldl_cons, ← Nat.add_assoc] at room ⊢
    have next := logs.serve rfl (measured asked List.mem_cons_self)
      (Nat.lt_of_le_of_lt (Nat.le_add_right _ _) room)
    apply ih next _ room
    intro other member
    rw [member_serve]
    exact measured other (List.mem_cons_of_mem _ member)

/-! ## The latest manifest -/

/-- The latest manifest is that of the newest creation of the log. -/
theorem Logs.serve_latest (logs : cluster.Logs log created) (now : Instant) :
    (log = [] ∧
        (cluster.serve now (.getManifest Manifest.latestId)).1 = .error Manifests.notFound) ∨
      ∃ newest : Creation, newest.HasMostNanos log ∧
        (cluster.serve now (.getManifest Manifest.latestId)).1 = .ok newest.manifest := by
  rcases logs.held with ⟨entries, rfl, holds⟩
  have shows_ : ∀ row ∈ cluster.store.database.listed .empty .manifest,
      ∃ entry, Manifests.Shows row entry := by
    rintro ⟨id, value⟩ member
    rcases holds.listed (Database.mem_listed.1 member) with ⟨entry, _, _, read⟩
    exact ⟨(id, entry.2), rfl, read⟩
  rcases Manifests.rows_apply logs.readable shows_ with ⟨listed, read, each⟩
  have acts : (Call.getManifest Manifest.latestId).action cluster.member now
      cluster.store.database .empty = _ := Manifests.latest_of_rows read
  have mem_iff {entry : String × Manifests.Row} : entry ∈ listed ↔
      ∃ value, cluster.value? .manifest entry.1 = some value ∧
        Manifests.Row.codec.read? value = some entry.2 := by
    rw [Manifests.mem_of_shows each]
    exact exists_congr fun value => and_congr_left fun _ => Database.mem_listed
  rcases holds.newest mem_iff with ⟨none, found⟩ | ⟨creation, row, newest, found, told⟩
  · rw [found] at acts
    refine .inl ⟨?_, (serve_of_failure _ _ rfl acts).1⟩
    rw [none]
    rfl
  · rw [found] at acts
    simp only [told] at acts
    exact .inr ⟨creation, newest, (serve_of_answer _ _ logs.memory rfl acts).1⟩

/-- There is no manifest to delete by the identifier of the latest one. -/
theorem Logs.serve_deleteLatest (logs : cluster.Logs log created) (now : Instant) :
    (cluster.serve now (.deleteManifest Manifest.latestId)).1 = .error Manifests.notFound := by
  rcases logs.held with ⟨entries, _, holds⟩
  have absent : cluster.store.database.value? .empty .manifest Manifest.latestId = none := by
    cases stored : cluster.store.database.value? .empty .manifest Manifest.latestId with
    | none => rfl
    | some value =>
      rcases holds.listed stored with ⟨entry, member, same, _⟩
      exact absurd same (holds.each entry member).named
  have acts : (Call.deleteManifest Manifest.latestId).action cluster.member now
      cluster.store.database .empty = _ :=
    Manifests.delete_apply (Database.canFind_of_memory logs.memory _)
  rw [absent] at acts
  exact (serve_of_failure _ _ rfl acts).1

end Cluster

/-- What is new in a log was asked for. -/
theorem Exchange.mem_logs {log : List Creation} {exchange : Exchange TimedCall.Answer}
    {creation : Creation} (member : creation ∈ exchange.logs log) :
    creation ∈ log ∨
      exchange.request = ⟨creation.now, .addManifest creation.id creation.data⟩ := by
  rcases exchange with ⟨⟨now, call⟩, failure | answer⟩
  · rw [logs_of_error] at member
    exact .inl member
  · rcases call.spares_log with ⟨id, data, rfl⟩ | ⟨id, rfl⟩ | ⟨_, spares, _⟩
    · rcases List.mem_append.1 member with before | last
      · exact .inl before
      · rw [List.mem_singleton.1 last]
        exact .inr rfl
    · exact .inl (List.mem_filter.1 member).1
    · rw [spares] at member
      exact .inl member

theorem Exchange.mem_foldl_logs {log : List Creation}
    {history : List (Exchange TimedCall.Answer)} {creation : Creation}
    (member : creation ∈ history.foldl logs log) :
    creation ∈ log ∨
      ⟨creation.now, .addManifest creation.id creation.data⟩ ∈ history.map Exchange.request := by
  induction history generalizing log with
  | nil => exact .inl member
  | cons exchange later ih =>
    rcases ih member with first | asked
    · rcases mem_logs first with before | asked
      · exact .inl before
      · exact .inr (List.mem_cons.2 (.inl asked.symm))
    · exact .inr (List.mem_cons_of_mem _ asked)

theorem mem_manifestLog {history : List (Exchange TimedCall.Answer)} {creation : Creation}
    (member : creation ∈ manifestLog history) :
    ⟨creation.now, .addManifest creation.id creation.data⟩ ∈ history.map Exchange.request :=
  (Exchange.mem_foldl_logs member).resolve_left List.not_mem_nil

/-- After any calls of an empty cluster in memory, each at any reading of the clock, of
which none that asks to record a manifest is in a leap second, and as long as row ids are
left: the latest manifest is the last one created at the latest reading, among those that
have not been deleted since; there is none just if no manifest is left; and none can be
deleted by the identifier of the latest one. -/
theorem latest_manifest_is_newest (member : String) (calls : List TimedCall)
    (measured : ∀ asked ∈ calls, asked.call.Measured member)
    (regular : ∀ now id data, ⟨now, .addManifest id data⟩ ∈ calls → now.nanos < nanosPerSecond)
    (few : manifestsCreated
      (((Cluster.empty .memory member).serveEach calls).1.map Exchange.untimed) < 2 ^ 64) :
    let run := (Cluster.empty .memory member).serveEach calls
    ∀ now,
      ((manifestLog run.1 = [] ∧
          (run.2.serve now (.getManifest Manifest.latestId)).1 = .error Manifests.notFound) ∨
        ∃ newest : Creation, newest.IsNewest (manifestLog run.1) ∧
          (run.2.serve now (.getManifest Manifest.latestId)).1 =
            .ok ⟨newest.id, newest.now, newest.data⟩) ∧
      (run.2.serve now (.deleteManifest Manifest.latestId)).1 = .error Manifests.notFound := by
  intro run now
  have logs : run.2.Logs (manifestLog run.1) _ :=
    (Cluster.logs_empty member).serveEach calls measured (by rwa [Nat.zero_add])
  have inside (creation : Creation) (logged : creation ∈ manifestLog run.1) :
      creation.now.nanos < nanosPerSecond := by
    have asked := mem_manifestLog logged
    rw [Cluster.map_request_serveEach] at asked
    exact regular _ _ _ asked
  refine ⟨?_, logs.serve_deleteLatest now⟩
  rcases logs.serve_latest now with empty | ⟨newest, most, answered⟩
  · exact .inl empty
  · refine .inr ⟨newest, most.isNewest inside, ?_⟩
    rcases most with ⟨earlier, later, whole, _⟩
    have own : newest ∈ manifestLog run.1 := by
      rw [whole]
      exact List.mem_append_right _ List.mem_cons_self
    rw [answered, Creation.manifest, Instant.ofNanos_toNanos (inside newest own)]

/-- A manifest is recorded, then two at an earlier reading, of which the one comes back
under its identifier after it was deleted. -/
theorem latest_manifest_is_newest_after_deletion :
    let calls : List TimedCall :=
      [⟨⟨9, 0⟩, .addManifest "a" "one"⟩, ⟨⟨5, 7⟩, .addManifest "z" "two"⟩,
        ⟨⟨5, 7⟩, .addManifest "c" "three"⟩, ⟨⟨5, 7⟩, .deleteManifest "z"⟩,
        ⟨⟨5, 7⟩, .addManifest "z" "four"⟩, ⟨⟨9, 0⟩, .deleteManifest "a"⟩]
    let run := (Cluster.empty .memory "node-1").serveEach calls
    (∀ asked ∈ calls, asked.call.Measured "node-1") ∧
      (∀ now id data, ⟨now, .addManifest id data⟩ ∈ calls → now.nanos < nanosPerSecond) ∧
      manifestsCreated (run.1.map Exchange.untimed) < 2 ^ 64 ∧
      manifestLog run.1 = [⟨"c", ⟨5, 7⟩, "three"⟩, ⟨"z", ⟨5, 7⟩, "four"⟩] ∧
      ∃ newest : Creation, newest.IsNewest (manifestLog run.1) ∧
        (run.2.serve ⟨9, 9⟩ (.getManifest Manifest.latestId)).1 =
          .ok ⟨newest.id, newest.now, newest.data⟩ := by
  intro calls run
  have measured : ∀ asked ∈ calls, asked.call.Measured "node-1" := by
    intro asked listed
    simp only [calls, List.mem_cons, List.not_mem_nil, or_false] at listed
    rcases listed with rfl | rfl | rfl | rfl | rfl | rfl
    · exact (by decide : Codec.Measured "one")
    · exact (by decide : Codec.Measured "two")
    · exact (by decide : Codec.Measured "three")
    · trivial
    · exact (by decide : Codec.Measured "four")
    · trivial
  have regular : ∀ now id data, ⟨now, .addManifest id data⟩ ∈ calls →
      now.nanos < nanosPerSecond := by
    intro now id data listed
    have all : ∀ asked ∈ calls, asked.now.nanos < nanosPerSecond := by decide
    exact all _ listed
  have few : manifestsCreated (run.1.map Exchange.untimed) < 2 ^ 64 := by
    apply Nat.lt_of_le_of_lt (manifestsCreated_le_length _)
    rw [List.length_map, ← List.length_map Exchange.request, Cluster.map_request_serveEach]
    decide
  have log : manifestLog run.1 = [⟨"c", ⟨5, 7⟩, "three"⟩, ⟨"z", ⟨5, 7⟩, "four"⟩] := by
    decide +kernel
  refine ⟨measured, regular, few, log, ?_⟩
  rcases (latest_manifest_is_newest "node-1" calls measured regular few ⟨9, 9⟩).1 with
    ⟨empty, _⟩ | newest
  · rw [log] at empty
    cases empty
  · exact newest

end ControlPlane
