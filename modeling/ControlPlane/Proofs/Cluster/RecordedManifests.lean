import ControlPlane.Proofs.Cluster.ManifestLog

/-!
# Manifests as they are recorded

A manifest is recorded if the nanoseconds between 1970 and its date fit 64 bits, before
1970 and after.  The transaction that records it, and the next one once that is committed,
find the manifest under its identifier and among the others with the very date that was
given.  A date that does not fit is refused before a row id is handed out.
-/

namespace ControlPlane

/-- What a transaction leaves is seen by itself, and by the next one if it commits. -/
inductive Database.Leaves (database : Database) (writes : WriteSet) : Database → WriteSet → Prop
  | staged : Leaves database writes database writes
  | committed {next : Database} (applied : database.apply writes = .ok next) :
    Leaves database writes next .empty

namespace Database.Leaves

variable {database next : Database} {writes after : WriteSet} {table : Table} {key : String}

theorem value?_eq (leaves : database.Leaves writes next after) :
    next.value? after table key = database.value? writes table key := by
  cases leaves with
  | staged => rfl
  | committed applied => exact Database.value?_of_apply applied table key

theorem unreadable_eq (leaves : database.Leaves writes next after) :
    next.unreadable = database.unreadable := by
  cases leaves with
  | staged => rfl
  | committed applied => rw [Database.rows_of_apply applied]

/-- A key that was written to is looked up, whatever the medium. -/
theorem get_of_staged (leaves : database.Leaves writes next after) {value : Bytes}
    (staged : writes.get? table key = some (some value)) :
    Action.get table key next after = (.ok (some value), after) := by
  cases leaves with
  | staged =>
    rw [Action.get, staged]
  | committed applied =>
    have found : next.medium.canFind key = true := by
      rw [Database.medium_of_apply applied]
      exact Medium.canFind_of_canStore (Database.canStore_of_apply applied staged)
    rw [Action.get_apply found, Database.value?_of_apply applied, Database.value?_eq, staged]
    rfl

end Database.Leaves

/-- A key is looked up as it is seen. -/
theorem Action.value?_of_get {database : Database} {writes after : WriteSet} {table : Table}
    {key : String} {value? : Option Bytes}
    (looked : Action.get table key database writes = (.ok value?, after)) :
    database.value? writes table key = value? := by
  cases found : database.medium.canFind key with
  | true =>
    rw [Action.get_apply found] at looked
    cases looked
    rfl
  | false =>
    rw [Action.get] at looked
    rw [Database.value?_eq]
    cases staged : writes.get? table key with
    | some write =>
      rw [staged] at looked
      cases looked
      rfl
    | none =>
      simp only [staged, Database.read, found, Bool.false_eq_true, if_false] at looked
      cases looked

namespace Manifests

variable {database : Database} {writes : WriteSet} {manifests : List Manifest}

/-! ## Lists of manifests -/

/-- All rows of manifests can be read. -/
structure Readable (database : Database) (writes : WriteSet) : Prop where
  texts : database.unreadable.get .manifest = []
  rows : ∀ {id value}, database.value? writes .manifest id = some value →
    ∃ row, Row.codec.read? value = some row

/-- A manifest stands in the row of its identifier. -/
def Stands (database : Database) (writes : WriteSet) (manifest : Manifest) : Prop :=
  ∃ value row, database.value? writes .manifest manifest.id = some value ∧
    Row.codec.read? value = some row ∧ row.toManifest manifest.id = manifest

/-- The manifests of all rows, each once, in ascending order of identifiers. -/
structure Lists (database : Database) (writes : WriteSet) (manifests : List Manifest) :
    Prop where
  ascending : manifests.Pairwise fun a b => a.id < b.id
  mem_iff : ∀ manifest, manifest ∈ manifests ↔ Stands database writes manifest

/-- Entries are in the order of the rows that show them. -/
theorem ascending_of_shows {rows : List (String × Bytes)} {entries : List (String × Row)}
    (each : List.Forall₂ Shows rows entries) (ascending : rows.Pairwise fun a b => a.1 < b.1) :
    entries.Pairwise fun a b => a.1 < b.1 := by
  have names : entries.map (·.1) = rows.map (·.1) := by
    induction each with
    | nil => rfl
    | cons shown _ ih =>
      rw [List.map_cons, List.map_cons, shown.1, ih (List.pairwise_cons.1 ascending).2]
  rw [← List.pairwise_map (R := (· < ·)), names, List.pairwise_map]
  exact ascending

/-- Where all rows can be read, all manifests are listed. -/
theorem Readable.list (readable : Readable database writes) :
    ∃ manifests, Manifests.list database writes = (.ok manifests, writes) ∧
      Lists database writes manifests := by
  have shows_ : ∀ row ∈ database.listed writes .manifest, ∃ entry, Shows row entry := by
    rintro ⟨id, value⟩ member
    rcases readable.rows (Database.mem_listed.1 member) with ⟨row, read⟩
    exact ⟨(id, row), rfl, read⟩
  rcases rows_apply readable.texts shows_ with ⟨entries, read, each⟩
  refine ⟨_, list_of_rows read, ?_, ?_⟩
  · rw [List.pairwise_map]
    exact ascending_of_shows each ((database.seen writes).get .manifest).ascending
  · intro manifest
    rw [List.mem_map]
    constructor
    · rintro ⟨⟨id, row⟩, member, rfl⟩
      rcases (mem_of_shows each).1 member with ⟨value, listed, read⟩
      exact ⟨value, row, Database.mem_listed.1 listed, read, rfl⟩
    · rintro ⟨value, row, stored, read, same⟩
      exact ⟨(manifest.id, row),
        (mem_of_shows each).2 ⟨value, Database.mem_listed.2 stored, read⟩, same⟩

/-- Rows that were decoded can all be read. -/
theorem readable_of_decodeRows {rows : List (String × Bytes)} {acc entries : List (String × Row)}
    (decoded : decodeRows acc rows = .ok entries) :
    ∀ row ∈ rows, ∃ stored, Row.codec.read? row.2 = some stored := by
  induction rows generalizing acc with
  | nil => exact fun row member => absurd member List.not_mem_nil
  | cons first rest ih =>
    rcases first with ⟨id, bytes⟩
    rw [decodeRows] at decoded
    cases read : Row.codec.read? bytes with
    | none =>
      rw [read] at decoded
      cases decoded
    | some stored =>
      rw [read] at decoded
      exact List.forall_mem_cons.2 ⟨⟨stored, read⟩, ih decoded⟩

/-- A list is shown only if all rows can be read. -/
theorem readable_of_list {after : WriteSet}
    (shown : Manifests.list database writes = (.ok manifests, after)) :
    Readable database writes := by
  rcases readsOnly_rows.ok_of_bind shown with ⟨entries, decoded, _⟩
  rcases (Action.readsOnly_scan .manifest "").ok_of_bind decoded with ⟨rows, scanned, decoded⟩
  have texts : database.unreadable.get .manifest = [] := by
    rw [Action.scan, Database.scan, if_pos (Medium.canFind_empty _)] at scanned
    cases found : database.firstUnreadable? .manifest (Utf8.encode "") with
    | some row =>
      rw [found] at scanned
      cases scanned
    | none =>
      rw [Database.firstUnreadable?, List.find?_eq_none] at found
      exact List.eq_nil_iff_forall_not_mem.2 fun row member => found row member rfl
  refine ⟨texts, ?_⟩
  intro id value stored
  rw [Action.scan_empty_apply texts] at scanned
  cases scanned
  exact readable_of_decodeRows (congrArg Prod.fst decoded) (id, value)
    (Database.mem_listed.2 stored)

/-! ## Recording a manifest -/

section Create

variable {id data : String} {appliedAt : Instant}

/-- The nanoseconds between 1970 and an instant fit 64 bits. -/
def Fits (appliedAt : Instant) : Prop :=
  -2 ^ 63 ≤ appliedAt.toNanos ∧ appliedAt.toNanos < 2 ^ 63

instance (appliedAt : Instant) : Decidable (Fits appliedAt) :=
  inferInstanceAs (Decidable (_ ∧ _))

variable (named : id ≠ "") (notLatest : id ≠ Manifest.latestId)
  (unused : Action.get .manifest id database writes = (.ok none, writes))

include named notLatest unused

/-- A date that does not fit is refused, whatever the counter of row ids. -/
theorem create_of_not_fits (fits : ¬Fits appliedAt) :
    create id data appliedAt database writes =
      (.error (.invalidArgument (.appliedOutOfRange appliedAt)), writes) := by
  have stored : storedNanos? appliedAt = none := by
    apply storedNanos?_of_not_fits
    rw [Int64.toInt_minValue, Int64.toInt_maxValue]
    rw [Fits] at fits
    omega
  rw [create, if_neg named, if_neg notLatest, Action.bind_apply, Action.contains, Action.bind_apply,
    unused]
  simp only [stored, Action.pure_apply, Option.isSome_none, Bool.false_eq_true, if_false,
    Action.fail_apply]

theorem create_of_fits (fits : Fits appliedAt) {last : UInt64}
    (counted : database.lastRowId? writes .manifest = some last) :
    ∃ nanos, nanos.toInt = appliedAt.toNanos ∧
      create id data appliedAt database writes =
        (.ok (), record writes id data (last + 1) nanos) := by
  have bounds : Int64.minValue.toInt ≤ appliedAt.toNanos ∧
      appliedAt.toNanos ≤ Int64.maxValue.toInt := by
    rw [Int64.toInt_minValue, Int64.toInt_maxValue]
    rw [Fits] at fits
    omega
  rcases storedNanos?_of_fits bounds with ⟨nanos, stored, same⟩
  refine ⟨nanos, same, ?_⟩
  rw [create, if_neg named, if_neg notLatest, Action.bind_apply, Action.contains, Action.bind_apply,
    unused]
  simp only [stored, Action.pure_apply, Option.isSome_none, Bool.false_eq_true, if_false,
    Action.bind_apply, Action.nextRowId_of_last counted]
  rfl

/-- What was recorded had a date that fits, and is recorded under the next row id. -/
theorem fits_of_create {after : WriteSet}
    (acts : create id data appliedAt database writes = (.ok (), after)) :
    Fits appliedAt ∧ ∃ row : Row, row.appliedNanos.toInt = appliedAt.toNanos ∧ row.data = data ∧
      after = record writes id row.data row.rowId row.appliedNanos := by
  by_cases fits : Fits appliedAt
  · refine ⟨fits, ?_⟩
    cases counted : database.lastRowId? writes .manifest with
    | some last =>
      rcases create_of_fits named notLatest unused fits counted with ⟨nanos, same, acts'⟩
      rw [acts'] at acts
      cases acts
      exact ⟨⟨last + 1, nanos, data⟩, same, rfl, rfl⟩
    | none =>
      rw [create, if_neg named, if_neg notLatest, Action.bind_apply, Action.contains,
        Action.bind_apply, unused] at acts
      simp only [Action.pure_apply, Option.isSome_none, Bool.false_eq_true, if_false] at acts
      cases stored : storedNanos? appliedAt with
      | none =>
        rw [stored] at acts
        cases acts
      | some nanos =>
        simp only [stored, Action.bind_apply, Action.nextRowId_of_unknown counted] at acts
        cases acts
  · rw [create_of_not_fits named notLatest unused fits] at acts
    cases acts

end Create

/-! ## A manifest that was recorded -/

/-- Outside leap seconds, the manifest of a row has the date that the row was written for. -/
theorem toManifest_eq {appliedAt : Instant} (regular : appliedAt.nanos < nanosPerSecond)
    {row : Row} (same : row.appliedNanos.toInt = appliedAt.toNanos) (id : String) :
    row.toManifest id = ⟨id, appliedAt, row.data⟩ := by
  rw [Row.toManifest, same, Instant.ofNanos_toNanos regular]

section Recorded

variable {id : String} {row : Row} {next : Database} {after : WriteSet}
  (leaves : database.Leaves (record writes id row.data row.rowId row.appliedNanos) next after)

include leaves

theorem value?_of_record (other : String) :
    next.value? after .manifest other =
      if other = id then some (Row.codec.encode row)
      else database.value? writes .manifest other := by
  rw [leaves.value?_eq, record, Database.value?_put, Database.value?_put]
  by_cases same : other = id
  · rw [if_pos ⟨rfl, same⟩, if_pos same]
  · rw [if_neg fun both => same both.2, if_neg same, if_neg (by simp)]

variable (measured : Codec.Measured row.data)

include measured

theorem get_of_record (notLatest : id ≠ Manifest.latestId) :
    get id next after = (.ok (row.toManifest id), after) := by
  have staged : (record writes id row.data row.rowId row.appliedNanos).get? .manifest id =
      some (some (Row.codec.encode row)) := by
    rw [record, WriteSet.put, WriteSet.get?_stage, if_pos ⟨rfl, rfl⟩]
  rw [get, if_neg notLatest, Action.bind_apply, leaves.get_of_staged staged]
  simp only [Action.bind_apply, Action.decodeRow, (readsBack_row measured).read?,
    Action.pure_apply]

/-- The rows can still be read. -/
theorem readable_of_record (readable : Readable database writes) : Readable next after where
  texts := by
    rw [leaves.unreadable_eq]
    exact readable.texts
  rows := by
    intro other value stored
    rw [value?_of_record leaves] at stored
    split at stored
    · cases stored
      exact ⟨row, (readsBack_row measured).read?⟩
    · exact readable.rows stored

/-- A manifest stands there if it is the recorded one or stood there before. -/
theorem stands_of_record (unused : database.value? writes .manifest id = none)
    (manifest : Manifest) :
    Stands next after manifest ↔
      manifest = row.toManifest id ∨ Stands database writes manifest := by
  have read := (readsBack_row measured).read?
  constructor
  · rintro ⟨value, stored, present, shown, same⟩
    rw [value?_of_record leaves] at present
    split at present
    · rename_i named
      cases present
      cases read.symm.trans shown
      exact .inl (named ▸ same.symm)
    · exact .inr ⟨value, stored, present, shown, same⟩
  · rintro (rfl | ⟨value, stored, present, shown, same⟩)
    · refine ⟨_, row, ?_, read, rfl⟩
      rw [value?_of_record leaves]
      exact if_pos rfl
    · refine ⟨value, stored, ?_, shown, same⟩
      rw [value?_of_record leaves, if_neg]
      · exact present
      · intro named
        rw [named, unused] at present
        cases present

end Recorded

/-- A manifest whose identifier is free, not empty and not `latest`, and whose date is not
in a leap second, is recorded if and only if the nanoseconds between 1970 and the date fit
64 bits.

Once it is recorded, it is found under its identifier with the date to the nanosecond, and
the list has it beside the manifests that it had before, in the same transaction and after
the commit.  Where the date does not fit, the answer says so and nothing is staged, so that
the next row id is the one that it was. -/
theorem recorded_manifests_read_back {database : Database} {writes : WriteSet} {id data : String}
    {appliedAt : Instant} (named : id ≠ "") (notLatest : id ≠ Manifest.latestId)
    (unused : Action.get .manifest id database writes = (.ok none, writes))
    (regular : appliedAt.nanos < nanosPerSecond) (measured : Codec.Measured data) :
    (∀ last, database.lastRowId? writes .manifest = some last →
      ((∃ after, create id data appliedAt database writes = (.ok (), after)) ↔ Fits appliedAt)) ∧
    (∀ after, create id data appliedAt database writes = (.ok (), after) →
      ∀ {next : Database} {later : WriteSet}, database.Leaves after next later →
        get id next later = (.ok ⟨id, appliedAt, data⟩, later) ∧
        ∀ before, list database writes = (.ok before, writes) →
          ∃ manifests, list next later = (.ok manifests, later) ∧
            manifests.Pairwise (fun a b => a.id < b.id) ∧
            ∀ manifest, manifest ∈ manifests ↔
              manifest = ⟨id, appliedAt, data⟩ ∨ manifest ∈ before) ∧
    (¬Fits appliedAt →
      create id data appliedAt database writes =
        (.error (.invalidArgument (.appliedOutOfRange appliedAt)), writes)) := by
  refine ⟨?recorded, ?found, ?refused⟩
  case recorded =>
    intro last counted
    constructor
    · rintro ⟨after, acts⟩
      exact (fits_of_create named notLatest unused acts).1
    · intro fits
      rcases create_of_fits named notLatest unused fits counted with ⟨nanos, _, acts⟩
      exact ⟨_, acts⟩
  case found =>
    intro after acts next later leaves
    rcases fits_of_create named notLatest unused acts with ⟨_, row, same, rfl, rfl⟩
    rw [← toManifest_eq regular same id]
    constructor
    · exact get_of_record leaves measured notLatest
    · intro before shown
      have readable := readable_of_list shown
      -- What was listed before is what stood in the rows before.
      rcases readable.list with ⟨before', shown', lists⟩
      rw [shown] at shown'
      cases shown'
      rcases (readable_of_record leaves measured readable).list with ⟨manifests, listed, lists'⟩
      refine ⟨manifests, listed, lists'.ascending, fun manifest => ?_⟩
      rw [lists'.mem_iff, lists.mem_iff]
      exact stands_of_record leaves measured (Action.value?_of_get unused) manifest
  case refused => exact create_of_not_fits named notLatest unused

/-- The oldest instant whose nanoseconds fit, between two seconds of which the first does
not, and the instant one nanosecond before it. -/
theorem recorded_manifests_read_back_of_oldest :
    let oldest : Instant := ⟨-9223372037, 145224192⟩
    let older : Instant := ⟨-9223372037, 145224191⟩
    ∃ after next, create "m" "\n" oldest (.empty .persistent) .empty = (.ok (), after) ∧
      (Database.empty .persistent).apply after = .ok next ∧
      get "m" next .empty = (.ok ⟨"m", oldest, "\n"⟩, .empty) ∧
      (∃ manifests, list next .empty = (.ok manifests, .empty) ∧
        ⟨"m", oldest, "\n"⟩ ∈ manifests) ∧
      create "m" "\n" older (.empty .persistent) .empty =
        (.error (.invalidArgument (.appliedOutOfRange older)), .empty) := by
  intro oldest older
  have unused : Action.get .manifest "m" (.empty .persistent) .empty = (.ok none, .empty) := rfl
  have nothing : list (.empty .persistent) .empty = (.ok [], .empty) := rfl
  have regular : oldest.nanos < nanosPerSecond := by decide
  have regular' : older.nanos < nanosPerSecond := by decide
  have measured : Codec.Measured "\n" := by decide
  rcases recorded_manifests_read_back (by decide) (by decide) unused regular measured with
    ⟨_, found, _⟩
  have acts : create "m" "\n" oldest (.empty .persistent) .empty =
      (.ok (), record .empty "m" "\n" 1 Int64.minValue) := rfl
  have accepted : (Database.empty .persistent).apply
      (record .empty "m" "\n" 1 Int64.minValue) = .ok _ := rfl
  rcases found _ acts (.committed accepted) with ⟨got, listed⟩
  rcases listed [] nothing with ⟨manifests, shown, _, mem_iff⟩
  rcases recorded_manifests_read_back (by decide) (by decide) unused regular' measured with
    ⟨_, _, refused⟩
  exact ⟨_, _, acts, accepted, got, ⟨manifests, shown, (mem_iff _).2 (.inl rfl)⟩,
    refused (by decide)⟩

end Manifests

end ControlPlane
