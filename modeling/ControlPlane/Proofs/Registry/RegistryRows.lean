import ControlPlane.Proofs.Store.PlainTables
import ControlPlane.Registry.JujuUsers
import ControlPlane.Registry.Manifests
import ControlPlane.Registry.Nodes
import Mathlib.Data.List.Forall2

/-!
# The registries on the rows that are seen

What an operation on a node, a manifest or a Juju user does is settled by the rows that
its transaction sees: one equation for each operation says so.  A list shows every row of
its table, in the order of the keys, as long as all of them can be read.
-/

namespace ControlPlane

/-! ## Rows that have to be there, and row ids -/

namespace Database

/-- The last row id that was handed out for a table, as a transaction sees it: 0 if there
is none, and unknown where the counter cannot be read. -/
def lastRowId? (database : Database) (writes : WriteSet) (table : Table) : Option UInt64 :=
  match database.value? writes .counters table.sequenceKey with
  | none => some 0
  | some row => Codec.unsigned.read? row

variable {database : Database} {writes : WriteSet} {table : Table}

/-- The rows of a table, as a transaction sees them, in ascending order of keys. -/
def listed (database : Database) (writes : WriteSet) (table : Table) : List (String × Bytes) :=
  ((database.seen writes).get table).entries

theorem mem_listed {key : String} {value : Bytes} :
    (key, value) ∈ database.listed writes table ↔
      database.value? writes table key = some value :=
  KeyMap.mem_entries_iff

end Database

namespace Action

variable {database : Database} {writes : WriteSet} {table : Table} {key : String}

/-- Deleting a row that has to be there. -/
theorem deleteFound_apply (found : database.medium.canFind key = true) (failure : Failure) :
    (do if ← delete table key then return () else fail failure : Action Unit) database writes =
      match database.value? writes table key with
      | some _ => (.ok (), writes.delete table key)
      | none => (.error failure, writes) := by
  rw [bind_apply, delete_apply found]
  cases database.value? writes table key <;> rfl

/-- A scan for the empty start lists the whole table. -/
theorem scan_empty_apply (readable : database.unreadable.get table = []) :
    scan table "" database writes = (.ok (database.listed writes table), writes) := by
  have unmet := Database.firstUnreadable?_of_readable readable (Utf8.encode "")
  have all : ((database.seen writes).get table).filter (fun key _ => startsWith key "") =
      (database.seen writes).get table := by
    apply KeyMap.ext_get?
    intro key
    rw [KeyMap.get?_filter]
    cases ((database.seen writes).get table).get? key <;> simp
  rw [scan_apply (Medium.canFind_empty _) unmet, all]
  rfl

theorem nextRowId_of_last {last : UInt64} (known : database.lastRowId? writes table = some last) :
    nextRowId table database writes =
      (.ok (last + 1),
        writes.put .counters table.sequenceKey (Codec.unsigned.encode (last + 1))) := by
  rw [Database.lastRowId?] at known
  rw [nextRowId_apply]
  cases counted : database.value? writes .counters table.sequenceKey with
  | none =>
    rw [counted] at known
    cases known
    rfl
  | some row =>
    rw [counted] at known
    simp only at known ⊢
    rw [known]

theorem nextRowId_of_unknown (unknown : database.lastRowId? writes table = none) :
    nextRowId table database writes = (.error (.storage .undecodableRow), writes) := by
  rw [Database.lastRowId?] at unknown
  rw [nextRowId_apply]
  cases counted : database.value? writes .counters table.sequenceKey with
  | none =>
    rw [counted] at unknown
    cases unknown
  | some row =>
    rw [counted] at unknown
    simp only at unknown ⊢
    rw [unknown]

end Action

variable {database : Database} {writes : WriteSet}

/-! ## Nodes -/

namespace Nodes

variable {member name : String} {roles : List String} {machineId : Int64} {systemId : String}

/-- The row of a node, as a transaction sees it. -/
def row? (database : Database) (writes : WriteSet) (name : String) : Except Failure Row :=
  match database.value? writes .nodes name with
  | none => .error notFound
  | some value =>
    match Row.codec.read? value with
    | none => .error (.storage .undecodableRow)
    | some row => .ok row

theorem row?_of_none (absent : database.value? writes .nodes name = none) :
    row? database writes name = .error notFound := by
  rw [row?, absent]

theorem row?_of_some {value : Bytes} (present : database.value? writes .nodes name = some value)
    {row : Row} (read : Row.codec.read? value = some row) :
    row? database writes name = .ok row := by
  rw [row?, present]
  simp only [read]

theorem getRow_apply (found : database.medium.canFind name = true) :
    getRow name database writes = (row? database writes name, writes) := by
  rw [getRow, Action.bind_apply, Action.get_apply found, row?]
  cases database.value? writes .nodes name with
  | none => rfl
  | some value =>
    simp only [Action.decodeRow]
    cases Row.codec.read? value <;> rfl

theorem get_apply (found : database.medium.canFind name = true) :
    get name database writes = ((row? database writes name).bind (ofRow name), writes) := by
  rw [get, Action.bind_apply, getRow_apply found]
  cases row? database writes name <;> rfl

theorem create_apply (found : database.medium.canFind name = true) :
    create member name roles machineId systemId database writes =
      if name = "" then (.error (.invalidArgument .emptyNodeName), writes)
      else
        match database.value? writes .nodes name with
        | some _ => (.error (.alreadyExists "node"), writes)
        | none =>
          (.ok (), writes.put .nodes name
            (Row.codec.encode ⟨member, encodeRoles roles, machineId, systemId⟩)) := by
  rw [create]
  split
  · rfl
  · rw [Action.bind_apply, Action.contains_apply found]
    cases database.value? writes .nodes name <;> rfl

theorem update_apply (found : database.medium.canFind name = true) :
    update member name roles machineId systemId database writes =
      match row? database writes name with
      | .error failure => (.error failure, writes)
      | .ok row =>
        (.ok (), writes.put .nodes name
          (Row.codec.encode (row.update member roles machineId systemId))) := by
  rw [update, Action.bind_apply, getRow_apply found]
  cases row? database writes name <;> rfl

theorem delete_apply (found : database.medium.canFind name = true) :
    delete name database writes =
      match database.value? writes .nodes name with
      | some _ => (.ok (), writes.delete .nodes name)
      | none => (.error notFound, writes) :=
  Action.deleteFound_apply found notFound

/-- A row shows a node. -/
def Shows (row : String × Bytes) (node : Node) : Prop :=
  ∃ stored, Row.codec.read? row.2 = some stored ∧ ofRow row.1 stored = .ok node

/-- Whether the roles that a row holds match every requested one. -/
def Matches (wanted : List String) (row : String × Bytes) : Bool :=
  (Row.codec.read? row.2).any (hasRoles · wanted)

/-- Where every row shows a node, those that match are selected, in order. -/
theorem select_of_shows (wanted : List String) (acc : List Node) {rows : List (String × Bytes)}
    (shows_ : ∀ row ∈ rows, ∃ node, Shows row node) :
    ∃ nodes, select wanted acc rows = .ok (acc.reverse ++ nodes) ∧
      List.Forall₂ Shows (rows.filter (Matches wanted)) nodes := by
  induction rows generalizing acc with
  | nil => exact ⟨[], by rw [List.append_nil]; rfl, .nil⟩
  | cons row rest ih =>
    rcases shows_ row List.mem_cons_self with ⟨node, stored, read, ofStored⟩
    have showsRest := fun later member => shows_ later (List.mem_cons_of_mem row member)
    rw [select, read]
    by_cases matched : hasRoles stored wanted = true
    · rcases ih (node :: acc) showsRest with ⟨nodes, selected, rows⟩
      refine ⟨node :: nodes, ?_, ?_⟩
      · simp only [matched, if_true, ofStored, selected]
        simp
      · rw [List.filter_cons_of_pos (by simp [Matches, read, matched])]
        exact .cons ⟨stored, read, ofStored⟩ rows
    · rcases ih acc showsRest with ⟨nodes, selected, rows⟩
      refine ⟨nodes, ?_, ?_⟩
      · simp only [matched, selected]
        simp
      · rw [List.filter_cons_of_neg (by simp [Matches, read, matched])]
        exact rows

/-- Where every row shows a node, those that match are listed. -/
theorem list_apply (readable : database.unreadable.get .nodes = []) (wanted : List String)
    (shows_ : ∀ row ∈ database.listed writes .nodes, ∃ node, Shows row node) :
    ∃ nodes, list wanted database writes = (.ok nodes, writes) ∧
      List.Forall₂ Shows ((database.listed writes .nodes).filter (Matches wanted)) nodes := by
  rcases select_of_shows wanted [] shows_ with ⟨nodes, selected, rows⟩
  refine ⟨nodes, ?_, rows⟩
  rw [list, Action.bind_apply, Action.scan_empty_apply readable]
  simp only [Action.ofExcept_apply, selected]
  rfl

end Nodes

/-! ## Manifests -/

namespace Manifests

variable {id data : String} {appliedAt : Instant}

/-- A row shows an entry of the log. -/
def Shows (row : String × Bytes) (entry : String × Row) : Prop :=
  entry.1 = row.1 ∧ Row.codec.read? row.2 = some entry.2

theorem decodeRows_of_shows (acc : List (String × Row)) {rows : List (String × Bytes)}
    (shows_ : ∀ row ∈ rows, ∃ entry, Shows row entry) :
    ∃ entries, decodeRows acc rows = .ok (acc.reverse ++ entries) ∧
      List.Forall₂ Shows rows entries := by
  induction rows generalizing acc with
  | nil => exact ⟨[], by rw [List.append_nil]; rfl, .nil⟩
  | cons row rest ih =>
    rcases shows_ row List.mem_cons_self with ⟨⟨id, stored⟩, same, read⟩
    cases same
    rcases ih ((row.1, stored) :: acc) fun later member =>
      shows_ later (List.mem_cons_of_mem row member) with ⟨entries, decoded, rows⟩
    refine ⟨(row.1, stored) :: entries, ?_, .cons ⟨rfl, read⟩ rows⟩
    simp only [decodeRows, read, decoded]
    simp

/-- The entries are those that the rows show. -/
theorem mem_of_shows {rows : List (String × Bytes)} {entries : List (String × Row)}
    (each : List.Forall₂ Shows rows entries) {entry : String × Row} :
    entry ∈ entries ↔ ∃ value, (entry.1, value) ∈ rows ∧ Row.codec.read? value = some entry.2 := by
  induction each with
  | nil => exact iff_of_false List.not_mem_nil fun ⟨_, member, _⟩ => List.not_mem_nil member
  | @cons row first rows entries shown _ ih =>
    rcases row with ⟨id, value⟩
    rcases first with ⟨id', stored⟩
    rcases shown with ⟨same, read⟩
    obtain rfl : id' = id := same
    rw [List.mem_cons, ih]
    constructor
    · rintro (rfl | ⟨value', member, read'⟩)
      · exact ⟨value, List.mem_cons_self, read⟩
      · exact ⟨value', List.mem_cons_of_mem _ member, read'⟩
    · rintro ⟨value', member, read'⟩
      rcases List.mem_cons.1 member with same | later
      · cases same
        exact .inl (Prod.ext rfl (Option.some.inj (read'.symm.trans read)))
      · exact .inr ⟨value', later, read'⟩

/-- Where every row shows an entry, the log is read. -/
theorem rows_apply (readable : database.unreadable.get .manifest = [])
    (shows_ : ∀ row ∈ database.listed writes .manifest, ∃ entry, Shows row entry) :
    ∃ entries, rows database writes = (.ok entries, writes) ∧
      List.Forall₂ Shows (database.listed writes .manifest) entries := by
  rcases decodeRows_of_shows [] shows_ with ⟨entries, decoded, rows_⟩
  refine ⟨entries, ?_, rows_⟩
  rw [rows, Action.bind_apply, Action.scan_empty_apply readable]
  simp only [Action.ofExcept_apply, decoded]
  rfl

theorem list_of_rows {entries : List (String × Row)}
    (read : rows database writes = (.ok entries, writes)) :
    list database writes = (.ok (entries.map fun entry => entry.2.toManifest entry.1), writes) := by
  rw [list, Action.bind_apply, read]
  rfl

theorem latest_of_rows {entries : List (String × Row)}
    (read : rows database writes = (.ok entries, writes)) :
    latest database writes =
      match newest? entries with
      | some (id, row) => (.ok (row.toManifest id), writes)
      | none => (.error notFound, writes) := by
  rw [latest, Action.bind_apply, read]
  simp only
  cases newest? entries <;> rfl

theorem get_apply (found : database.medium.canFind id = true) (named : id ≠ Manifest.latestId) :
    get id database writes =
      match database.value? writes .manifest id with
      | none => (.error notFound, writes)
      | some value =>
        match Row.codec.read? value with
        | none => (.error (.storage .undecodableRow), writes)
        | some row => (.ok (row.toManifest id), writes) := by
  rw [get, if_neg named, Action.bind_apply, Action.get_apply found]
  cases database.value? writes .manifest id with
  | none => rfl
  | some value =>
    simp only [Action.bind_apply, Action.decodeRow]
    cases Row.codec.read? value <;> rfl

/-- The writes of a manifest that is recorded under the next row id. -/
def record (writes : WriteSet) (id data : String) (rowId : UInt64) (nanos : Int64) : WriteSet :=
  (writes.put .counters Table.manifest.sequenceKey (Codec.unsigned.encode rowId)).put .manifest id
    (Row.codec.encode ⟨rowId, nanos, data⟩)

/-- An instant whose nanoseconds fit 64 bits is stored. -/
theorem storedNanos?_of_fits
    (fits : Int64.minValue.toInt ≤ appliedAt.toNanos ∧
      appliedAt.toNanos ≤ Int64.maxValue.toInt) :
    ∃ nanos, storedNanos? appliedAt = some nanos ∧ nanos.toInt = appliedAt.toNanos := by
  refine ⟨.ofInt appliedAt.toNanos, if_pos fits, ?_⟩
  rw [Int64.toInt_minValue, Int64.toInt_maxValue] at fits
  exact Int64.toInt_ofInt_of_le fits.1 (by omega)

theorem storedNanos?_of_not_fits
    (fits : ¬(Int64.minValue.toInt ≤ appliedAt.toNanos ∧
      appliedAt.toNanos ≤ Int64.maxValue.toInt)) :
    storedNanos? appliedAt = none :=
  if_neg fits

theorem create_apply (found : database.medium.canFind id = true) :
    create id data appliedAt database writes =
      if id = "" then (.error (.invalidArgument .emptyManifestId), writes)
      else if id = Manifest.latestId then (.error (.invalidArgument .reservedManifestId), writes)
      else
        match database.value? writes .manifest id with
        | some _ => (.error (.alreadyExists "manifest"), writes)
        | none =>
          match storedNanos? appliedAt with
          | none => (.error (.invalidArgument (.appliedOutOfRange appliedAt)), writes)
          | some nanos =>
            match database.lastRowId? writes .manifest with
            | none => (.error (.storage .undecodableRow), writes)
            | some last => (.ok (), record writes id data (last + 1) nanos) := by
  rw [create]
  split
  · rfl
  · split
    · rfl
    · rw [Action.bind_apply, Action.contains_apply found]
      cases database.value? writes .manifest id with
      | some value => rfl
      | none =>
        simp only [Option.isSome_none, Bool.false_eq_true, if_false]
        cases storedNanos? appliedAt with
        | none => rfl
        | some nanos =>
          simp only [Action.bind_apply]
          cases counted : database.lastRowId? writes .manifest with
          | none =>
            rw [Action.nextRowId_of_unknown counted]
          | some last =>
            rw [Action.nextRowId_of_last counted]
            rfl

theorem delete_apply (found : database.medium.canFind id = true) :
    delete id database writes =
      match database.value? writes .manifest id with
      | some _ => (.ok (), writes.delete .manifest id)
      | none => (.error notFound, writes) :=
  Action.deleteFound_apply found notFound

end Manifests

/-! ## Juju users -/

namespace JujuUsers

variable {username token : String}

/-- A row shows a user. -/
def Shows (row : String × Bytes) (user : JujuUser) : Prop :=
  user.username = row.1 ∧ rowCodec.read? row.2 = some user.token

theorem decodeRows_of_shows (acc : List JujuUser) {rows : List (String × Bytes)}
    (shows_ : ∀ row ∈ rows, ∃ user, Shows row user) :
    ∃ users, decodeRows acc rows = .ok (acc.reverse ++ users) ∧
      List.Forall₂ Shows rows users := by
  induction rows generalizing acc with
  | nil => exact ⟨[], by rw [List.append_nil]; rfl, .nil⟩
  | cons row rest ih =>
    rcases shows_ row List.mem_cons_self with ⟨⟨username, token⟩, same, read⟩
    cases same
    rcases ih (⟨row.1, token⟩ :: acc) fun later member =>
      shows_ later (List.mem_cons_of_mem row member) with ⟨users, decoded, rows⟩
    refine ⟨⟨row.1, token⟩ :: users, ?_, .cons ⟨rfl, read⟩ rows⟩
    simp only [decodeRows, read, decoded]
    simp

/-- Where every row shows a user, all are listed. -/
theorem list_apply (readable : database.unreadable.get .jujuUser = [])
    (shows_ : ∀ row ∈ database.listed writes .jujuUser, ∃ user, Shows row user) :
    ∃ users, list database writes = (.ok users, writes) ∧
      List.Forall₂ Shows (database.listed writes .jujuUser) users := by
  rcases decodeRows_of_shows [] shows_ with ⟨users, decoded, rows⟩
  refine ⟨users, ?_, rows⟩
  rw [list, Action.bind_apply, Action.scan_empty_apply readable]
  simp only [Action.ofExcept_apply, decoded]
  rfl

theorem get_apply (found : database.medium.canFind username = true) :
    get username database writes =
      match database.value? writes .jujuUser username with
      | none => (.error notFound, writes)
      | some value =>
        match rowCodec.read? value with
        | none => (.error (.storage .undecodableRow), writes)
        | some token => (.ok ⟨username, token⟩, writes) := by
  rw [get, Action.bind_apply, Action.get_apply found]
  cases database.value? writes .jujuUser username with
  | none => rfl
  | some value =>
    simp only [Action.bind_apply, Action.decodeRow]
    cases rowCodec.read? value <;> rfl

theorem create_apply (found : database.medium.canFind username = true) :
    create username token database writes =
      if username = "" then (.error (.invalidArgument .emptyUsername), writes)
      else
        match database.value? writes .jujuUser username with
        | some _ => (.error (.alreadyExists "jujuuser"), writes)
        | none => (.ok (), writes.put .jujuUser username (rowCodec.encode token)) := by
  rw [create]
  split
  · rfl
  · rw [Action.bind_apply, Action.contains_apply found]
    cases database.value? writes .jujuUser username <;> rfl

theorem delete_apply (found : database.medium.canFind username = true) :
    delete username database writes =
      match database.value? writes .jujuUser username with
      | some _ => (.ok (), writes.delete .jujuUser username)
      | none => (.error notFound, writes) :=
  Action.deleteFound_apply found notFound

end JujuUsers

end ControlPlane
