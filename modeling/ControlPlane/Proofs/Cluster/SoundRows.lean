import Mathlib.Logic.Function.Basic
import ControlPlane.Proofs.Cluster.LockHistory
import ControlPlane.Proofs.Cluster.Refusals
import ControlPlane.Proofs.Registry.RegistryRows
import ControlPlane.Proofs.Registry.RoleTexts
import ControlPlane.Proofs.Registry.StoredRows

/-!
# Rows that calls leave

The rows that calls leave in memory can all be read, and stand for what their table is
for.  One invariant says so for the four tables and the counter of manifests together:
a manifest and the counter change in one call, and locks and states share a table with
the configuration items.  On such rows no call fails by a fault of the store or of a
record.
-/

namespace ControlPlane

/-! ## Sound rows -/

/-- A configuration value is a text, and the text of a lock where the key is that of one. -/
structure ConfigItems.Sound (key : String) (value : Bytes) : Prop where
  named : key ≠ ""
  text : ∃ text, Utf8.decode value = .ok text
  lock : startsWith key Plans.lockStart = true → ∃ lock, Lock.decode value = .ok lock

/-- The roles of a node are stored in strictly ascending order. -/
def Nodes.Row.Ordered (row : Row) : Prop :=
  ∃ roles, Json.decodeTexts (Utf8.encode row.roles) = .ok roles ∧ roles.Pairwise (· < ·)

/-- A row of a node can be read, and so can its roles. -/
structure Nodes.Sound (name : String) (value : Bytes) : Prop where
  named : name ≠ ""
  row : ∃ row, Row.codec.read? value = some row ∧ row.Ordered

/-- A row of a manifest can be read, and its row id is among those handed out. -/
structure Manifests.Sound (created : Nat) (id : String) (value : Bytes) : Prop where
  named : id ≠ ""
  notLatest : id ≠ Manifest.latestId
  row : ∃ row, Row.codec.read? value = some row ∧ 1 ≤ row.rowId.toNat ∧
    row.rowId.toNat ≤ created

/-- A row of a user can be read. -/
structure JujuUsers.Sound (username : String) (value : Bytes) : Prop where
  named : username ≠ ""
  row : ∃ token, rowCodec.read? value = some token

/-- The counter of a table stands at a number; a missing one stands at 0. -/
def PlainTables.Counts (tables : PlainTables) (table : Table) (count : Nat) : Prop :=
  match tables .counters table.sequenceKey with
  | none => count = 0
  | some row => Codec.unsigned.read? row = some (UInt64.ofNat count)

/-- A row stands for what its table is for.  Only the counter of manifests is ever kept. -/
def Table.SoundRow (created : Nat) : Table → String → Bytes → Prop
  | .config => ConfigItems.Sound
  | .nodes => Nodes.Sound
  | .manifest => Manifests.Sound created
  | .jujuUser => JujuUsers.Sound
  | .counters => fun key _ => key = Table.manifest.sequenceKey

/-- The rows after some manifests were created. -/
structure SoundRows (tables : PlainTables) (created : Nat) : Prop where
  rows : ∀ table key value, tables table key = some value → table.SoundRow created key value
  /-- No two manifests share a row id. -/
  distinct : ∀ id id' value value' row row', tables .manifest id = some value →
    tables .manifest id' = some value' → Manifests.Row.codec.read? value = some row →
    Manifests.Row.codec.read? value' = some row' → row.rowId = row'.rowId → id = id'
  counter : tables.Counts .manifest created

variable {tables : PlainTables} {created : Nat}

namespace PlainTables

/-- What is there after a value was taken was there before. -/
theorem of_set_none {table other : Table} {key other' : String} {value : Bytes}
    (row : tables.set table key none other other' = some value) :
    tables other other' = some value := by
  rw [set] at row
  split at row
  · cases row
  · exact row

/-- What is there after a key was given a value is this value or was there before. -/
theorem of_set_some {table other : Table} {key other' : String} {value new : Bytes}
    (row : tables.set table key (some new) other other' = some value) :
    (other = table ∧ other' = key ∧ value = new) ∨ tables other other' = some value := by
  rw [set] at row
  split at row
  · rename_i same
    cases row
    exact .inl ⟨same.1, same.2, rfl⟩
  · exact .inr row

theorem set_of_ne {table other : Table} (different : other ≠ table) (key : String)
    (value : Option Bytes) : tables.set table key value other = tables other := by
  funext other'
  rw [set, if_neg fun same => different same.1]

/-- One row of one table is set. -/
theorem set_eq_update (tables : PlainTables) (table : Table) (key : String)
    (value : Option Bytes) :
    tables.set table key value =
      Function.update tables table (Function.update (tables table) key value) := by
  funext other otherKey
  rw [set, Function.update_apply]
  by_cases same : other = table
  · subst same
    rw [if_pos rfl, Function.update_apply]
    simp only [true_and]
  · rw [if_neg same, if_neg fun both => same both.1]

/-- The counter says which row id was handed out last. -/
theorem Counts.lastRowId? {database : Database} {writes : WriteSet} {table : Table} {count : Nat}
    (counts : (database.plain writes).Counts table count) :
    database.lastRowId? writes table = some (UInt64.ofNat count) := by
  rw [Counts] at counts
  rw [Database.lastRowId?]
  split at counts
  · rename_i fresh
    have absent : database.value? writes .counters table.sequenceKey = none := fresh
    rw [absent, counts]
    rfl
  · rename_i row found
    have present : database.value? writes .counters table.sequenceKey = some row := found
    rw [present]
    exact counts

end PlainTables

/-- With more manifests created, no row id is too great. -/
theorem Table.SoundRow.mono {created created' : Nat} (more : created ≤ created') {table : Table}
    {key : String} {value : Bytes} (row : table.SoundRow created key value) :
    table.SoundRow created' key value := by
  cases table with
  | manifest =>
    rcases row with ⟨named, notLatest, stored, read, least, most⟩
    exact ⟨named, notLatest, stored, read, least, Nat.le_trans most more⟩
  | config | nodes | jujuUser | counters => exact row

/-! ## Rows of nodes -/

namespace Nodes.Row

theorem measured_of_read? {value : Bytes} {row : Row} (read : codec.read? value = some row) :
    row.Measured := by
  rcases Option.map_eq_some_iff.1 read with ⟨⟨row', rest⟩, decoded, same⟩
  cases same
  rcases Option.map_eq_some_iff.1 decoded with ⟨⟨⟨member, roles, machineId, systemId⟩, rest'⟩,
    whole, same⟩
  cases same
  rcases Codec.decode_pair_eq_some whole with ⟨rest₁, readMember, others⟩
  rcases Codec.decode_pair_eq_some others with ⟨rest₂, readRoles, others⟩
  rcases Codec.decode_pair_eq_some others with ⟨rest₃, _, readSystemId⟩
  exact ⟨Codec.measured_of_decode readMember, Codec.measured_of_decode readRoles,
    Codec.measured_of_decode readSystemId⟩

theorem ordered_of_encodeRoles {row : Row} {roles : List String}
    (written : row.roles = encodeRoles roles) : row.Ordered := by
  rcases decodeTexts_encodeRoles roles with ⟨distinct, decoded, ascending, _⟩
  exact ⟨distinct, written ▸ decoded, ascending⟩

variable {row : Row} {member systemId : String} {roles : List String}

theorem Ordered.decodeRoles (ordered : row.Ordered) :
    ∃ roles, Nodes.decodeRoles row.roles = .ok roles := by
  rcases ordered with ⟨roles, decoded, ascending⟩
  exact ⟨roles, decodeRoles_of_pairwise decoded ascending⟩

/-- An update keeps the roles of a row or writes them anew. -/
theorem Ordered.update (ordered : row.Ordered) (member systemId : String) (roles : List String)
    (machineId : Int64) : (row.update member roles machineId systemId).Ordered := by
  by_cases kept : roles.isEmpty = true
  · rcases ordered with ⟨stored, decoded, ascending⟩
    refine ⟨stored, ?_, ascending⟩
    rw [Row.update, if_pos kept]
    exact decoded
  · apply ordered_of_encodeRoles
    rw [Row.update, if_neg kept]

theorem Measured.update (measured : row.Measured) (member_ : Codec.Measured member)
    (roles_ : Codec.Measured (encodeRoles roles)) (systemId_ : Codec.Measured systemId)
    (machineId : Int64) : (row.update member roles machineId systemId).Measured where
  member := member_
  roles := by
    simp only [Row.update]
    split
    · exact measured.roles
    · exact roles_
  systemId := by
    simp only [Row.update]
    split
    · exact measured.systemId
    · exact systemId_

/-- A row with ordered roles is sound under every name. -/
theorem Ordered.sound {name : String} (ordered : row.Ordered) (named : name ≠ "")
    (measured : row.Measured) : Nodes.Sound name (codec.encode row) :=
  ⟨named, row, measured.readsBack.read?, ordered⟩

end Nodes.Row

/-! ## What keeps rows sound -/

namespace SoundRows

/-- Rows may be taken away, save the counter. -/
theorem erase (sound : SoundRows tables created) {table : Table} (kept : table ≠ .counters)
    (key : String) : SoundRows (tables.set table key none) created where
  rows other other' value row := sound.rows other other' value (PlainTables.of_set_none row)
  distinct _ _ _ _ _ _ row row' := sound.distinct _ _ _ _ _ _ (PlainTables.of_set_none row)
    (PlainTables.of_set_none row')
  counter := by
    rw [PlainTables.Counts, PlainTables.set_of_ne kept.symm]
    exact sound.counter

/-- A sound row may be put in place, save of a manifest or the counter. -/
theorem put (sound : SoundRows tables created) {table : Table} {key : String} {value : Bytes}
    (row : table.SoundRow created key value) (notManifest : table ≠ .manifest)
    (notCounter : table ≠ .counters) : SoundRows (tables.set table key (some value)) created where
  rows := by
    intro other other' value' found
    rcases PlainTables.of_set_some found with ⟨rfl, rfl, rfl⟩ | before
    · exact row
    · exact sound.rows other other' value' before
  distinct := by
    rw [PlainTables.set_of_ne notManifest.symm]
    exact sound.distinct
  counter := by
    rw [PlainTables.Counts, PlainTables.set_of_ne notCounter.symm]
    exact sound.counter

/-- A manifest may be recorded under the next row id. -/
theorem record (sound : SoundRows tables created) {id data : String} (named : id ≠ "")
    (notLatest : id ≠ Manifest.latestId) (nanos : Int64) (measured : Codec.Measured data)
    (room : created + 1 < 2 ^ 64) :
    SoundRows ((tables.set .counters Table.manifest.sequenceKey
        (some (Codec.unsigned.encode (UInt64.ofNat (created + 1))))).set .manifest id
      (some (Manifests.Row.codec.encode ⟨UInt64.ofNat (created + 1), nanos, data⟩)))
      (created + 1) := by
  let recorded : Manifests.Row := ⟨UInt64.ofNat (created + 1), nanos, data⟩
  have number : recorded.rowId.toNat = created + 1 := UInt64.toNat_ofNat_of_lt' room
  have read : Manifests.Row.codec.read? (Manifests.Row.codec.encode recorded) = some recorded :=
    (Manifests.readsBack_row measured).read?
  -- A row id that was handed out before is not the new one.
  have fresh {other : String} {value : Bytes} {row : Manifests.Row}
      (found : tables .manifest other = some value)
      (decoded : Manifests.Row.codec.read? value = some row) : row.rowId ≠ recorded.rowId := by
    rcases sound.rows .manifest other value found with ⟨_, _, stored, read', _, most⟩
    cases read'.symm.trans decoded
    intro same
    rw [same, number] at most
    exact Nat.not_succ_le_self _ most
  constructor
  · intro table key value found
    rcases PlainTables.of_set_some found with ⟨rfl, rfl, rfl⟩ | found
    · refine ⟨named, notLatest, recorded, read, ?_, Nat.le_of_eq number⟩
      rw [number]
      exact Nat.succ_pos created
    · rcases PlainTables.of_set_some found with ⟨rfl, rfl, rfl⟩ | before
      · rfl
      · exact (sound.rows table key value before).mono (Nat.le_succ created)
  · intro one other value value' row row' found found' decoded decoded' same
    rcases PlainTables.of_set_some found with ⟨_, rfl, rfl⟩ | before <;>
      rcases PlainTables.of_set_some found' with ⟨_, rfl, rfl⟩ | before'
    · rfl
    · cases read.symm.trans decoded
      exact absurd same.symm (fresh before' decoded')
    · cases read.symm.trans decoded'
      exact absurd same (fresh before decoded)
    · exact sound.distinct _ _ _ _ _ _ before before' decoded decoded' same
  · have counted := (Codec.readsBack_unsigned (UInt64.ofNat (created + 1))).read?
    simp only [PlainTables.Counts, PlainTables.set]
    simpa using counted

end SoundRows

end ControlPlane
