import ControlPlane.Proofs.Cluster.Registers
import ControlPlane.Proofs.Cluster.SoundRows

/-!
# Rows that stand for registers

The rows of a cluster stand for registers: each row can be read and is that of the record
under its name, and there is no row where there is no record.  What an operation answers
from such rows is what the registers answer, and the rows that it leaves stand for what
has become of the registers.  Nothing is asked of the locks among the configuration items.
-/

namespace ControlPlane

/-! ## One table -/

namespace Register

variable {ρ : Type}

/-- The rows of a table show the records of a register. -/
def Shown (register : Register ρ) (shows_ : String → Bytes → ρ → Prop)
    (rows : String → Option Bytes) : Prop :=
  ∀ name, Option.Rel (shows_ name) (rows name) (register name)

/-- A row and a record may be put in place, or taken away, together. -/
theorem Shown.update {register : Register ρ} {shows_ : String → Bytes → ρ → Prop}
    {rows : String → Option Bytes} (shown : register.Shown shows_ rows) {name : String}
    {value? : Option Bytes} {record? : Option ρ} (new : Option.Rel (shows_ name) value? record?) :
    Shown (Function.update register name record?) shows_ (Function.update rows name value?) := by
  intro other
  by_cases same : other = name
  · subst same
    rw [Function.update_self, Function.update_self]
    exact new
  · rw [Function.update_of_ne same, Function.update_of_ne same]
    exact shown other

/-- Rows with the records under their keys. -/
def listing (register : Register ρ) (rows : List (String × Bytes)) : List (String × ρ) :=
  rows.filterMap fun row => (register row.1).map fun record => (row.1, record)

theorem mem_listing {register : Register ρ} {rows : List (String × Bytes)} {name : String}
    {record : ρ} :
    (name, record) ∈ register.listing rows ↔
      register name = some record ∧ ∃ value, (name, value) ∈ rows := by
  rw [listing, List.mem_filterMap]
  constructor
  · rintro ⟨⟨key, value⟩, member, found⟩
    rcases Option.map_eq_some_iff.1 found with ⟨stored, present, same⟩
    cases same
    exact ⟨present, value, member⟩
  · rintro ⟨present, value, member⟩
    exact ⟨(name, value), member, Option.map_eq_some_iff.2 ⟨record, present, rfl⟩⟩

/-- The rows that are wanted list the records that are. -/
theorem lists_listing {register : Register ρ} {wanted : String → ρ → Prop}
    {rows : List (String × Bytes)} (ascending : rows.Pairwise fun a b => a.1 < b.1)
    (mem_iff : ∀ name record, register name = some record →
      ((∃ value, (name, value) ∈ rows) ↔ wanted name record)) :
    register.Lists wanted (register.listing rows) where
  ascending := by
    rw [listing, List.pairwise_filterMap]
    apply ascending.imp
    intro a b less listed found listed' found'
    rcases Option.map_eq_some_iff.1 found with ⟨record, _, rfl⟩
    rcases Option.map_eq_some_iff.1 found' with ⟨record', _, rfl⟩
    exact Utf8.encode_lt_iff.2 less
  mem_iff := by
    intro name record
    rw [mem_listing]
    exact and_congr_right fun present => mem_iff name record present

theorem map_fst_listing {register : Register ρ} {rows : List (String × Bytes)}
    (present : ∀ row ∈ rows, ∃ record, register row.1 = some record) :
    (register.listing rows).map (·.1) = rows.map (·.1) := by
  induction rows with
  | nil => rfl
  | cons row rest ih =>
    rcases present row List.mem_cons_self with ⟨record, found⟩
    rw [listing, List.filterMap_cons, found]
    have rest := ih fun later member => present later (List.mem_cons_of_mem _ member)
    exact congrArg (row.1 :: ·) rest

theorem map_snd_listing {register : Register ρ} {rows : List (String × Bytes)}
    {records : List ρ} {shows_ : String × Bytes → ρ → Prop}
    (each : List.Forall₂ shows_ rows records)
    (stored : ∀ row ∈ rows, ∀ record, shows_ row record → register row.1 = some record) :
    (register.listing rows).map (·.2) = records := by
  induction each with
  | nil => rfl
  | cons first _ ih =>
    rw [listing, List.filterMap_cons, stored _ List.mem_cons_self _ first]
    exact congrArg (_ :: ·) (ih fun row member => stored row (List.mem_cons_of_mem _ member))

/-- A record has a row that shows it. -/
theorem Shown.row {register : Register ρ} {shows_ : String → Bytes → ρ → Prop}
    {rows : String → Option Bytes} (shown : register.Shown shows_ rows) {name : String}
    {record : ρ} (present : register name = some record) :
    ∃ value, rows name = some value ∧ shows_ name value record := by
  have related := shown name
  rw [present] at related
  generalize rows name = value? at related
  cases related with
  | some is => exact ⟨_, rfl, is⟩

/-- There is neither a row nor a record, or the row is that of the record. -/
theorem Shown.cases {register : Register ρ} {shows_ : String → Bytes → ρ → Prop}
    {rows : String → Option Bytes} (shown : register.Shown shows_ rows) (name : String) :
    (rows name = none ∧ register name = none) ∨
      ∃ value record, rows name = some value ∧ register name = some record ∧
        shows_ name value record := by
  have related := shown name
  generalize rows name = value?, register name = record? at related
  cases related with
  | none => exact .inl ⟨rfl, rfl⟩
  | some kept => exact .inr ⟨_, _, rfl, rfl, kept⟩

section Listed

variable {register : Register ρ} {shows_ : String → Bytes → ρ → Prop} {database : Database}
  {writes : WriteSet} {table : Table}
  (shown : register.Shown shows_ (database.plain writes table))

include shown

/-- A row that is listed is that of a record. -/
theorem Shown.of_listed {row : String × Bytes} (member : row ∈ database.listed writes table) :
    ∃ record, register row.1 = some record ∧ shows_ row.1 row.2 record := by
  have seen : database.plain writes table row.1 = some row.2 := Database.mem_listed.1 member
  rcases shown.cases row.1 with ⟨missing, _⟩ | ⟨value, record, seen', present, is⟩
  · rw [seen] at missing
    cases missing
  · cases seen.symm.trans seen'
    exact ⟨record, present, is⟩

/-- The records of the rows that are kept are those that are wanted, in order. -/
theorem Shown.lists {shows' : String × Bytes → ρ → Prop}
    (agree : ∀ {name value record record'}, shows_ name value record →
      shows' (name, value) record' → record = record')
    {kept : String × Bytes → Bool} {wanted : String → ρ → Prop}
    (selects : ∀ {name value record}, shows_ name value record →
      (kept (name, value) = true ↔ wanted name record))
    {records : List ρ}
    (each : List.Forall₂ shows' ((database.listed writes table).filter kept) records) :
    ∃ listed, records = listed.map (·.2) ∧ register.Lists wanted listed := by
  refine ⟨register.listing ((database.listed writes table).filter kept), ?_, ?_⟩
  · refine (map_snd_listing each ?_).symm
    intro row member record is
    rcases shown.of_listed (List.mem_filter.1 member).1 with ⟨stored, present, is'⟩
    rw [← agree is' is]
    exact present
  · apply lists_listing (((database.seen writes).get table).ascending.filter _)
    intro name record present
    constructor
    · rintro ⟨value, member⟩
      rcases List.mem_filter.1 member with ⟨listed, keep⟩
      rcases shown.of_listed listed with ⟨stored, present', is⟩
      cases present.symm.trans present'
      exact (selects is).1 keep
    · intro want
      rcases shown.row present with ⟨value, row, is⟩
      exact ⟨value, List.mem_filter.2 ⟨Database.mem_listed.2 row, (selects is).2 want⟩⟩

end Listed

end Register

/-! ## Rows and records -/

namespace Nodes

/-- The row of a node. -/
def Row.ofNode (node : Node) : Row :=
  ⟨node.member, (Json.Document.texts node.roles).write, node.machineId, node.systemId⟩

/-- A row is that of a node. -/
structure Records (name : String) (value : Bytes) (node : Node) : Prop where
  named : node.name = name
  row : Row.codec.read? value = some (.ofNode node)
  ordered : node.roles.Pairwise (· < ·)

/-- A node is shown as it is on record. -/
theorem ofRow_ofNode {node : Node} (ordered : node.roles.Pairwise (· < ·)) :
    ofRow node.name (.ofNode node) = .ok node := by
  rw [ofRow, Row.ofNode, decodeRoles_of_pairwise (Json.decodeTexts_write node.roles) ordered]
  rfl

/-- The roles that are kept of some roles are those that are written. -/
theorem keptRoles_encodeRoles (roles : List String) :
    ∃ kept, Registers.KeptRoles roles kept ∧
      encodeRoles roles = (Json.Document.texts kept).write := by
  refine ⟨(sortTexts roles).eraseReps, ⟨pairwise_eraseReps (pairwise_sortTexts roles), ?_⟩, rfl⟩
  intro role
  rw [mem_eraseReps, mem_sortTexts]

/-- The row of a node shows it. -/
theorem Records.shows {name : String} {value : Bytes} {node : Node}
    (is : Records name value node) : Shows (name, value) node := by
  refine ⟨.ofNode node, is.row, ?_⟩
  rw [← is.named]
  exact ofRow_ofNode is.ordered

theorem Records.unique {name : String} {value : Bytes} {node node' : Node}
    (is : Records name value node) (shown : Shows (name, value) node') : node = node' := by
  rcases is.shows with ⟨row, read, same⟩
  rcases shown with ⟨row', read', same'⟩
  cases read.symm.trans read'
  exact Except.ok.inj (same.symm.trans same')

theorem Records.matches_iff {name : String} {value : Bytes} {node : Node}
    (is : Records name value node) (wanted : List String) :
    Matches wanted (name, value) = true ↔ Registers.matchesRoles wanted node = true := by
  rw [Matches, is.row]
  rfl

/-- The row of a node is updated as the node is. -/
theorem update_ofNode {node : Node} (ordered : node.roles.Pairwise (· < ·)) (member : String)
    (roles : List String) (machineId : Int64) (systemId : String) :
    ∃ kept, Registers.KeptRoles (if roles = [] then node.roles else roles) kept ∧
      (Row.ofNode node).update member roles machineId systemId =
        .ofNode (Registers.updatedNode node member kept machineId systemId) := by
  by_cases none : roles = []
  · subst none
    exact ⟨node.roles, ⟨ordered, fun _ => Iff.rfl⟩, rfl⟩
  · rcases keptRoles_encodeRoles roles with ⟨kept, keeps, written⟩
    refine ⟨kept, ?_, ?_⟩
    · rw [if_neg none]
      exact keeps
    · rw [Row.update, if_neg fun empty => none (List.isEmpty_iff.1 empty), written]
      rfl

theorem records_ofNode {node : Node} (measured : (Row.ofNode node).Measured)
    (ordered : node.roles.Pairwise (· < ·)) :
    Records node.name (Row.codec.encode (.ofNode node)) node :=
  ⟨rfl, measured.readsBack.read?, ordered⟩

/-- The row of a node that is registered shows it with the roles that are kept. -/
theorem records_created {member systemId : String} {roles : List String} {machineId : Int64}
    (name : String)
    (measured : (Row.mk member (encodeRoles roles) machineId systemId).Measured) :
    ∃ kept, Registers.KeptRoles roles kept ∧
      Records name (Row.codec.encode ⟨member, encodeRoles roles, machineId, systemId⟩)
        ⟨name, kept, machineId, systemId, member⟩ := by
  rcases keptRoles_encodeRoles roles with ⟨kept, keeps, written⟩
  rw [written] at measured ⊢
  let node : Node := ⟨name, kept, machineId, systemId, member⟩
  have is : Records node.name (Row.codec.encode (.ofNode node)) node :=
    records_ofNode measured keeps.ascending
  exact ⟨kept, keeps, is⟩

/-- The row of a node that is updated shows the node after the update. -/
theorem Records.update {member name systemId : String} {roles : List String} {machineId : Int64}
    {value : Bytes} {node : Node} (is : Records name value node)
    (measured : (Row.mk member (encodeRoles roles) machineId systemId).Measured) :
    ∃ kept, Registers.KeptRoles (if roles = [] then node.roles else roles) kept ∧
      Records name
        (Row.codec.encode ((Row.ofNode node).update member roles machineId systemId))
        (Registers.updatedNode node member kept machineId systemId) := by
  rcases update_ofNode is.ordered member roles machineId systemId with ⟨kept, keeps, updated⟩
  have sizes := (Row.measured_of_read? is.row).update measured.member measured.roles
    measured.systemId machineId
  rw [updated] at sizes ⊢
  have new := records_ofNode sizes keeps.ascending
  rw [show (Registers.updatedNode node member kept machineId systemId).name = name from is.named]
    at new
  exact ⟨kept, keeps, new⟩

end Nodes

/-- A row is that of a manifest. -/
def Manifests.Records (id : String) (value : Bytes) (manifest : Manifest) : Prop :=
  ∃ row, Row.codec.read? value = some row ∧ row.toManifest id = manifest

theorem Manifests.Records.unique {id : String} {value : Bytes} {manifest manifest' : Manifest}
    (is : Records id value manifest) (is' : Records id value manifest') :
    manifest = manifest' := by
  rcases is with ⟨row, read, rfl⟩
  rcases is' with ⟨row', read', rfl⟩
  cases read.symm.trans read'
  rfl

/-- A row is that of a user. -/
def JujuUsers.Records (username : String) (value : Bytes) (user : JujuUser) : Prop :=
  Shows (username, value) user

theorem JujuUsers.Records.unique {username : String} {value : Bytes} {user user' : JujuUser}
    (is : Records username value user) (is' : Records username value user') : user = user' := by
  rcases user with ⟨username₁, token⟩
  rcases user' with ⟨username₂, token'⟩
  rcases is with ⟨rfl, read⟩
  rcases is' with ⟨rfl, read'⟩
  cases read.symm.trans read'
  rfl

namespace Registers

/-- The registers stand for the rows of all tables. -/
structure Stand (registers : Registers) (tables : PlainTables) : Prop where
  items : ∀ key, tables .config key = (registers.items key).map Utf8.encode
  nodes : registers.nodes.Shown Nodes.Records (tables .nodes)
  manifests : registers.manifests.Shown Manifests.Records (tables .manifest)
  users : registers.users.Shown JujuUsers.Records (tables .jujuUser)
  counter : ∃ count, tables.Counts .manifest count

variable {registers : Registers} {tables : PlainTables}

theorem Stand.named (stand : registers.Stand tables) : registers.Named where
  nodes := by
    intro name node present
    rcases stand.nodes.row present with ⟨_, _, is⟩
    exact is.named
  manifests := by
    intro id manifest present
    rcases stand.manifests.row present with ⟨_, _, _, _, rfl⟩
    rfl
  users := by
    intro username user present
    rcases stand.users.row present with ⟨_, _, is⟩
    exact is.1

theorem Stand.setItem (stand : registers.Stand tables) {key : String} {text? : Option String} :
    { registers with items := Function.update registers.items key text? }.Stand
      (tables.set .config key (text?.map Utf8.encode)) := by
  rw [PlainTables.set_eq_update]
  refine { stand with items := fun other => ?_ }
  show Function.update (tables .config) key (text?.map Utf8.encode) other =
    (Function.update registers.items key text? other).map Utf8.encode
  rw [Function.update_apply, Function.update_apply]
  split
  · rfl
  · exact stand.items other

theorem Stand.setNode (stand : registers.Stand tables) {name : String} {value? : Option Bytes}
    {node? : Option Node} (new : Option.Rel (Nodes.Records name) value? node?) :
    { registers with nodes := Function.update registers.nodes name node? }.Stand
      (tables.set .nodes name value?) := by
  rw [PlainTables.set_eq_update]
  exact { stand with nodes := stand.nodes.update new }

theorem Stand.setManifest (stand : registers.Stand tables) {id : String} {value? : Option Bytes}
    {manifest? : Option Manifest} (new : Option.Rel (Manifests.Records id) value? manifest?) :
    { registers with manifests := Function.update registers.manifests id manifest? }.Stand
      (tables.set .manifest id value?) := by
  rw [PlainTables.set_eq_update]
  exact { stand with manifests := stand.manifests.update new }

theorem Stand.setUser (stand : registers.Stand tables) {username : String}
    {value? : Option Bytes} {user? : Option JujuUser}
    (new : Option.Rel (JujuUsers.Records username) value? user?) :
    { registers with users := Function.update registers.users username user? }.Stand
      (tables.set .jujuUser username value?) := by
  rw [PlainTables.set_eq_update]
  exact { stand with users := stand.users.update new }

/-- The counter of manifests may be set. -/
theorem Stand.setCounter (stand : registers.Stand tables) (count : UInt64) :
    registers.Stand (tables.set .counters Table.manifest.sequenceKey
      (some (Codec.unsigned.encode count))) := by
  rw [PlainTables.set_eq_update]
  refine { stand with counter := ⟨count.toNat, ?_⟩ }
  rw [PlainTables.Counts, Function.update_self, Function.update_self]
  simpa using (Codec.readsBack_unsigned count).read?

end Registers

end ControlPlane
