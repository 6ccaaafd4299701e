import ControlPlane.Proofs.Cluster.ReachedNodes

/-!
# Sets of roles as they are stored

The roles of a node are a set: neither their order nor how often one of them is named
counts.  Each set has one stored text, which no other set has and which shows it again, its
roles in ascending order.  So two writes of nodes that differ in nothing but their roles
leave the same bytes if they name the same set, and only then.
-/

namespace ControlPlane.Nodes

/-! ## Stored texts -/

/-- Two lists name the same set of roles. -/
def SameRoles (roles others : List String) : Prop :=
  ∀ role, role ∈ roles ↔ role ∈ others

/-- A stored text shows the roles that are kept. -/
theorem decodeRoles_encodeRoles (roles : List String) :
    ∃ kept, decodeRoles (encodeRoles roles) = .ok kept ∧ Registers.KeptRoles roles kept := by
  rcases keptRoles_encodeRoles roles with ⟨kept, keeps, written⟩
  refine ⟨kept, ?_, keeps⟩
  rw [written]
  exact decodeRoles_of_pairwise (Json.decodeTexts_write kept) keeps.ascending

/-- Two lists of roles are stored as the same text if they name the same set. -/
theorem encodeRoles_eq_iff {roles others : List String} :
    encodeRoles roles = encodeRoles others ↔ SameRoles roles others := by
  constructor
  · intro same role
    rcases decodeRoles_encodeRoles roles with ⟨kept, shown, keeps⟩
    rcases decodeRoles_encodeRoles others with ⟨kept', shown', keeps'⟩
    rw [same, shown'] at shown
    cases shown
    exact (keeps.mem_iff role).symm.trans (keeps'.mem_iff role)
  · intro same
    rcases keptRoles_encodeRoles roles with ⟨kept, keeps, written⟩
    rcases keptRoles_encodeRoles others with ⟨kept', keeps', written'⟩
    -- What is kept of one list is also what is to be kept of the other.
    have keeps'' : Registers.KeptRoles roles kept' :=
      ⟨keeps'.ascending, fun role => (keeps'.mem_iff role).trans (same role).symm⟩
    rw [written, written', keeps.unique keeps'']

/-! ## Rows -/

/-- Two rows have the same owner, machine number and system name. -/
def Row.SameButRoles (row other : Row) : Prop :=
  { row with roles := other.roles } = other

/-- Rows that agree in all else are told apart by their roles, whatever their size. -/
theorem Row.encode_eq_iff {row other : Row} (same : row.SameButRoles other) :
    codec.encode row = codec.encode other ↔ row.roles = other.roles := by
  rcases row with ⟨member, roles, machineId, systemId⟩
  rcases other with ⟨member', roles', machineId', systemId'⟩
  cases same
  constructor
  · intro bytes
    have behind := List.append_cancel_left bytes
    exact Codec.encode_text_injective (List.append_cancel_right behind)
  · rintro rfl
    rfl

/-! ## Writes of nodes -/

namespace Change

/-- A change says which roles the node is to have: it registers the node, or it updates the
node with at least one role. -/
def Names : Change → List String → Prop
  | create _ _ named _ _, roles => named = roles
  | update _ _ named _ _, roles => named = roles ∧ roles ≠ []
  | delete _, _ => False

variable {database : Database} {writes after : WriteSet}

/-- The row that a change makes, from nothing or from the row that it finds. -/
inductive Makes (database : Database) (writes : WriteSet) : Change → Row → Prop
  | create (member name : String) (roles : List String) (machineId : Int64) (systemId : String) :
    Makes database writes (create member name roles machineId systemId)
      ⟨member, encodeRoles roles, machineId, systemId⟩
  | update {name : String} {row : Row} (found : getRow name database writes = (.ok row, writes))
    (member : String) (roles : List String) (machineId : Int64) (systemId : String) :
    Makes database writes (update member name roles machineId systemId)
      (row.update member roles machineId systemId)

/-- A change has left a row under the name of its node. -/
def Leaves (change : Change) (after : WriteSet) (row : Row) : Prop :=
  after.get? .nodes change.name = some (some (Row.codec.encode row))

theorem leaves_put (change : Change) (row : Row) :
    change.Leaves (writes.put .nodes change.name (Row.codec.encode row)) row := by
  rw [Leaves, WriteSet.put, WriteSet.get?_stage, if_pos ⟨rfl, rfl⟩]

/-- A change that names roles leaves the row that it makes, with the text of the roles. -/
theorem Names.leaves {change : Change} {roles : List String} (names : change.Names roles)
    (acts : change.action database writes = (.ok (), after)) :
    ∃ row, change.Makes database writes row ∧ change.Leaves after row ∧
      row.roles = encodeRoles roles := by
  cases change with
  | create member name named machineId systemId =>
    obtain rfl : named = roles := names
    rw [action, Nodes.create] at acts
    split at acts
    · cases acts
    · rcases (Action.readsOnly_contains .nodes name).ok_of_bind acts with ⟨found, _, staged⟩
      cases found with
      | true => cases staged
      | false =>
        cases staged
        exact ⟨_, .create .., leaves_put (create member name named machineId systemId) _, rfl⟩
  | update member name named machineId systemId =>
    rcases names with ⟨rfl, filled⟩
    rcases (readsOnly_getRow name).ok_of_bind acts with ⟨row, found, staged⟩
    cases staged
    refine ⟨_, .update found .., leaves_put (update member name _ machineId systemId) _, ?_⟩
    rw [Row.update, if_neg (by simpa using filled)]
  | delete name => cases names

end Change

/-- Two lists of roles are stored as the same text if and only if they name the same set,
and the text shows each role of the set once, in ascending order of bytes.

So it is with whole rows, by whatever changes of nodes and over whatever rows they were
written: those of the same owner, machine number and system name have the same bytes if
and only if they were written for the same set of roles.  Rows for different sets never
have the same bytes, whatever else they hold. -/
theorem stored_roles_name_sets :
    (∀ roles others, encodeRoles roles = encodeRoles others ↔ SameRoles roles others) ∧
    (∀ roles, ∃ kept, decodeRoles (encodeRoles roles) = .ok kept ∧
      kept.Pairwise (fun a b => Utf8.encode a < Utf8.encode b) ∧
      ∀ role, role ∈ kept ↔ role ∈ roles) ∧
    ∀ {database database' : Database} {writes writes' after after' : WriteSet}
      {change change' : Change} {roles others : List String},
      change.Names roles → change'.Names others →
      change.action database writes = (.ok (), after) →
      change'.action database' writes' = (.ok (), after') →
      ∃ row row', change.Makes database writes row ∧ change'.Makes database' writes' row' ∧
        change.Leaves after row ∧ change'.Leaves after' row' ∧
        (row.SameButRoles row' →
          (Row.codec.encode row = Row.codec.encode row' ↔ SameRoles roles others)) ∧
        (row.Measured → row'.Measured → ¬SameRoles roles others →
          Row.codec.encode row ≠ Row.codec.encode row') := by
  refine ⟨fun _ _ => encodeRoles_eq_iff, ?shown, ?rows⟩
  case shown =>
    intro roles
    rcases decodeRoles_encodeRoles roles with ⟨kept, shown, keeps⟩
    exact ⟨kept, shown, keeps.ascending.imp Utf8.encode_lt_iff.2, keeps.mem_iff⟩
  case rows =>
    intro database database' writes writes' after after' change change' roles others names names'
      acts acts'
    rcases names.leaves acts with ⟨row, makes, leaves, written⟩
    rcases names'.leaves acts' with ⟨row', makes', leaves', written'⟩
    refine ⟨row, row', makes, makes', leaves, leaves', ?_, ?_⟩
    · intro same
      rw [Row.encode_eq_iff same, written, written', encodeRoles_eq_iff]
    · intro measured measured' different bytes
      have same : row = row' := Option.some.inj
        (measured.readsBack.read?.symm.trans (bytes ▸ measured'.readsBack.read?))
      apply different
      rw [← encodeRoles_eq_iff, ← written, ← written', same]

/-- A node is registered with a role named twice, and elsewhere with the same roles in
another order. -/
theorem stored_roles_name_sets_of_repeated_role :
    let roles := ["b", "\"\n", "b"]
    let others := ["\"\n", "b"]
    let change : Change := .create "é" "n1" roles 1 "s"
    let change' : Change := .create "é" "n2" others 1 "s"
    ∃ after after', change.action (.empty .memory) .empty = (.ok (), after) ∧
      change'.action (.empty .persistent) .empty = (.ok (), after') ∧
      change.Names roles ∧ change'.Names others ∧ SameRoles roles others ∧
      ∃ value, after.get? .nodes "n1" = some (some value) ∧
        after'.get? .nodes "n2" = some (some value) := by
  intro roles others change change'
  have acts : change.action (.empty .memory) .empty = (.ok (), _) := rfl
  have acts' : change'.action (.empty .persistent) .empty = (.ok (), _) := rfl
  have same : SameRoles roles others := by
    intro role
    simp only [roles, others, List.mem_cons, List.not_mem_nil, or_false]
    constructor
    · rintro (rfl | rfl | rfl) <;> simp
    · rintro (rfl | rfl) <;> simp
  have names : change.Names roles := rfl
  have names' : change'.Names others := rfl
  rcases stored_roles_name_sets.2.2 names names' acts acts' with
    ⟨_, _, makes, makes', leaves, leaves', alike, _⟩
  simp only [change] at makes
  simp only [change'] at makes'
  cases makes
  cases makes'
  have bytes := (alike rfl).2 same
  exact ⟨_, _, acts, acts', names, names', same, _, leaves,
    leaves'.trans (congrArg (fun value => some (some value)) bytes.symm)⟩

end ControlPlane.Nodes
