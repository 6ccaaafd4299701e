import ControlPlane.Proofs.Cluster.DisjointCalls
import ControlPlane.Proofs.Registry.OwnedRows

/-!
# Clusters of different names

Two members of different names that serve the same calls keep the same rows, except that
each of them owns its nodes.  This is kept up by every call, and nobody is told of the
difference: what fails does so for the same reason, and what is answered is the same up to
the owners of nodes, which are not sent.
-/

namespace ControlPlane

variable {owner owner' : String} {a b : Database} {writes writes' : WriteSet}

/-! ## Values and rows that mirror each other -/

/-- Two values are the same, or belong to one node with either owner. -/
def Table.Mirrors (owner owner' : String) (table : Table) (value value' : Bytes) : Prop :=
  match table with
  | .nodes => ∃ row : Nodes.Row, value = Nodes.Row.codec.encode (row.ownedBy owner) ∧
    value' = Nodes.Row.codec.encode (row.ownedBy owner')
  | _ => value = value'

theorem Table.mirrors_iff_eq {table : Table} (foreign : table ≠ .nodes) {value value' : Bytes} :
    table.Mirrors owner owner' value value' ↔ value = value' := by
  cases table with
  | nodes => exact absurd rfl foreign
  | _ => exact Iff.rfl

/-- Two write sets write values that mirror each other under the same keys. -/
def WriteSet.Mirrors (owner owner' : String) (writes writes' : WriteSet) : Prop :=
  ∀ table key, Option.Rel (Option.Rel (table.Mirrors owner owner')) (writes.get? table key)
    (writes'.get? table key)

/-- Two databases hold rows that mirror each other. -/
structure Database.Mirrors (owner owner' : String) (a b : Database) : Prop where
  medium : a.medium = b.medium
  unreadable : a.unreadable = b.unreadable
  readable : a.unreadable.get .nodes = []
  rows : ∀ table key, Option.Rel (table.Mirrors owner owner') (a.value? .empty table key)
    (b.value? .empty table key)

/-- Two clusters hold rows that mirror each other, each with its own nodes. -/
def Cluster.Mirrors (one other : Cluster) : Prop :=
  Database.Mirrors one.member other.member one.store.database other.store.database

theorem Cluster.mirrors_empty (medium : Medium) (owner owner' : String) :
    (empty medium owner).Mirrors (empty medium owner') where
  medium := rfl
  unreadable := rfl
  readable := rfl
  rows := by
    rintro (_ | _) key <;> exact .none

/-! ## Writes that mirror each other -/

namespace WriteSet

theorem mirrors_empty : Mirrors owner owner' .empty .empty := by
  intro table key
  rw [get?_empty]
  exact .none

/-- A write set that spares the nodes mirrors itself. -/
theorem mirrors_self (spares : ∀ name, writes.get? .nodes name = none) :
    writes.Mirrors owner owner' writes := by
  intro table key
  by_cases foreign : table = .nodes
  · subst foreign
    rw [spares]
    exact .none
  · rcases writes.get? table key with _ | _ | value
    · exact .none
    · exact .some .none
    · exact .some (.some ((Table.mirrors_iff_eq foreign).2 rfl))

theorem Mirrors.stage (mirrors : writes.Mirrors owner owner' writes') {table : Table}
    (key : String) {write write' : Option Bytes}
    (same : Option.Rel (table.Mirrors owner owner') write write') :
    (writes.stage table key write).Mirrors owner owner' (writes'.stage table key write') := by
  intro other other'
  rw [get?_stage, get?_stage]
  split
  case isTrue here =>
    rcases here with ⟨rfl, rfl⟩
    exact .some same
  case isFalse elsewhere => exact mirrors other other'

end WriteSet

/-! ## Commits -/

namespace Database.Mirrors

variable (mirrors : a.Mirrors owner owner' b) (staged : writes.Mirrors owner owner' writes')

include mirrors staged

theorem accepts : a.accepts writes = b.accepts writes' := by
  have keys (table : Table) (key : String) :
      (∃ write, writes.get? table key = some write) ↔
        ∃ write, writes'.get? table key = some write := by
    have same := staged table key
    generalize writes.get? table key = write at same
    generalize writes'.get? table key = write' at same
    cases same <;> simp
  apply Bool.eq_iff_iff.2
  rw [accepts_iff, accepts_iff, mirrors.medium]
  constructor
  · intro canStore table key write' written'
    rcases (keys table key).2 ⟨write', written'⟩ with ⟨write, written⟩
    exact canStore table key write written
  · intro canStore table key write written
    rcases (keys table key).1 ⟨write, written⟩ with ⟨write', written'⟩
    exact canStore table key write' written'

/-- What is written over rows that mirror each other does so too. -/
theorem value? (table : Table) (key : String) :
    Option.Rel (table.Mirrors owner owner') (a.value? writes table key)
      (b.value? writes' table key) := by
  have before := mirrors.rows table key
  have written := staged table key
  rw [value?_empty, value?_empty] at before
  rw [value?_eq, value?_eq]
  generalize writes.get? table key = write at written
  generalize writes'.get? table key = write' at written
  cases written with
  | none => exact before
  | some same => exact same

/-- Both commits fail, or leave databases that mirror each other. -/
theorem apply :
    (∃ fault, a.apply writes = .error fault ∧ b.apply writes' = .error fault) ∨
      ∃ next next', a.apply writes = .ok next ∧ b.apply writes' = .ok next' ∧
        next.Mirrors owner owner' next' := by
  cases accepted : b.accepts writes' with
  | false =>
    have accepted' := (mirrors.accepts staged).trans accepted
    refine .inl ⟨.taskFailed, ?_, ?_⟩
    · rw [Database.apply, accepted']
      rfl
    · rw [Database.apply, accepted]
      rfl
  | true =>
    have accepted' := (mirrors.accepts staged).trans accepted
    have applied : a.apply writes = .ok { a with rows := a.seen writes } := if_pos accepted'
    have applied' : b.apply writes' = .ok { b with rows := b.seen writes' } := if_pos accepted
    refine .inr ⟨_, _, applied, applied', mirrors.medium, mirrors.unreadable, mirrors.readable, ?_⟩
    intro table key
    rw [value?_of_apply applied, value?_of_apply applied']
    exact mirrors.value? staged table key

end Database.Mirrors

/-! ## What is looked up -/

namespace Database.Mirrors

variable (mirrors : a.Mirrors owner owner' b)

include mirrors

/-- Rows of other tables are the same. -/
theorem value?_eq {table : Table} (foreign : table ≠ .nodes) (key : String) :
    a.value? .empty table key = b.value? .empty table key := by
  have same := mirrors.rows table key
  generalize a.value? .empty table key = value at same
  generalize b.value? .empty table key = value' at same
  cases same with
  | none => rfl
  | some same => rw [(Table.mirrors_iff_eq foreign).1 same]

/-- The same nodes are there, as far as their names can be looked up. -/
theorem contains_cases (name : String) :
    (∃ failure, Action.contains .nodes name a .empty = (.error failure, .empty) ∧
      Action.contains .nodes name b .empty = (.error failure, .empty)) ∨
    ∃ present, Action.contains .nodes name a .empty = (.ok present, .empty) ∧
      Action.contains .nodes name b .empty = (.ok present, .empty) := by
  cases found : b.medium.canFind name with
  | false =>
    have unstaged := WriteSet.get?_empty .nodes name
    left
    rw [Action.contains, Action.bind_apply, Action.bind_apply,
      Action.get_of_lost (mirrors.medium ▸ found) unstaged, Action.get_of_lost found unstaged]
    exact ⟨_, rfl, rfl⟩
  | true =>
    have same := mirrors.rows .nodes name
    right
    rw [Action.contains_apply (mirrors.medium ▸ found), Action.contains_apply found]
    generalize a.value? .empty .nodes name = value at same
    generalize b.value? .empty .nodes name = value' at same
    cases same <;> exact ⟨_, rfl, rfl⟩

/-- The same is told of nodes that mirror each other. -/
theorem told? (measured : Codec.Measured owner) (measured' : Codec.Measured owner')
    (name : String) :
    (a.value? .empty .nodes name).map Nodes.told? =
      (b.value? .empty .nodes name).map Nodes.told? := by
  have same := mirrors.rows .nodes name
  generalize a.value? .empty .nodes name = value at same
  generalize b.value? .empty .nodes name = value' at same
  cases same with
  | none => rfl
  | some same =>
    rcases same with ⟨row, rfl, rfl⟩
    exact congrArg some (Nodes.told?_encode_ownedBy measured measured' row)

end Database.Mirrors

/-! ## Calls -/

namespace Call

/-- What is told of an answer: everything but the owners of nodes. -/
def told : (call : Call) → call.Answer → call.Answer
  | listNodes _, nodes => nodes.map Node.withoutOwner
  | getNode _, node => node.withoutOwner
  | _, answer => answer

/-- Two actions for a call come to the same: the same is told of their answers, and their
writes mirror each other. -/
structure Mirrored (call : Call) (owner owner' : String)
    (result result' : Except Failure call.Answer × WriteSet) : Prop where
  outcome : result.1.map call.told = result'.1.map call.told
  writes : result.2.Mirrors owner owner' result'.2

variable {call : Call}

theorem mirrored_self (result : Except Failure call.Answer × WriteSet)
    (spares : ∀ name, result.2.get? .nodes name = none) :
    call.Mirrored owner owner' result result :=
  ⟨rfl, WriteSet.mirrors_self spares⟩

variable (mirrors : a.Mirrors owner owner' b)

include mirrors

/-- A call that is not about nodes does the same on both sides. -/
theorem mirrored_of_foreign {now : Instant} (unowned : ∀ owner owner' : String,
      call.action owner now = call.action owner' now)
    (foreign : ∀ {table key}, call.footprint table key → table ≠ .nodes) :
    call.Mirrored owner owner' (call.action owner now a .empty)
      (call.action owner' now b .empty) := by
  have acts : call.action owner now a = call.action owner now b := by
    apply action_congr
    · intro table key looks
      rw [Database.read_eq, Database.read_eq, mirrors.medium,
        mirrors.value?_eq (foreign (footprint_of_looksUp looks))]
    · intro table start scans
      apply Database.scan_of_value? mirrors.medium mirrors.unreadable
      intro key starts
      exact mirrors.value?_eq (foreign (footprint_of_scansFor scans starts)) key
  rw [acts, unowned owner owner']
  apply mirrored_self
  intro name
  have outside : ¬call.part .nodes name := fun inside => foreign (footprint_of_part inside) rfl
  rw [staysIn_action owner' now call b .empty .nodes name outside, WriteSet.get?_empty]

section Nodes

variable (name : String) (roles : List String) (machineId : Int64) (systemId : String)
  (now : Instant)

theorem mirrored_deleteNode :
    (deleteNode name).Mirrored owner owner' ((deleteNode name).action owner now a .empty)
      ((deleteNode name).action owner' now b .empty) := by
  simp only [action, Nodes.delete, Action.delete, Action.bind_apply]
  rcases mirrors.contains_cases name with ⟨failure, same, same'⟩ | ⟨_ | _, same, same'⟩ <;>
    simp only [same, same']
  · exact ⟨rfl, WriteSet.mirrors_empty⟩
  · exact ⟨rfl, WriteSet.mirrors_empty⟩
  · exact ⟨rfl, WriteSet.mirrors_empty.stage name .none⟩

theorem mirrored_addNode :
    (addNode name roles machineId systemId).Mirrored owner owner'
      ((addNode name roles machineId systemId).action owner now a .empty)
      ((addNode name roles machineId systemId).action owner' now b .empty) := by
  simp only [action, Nodes.create]
  split
  case isTrue => exact ⟨rfl, WriteSet.mirrors_empty⟩
  case isFalse =>
    simp only [Action.bind_apply]
    rcases mirrors.contains_cases name with ⟨failure, same, same'⟩ | ⟨_ | _, same, same'⟩ <;>
      simp only [same, same']
    · exact ⟨rfl, WriteSet.mirrors_empty⟩
    · let row : Nodes.Row := ⟨"", Nodes.encodeRoles roles, machineId, systemId⟩
      exact ⟨rfl, WriteSet.mirrors_empty.stage name (.some ⟨row, rfl, rfl⟩)⟩
    · exact ⟨rfl, WriteSet.mirrors_empty⟩

variable (measured : Codec.Measured owner) (measured' : Codec.Measured owner')

include measured measured'

theorem mirrored_updateNode :
    (updateNode name roles machineId systemId).Mirrored owner owner'
      ((updateNode name roles machineId systemId).action owner now a .empty)
      ((updateNode name roles machineId systemId).action owner' now b .empty) := by
  simp only [action, Nodes.update, Action.bind_apply]
  rcases Nodes.getRow_told mirrors.medium (mirrors.told? measured measured' name) with
    ⟨failure, found, found'⟩ | ⟨row, row', found, found', told⟩
  · rw [found, found']
    exact ⟨rfl, WriteSet.mirrors_empty⟩
  · rcases Nodes.update_told told owner owner' roles machineId systemId with ⟨updated, one, other⟩
    simp only [found, found', one, other]
    exact ⟨rfl, WriteSet.mirrors_empty.stage name (.some ⟨updated, rfl, rfl⟩)⟩

theorem mirrored_getNode :
    (getNode name).Mirrored owner owner' ((getNode name).action owner now a .empty)
      ((getNode name).action owner' now b .empty) where
  outcome := Nodes.get_told mirrors.medium (mirrors.told? measured measured' name)
  writes := by
    rw [action, action, Nodes.readsOnly_get name a, Nodes.readsOnly_get name b]
    exact WriteSet.mirrors_empty

theorem mirrored_listNodes :
    (listNodes roles).Mirrored owner owner' ((listNodes roles).action owner now a .empty)
      ((listNodes roles).action owner' now b .empty) where
  outcome := Nodes.list_told mirrors.readable (mirrors.unreadable ▸ mirrors.readable)
    (mirrors.told? measured measured') roles
  writes := by
    rw [action, action, Nodes.readsOnly_list roles a, Nodes.readsOnly_list roles b]
    exact WriteSet.mirrors_empty

/-- Every call does the same on both sides, up to the owners of nodes. -/
theorem action_mirrored (call : Call) :
    call.Mirrored owner owner' (call.action owner now a .empty)
      (call.action owner' now b .empty) := by
  cases call with
  | listNodes roles => exact mirrored_listNodes mirrors roles now measured measured'
  | getNode name => exact mirrored_getNode mirrors name now measured measured'
  | addNode name roles machineId systemId =>
    exact mirrored_addNode mirrors name roles machineId systemId now
  | updateNode name roles machineId systemId =>
    exact mirrored_updateNode mirrors name roles machineId systemId now measured measured'
  | deleteNode name => exact mirrored_deleteNode mirrors name now
  | getManifest id =>
    apply mirrored_of_foreign mirrors fun _ _ => rfl
    intro table key inside
    rw [footprint] at inside
    split at inside <;> rw [inside.1] <;> decide
  | addManifest id data =>
    apply mirrored_of_foreign mirrors fun _ _ => rfl
    rintro table key (⟨rfl, -⟩ | ⟨rfl, -⟩) <;> decide
  | putState plan lockId state =>
    apply mirrored_of_foreign mirrors fun _ _ => rfl
    rintro table key (⟨rfl, -⟩ | ⟨rfl, -⟩) <;> decide
  | _ =>
    apply mirrored_of_foreign mirrors fun _ _ => rfl
    rintro table key ⟨rfl, -⟩
    decide

end Nodes

end Call

/-! ## Clusters -/

/-- Both clusters tell the same of a call, and mirror each other again after it. -/
theorem Cluster.Mirrors.serve {one other : Cluster} (mirrors : one.Mirrors other)
    (measured : Codec.Measured one.member) (measured' : Codec.Measured other.member)
    (now : Instant) (call : Call) :
    (one.serve now call).1.map call.told = (other.serve now call).1.map call.told ∧
      (one.serve now call).2.Mirrors (other.serve now call).2 := by
  rw [Cluster.serve, Cluster.serve]
  cases call.refusal? with
  | some failure => exact ⟨rfl, mirrors⟩
  | none =>
    have acts := Call.action_mirrored mirrors now measured measured' call
    simp only [Store.transact]
    generalize call.action one.member now one.store.database .empty = result at acts
    generalize call.action other.member now other.store.database .empty = result' at acts
    rcases result with ⟨outcome, staged⟩
    rcases result' with ⟨outcome', staged'⟩
    rcases acts with ⟨told, writes⟩
    rcases Except.cases_of_map_eq told with
      ⟨failure, rfl, rfl⟩ | ⟨answer, answer', rfl, rfl, -⟩
    · exact ⟨rfl, mirrors⟩
    · rcases Database.Mirrors.apply mirrors writes with
        ⟨fault, applied, applied'⟩ | ⟨next, next', applied, applied', mirrorsNext⟩
      · simp only [applied, applied']
        exact ⟨trivial, mirrors⟩
      · simp only [applied, applied']
        exact ⟨told, mirrorsNext⟩

end ControlPlane
