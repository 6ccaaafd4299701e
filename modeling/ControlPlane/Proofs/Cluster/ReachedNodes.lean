import ControlPlane.Proofs.Cluster.RegisterRows

/-!
# Nodes that were created, updated and deleted

Transactions create, update and delete nodes among whatever else they do, and are committed
or given up.  Whatever they have done, on either medium, the rows of the nodes that the
next action sees are those of a register, with each node under a name that can be looked
up.  So a list holds the nodes that can be looked up one by one and that match, in order.
-/

namespace ControlPlane.Nodes

/-! ## Changes -/

/-- A change of the nodes. -/
inductive Change where
  | create (member name : String) (roles : List String) (machineId : Int64) (systemId : String)
  | update (member name : String) (roles : List String) (machineId : Int64) (systemId : String)
  | delete (name : String)
  deriving DecidableEq, Repr

namespace Change

/-- The node that a change is about. -/
def name : Change → String
  | create _ name .. | update _ name .. | delete name => name

/-- Carries out a change. -/
def action : Change → Action Unit
  | create member name roles machineId systemId =>
    Nodes.create member name roles machineId systemId
  | update member name roles machineId systemId =>
    Nodes.update member name roles machineId systemId
  | delete name => Nodes.delete name

/-- The lengths of the texts of a row that a change writes fit 64 bits. -/
def Measured : Change → Prop
  | create member _ roles machineId systemId | update member _ roles machineId systemId =>
    (Row.mk member (encodeRoles roles) machineId systemId).Measured
  | delete _ => True

end Change

/-- The committed rows and the staged writes that changes of nodes can come to, with
anything else done among them that writes to no node. -/
inductive Reached : Database → WriteSet → Prop
  | empty (medium : Medium) : Reached (.empty medium) .empty
  | change {database : Database} {writes : WriteSet} (before : Reached database writes)
      (change : Change) (measured : change.Measured) :
      Reached database (change.action database writes).2
  | elsewhere {α : Type} {database : Database} {writes : WriteSet}
      (before : Reached database writes) (action : Action α)
      (apart : action.StaysIn fun table _ => table ≠ .nodes) :
      Reached database (action database writes).2
  | commit {database next : Database} {writes : WriteSet} (before : Reached database writes)
      (applied : database.apply writes = .ok next) : Reached next .empty
  | abandon {database : Database} {writes : WriteSet} (before : Reached database writes) :
      Reached database .empty

/-! ## Rows that are kept -/

/-- The rows of the nodes are those of a register. -/
def Registered (rows : String → Option Bytes) : Prop :=
  ∃ register : Register Node, register.Shown Records rows

/-- What a transaction sees of the nodes, and what it would see if its writes were given up,
are the rows of registers.  Nothing stands under a name that cannot be looked up. -/
structure Kept (database : Database) (writes : WriteSet) : Prop where
  readable : database.unreadable.get .nodes = []
  committed : Registered (database.plain .empty .nodes)
  seen : Registered (database.plain writes .nodes)
  lost : ∀ name, database.medium.canFind name = false →
    writes.get? .nodes name = none ∧ database.plain .empty .nodes name = none

variable {database : Database} {writes : WriteSet}

/-- A node is put in place or taken away, under a name that can be looked up. -/
theorem Kept.stage (kept : Kept database writes) {name : String}
    (found : database.medium.canFind name = true) {value? : Option Bytes} {node? : Option Node}
    (new : Option.Rel (Records name) value? node?) :
    Kept database (writes.stage .nodes name value?) where
  readable := kept.readable
  committed := kept.committed
  seen := by
    rcases kept.seen with ⟨register, shown⟩
    refine ⟨Function.update register name node?, ?_⟩
    have staged : database.plain (writes.stage .nodes name value?) .nodes =
        Function.update (database.plain writes .nodes) name value? := by
      funext other
      rw [Database.plain, Database.value?_eq, WriteSet.get?_stage, Function.update_apply]
      by_cases same : other = name
      · rw [if_pos ⟨rfl, same⟩, if_pos same]
        rfl
      · rw [if_neg fun both => same both.2, if_neg same, ← Database.value?_eq]
        rfl
    rw [staged]
    exact shown.update new
  lost := by
    intro other lost
    rw [WriteSet.get?_stage, if_neg]
    · exact kept.lost other lost
    · rintro ⟨_, rfl⟩
      rw [found] at lost
      cases lost

/-- No change is made under a name that cannot be looked up. -/
theorem Kept.change_of_lost (kept : Kept database writes) {change : Change}
    (lost : database.medium.canFind change.name = false) :
    (change.action database writes).2 = writes := by
  have fails := Action.get_of_lost lost (kept.lost _ lost).1
  cases change with
  | create member name roles machineId systemId =>
    simp only [Change.action, Nodes.create, Change.name] at fails ⊢
    split
    · rfl
    · rw [Action.bind_apply, Action.contains, Action.bind_apply, fails]
  | update member name roles machineId systemId =>
    simp only [Change.action, Nodes.update, Change.name] at fails ⊢
    rw [Action.bind_apply, getRow, Action.bind_apply, fails]
  | delete name =>
    simp only [Change.action, Nodes.delete, Change.name] at fails ⊢
    rw [Action.bind_apply, Action.delete, Action.bind_apply, Action.contains, Action.bind_apply,
      fails]

/-- A change keeps what is kept. -/
theorem Kept.change (kept : Kept database writes) {change : Change} (measured : change.Measured) :
    Kept database (change.action database writes).2 := by
  -- A change that fails stages nothing, and one that is answered stages one row.
  cases found : database.medium.canFind change.name with
  | false =>
    rw [kept.change_of_lost found]
    exact kept
  | true =>
    cases change with
    | create member name roles machineId systemId =>
      rw [Change.name] at found
      rw [Change.action, create_apply found]
      split
      · exact kept
      · cases database.value? writes .nodes name with
        | some value => exact kept
        | none =>
          rcases records_created name measured with ⟨_, _, is⟩
          exact kept.stage found (.some is)
    | update member name roles machineId systemId =>
      rw [Change.name] at found
      rw [Change.action, update_apply found]
      rcases kept.seen with ⟨register, shown⟩
      rcases shown.cases name with ⟨absent, _⟩ | ⟨value, node, present, _, is⟩
      · rw [row?_of_none absent]
        exact kept
      · rw [row?_of_some present is.row]
        rcases is.update measured with ⟨_, _, new⟩
        exact kept.stage found (.some new)
    | delete name =>
      rw [Change.name] at found
      rw [Change.action, delete_apply found]
      cases database.value? writes .nodes name with
      | none => exact kept
      | some value => exact kept.stage found .none

/-- What is kept does not depend on the writes to other tables. -/
theorem Kept.congr (kept : Kept database writes) {writes' : WriteSet}
    (same : ∀ name, writes'.get? .nodes name = writes.get? .nodes name) :
    Kept database writes' where
  readable := kept.readable
  committed := kept.committed
  seen := by
    have rows : database.plain writes' .nodes = database.plain writes .nodes :=
      funext fun name => Database.value?_congr (same name)
    rw [rows]
    exact kept.seen
  lost := by
    intro name lost
    rw [same]
    exact kept.lost name lost

theorem Reached.kept (reached : Reached database writes) : Kept database writes := by
  induction reached with
  | empty medium =>
    have none (name : String) : (Database.empty medium).plain .empty .nodes name = none :=
      Database.value?_empty ..
    have registered : Registered ((Database.empty medium).plain .empty .nodes) := by
      refine ⟨fun _ => Option.none, fun name => ?_⟩
      rw [none]
      exact .none
    exact ⟨rfl, registered, registered, fun name _ => ⟨WriteSet.get?_empty _ _, none name⟩⟩
  | change before change measured ih => exact ih.change measured
  | elsewhere before action apart ih =>
    exact ih.congr fun name => apart _ _ .nodes name fun other => other rfl
  | @commit database next writes before applied ih =>
    -- What was seen before the commit is committed behind it, and nothing is staged.
    have rows : next.plain .empty .nodes = database.plain writes .nodes :=
      funext fun name => Database.value?_of_apply applied .nodes name
    have base := Database.rows_of_apply applied
    refine ⟨?_, rows ▸ ih.seen, rows ▸ ih.seen, ?_⟩
    · rw [base]
      exact ih.readable
    · intro name lost
      have lost' : database.medium.canFind name = false := by rwa [base] at lost
      rcases ih.lost name lost' with ⟨unstaged, absent⟩
      refine ⟨WriteSet.get?_empty _ _, ?_⟩
      rw [rows, Database.plain, Database.value?_eq, unstaged, ← Database.value?_empty]
      exact absent
  | abandon before ih =>
    exact ⟨ih.readable, ih.committed, ih.committed, fun name lost =>
      ⟨WriteSet.get?_empty _ _, (ih.lost name lost).2⟩⟩

/-! ## Looking up and listing -/

/-- A node is looked up as its row shows it. -/
theorem get_of_records {name : String} (found : database.medium.canFind name = true)
    {value : Bytes} {node : Node} (seen : database.value? writes .nodes name = some value)
    (is : Records name value node) : get name database writes = (.ok node, writes) := by
  rcases is.shows with ⟨row, read, ofStored⟩
  have answers : (row? database writes name).bind (ofRow name) = .ok node := by
    rw [row?_of_some seen read]
    exact ofStored
  rw [get_apply found, answers]

theorem get_of_none {name : String} (found : database.medium.canFind name = true)
    (absent : database.value? writes .nodes name = none) :
    get name database writes = (.error notFound, writes) := by
  rw [get_apply found, row?_of_none absent]
  rfl

/-- Rows are seen only under names that can be looked up. -/
theorem Kept.canFind (kept : Kept database writes) {name : String} {value : Bytes}
    (seen : database.plain writes .nodes name = some value) :
    database.medium.canFind name = true := by
  cases found : database.medium.canFind name with
  | true => rfl
  | false =>
    rcases kept.lost name found with ⟨unstaged, absent⟩
    rw [Database.plain, Database.value?_eq, unstaged, ← Database.value?_empty] at seen
    cases absent.symm.trans seen

/-- Where no row is seen, no node is found. -/
theorem Kept.get_fails (kept : Kept database writes) {name : String}
    (absent : database.plain writes .nodes name = none) :
    ∃ failure, get name database writes = (.error failure, writes) := by
  cases found : database.medium.canFind name with
  | true => exact ⟨notFound, get_of_none found absent⟩
  | false =>
    refine ⟨.storage .taskFailed, ?_⟩
    rw [get, Action.bind_apply, getRow, Action.bind_apply,
      Action.get_of_lost found (kept.lost name found).1]

/-- A node is looked up as it is on record. -/
theorem Kept.get_iff (kept : Kept database writes) {register : Register Node}
    (shown : register.Shown Records (database.plain writes .nodes)) {name : String}
    {node : Node} :
    get name database writes = (.ok node, writes) ↔ register name = some node := by
  rcases shown.cases name with ⟨absent, missing⟩ | ⟨value, stored, seen, present, is⟩
  · rcases kept.get_fails absent with ⟨failure, fails⟩
    rw [fails, missing]
    constructor
    · intro same
      cases same
    · intro same
      cases same
  · rw [get_of_records (kept.canFind seen) seen is, present]
    constructor
    · intro same
      cases same
      rfl
    · intro same
      cases same
      rfl

/-- The nodes that a transaction finds by their names and that are wanted, each of them
once, in ascending order of the bytes of the names. -/
structure Lists (database : Database) (writes : WriteSet) (wanted : Node → Prop)
    (nodes : List Node) : Prop where
  ascending : nodes.Pairwise fun a b => Utf8.encode a.name < Utf8.encode b.name
  mem_iff : ∀ node,
    node ∈ nodes ↔ get node.name database writes = (.ok node, writes) ∧ wanted node

namespace Lists

variable {wanted wanted' : Node → Prop} {nodes nodes' : List Node}

/-- What is wanted may be said in other words, for the nodes that are found. -/
theorem congr (lists : Lists database writes wanted nodes)
    (same : ∀ node, get node.name database writes = (.ok node, writes) →
      (wanted node ↔ wanted' node)) :
    Lists database writes wanted' nodes where
  ascending := lists.ascending
  mem_iff node := (lists.mem_iff node).trans (and_congr_right (same node))

/-- Those of the nodes that are listed elsewhere. -/
theorem inter (lists : Lists database writes wanted nodes)
    (lists' : Lists database writes wanted' nodes') :
    Lists database writes (fun node => wanted node ∧ wanted' node)
      (nodes.filter (· ∈ nodes')) where
  ascending := lists.ascending.filter _
  mem_iff := by
    intro node
    rw [List.mem_filter, decide_eq_true_iff, lists.mem_iff, lists'.mem_iff]
    exact and_and_left.symm

theorem nodup (lists : Lists database writes wanted nodes) : nodes.Nodup := by
  refine lists.ascending.imp fun less => ?_
  rintro rfl
  exact List.lt_irrefl _ less

/-- No two lists hold the same nodes. -/
theorem unique (lists : Lists database writes wanted nodes)
    (lists' : Lists database writes wanted nodes') : nodes = nodes' := by
  refine List.Perm.eq_of_pairwise ?_ lists.ascending lists'.ascending
    ((List.perm_ext_iff_of_nodup lists.nodup lists'.nodup).2 fun node =>
      (lists.mem_iff node).trans (lists'.mem_iff node).symm)
  intro _ _ _ _ less less'
  exact absurd less' (List.lt_asymm less)

end Lists

/-- The nodes that are found and match are listed. -/
theorem Reached.lists (reached : Reached database writes) (wanted : List String) :
    ∃ nodes, list wanted database writes = (.ok nodes, writes) ∧
      Lists database writes (fun node => Registers.matchesRoles wanted node = true) nodes := by
  rcases reached.kept.seen with ⟨register, shown⟩
  have finds {name : String} {node : Node} :
      get name database writes = (.ok node, writes) ↔ register name = some node :=
    reached.kept.get_iff shown
  have shows_ : ∀ row ∈ database.listed writes .nodes, ∃ node, Shows row node := by
    intro row member
    rcases shown.of_listed member with ⟨node, _, is⟩
    exact ⟨node, is.shows⟩
  rcases list_apply reached.kept.readable wanted shows_ with ⟨nodes, listed, each⟩
  rcases shown.lists Records.unique (fun is => is.matches_iff wanted) each with
    ⟨records, rfl, lists⟩
  have named {name : String} {node : Node} (member : (name, node) ∈ records) :
      node.name = name := by
    rcases shown.row ((lists.mem_iff name node).1 member).1 with ⟨_, _, is⟩
    exact is.named
  refine ⟨_, listed, ?_, ?_⟩
  · rw [List.pairwise_map]
    refine lists.ascending.imp_of_mem fun first second less => ?_
    rw [named first, named second]
    exact less
  · intro node
    rw [finds, ← lists.mem_iff, List.mem_map]
    constructor
    · rintro ⟨⟨name, node⟩, member, rfl⟩
      rw [named member]
      exact member
    · intro member
      exact ⟨(node.name, node), member, rfl⟩

end ControlPlane.Nodes
