/-!
# Tables

The five tables of the store, in their fixed order, and a family of values with
one member for each table.  The order is that of `Table.all`, which is not the
alphabetical one.
-/

namespace ControlPlane

/-- A table of the store. -/
inductive Table where
  /-- Configuration texts, deployment states and deployment locks. -/
  | config
  | nodes
  | manifest
  | jujuUser
  /-- Bookkeeping: the row counters. -/
  | counters
  deriving DecidableEq, Repr

namespace Table

/-- Every table, in table order. -/
def all : List Table := [.config, .nodes, .manifest, .jujuUser, .counters]

theorem mem_all (table : Table) : table ∈ all := by
  cases table <;> simp [all]

/-- The place of a table in table order. -/
def index : Table → Nat
  | .config => 0
  | .nodes => 1
  | .manifest => 2
  | .jujuUser => 3
  | .counters => 4

theorem all_ascending : all.Pairwise fun a b => a.index < b.index := by
  decide

/-- The name of a table. -/
def name : Table → String
  | .config => "config"
  | .nodes => "nodes"
  | .manifest => "manifest"
  | .jujuUser => "jujuuser"
  | .counters => "meta"

/-- The table of a name. -/
def ofName? (name : String) : Option Table :=
  all.find? fun table => table.name == name

@[simp]
theorem ofName?_name (table : Table) : ofName? table.name = some table := by
  cases table <;> decide

theorem name_injective {a b : Table} (same : a.name = b.name) : a = b := by
  have read := ofName?_name a
  rw [same, ofName?_name] at read
  injection read with equal
  exact equal.symm

/-- The key, in the table `counters`, of the last row id handed out for a table. -/
def sequenceKey (table : Table) : String :=
  "seq/" ++ table.name

theorem sequenceKey_injective {a b : Table} (same : a.sequenceKey = b.sequenceKey) : a = b := by
  cases a <;> cases b <;> first | rfl | exact absurd same (by decide)

end Table

/-! ## Families over the tables -/

/-- One value for each table. -/
structure Tables (α : Type) where
  config : α
  nodes : α
  manifest : α
  jujuUser : α
  counters : α
  deriving DecidableEq, Repr

namespace Tables

variable {α : Type}

/-- The same value for every table. -/
def const (value : α) : Tables α := ⟨value, value, value, value, value⟩

/-- The value of a table. -/
def get (family : Tables α) : Table → α
  | .config => family.config
  | .nodes => family.nodes
  | .manifest => family.manifest
  | .jujuUser => family.jujuUser
  | .counters => family.counters

/-- The family with the value of one table replaced. -/
def set (family : Tables α) (table : Table) (value : α) : Tables α :=
  match table with
  | .config => { family with config := value }
  | .nodes => { family with nodes := value }
  | .manifest => { family with manifest := value }
  | .jujuUser => { family with jujuUser := value }
  | .counters => { family with counters := value }

@[simp]
theorem get_const (value : α) (table : Table) : (const value).get table = value := by
  cases table <;> rfl

@[simp]
theorem get_set (family : Tables α) (table other : Table) (value : α) :
    (family.set table value).get other = if other = table then value else family.get other := by
  cases table <;> cases other <;> rfl

theorem ext_get {a b : Tables α} (same : ∀ table, a.get table = b.get table) : a = b := by
  obtain ⟨a₁, a₂, a₃, a₄, a₅⟩ := a
  obtain ⟨b₁, b₂, b₃, b₄, b₅⟩ := b
  have h₁ := same .config
  have h₂ := same .nodes
  have h₃ := same .manifest
  have h₄ := same .jujuUser
  have h₅ := same .counters
  simp only [get] at h₁ h₂ h₃ h₄ h₅
  subst h₁ h₂ h₃ h₄ h₅
  rfl

/-- The family of the images under a function that may look at the table. -/
def map {β : Type} (f : Table → α → β) (family : Tables α) : Tables β :=
  ⟨f .config family.config, f .nodes family.nodes, f .manifest family.manifest,
    f .jujuUser family.jujuUser, f .counters family.counters⟩

@[simp]
theorem get_map {β : Type} (f : Table → α → β) (family : Tables α) (table : Table) :
    (family.map f).get table = f table (family.get table) := by
  cases table <;> rfl

end Tables

end ControlPlane
