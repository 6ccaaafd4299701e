import ControlPlane.Settings.Tree

/-!
# Tables of a TOML document

A table may come about in three ways, which differ in how it may be extended.  A
header opens a table once, or turns one into an opened table that was only implied as
part of a longer path.  A path of keys in front of a value makes the tables on its way,
and further paths may go through them.  A header of a list of tables adds a table to the
list, and later paths through the list lead into its last table.
-/

namespace ControlPlane.Toml

open Settings (Tree)

/-- How a table came about. -/
inductive Origin where
  /-- A header opened it. -/
  | header
  /-- It lies on the path of a header. -/
  | implied
  /-- It lies on the path of keys of a value. -/
  | keys
  deriving DecidableEq, Repr

/-- What stands under a key of a table. -/
inductive Item where
  | value (tree : Tree)
  | table (origin : Origin) (members : List (String × Item))
  /-- A list of tables, the last one first. -/
  | tables (last : List (String × Item)) (earlier : List (List (String × Item)))

/-- The members of a table. -/
abbrev Members := List (String × Item)

namespace Members

/-- What stands under a key. -/
def find? (members : Members) (key : String) : Option Item :=
  (List.find? (fun member => member.1 == key) members).map (·.2)

/-- Puts an item in place of what stands under a key, if that can be done. -/
def change (members : Members) (key : String) (next : Option Item → Option Item) :
    Option Members := do
  let item ← next (find? members key)
  return (key, item) :: List.filter (fun member => member.1 != key) members

/-- Adds a value at the end of a path of keys; `reached` tells whether a value may be
added to this table under a single key. -/
def addValue (value : Tree) (reached : Bool) (members : Members) : List String → Option Members
  | [] => none
  | [key] =>
    if reached then
      members.change key fun
        | none => some (.value value)
        | some _ => none
    else none
  | key :: path =>
    members.change key fun
      | none => .table .keys <$> addValue value true [] path
      | some (.table .keys inner) => .table .keys <$> addValue value true inner path
      | some (.table .implied inner) => .table .implied <$> addValue value false inner path
      | some (.tables last earlier) => (.tables · earlier) <$> addValue value false last path
      | some (.table .header _) | some (.value _) => none

/-- Changes the table at the end of a path of a header. -/
def under (next : Members → Option Members) (members : Members) : List String → Option Members
  | [] => next members
  | key :: path =>
    members.change key fun
      | none => .table .implied <$> under next [] path
      | some (.table origin inner) => .table origin <$> under next inner path
      | some (.tables last earlier) => (.tables · earlier) <$> under next last path
      | some (.value _) => none

/-- Opens the table of a key. -/
def openTable (key : String) (members : Members) : Option Members :=
  members.change key fun
    | none => some (.table .header [])
    | some (.table .implied inner) => some (.table .header inner)
    | some _ => none

/-- Adds a table to the list of tables of a key. -/
def openListed (key : String) (members : Members) : Option Members :=
  members.change key fun
    | none => some (.tables [] [])
    | some (.tables last earlier) => some (.tables [] (last :: earlier))
    | some _ => none

end Members

/-! ## The tree of a document -/

mutual

/-- The tree of an item. -/
def Item.toTree : Item → Tree
  | .value tree => tree
  | .table _ members => .group (Members.toTrees members)
  | .tables last earlier =>
    .list ((Tree.group (Members.toTrees last) :: Members.listed earlier).reverse)

/-- The trees of the members of a table. -/
def Members.toTrees : Members → List (String × Tree)
  | [] => []
  | (key, item) :: members => (key, item.toTree) :: Members.toTrees members

/-- The trees of a list of tables. -/
def Members.listed : List Members → List Tree
  | [] => []
  | members :: tables => .group (Members.toTrees members) :: Members.listed tables

end

end ControlPlane.Toml
