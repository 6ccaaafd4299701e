/-!
# Trees of settings

A source of settings gives a tree: sections of named members, with values as leaves.
Only texts are told apart from other plain values, since no setting is anything else.
A later source is laid over an earlier one by `overlay`: member by member where both
have a section, and in place of what was there otherwise.
-/

namespace ControlPlane.Settings

/-- What a source says at one place. -/
inductive Tree where
  | text (value : String)
  /-- A number or a truth value. -/
  | plain
  | list (items : List Tree)
  /-- Members by name; of two members of one name, the first counts. -/
  | group (members : List (String × Tree))

namespace Tree

/-- The tree without any member. -/
def empty : Tree := .group []

/-- The member of a name. -/
def find? (members : List (String × Tree)) (name : String) : Option Tree :=
  (members.find? fun member => member.1 == name).map (·.2)

mutual

/-- A tree laid over another one. -/
def overlay : Tree → Tree → Tree
  | .group upper, .group lower =>
    .group (overlayMembers lower upper ++
      lower.filter fun member => (find? upper member.1).isNone)
  | upper, _ => upper

/-- The upper members, each laid over the lower member of its name. -/
def overlayMembers (lower : List (String × Tree)) : List (String × Tree) → List (String × Tree)
  | [] => []
  | (name, tree) :: upper =>
    (name, match find? lower name with
      | some below => overlay tree below
      | none => tree) :: overlayMembers lower upper

end

/-- A tree at the end of a path of names. -/
def nest (path : List String) (tree : Tree) : Tree :=
  path.foldr (fun name inner => .group [(name, inner)]) tree

/-! ## Members of a tree laid over another one -/

/-- What two layers say at one place, of which each may say nothing. -/
def overlayOption : Option Tree → Option Tree → Option Tree
  | some upper, some lower => some (overlay upper lower)
  | some upper, none => some upper
  | none, lower => lower

theorem find?_cons (name key : String) (tree : Tree) (members : List (String × Tree)) :
    find? ((key, tree) :: members) name = if key = name then some tree else find? members name := by
  by_cases same : key = name <;> simp [find?, same]

theorem find?_append (front back : List (String × Tree)) (name : String) :
    find? (front ++ back) name = (find? front name).or (find? back name) := by
  simp [find?, List.find?_append, Option.map_or]

theorem find?_overlayMembers (lower upper : List (String × Tree)) (name : String) :
    find? (overlayMembers lower upper) name =
      (find? upper name).map fun tree =>
        match find? lower name with
        | some below => overlay tree below
        | none => tree := by
  induction upper with
  | nil => rfl
  | cons member upper ih =>
    obtain ⟨key, tree⟩ := member
    rw [overlayMembers, find?_cons, find?_cons, ih]
    by_cases same : key = name
    · subst same; simp
    · simp [same]

theorem find?_filter_none (upper lower : List (String × Tree)) (name : String) :
    find? (lower.filter fun member => (find? upper member.1).isNone) name =
      if (find? upper name).isNone then find? lower name else none := by
  induction lower with
  | nil => split <;> rfl
  | cons member lower ih =>
    obtain ⟨key, tree⟩ := member
    rw [List.filter_cons]
    by_cases same : key = name
    · subst same
      by_cases absent : (find? upper key).isNone
      · simp [absent, find?_cons]
      · simp only [absent, Bool.false_eq_true, if_false]
        simpa [absent] using ih
    · by_cases absent : (find? upper key).isNone <;> simp [absent, find?_cons, same, ih]

/-- Each member of a section laid over another one is the upper member over the lower
one, if both are there, and else the one that is there. -/
theorem find?_overlay (upper lower : List (String × Tree)) (name : String) :
    find? (overlayMembers lower upper ++ lower.filter fun member => (find? upper member.1).isNone)
        name = overlayOption (find? upper name) (find? lower name) := by
  rw [find?_append, find?_overlayMembers, find?_filter_none]
  cases find? upper name <;> cases find? lower name <;> rfl

end Tree

end ControlPlane.Settings
