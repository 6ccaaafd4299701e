import ControlPlane.Settings.Load

/-!
# Settings of trees laid over one another

A setting has its text from the upper tree, or the upper tree says nothing about it and the
lower one gives the text.  Where the sections of settings are groups, what is said about a
setting is what the two trees say about it, whatever else they hold.
-/

namespace ControlPlane.Settings

namespace Tree

/-! ## Overlaid trees -/

/-- One tree stays as it is over another one, unless both are groups. -/
theorem overlay_cases (upper lower : Tree) :
    (∃ members below, upper = .group members ∧ lower = .group below ∧
      upper.overlay lower = .group (overlayMembers below members ++
        below.filter fun member => (find? members member.1).isNone)) ∨
      upper.overlay lower = upper := by
  cases upper with
  | group members =>
    cases lower with
    | group below => exact .inl ⟨members, below, rfl, rfl, by rw [overlay]⟩
    | text | plain | list => exact .inr (by rw [overlay]; intro _ _ _ same; cases same)
  | text | plain | list => exact .inr (by rw [overlay]; intro _ _ same; cases same)

theorem eq_text_of_overlay {upper lower : Tree} {value : String}
    (same : upper.overlay lower = .text value) : upper = .text value := by
  rcases overlay_cases upper lower with ⟨_, _, _, _, whole⟩ | stays
  · rw [whole] at same
    cases same
  · rwa [stays] at same

theorem overlayOption_eq_text {upper lower : Option Tree} {value : String}
    (same : overlayOption upper lower = some (.text value)) :
    upper = some (.text value) ∨ (upper = none ∧ lower = some (.text value)) := by
  cases upper with
  | none => exact .inr ⟨rfl, same⟩
  | some above =>
    cases lower with
    | none => exact .inl same
    | some below => exact .inl (congrArg some (eq_text_of_overlay (Option.some.inj same)))

@[simp]
theorem overlayOption_none (upper : Option Tree) : overlayOption upper none = upper := by
  cases upper <;> rfl

theorem overlayOption_eq_none {upper lower : Option Tree}
    (none : overlayOption upper lower = none) : upper = Option.none ∧ lower = Option.none := by
  cases upper <;> cases lower <;> first | exact ⟨rfl, rfl⟩ | cases none

/-- A text hides whatever is below it. -/
theorem overlayOption_of_text {upper lower : Option Tree} {value : String}
    (text : upper.or lower = some (.text value)) :
    overlayOption upper lower = some (.text value) := by
  cases upper with
  | none => exact text
  | some above =>
    cases text
    cases lower with
    | none => rfl
    | some below =>
      rcases overlay_cases (.text value) below with ⟨_, _, other, _⟩ | stays
      · cases other
      · exact congrArg some stays

/-! ## Trees of sections -/

/-- A group in which every section of a setting is a group, if it is there. -/
def Sectioned (tree : Tree) : Prop :=
  ∃ groups, tree = .group groups ∧ ∀ (field : Field) (part : Tree),
    find? groups field.group = some part → ∃ members, part = .group members

theorem sectioned_empty : Sectioned empty :=
  ⟨[], rfl, fun _ _ found => by cases found⟩

theorem Sectioned.overlay {upper lower : Tree} (above : upper.Sectioned)
    (below : lower.Sectioned) : (upper.overlay lower).Sectioned := by
  rcases above with ⟨groups, rfl, parts⟩
  rcases below with ⟨groups', rfl, parts'⟩
  refine ⟨_, by rw [Tree.overlay], fun field part found => ?_⟩
  rw [find?_overlay] at found
  cases upper : find? groups field.group with
  | none =>
    rw [upper] at found
    exact parts' field part found
  | some part₁ =>
    rcases parts field part₁ upper with ⟨members, rfl⟩
    cases lower : find? groups' field.group with
    | none =>
      rw [upper, lower] at found
      cases found
      exact ⟨members, rfl⟩
    | some part₂ =>
      rcases parts' field part₂ lower with ⟨members', rfl⟩
      rw [upper, lower] at found
      cases found
      exact ⟨_, by rw [Tree.overlay]⟩

/-- A path of at least two levels leads into a section. -/
theorem sectioned_nest {path : List String} (long : 2 ≤ path.length) (tree : Tree) :
    (nest path tree).Sectioned := by
  rcases path with _ | ⟨group, _ | ⟨name, more⟩⟩
  · cases long
  · exact absurd long (Nat.lt_irrefl 1)
  · refine ⟨_, rfl, fun field part found => ?_⟩
    rw [find?_cons] at found
    split at found
    · cases found
      exact ⟨_, rfl⟩
    · cases found

end Tree

/-! ## What trees say about a setting -/

namespace Field

/-- The path of a setting. -/
def path (field : Field) : List String := [field.group, field.name]

variable {field : Field} {upper lower tree : Tree} {value : String}

/-- What a section says about a setting. -/
def inPart? (field : Field) : Option Tree → Option Tree
  | some (.group members) => Tree.find? members field.name
  | some (.list items) => items[field.index]?
  | _ => none

theorem find?_group (groups : List (String × Tree)) :
    field.find? (.group groups) = field.inPart? (Tree.find? groups field.group) := rfl

theorem text?_eq_some_iff :
    field.text? tree = some value ↔ field.find? tree = some (.text value) := by
  unfold text?
  cases field.find? tree with
  | none => simp
  | some found => cases found <;> simp

/-- Where a tree laid over another one gives a setting a text, the upper tree gives it, or
says nothing about the setting and leaves it to the lower one. -/
theorem text_of_overlay (found : field.find? (upper.overlay lower) = some (.text value)) :
    field.find? upper = some (.text value) ∨
      (field.find? upper = none ∧ field.find? lower = some (.text value)) := by
  rcases Tree.overlay_cases upper lower with ⟨groups, groups', rfl, rfl, whole⟩ | stays
  · rw [whole, find?_group, Tree.find?_overlay] at found
    rw [find?_group, find?_group]
    cases above : Tree.find? groups field.group with
    | none =>
      rw [above] at found
      exact .inr ⟨rfl, found⟩
    | some part =>
      cases below : Tree.find? groups' field.group with
      | none =>
        rw [above, below] at found
        exact .inl found
      | some part' =>
        rw [above, below] at found
        rcases Tree.overlay_cases part part' with ⟨members, members', rfl, rfl, inner⟩ | stays
        · rw [Tree.overlayOption, inner, inPart?, Tree.find?_overlay] at found
          exact Tree.overlayOption_eq_text found
        · rw [Tree.overlayOption, stays] at found
          exact .inl found
  · rw [stays] at found
    exact .inl found

/-- Where the sections of settings are groups, other settings and other sections make no
difference. -/
theorem find?_overlay (above : upper.Sectioned) (below : lower.Sectioned) :
    field.find? (upper.overlay lower) =
      Tree.overlayOption (field.find? upper) (field.find? lower) := by
  rcases above with ⟨groups, rfl, parts⟩
  rcases below with ⟨groups', rfl, parts'⟩
  rw [Tree.overlay, find?_group, find?_group, find?_group, Tree.find?_overlay]
  cases upper : Tree.find? groups field.group with
  | none => rfl
  | some part =>
    rcases parts field part upper with ⟨members, rfl⟩
    cases lower : Tree.find? groups' field.group with
    | none => exact (Tree.overlayOption_none _).symm
    | some part' =>
      rcases parts' field part' lower with ⟨members', rfl⟩
      rw [Tree.overlayOption, Tree.overlay, inPart?, Tree.find?_overlay]
      rfl

/-- A nested tree says something about the settings on its path only. -/
theorem find?_nest (group name : String) (more : List String) :
    field.find? (Tree.nest (group :: name :: more) tree) =
      if field.path = [group, name] then some (Tree.nest more tree) else none := by
  have whole : Tree.nest (group :: name :: more) tree =
      .group [(group, .group [(name, Tree.nest more tree)])] := rfl
  rw [whole, find?_group, Tree.find?_cons]
  by_cases sameGroup : group = field.group
  · rw [if_pos sameGroup, inPart?, Tree.find?_cons]
    by_cases sameName : name = field.name
    · rw [if_pos sameName, if_pos (by rw [path, sameGroup, sameName])]
    · rw [if_neg sameName, if_neg fun same => sameName (by cases same; rfl)]
      rfl
  · rw [if_neg sameGroup, if_neg fun same => sameGroup (by cases same; rfl)]
    rfl

end Field

/-- A tree that holds all settings says their texts. -/
theorem find?_toTree (settings : Settings) (field : Field) :
    field.find? settings.toTree = some (.text (settings.text field)) := by
  cases field <;> rfl

theorem sectioned_toTree (settings : Settings) : settings.toTree.Sectioned := by
  refine ⟨_, rfl, fun field part found => ?_⟩
  cases field <;> exact ⟨_, (Option.some.inj found).symm⟩

end ControlPlane.Settings
