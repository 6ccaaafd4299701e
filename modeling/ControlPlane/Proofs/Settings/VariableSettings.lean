import ControlPlane.Proofs.Settings.LayeredSections
import ControlPlane.Proofs.Settings.VariableNames

/-!
# Settings of an environment

Where every variable names a member of a section, the tree of an environment says about a
setting what its variables, one laid over another, say about it.  So a text under a setting
is that of its variable, and a setting of which nothing is said has no variable.
-/

namespace ControlPlane.Settings

variable {environment : List (String × String)} {entry : String × String} {field : Field}
  {value : String}

/-! ## Single variables -/

/-- What a variable says about a setting. -/
def Field.inVariable? (field : Field) (entry : String × String) : Option Tree := do
  field.find? (Tree.nest (← Variable.path? entry.1) (Variable.ofText entry.2))

/-- Whether a variable, if it sets anything, sets something inside a section. -/
def Variable.SetsMember (entry : String × String) : Prop :=
  ∀ path, path? entry.1 = some path → 2 ≤ path.length

/-- Whether a variable, if it sets anything, sets a member of a section as a whole. -/
def Variable.SetsWholeMember (entry : String × String) : Prop :=
  ∀ path, path? entry.1 = some path → path.length = 2

/-- The variable of a setting says what its text does. -/
theorem inVariable?_of_path (sets : Variable.path? entry.1 = some field.path) :
    field.inVariable? entry = some (Variable.ofText entry.2) := by
  rw [Field.inVariable?, sets]
  exact (Field.find?_nest field.group field.name []).trans (if_pos rfl)

/-- A variable that gives a setting a text is the variable of this setting. -/
theorem path_of_inVariable? (setsMember : Variable.SetsMember entry)
    (found : field.inVariable? entry = some (.text value)) :
    Variable.path? entry.1 = some field.path ∧ Variable.ofText entry.2 = .text value := by
  rw [Field.inVariable?, Option.bind_eq_bind, Option.bind_eq_some_iff] at found
  rcases found with ⟨path, sets, found⟩
  have long := setsMember path sets
  rcases path with _ | ⟨group, _ | ⟨name, more⟩⟩
  · cases long
  · exact absurd long (Nat.lt_irrefl 1)
  · rw [Field.find?_nest] at found
    split at found
    · rename_i same
      rw [sets, same]
      -- A path that leads on behind the setting puts a group there.
      cases more with
      | nil => exact ⟨rfl, Option.some.inj found⟩
      | cons next more => cases found
    · cases found

/-- A variable that sets whole members says something about its own setting only. -/
theorem path_of_inVariable?_ne_none (setsWhole : Variable.SetsWholeMember entry)
    (found : field.inVariable? entry ≠ none) : Variable.path? entry.1 = some field.path := by
  cases sets : Variable.path? entry.1 with
  | none => exact absurd (by rw [Field.inVariable?, sets]; rfl) found
  | some path =>
    have two := setsWhole path sets
    rcases path with _ | ⟨group, _ | ⟨name, _ | ⟨next, more⟩⟩⟩
    · cases two
    · cases two
    · by_cases same : field.path = [group, name]
      · rw [same]
      · refine absurd ?_ found
        rw [Field.inVariable?, sets]
        exact (Field.find?_nest group name []).trans (if_neg same)
    · simp at two

/-! ## Variables laid over one another -/

/-- A tree with what one more variable says laid over it. -/
def layer (below : Tree) (entry : String × String) : Tree :=
  match Variable.path? entry.1 with
  | some path => (Tree.nest path (Variable.ofText entry.2)).overlay below
  | none => below

theorem ofVariables_eq_foldl (environment : List (String × String)) :
    ofVariables environment = environment.foldl layer .empty := rfl

theorem sectioned_layer (setsMember : Variable.SetsMember entry) {tree : Tree}
    (sectioned : tree.Sectioned) : (layer tree entry).Sectioned := by
  rw [layer]
  cases sets : Variable.path? entry.1 with
  | none => exact sectioned
  | some path => exact (Tree.sectioned_nest (setsMember path sets) _).overlay sectioned

/-- A setting under one more variable. -/
theorem find?_layer (setsMember : Variable.SetsMember entry) {tree : Tree}
    (sectioned : tree.Sectioned) :
    field.find? (layer tree entry) =
      Tree.overlayOption (field.inVariable? entry) (field.find? tree) := by
  rw [layer, Field.inVariable?]
  cases sets : Variable.path? entry.1 with
  | none => rfl
  | some path => exact Field.find?_overlay (Tree.sectioned_nest (setsMember path sets) _) sectioned

/-- What many sources say at one place, each laid over those before it. -/
def overlayAll (below : Option Tree) (sources : List (Option Tree)) : Option Tree :=
  sources.foldl (fun below above => Tree.overlayOption above below) below

theorem sectioned_foldl_layer (setsMembers : ∀ entry ∈ environment, Variable.SetsMember entry)
    {tree : Tree} (sectioned : tree.Sectioned) : (environment.foldl layer tree).Sectioned := by
  induction environment generalizing tree with
  | nil => exact sectioned
  | cons entry rest ih =>
    apply ih fun other member => setsMembers other (List.mem_cons_of_mem _ member)
    exact sectioned_layer (setsMembers entry List.mem_cons_self) sectioned

theorem find?_foldl_layer (setsMembers : ∀ entry ∈ environment, Variable.SetsMember entry)
    {tree : Tree} (sectioned : tree.Sectioned) :
    field.find? (environment.foldl layer tree) =
      overlayAll (field.find? tree) (environment.map field.inVariable?) := by
  induction environment generalizing tree with
  | nil => rfl
  | cons entry rest ih =>
    have setsMember := setsMembers entry List.mem_cons_self
    have others := ih (fun other member => setsMembers other (List.mem_cons_of_mem _ member))
      (sectioned_layer setsMember sectioned)
    rw [find?_layer setsMember sectioned] at others
    exact others

/-- The tree of an environment says about a setting what the variables say about it. -/
theorem find?_ofVariables (setsMembers : ∀ entry ∈ environment, Variable.SetsMember entry) :
    field.find? (ofVariables environment) =
      overlayAll none (environment.map field.inVariable?) := by
  rw [ofVariables_eq_foldl]
  exact find?_foldl_layer setsMembers Tree.sectioned_empty

theorem sectioned_ofVariables
    (setsMembers : ∀ entry ∈ environment, Variable.SetsMember entry) :
    (ofVariables environment).Sectioned := by
  rw [ofVariables_eq_foldl]
  exact sectioned_foldl_layer setsMembers Tree.sectioned_empty

section

variable {below : Option Tree} {sources : List (Option Tree)}

/-- A text that many sources give together is one that one of them gives. -/
theorem mem_of_overlayAll (found : overlayAll below sources = some (.text value)) :
    some (.text value) ∈ sources ∨ below = some (.text value) := by
  induction sources generalizing below with
  | nil => exact .inr found
  | cons above rest ih =>
    rcases ih found with member | here
    · exact .inl (List.mem_cons_of_mem _ member)
    · rcases Tree.overlayOption_eq_text here with rfl | ⟨_, lower⟩
      · exact .inl List.mem_cons_self
      · exact .inr lower

/-- Where many sources together say nothing, none of them does. -/
theorem eq_none_of_overlayAll (none : overlayAll below sources = none) :
    below = Option.none ∧ ∀ source ∈ sources, source = Option.none := by
  induction sources generalizing below with
  | nil => exact ⟨none, fun _ member => (nomatch member)⟩
  | cons above rest ih =>
    rcases ih none with ⟨here, others⟩
    rcases Tree.overlayOption_eq_none here with ⟨upper, lower⟩
    refine ⟨lower, fun source member => ?_⟩
    rcases List.mem_cons.1 member with rfl | member
    · exact upper
    · exact others source member

/-- Where each of many sources says nothing or one and the same text, this text is what
they say together, as soon as one of them does. -/
theorem overlayAll_eq_text
    (agree : ∀ source ∈ sources, source = none ∨ source = some (.text value))
    (said : below = some (.text value) ∨ (below = none ∧ some (.text value) ∈ sources)) :
    overlayAll below sources = some (.text value) := by
  induction sources generalizing below with
  | nil =>
    rcases said with said | ⟨_, member⟩
    · exact said
    · cases member
  | cons above rest ih =>
    apply ih fun source member => agree source (List.mem_cons_of_mem _ member)
    rcases agree above List.mem_cons_self with rfl | rfl
    · rcases said with rfl | ⟨rfl, member⟩
      · exact .inl rfl
      · rcases List.mem_cons.1 member with same | member
        · cases same
        · exact .inr ⟨rfl, member⟩
    · exact .inl (Tree.overlayOption_of_text rfl)

theorem overlayAll_eq_none (none : ∀ source ∈ sources, source = Option.none) :
    overlayAll Option.none sources = Option.none := by
  induction sources with
  | nil => rfl
  | cons above rest ih =>
    rcases none above List.mem_cons_self with rfl
    exact ih fun source member => none source (List.mem_cons_of_mem _ member)

end

/-! ## Well-named environments -/

/-- What an environment says about a setting. -/
def Field.inEnvironment? (field : Field) (environment : List (String × String)) : Option Tree :=
  (environment.find? fun entry => Variable.path? entry.1 == some field.path).map
    fun entry => Variable.ofText entry.2

/-- Every variable that is marked as one that sets something names a member of a section,
and no two variables are for the same setting. -/
structure WellNamed (environment : List (String × String)) : Prop where
  named : ∀ entry ∈ environment, Variable.IsMarked entry.1 → Variable.NamesMember entry.1
  single : ∀ field : Field, ∀ first ∈ environment, ∀ second ∈ environment,
    Variable.path? first.1 = some field.path → Variable.path? second.1 = some field.path →
      first = second

theorem inEnvironment?_eq_none_iff :
    field.inEnvironment? environment = none ↔
      ∀ entry ∈ environment, Variable.path? entry.1 ≠ some field.path := by
  simp [Field.inEnvironment?]

namespace WellNamed

variable (wellNamed : WellNamed environment)

include wellNamed

theorem setsMembers : ∀ entry ∈ environment, Variable.SetsMember entry :=
  fun entry member _ sets =>
    (wellNamed.named entry member (Variable.isMarked_of_path? sets)).two_le_length sets

/-- The variable of a setting, if there is one, says what the environment says about it. -/
theorem inEnvironment?_of_path (member : entry ∈ environment)
    (sets : Variable.path? entry.1 = some field.path) :
    field.inEnvironment? environment = some (Variable.ofText entry.2) := by
  rw [Field.inEnvironment?]
  cases search : environment.find? fun other => Variable.path? other.1 == some field.path with
  | none => exact absurd (beq_iff_eq.2 sets) (List.find?_eq_none.1 search entry member)
  | some other =>
    have sets' := List.find?_some search
    rw [wellNamed.single field other (List.mem_of_find?_eq_some search) entry member
      (beq_iff_eq.1 sets') sets]
    rfl

/-- A text that the tree of an environment gives a setting is that of its variable. -/
theorem inEnvironment?_of_text
    (found : field.find? (ofVariables environment) = some (.text value)) :
    field.inEnvironment? environment = some (.text value) := by
  rw [find?_ofVariables wellNamed.setsMembers] at found
  rcases mem_of_overlayAll found with source | start
  · rcases List.mem_map.1 source with ⟨entry, member, said⟩
    rcases path_of_inVariable? (wellNamed.setsMembers entry member) said with ⟨sets, told⟩
    rw [wellNamed.inEnvironment?_of_path member sets, told]
  · cases start

/-- Where the tree of an environment says nothing about a setting, there is no variable
for it. -/
theorem inEnvironment?_of_none (missing : field.find? (ofVariables environment) = none) :
    field.inEnvironment? environment = none := by
  rw [find?_ofVariables wellNamed.setsMembers] at missing
  rw [inEnvironment?_eq_none_iff]
  intro entry member sets
  have unsaid := (eq_none_of_overlayAll missing).2 _ (List.mem_map_of_mem member)
  rw [inVariable?_of_path sets] at unsaid
  cases unsaid

variable (setsWhole : ∀ entry ∈ environment, Variable.SetsWholeMember entry)

include setsWhole

/-- Where variables set whole members, the tree of the environment gives a setting the text
of its variable. -/
theorem find?_of_text (found : field.inEnvironment? environment = some (.text value)) :
    field.find? (ofVariables environment) = some (.text value) := by
  have said : ∃ entry ∈ environment, Variable.path? entry.1 = some field.path := by
    rcases Option.map_eq_some_iff.1 found with ⟨entry, first, _⟩
    have sets := List.find?_some first
    exact ⟨entry, List.mem_of_find?_eq_some first, beq_iff_eq.1 sets⟩
  have told {entry : String × String} (member : entry ∈ environment)
      (sets : Variable.path? entry.1 = some field.path) :
      field.inVariable? entry = some (.text value) := by
    rw [inVariable?_of_path sets, ← wellNamed.inEnvironment?_of_path member sets, found]
  rw [find?_ofVariables wellNamed.setsMembers]
  apply overlayAll_eq_text
  · intro source listed
    rcases List.mem_map.1 listed with ⟨entry, member, rfl⟩
    by_cases none : field.inVariable? entry = none
    · exact .inl none
    · exact .inr (told member (path_of_inVariable?_ne_none (setsWhole entry member) none))
  · rcases said with ⟨entry, member, sets⟩
    exact .inr ⟨rfl, List.mem_map.2 ⟨entry, member, told member sets⟩⟩

/-- Where variables set whole members, nothing is said about a setting without a variable. -/
theorem find?_of_none (missing : field.inEnvironment? environment = none) :
    field.find? (ofVariables environment) = none := by
  rw [find?_ofVariables wellNamed.setsMembers]
  apply overlayAll_eq_none
  intro source listed
  rcases List.mem_map.1 listed with ⟨entry, member, rfl⟩
  by_cases said : field.inVariable? entry = none
  · exact said
  · exact absurd (path_of_inVariable?_ne_none (setsWhole entry member) said)
      (inEnvironment?_eq_none_iff.1 missing entry member)

end WellNamed

end ControlPlane.Settings
