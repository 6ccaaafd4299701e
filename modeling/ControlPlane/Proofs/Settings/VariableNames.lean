import ControlPlane.Settings.Variable

/-!
# Names of variables

A variable whose name says a section and a member of it sets something inside a section,
and no section as a whole.
-/

namespace ControlPlane

/-! ## Parts of trimmed texts -/

/-- Dropping elements from the front leaves a part that has none of them. -/
theorem isInfix_dropWhile {α : Type} {dropped : α → Bool} {part list : List α}
    (filled : part ≠ []) (kept : ∀ element ∈ part, ¬dropped element = true)
    (within : part <:+: list) : part <:+: list.dropWhile dropped := by
  induction list with
  | nil => exact within
  | cons head rest ih =>
    by_cases drops : dropped head = true
    · rw [List.dropWhile_cons_of_pos drops]
      apply ih
      rcases List.infix_cons_iff.1 within with starts | later
      · cases part with
        | nil => exact absurd rfl filled
        | cons first part =>
          rw [List.cons_prefix_cons] at starts
          exact absurd (starts.1 ▸ drops) (kept first List.mem_cons_self)
      · exact later
    · rw [List.dropWhile_cons_of_neg drops]
      exact within

/-- Trimming a text leaves a part without blanks. -/
theorem Text.isInfix_trim {part chars : List Char} (filled : part ≠ [])
    (shown : ∀ char ∈ part, ¬isBlank char = true) (within : part <:+: chars) :
    part <:+: trim chars := by
  have trimmed : part.reverse <:+: (trimStart chars).reverse :=
    List.reverse_infix.2 (isInfix_dropWhile filled shown within)
  rw [trim, ← List.reverse_infix, List.reverse_reverse]
  apply isInfix_dropWhile _ _ trimmed
  · exact fun empty => filled (List.reverse_eq_nil_iff.1 empty)
  · exact fun char member => shown char (List.mem_reverse.1 member)

namespace Settings.Variable

/-! ## Levels -/

/-- What separates the levels of a path. -/
def separator : List Char := ['_', '_']

theorem not_isBlank_of_mem_separator {char : Char} (member : char ∈ separator) :
    ¬Text.isBlank char = true := by
  have mark : char = '_' := by simpa [separator] using member
  subst mark
  decide

theorem levels_ne_nil (chars : List Char) : levels chars ≠ [] := by
  fun_induction levels chars <;> simp_all

/-- A path with a separator in it has more than one level. -/
theorem two_le_length_levels {chars : List Char} (separated : separator <:+: chars) :
    2 ≤ (levels chars).length := by
  have one (rest : List Char) : 1 ≤ (levels rest).length :=
    List.length_pos_iff.2 (levels_ne_nil rest)
  fun_induction levels chars with
  | case1 => exact absurd (List.infix_nil.1 separated) (List.cons_ne_nil _ _)
  | case2 rest ih => exact Nat.succ_le_succ (one rest)
  | case3 rest ih => exact Nat.succ_le_succ (one rest)
  | case4 char rest unmarked _ level others more ih =>
    rcases List.infix_cons_iff.1 separated with ⟨back, starts⟩ | later
    · rcases List.cons.inj starts with ⟨rfl, rfl⟩
      exact absurd rfl (unmarked back rfl)
    · have long := ih later
      rw [more] at long
      exact long
  | case5 char rest _ _ none ih => exact absurd none (levels_ne_nil rest)

/-! ## Names -/

/-- Whether a name starts as those of all variables that set something. -/
def IsMarked (name : String) : Prop :=
  ((Text.trim name.toList).take start.length).map Char.toLower = start.toList

/-- Whether a name says, behind its start, a section and a member of it with a separator
between them.  The member may have a path of its own. -/
def NamesMember (name : String) : Prop :=
  ∃ front group member : List Char,
    Text.trim name.toList = front ++ (group ++ separator ++ member) ∧
      front.length = start.length

theorem isMarked_of_path? {name : String} {path : List String} (sets : path? name = some path) :
    IsMarked name := by
  unfold path? at sets
  simp only at sets
  split at sets
  · rename_i marked
    exact marked
  · exact absurd sets (Option.some_ne_none path).symm

/-- A variable that names a member of a section sets no section as a whole. -/
theorem NamesMember.two_le_length {name : String} {path : List String} (named : NamesMember name)
    (sets : path? name = some path) : 2 ≤ path.length := by
  rcases named with ⟨front, group, member, split, length⟩
  have separated : separator <:+: Text.trim ((Text.trim name.toList).drop start.length) := by
    apply Text.isInfix_trim (List.cons_ne_nil _ _) fun _ mark => not_isBlank_of_mem_separator mark
    rw [split, ← length, List.drop_left]
    exact ⟨group, member, rfl⟩
  have long := two_le_length_levels separated
  unfold path? at sets
  simp only at sets
  split at sets
  · split at sets
    · exact absurd sets (Option.some_ne_none path).symm
    · rwa [← Option.some.inj sets, List.length_map]
  · exact absurd sets (Option.some_ne_none path).symm

end Settings.Variable

end ControlPlane
