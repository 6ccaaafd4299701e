import ControlPlane.Proofs.Json.WrittenRecords
import ControlPlane.Registry.Nodes

/-!
# Roles as stored texts

The roles of a node are stored as the written list of the distinct ones in ascending
order.  Reading the stored text gives back this list, so that two sets of roles are stored
as the same text only if they are the same.
-/

namespace ControlPlane

/-- A written list of texts is read back. -/
theorem Json.decodeTexts_write (values : List String) :
    decodeTexts (Utf8.encode (Document.texts values).write) = .ok values := by
  have read := read_texts values []
  rw [List.append_nil] at read
  rw [decodeTexts, whole, Document.tokens_encode_write (fits_texts values)]
  simp only [Kind.read] at read
  simp only [read]

namespace Nodes

/-! ## Sorted texts without repetitions -/

theorem pairwise_sortTexts (texts : List String) : (sortTexts texts).Pairwise (· ≤ ·) := by
  have sorted : (sortTexts texts).Pairwise fun a b => decide (a ≤ b) = true := by
    apply List.pairwise_mergeSort
    · intro a b c first second
      rw [decide_eq_true_eq] at first second ⊢
      exact String.le_trans first second
    · intro a b
      simpa using String.le_total a b
  exact sorted.imp of_decide_eq_true

theorem mem_sortTexts {text : String} {texts : List String} :
    text ∈ sortTexts texts ↔ text ∈ texts :=
  List.mem_mergeSort

/-- Sorting changes nothing about texts in ascending order. -/
theorem sortTexts_of_pairwise {texts : List String} (sorted : texts.Pairwise (· ≤ ·)) :
    sortTexts texts = texts :=
  List.mergeSort_of_pairwise (sorted.imp decide_eq_true)

/-- What was kept so far stands before what is kept of the rest. -/
theorem eraseRepsBy_loop (first : String) (texts acc : List String) :
    List.eraseRepsBy.loop (· == ·) first texts acc =
      acc.reverse ++ List.eraseRepsBy.loop (· == ·) first texts [] := by
  induction texts generalizing first acc with
  | nil => simp [List.eraseRepsBy.loop]
  | cons text rest ih =>
    rw [List.eraseRepsBy.loop, List.eraseRepsBy.loop]
    cases first == text with
    | true => exact ih first acc
    | false =>
      simp only
      rw [ih text (first :: acc), ih text [first]]
      simp

/-- One of two equal texts in a row is left out. -/
theorem eraseReps_cons_cons (first second : String) (rest : List String) :
    (first :: second :: rest).eraseReps =
      if first = second then (first :: rest).eraseReps
      else first :: (second :: rest).eraseReps := by
  have step : (first :: second :: rest).eraseReps =
      match first == second with
      | true => List.eraseRepsBy.loop (· == ·) first rest []
      | false => List.eraseRepsBy.loop (· == ·) second rest [first] := rfl
  rw [step]
  by_cases same : first = second
  · rw [if_pos same, beq_iff_eq.2 same]
    rfl
  · rw [if_neg same, beq_eq_false_iff_ne.2 same]
    exact eraseRepsBy_loop second rest [first]

theorem mem_eraseReps_cons {text first : String} {rest : List String} :
    text ∈ (first :: rest).eraseReps ↔ text ∈ first :: rest := by
  induction rest generalizing first with
  | nil => rfl
  | cons second rest ih =>
    rw [eraseReps_cons_cons]
    by_cases same : first = second
    · subst same
      simp [ih]
    · simp [if_neg same, ih]

theorem mem_eraseReps {text : String} {texts : List String} :
    text ∈ texts.eraseReps ↔ text ∈ texts := by
  cases texts with
  | nil => rfl
  | cons first rest => exact mem_eraseReps_cons

theorem pairwise_eraseReps_cons {first : String} {rest : List String}
    (sorted : (first :: rest).Pairwise (· ≤ ·)) :
    (first :: rest).eraseReps.Pairwise (· < ·) := by
  induction rest generalizing first with
  | nil => exact List.pairwise_singleton _ _
  | cons second rest ih =>
    rcases List.pairwise_cons.1 sorted with ⟨least, sortedRest⟩
    rcases List.pairwise_cons.1 sortedRest with ⟨leastRest, _⟩
    rw [eraseReps_cons_cons]
    by_cases same : first = second
    · subst same
      rw [if_pos rfl]
      exact ih sortedRest
    · rw [if_neg same]
      apply List.pairwise_cons.2
      refine ⟨?_, ih sortedRest⟩
      intro text member
      rw [mem_eraseReps] at member
      apply KeyMap.lt_of_not_lt_of_ne (String.not_lt.2 (least text member))
      -- A text that equals the first one would squeeze the second one between them.
      rintro rfl
      rcases List.mem_cons.1 member with equal | later
      · exact same equal
      · exact same (String.le_antisymm (least second List.mem_cons_self) (leastRest _ later))

/-- What is left of sorted texts is strictly ascending. -/
theorem pairwise_eraseReps {texts : List String} (sorted : texts.Pairwise (· ≤ ·)) :
    texts.eraseReps.Pairwise (· < ·) := by
  cases texts with
  | nil => exact List.Pairwise.nil
  | cons first rest => exact pairwise_eraseReps_cons sorted

/-! ## Stored roles -/

/-- Stored roles are read back as the distinct ones, in ascending order. -/
theorem decodeTexts_encodeRoles (roles : List String) :
    ∃ distinct, Json.decodeTexts (Utf8.encode (encodeRoles roles)) = .ok distinct ∧
      distinct.Pairwise (· < ·) ∧ ∀ role, role ∈ distinct ↔ role ∈ roles := by
  refine ⟨(sortTexts roles).eraseReps, Json.decodeTexts_write _,
    pairwise_eraseReps (pairwise_sortTexts roles), ?_⟩
  intro role
  rw [mem_eraseReps, mem_sortTexts]

/-- Roles that are stored in ascending order are shown as they are stored. -/
theorem decodeRoles_of_pairwise {text : String} {roles : List String}
    (decoded : Json.decodeTexts (Utf8.encode text) = .ok roles)
    (ascending : roles.Pairwise (· < ·)) : decodeRoles text = .ok roles := by
  rw [decodeRoles, decoded]
  exact congrArg Except.ok (sortTexts_of_pairwise (ascending.imp fun less =>
    String.not_lt.1 (String.lt_asymm less)))

end Nodes

end ControlPlane
