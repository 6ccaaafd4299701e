import ControlPlane.Proofs.Registry.RoleTexts
import Mathlib.Data.List.Basic

/-!
# Looking for a role in the written list

The role filter looks for the requested text in the written list of a node's roles.  A
quote cannot lie within a text that has none, so the quotes of the list cut it into pieces,
and such a text is found in the list only if it is found in one piece: a bracket, a comma
or the escaped form of a single role.

A text without quotes, backslashes and control characters is its own escaped form.  No
written list has a control character, so a role that has one is found nowhere.
-/

namespace ControlPlane.Json

/-! ## Texts that are written as they are -/

/-- A text has no quote, no backslash and no control character. -/
def Plain (text : String) : Prop :=
  ∀ char ∈ text.toList, char ≠ '"' ∧ char ≠ '\\' ∧ 32 ≤ char.toNat

instance (text : String) : Decidable (Plain text) :=
  List.decidableBAll _ text.toList

/-- The characters of a text between its quotes. -/
def escaped (text : String) : List Char :=
  text.toList.flatMap escapeChar

theorem toList_quote (text : String) :
    (quote text).toList = '"' :: (escaped text ++ ['"']) := by
  have body : (String.ofList (text.toList.flatMap escapeChar)).toList = escaped text :=
    String.toList_ofList
  rw [quote, String.toList_append, String.toList_append, body, List.append_assoc]
  rfl

theorem escapeChar_of_plain {char : Char}
    (plain : char ≠ '"' ∧ char ≠ '\\' ∧ 32 ≤ char.toNat) : escapeChar char = [char] := by
  rcases plain with ⟨notQuote, notSlash, visible⟩
  -- Each of the named control characters is below U+0020.
  have not_of_low {control : Char} (low : control.toNat < 32) : char ≠ control := by
    rintro rfl
    omega
  rw [escapeChar, if_neg notQuote, if_neg notSlash, if_neg (not_of_low (by decide)),
    if_neg (not_of_low (by decide)), if_neg (not_of_low (by decide)),
    if_neg (not_of_low (by decide)), if_neg (not_of_low (by decide)), if_neg (by omega)]

theorem escaped_of_plain {text : String} (plain : Plain text) : escaped text = text.toList := by
  have each : text.toList.flatMap escapeChar = text.toList.flatMap fun char => [char] :=
    List.flatMap_congr fun char member => escapeChar_of_plain (plain char member)
  rw [escaped, each, List.flatMap_singleton']

/-- A text is found within its quoted form.  So it is with plain texts and with some that
are escaped, such as a single quote. -/
def ShowsItself (text : String) : Prop :=
  text.toList <:+: (quote text).toList

theorem Plain.showsItself {text : String} (plain : Plain text) : ShowsItself text := by
  rw [ShowsItself, toList_quote, escaped_of_plain plain]
  exact ⟨['"'], ['"'], rfl⟩

example : ShowsItself "\"" := ⟨['"', '\\'], ['"'], by decide⟩

/-! ## Written control characters -/

theorem visible_hexDigit {digit : Nat} (small : digit < 16) :
    32 ≤ (Bytes.hexDigit digit).toNat := by
  have all : ∀ d : Fin 16, 32 ≤ (Bytes.hexDigit d.val).toNat := by decide
  exact all ⟨digit, small⟩

/-- No character is written with a control character. -/
theorem visible_of_mem_escapeChar {char written : Char} (member : written ∈ escapeChar char) :
    32 ≤ written.toNat := by
  have of_all {chars : List Char} (among : written ∈ chars)
      (visible : chars.all (fun char => decide (32 ≤ char.toNat)) = true) : 32 ≤ written.toNat :=
    of_decide_eq_true (List.all_eq_true.1 visible written among)
  rw [escapeChar] at member
  -- Seven escapes are fixed characters; the eighth ends in two digits.
  iterate 7
    split at member
    · exact of_all member (by decide)
  split at member
  · rename_i control
    rcases List.mem_append.1 (show written ∈ ['\\', 'u', '0', '0'] ++ [_, _] from member) with
      front | digits
    · exact of_all front (by decide)
    · rcases List.mem_cons.1 digits with rfl | last
      · exact visible_hexDigit (by omega)
      · rw [List.mem_singleton.1 last]
        exact visible_hexDigit (by omega)
  · rename_i visible
    rw [List.mem_singleton.1 member]
    omega

theorem visible_of_mem_quote {text : String} {char : Char} (member : char ∈ (quote text).toList) :
    32 ≤ char.toNat := by
  rw [toList_quote, List.mem_cons, List.mem_append, List.mem_singleton] at member
  rcases member with rfl | inside | rfl
  · decide
  · rcases List.mem_flatMap.1 inside with ⟨_, _, written⟩
    exact visible_of_mem_escapeChar written
  · decide

/-! ## Joined texts -/

theorem toList_joinCommas_cons_cons (first second : String) (rest : List String) :
    (joinCommas (first :: second :: rest)).toList =
      first.toList ++ ',' :: (joinCommas (second :: rest)).toList := by
  rw [joinCommas, String.intercalate_cons_cons, String.toList_append, String.toList_append,
    List.append_assoc]
  rfl

theorem joinCommas_singleton (text : String) : joinCommas [text] = text :=
  String.intercalate_singleton

/-- A text is found where it is joined with others. -/
theorem infix_joinCommas {text : String} {texts : List String} (member : text ∈ texts) :
    text.toList <:+: (joinCommas texts).toList := by
  induction texts with
  | nil => cases member
  | cons first rest ih =>
    cases rest with
    | nil =>
      rw [joinCommas_singleton]
      obtain rfl := List.mem_singleton.1 member
      exact List.infix_rfl
    | cons second rest =>
      rw [toList_joinCommas_cons_cons]
      rcases List.mem_cons.1 member with rfl | later
      · exact (List.prefix_append _ _).isInfix
      · exact (ih later).trans ((List.suffix_cons _ _).trans (List.suffix_append _ _)).isInfix

theorem mem_joinCommas {char : Char} {texts : List String}
    (member : char ∈ (joinCommas texts).toList) :
    char = ',' ∨ ∃ text ∈ texts, char ∈ text.toList := by
  induction texts with
  | nil => cases member
  | cons first rest ih =>
    cases rest with
    | nil =>
      rw [joinCommas_singleton] at member
      exact .inr ⟨first, List.mem_cons_self, member⟩
    | cons second rest =>
      rw [toList_joinCommas_cons_cons, List.mem_append, List.mem_cons] at member
      rcases member with own | comma | later
      · exact .inr ⟨first, List.mem_cons_self, own⟩
      · exact .inl comma
      · rcases ih later with comma | ⟨text, among, inside⟩
        · exact .inl comma
        · exact .inr ⟨text, List.mem_cons_of_mem _ among, inside⟩

/-! ## Written lists -/

theorem toList_write_texts (values : List String) :
    (Document.texts values).write.toList =
      '[' :: ((joinCommas (values.map quote)).toList ++ [']']) := by
  have written : (values.map Document.text).map Document.write = values.map quote := by
    rw [List.map_map]
    apply List.map_congr_left
    intro value _
    rw [Function.comp_apply, Document.write]
  rw [Document.texts, Document.write, Document.writeItems_eq, List.reverse_nil, List.nil_append,
    written, writeList, String.toList_append, String.toList_append, List.append_assoc]
  rfl

/-- The quoted form of each text is found in the written list. -/
theorem quote_infix_write_texts {value : String} {values : List String} (member : value ∈ values) :
    (quote value).toList <:+: (Document.texts values).write.toList := by
  rw [toList_write_texts]
  have joined : (quote value).toList <:+: (joinCommas (values.map quote)).toList :=
    infix_joinCommas (List.mem_map_of_mem member)
  exact joined.trans ⟨['['], [']'], rfl⟩

/-- A written list has no control character. -/
theorem visible_of_mem_write_texts {char : Char} {values : List String}
    (member : char ∈ (Document.texts values).write.toList) : 32 ≤ char.toNat := by
  rw [toList_write_texts, List.mem_cons, List.mem_append, List.mem_singleton] at member
  rcases member with rfl | inside | rfl
  · decide
  · rcases mem_joinCommas inside with rfl | ⟨text, among, within⟩
    · decide
    · rcases List.mem_map.1 among with ⟨value, _, rfl⟩
      exact visible_of_mem_quote within
  · decide

/-! ## Parts of written lists -/

/-- A part without some character is found on one of its two sides. -/
theorem infix_append_cons_iff {mark : Char} {part front back : List Char} (absent : mark ∉ part) :
    part <:+: front ++ mark :: back ↔ part <:+: front ∨ part <:+: back := by
  constructor
  · intro found
    rcases List.infix_append_iff.1 found with inFront | inBack | ⟨left, right, rfl, ends, begins⟩
    · exact .inl inFront
    · rcases List.infix_cons_iff.1 inBack with begins | inBack
      · rcases List.prefix_cons_iff.1 begins with rfl | ⟨rest, rfl, _⟩
        · exact .inl List.nil_infix
        · exact absurd List.mem_cons_self absent
      · exact .inr inBack
    · -- What lies across the border begins with the character on the far side.
      rcases List.prefix_cons_iff.1 begins with rfl | ⟨rest, rfl, _⟩
      · rw [List.append_nil]
        exact .inl ends.isInfix
      · exact absurd (List.mem_append_right left List.mem_cons_self) absent
  · rintro (inFront | inBack)
    · exact inFront.trans (List.prefix_append _ _).isInfix
    · exact inBack.trans ((List.suffix_cons _ _).trans (List.suffix_append _ _)).isInfix

section Parts

variable {part : List Char} (unquoted : '"' ∉ part)

include unquoted

/-- A part without quotes is found in a quoted text, or on one of its sides. -/
theorem infix_quote_iff {text : String} {front back : List Char} :
    part <:+: front ++ ((quote text).toList ++ back) ↔
      part <:+: front ∨ part <:+: escaped text ∨ part <:+: back := by
  rw [toList_quote, List.cons_append, List.append_assoc, List.singleton_append,
    infix_append_cons_iff unquoted, infix_append_cons_iff unquoted]

/-- A part without quotes that is more than a comma is found in one of the quoted texts, or
on one of their sides. -/
theorem infix_joined_iff (notComma : ¬part <:+: [',']) (first : String) (rest : List String)
    (front back : List Char) :
    part <:+: front ++ ((joinCommas ((first :: rest).map quote)).toList ++ back) ↔
      part <:+: front ∨ (∃ text ∈ first :: rest, part <:+: escaped text) ∨ part <:+: back := by
  -- The comma behind the first text is the front of the later ones.
  induction rest generalizing first front with
  | nil =>
    rw [List.map_cons, List.map_nil, joinCommas_singleton, infix_quote_iff unquoted]
    simp
  | cons second rest ih =>
    have later := ih second [',']
    rw [List.map_cons] at later
    rw [List.map_cons, List.map_cons, toList_joinCommas_cons_cons, List.append_assoc,
      infix_quote_iff unquoted, ← List.singleton_append, List.append_assoc, later]
    simp only [notComma, false_or, List.mem_cons, or_and_right, exists_or, exists_eq_left, or_assoc]

/-- A part without quotes, but with a character other than brackets and commas, is found in
a written list if it is found in the escaped form of a single text. -/
theorem infix_write_texts_iff (worded : ∃ char ∈ part, char ∉ ['[', ']', ','])
    (values : List String) :
    part <:+: (Document.texts values).write.toList ↔
      ∃ value ∈ values, part <:+: escaped value := by
  have beyond {marks : List Char} (known : marks ⊆ ['[', ']', ',']) : ¬part <:+: marks := by
    intro found
    rcases worded with ⟨char, member, other⟩
    exact other (known (found.subset member))
  rw [toList_write_texts]
  cases values with
  | nil =>
    apply iff_of_false (beyond (by decide))
    rintro ⟨value, member, _⟩
    cases member
  | cons first rest =>
    rw [← List.singleton_append, infix_joined_iff unquoted (beyond (by decide))]
    simp only [beyond (show ['['] ⊆ _ by decide), beyond (show [']'] ⊆ _ by decide), false_or,
      or_false]

end Parts

end ControlPlane.Json
