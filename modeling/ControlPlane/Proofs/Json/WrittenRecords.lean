import ControlPlane.Json.Shape
import ControlPlane.Proofs.Json.WrittenTokens

/-!
# Written records read back

Two facts about reading a record hold for every shape.

A record that is written as an object of known members, each at most once and none of
the needed ones left out, reads back with exactly these values: `decode_written`.  The
members may come in any order, and each of them has to read back on its own.

What a record was read from cannot be told from the record, but a property that the
blank record has, and that every field keeps when it is given a value that was read,
holds of every record that was read: `decode_induction`.
-/

namespace ControlPlane.Json

variable {ρ : Type}

/-! ## Values that read back -/

theorem readMoreTexts_moreItems (acc values : List String) (rest : List Token) :
    readMoreTexts acc (Document.tokens.moreItems (values.map .text) ++ rest) =
      .ok (acc.reverse ++ values, rest) := by
  induction values generalizing acc with
  | nil => simp [Document.tokens.moreItems, readMoreTexts]
  | cons value values ih => simp [Document.tokens.moreItems, Document.tokens, readMoreTexts, ih]

/-- A list of texts is read back, whatever follows it. -/
theorem read_texts (values : List String) (rest : List Token) :
    Kind.texts.read ((Document.texts values).tokens ++ rest) = .ok (values, rest) := by
  cases values with
  | nil => rfl
  | cons value values =>
    have read : Kind.texts.read ((Document.texts (value :: values)).tokens ++ rest) =
        readMoreTexts [value] (Document.tokens.moreItems (values.map .text) ++ rest) := rfl
    simp [read, readMoreTexts_moreItems]

/-- Every number of 64 bits is read back, whatever follows it. -/
theorem read_integer (value : Int64) (rest : List Token) :
    Kind.integer.read ((Document.integer value.toInt).tokens ++ rest) = .ok (value, rest) := by
  have fits : value.toInt ≤ Int64.maxValue.toInt := value.toInt_le
  simp [Document.tokens, Kind.read, readInteger, fits]

theorem read_date {source : String} {time : DateTime}
    (dated : DateTime.ofText? source = some time) (rest : List Token) :
    Kind.date.read ((Document.text source).tokens ++ rest) = .ok (time, rest) := by
  simp [Document.tokens, Kind.read, readDate, dated]

theorem fits_texts (values : List String) : (Document.texts values).Fits := by
  rw [Document.texts, Document.Fits]
  induction values with
  | nil => trivial
  | cons value rest ih => exact ⟨trivial, ih⟩

theorem fits_integer (value : Int64) : (Document.integer value.toInt).Fits := by
  have greatest : value.toInt ≤ 2 ^ 63 - 1 := value.toInt_le
  have limit : significandLimit = 2 ^ 64 - 1 := rfl
  constructor
  · exact value.minValue_le_toInt
  · omega

/-! ## Members that read back -/

/-- A member of an object that was written for a field of a record. -/
structure WrittenMember (shape : Shape ρ) where
  field : Field ρ
  value : field.kind.Value
  document : Document
  known : shape.field? field.name = some field
  reads : ∀ rest, field.kind.read (document.tokens ++ rest) = .ok (value, rest)

namespace WrittenMember

variable {shape : Shape ρ}

/-- The name and the value of a member. -/
def pair (member : WrittenMember shape) : String × Document :=
  (member.field.name, member.document)

/-- Gives the field the value of a member. -/
def set (record : ρ) (member : WrittenMember shape) : ρ :=
  member.field.set member.value record

end WrittenMember

namespace Shape

variable {shape : Shape ρ}

/-- A name that is new joins the names seen so far. -/
theorem fresh_cons {seen names : List String} {name : String}
    (distinct : (seen ++ name :: names).Nodup) : name ∉ seen ∧ (name :: seen ++ names).Nodup := by
  have moved := List.perm_middle.nodup_iff.1 distinct
  exact ⟨fun old => (List.nodup_cons.1 moved).1 (List.mem_append_left _ old), moved⟩

/-- A member with the name of a field gives the field its value. -/
theorem readMember_known {field : Field ρ} {name : String} {pieces : List Token}
    {value : field.kind.Value} (found : shape.field? name = some field)
    (read : ∀ rest, field.kind.read (pieces ++ rest) = .ok (value, rest)) (record : ρ)
    {seen : List String} (new : name ∉ seen) (rest : List Token) :
    shape.readMember record seen (.text (some name) :: .colon :: (pieces ++ rest)) =
      .ok ((field.set value record, name :: seen), rest) := by
  have unseen : seen.contains name = false := by
    rw [← Bool.not_eq_true, List.contains_iff_mem]
    exact new
  rw [readMember]
  simp only [found, unseen, Bool.false_eq_true, if_false, read]
  rfl

theorem readMembers_comma {record record' : ρ} {seen seen' : List String}
    {tokens rest : List Token}
    (read : shape.readMember record seen tokens = .ok ((record', seen'), .comma :: rest)) :
    shape.readMembers record seen tokens = shape.readMembers record' seen' rest := by
  rw [readMembers]
  split
  · rename_i outcome
    rw [read] at outcome
    cases outcome
  · rename_i outcome
    rw [read] at outcome
    cases outcome
    rfl
  · rename_i outcome
    rw [read] at outcome
    cases outcome
  · rename_i noComma _ outcome
    rw [read] at outcome
    cases outcome
    exact absurd rfl (noComma record' seen' rest)

theorem readMembers_closeBrace {record record' : ρ} {seen seen' : List String}
    {tokens rest : List Token}
    (read : shape.readMember record seen tokens = .ok ((record', seen'), .closeBrace :: rest)) :
    shape.readMembers record seen tokens =
      (shape.close record' seen').map fun record => (record, rest) := by
  rw [readMembers]
  split
  · rename_i outcome
    rw [read] at outcome
    cases outcome
  · rename_i outcome
    rw [read] at outcome
    cases outcome
  · rename_i outcome
    rw [read] at outcome
    cases outcome
    rfl
  · rename_i noBrace outcome
    rw [read] at outcome
    cases outcome
    exact absurd rfl (noBrace record' seen' rest)

theorem close_of_complete {record : ρ} {seen : List String}
    (complete : ∀ field ∈ shape.fields, field.required = true → field.name ∈ seen) :
    shape.close record seen = .ok record := by
  rw [close]
  split
  · rename_i field missing
    have found := List.find?_some missing
    rw [Bool.and_eq_true, Bool.not_eq_true'] at found
    have present := complete field (List.mem_of_find?_eq_some missing) found.1
    rw [← List.contains_iff_mem, found.2] at present
    exact absurd present Bool.false_ne_true
  · rfl

theorem complete_of_optional (optional : ∀ field ∈ shape.fields, field.required = false)
    (names : List String) :
    ∀ field ∈ shape.fields, field.required = true → field.name ∈ names := by
  intro field isField required
  rw [optional field isField] at required
  cases required

theorem read_of_readMembers {tokens : List Token} {result : ρ × List Token}
    (members_read : shape.readMembers shape.blank [] tokens = .ok result) :
    shape.read (.openBrace :: tokens) = .ok result := by
  rw [read]
  · exact members_read
  · rintro rest rfl
    rw [readMembers] at members_read
    split at members_read
    · cases members_read
    all_goals
      rename_i impossible
      cases impossible

/-- Members are read one after the other, each from tokens of its own. -/
inductive ReadsEach (shape : Shape ρ) :
    ρ → List String → List (List Token) → ρ → List String → Prop
  | nil {record : ρ} {seen : List String} : ReadsEach shape record seen [] record seen
  | cons {record next record' : ρ} {seen seen' seen'' : List String} {first : List Token}
    {more : List (List Token)}
    (read : ∀ rest, shape.readMember record seen (first ++ rest) = .ok ((next, seen'), rest))
    (behind : ReadsEach shape next seen' more record' seen'') :
    ReadsEach shape record seen (first :: more) record' seen''

namespace ReadsEach

variable {record record' : ρ} {seen seen' : List String}

/-- Members with commas between them are read up to the closing brace. -/
theorem readMembers_eq {first : List Token} {more : List (List Token)}
    (each : shape.ReadsEach record seen (first :: more) record' seen') (rest : List Token) :
    shape.readMembers record seen (joined (first :: more) ++ .closeBrace :: rest) =
      (shape.close record' seen').map fun record => (record, rest) := by
  induction more generalizing first record seen with
  | nil =>
    cases each with
    | cons read behind =>
      cases behind
      rw [joined_singleton]
      exact readMembers_closeBrace (read _)
  | cons next more ih =>
    cases each with
    | cons read behind =>
      rw [joined_cons_cons, List.append_assoc, List.cons_append, readMembers_comma (read _),
        ih behind]

/-- An object is read as what its members make of the blank record, if no needed field is
left out. -/
theorem decode_eq {pieces : List (List Token)}
    (each : shape.ReadsEach shape.blank [] pieces record' seen') {document : Bytes}
    (tokens_eq : tokens document = .openBrace :: (joined pieces ++ [.closeBrace]))
    (complete : ∀ field ∈ shape.fields, field.required = true → field.name ∈ seen') :
    shape.decode document = .ok record' := by
  have read_ok : shape.read (.openBrace :: (joined pieces ++ [.closeBrace])) =
      .ok (record', []) := by
    cases pieces with
    | nil =>
      cases each
      change shape.read [.openBrace, .closeBrace] = _
      rw [read, close_of_complete complete]
      rfl
    | cons first more =>
      apply read_of_readMembers
      rw [each.readMembers_eq, close_of_complete complete]
      rfl
  rw [decode, whole, tokens_eq, read_ok]

end ReadsEach

/-- The members of a written object give their fields their values. -/
theorem readsEach_written (members : List (WrittenMember shape)) (record : ρ)
    {seen : List String} (distinct : (seen ++ members.map (·.field.name)).Nodup) :
    shape.ReadsEach record seen (members.map fun member => Document.memberTokens member.pair)
      (members.foldl WrittenMember.set record) ((members.map (·.field.name)).reverse ++ seen) := by
  induction members generalizing record seen with
  | nil => exact .nil
  | cons member members ih =>
    rw [List.map_cons] at distinct
    rcases fresh_cons distinct with ⟨new, fresh⟩
    rw [List.map_cons, List.map_cons, List.reverse_cons, List.append_assoc]
    exact .cons (readMember_known member.known member.reads record new) (ih _ fresh)

/-- A record that is written as an object of its members reads back. -/
theorem decode_written (members : List (WrittenMember shape))
    (distinct : (members.map (·.field.name)).Nodup)
    (complete : ∀ field ∈ shape.fields, field.required = true →
      field.name ∈ members.map (·.field.name))
    (fits : (Document.object (members.map (·.pair))).Fits) :
    shape.decode (Utf8.encode (Document.object (members.map (·.pair))).write) =
      .ok (members.foldl WrittenMember.set shape.blank) := by
  have listed : ∀ field ∈ shape.fields, field.required = true →
      field.name ∈ (members.map (·.field.name)).reverse ++ [] := by
    intro field isField required
    rw [List.append_nil, List.mem_reverse]
    exact complete field isField required
  let names := members.map (·.field.name)
  have fresh : ([] ++ names).Nodup := distinct
  have tokens_eq := Document.tokens_encode_write fits
  rw [Document.tokens_object, List.map_map] at tokens_eq
  exact (readsEach_written members shape.blank fresh).decode_eq tokens_eq listed

/-- A record that is written with all of its fields reads back. -/
theorem decode_all_written (members : List (WrittenMember shape))
    (all : members.map (·.field.name) = shape.fields.map (·.name))
    (distinct : (shape.fields.map (·.name)).Nodup)
    (fits : (Document.object (members.map (·.pair))).Fits) :
    shape.decode (Utf8.encode (Document.object (members.map (·.pair))).write) =
      .ok (members.foldl WrittenMember.set shape.blank) := by
  apply decode_written members _ _ fits
  · rw [all]
    exact distinct
  · intro field isField _
    rw [all]
    exact List.mem_map_of_mem isField

/-! ## Properties of records that were read -/

section Induction

variable {P : ρ → Prop}

/-- Whether a property stays true when a field is given a value that was read. -/
def KeptBy (P : ρ → Prop) (field : Field ρ) : Prop :=
  ∀ record value tokens rest, P record → field.kind.read tokens = .ok (value, rest) →
    P (field.set value record)

theorem close_eq_ok {record record' : ρ} {seen : List String}
    (closed : shape.close record seen = .ok record') : record' = record := by
  rw [close] at closed
  split at closed
  · cases closed
  · cases closed
    rfl

theorem closeList_eq_ok {record record' : ρ} {length : Nat} {left : List (Field ρ)}
    (closed : shape.closeList record length left = .ok record') : record' = record := by
  rw [closeList] at closed
  split at closed
  · cases closed
  · cases closed
    rfl

theorem map_eq_ok {ε α β : Type} {f : α → β} {outcome : Except ε α} {result : β}
    (mapped : outcome.map f = .ok result) : ∃ value, outcome = .ok value ∧ f value = result := by
  cases outcome with
  | error problem => cases mapped
  | ok value =>
    cases mapped
    exact ⟨value, rfl, rfl⟩

variable (kept : ∀ field ∈ shape.fields, KeptBy P field)

include kept

theorem readMember_induction {record record' : ρ} {seen seen' : List String}
    {tokens rest : List Token} (before : P record)
    (read : shape.readMember record seen tokens = .ok ((record', seen'), rest)) : P record' := by
  rw [readMember.eq_def] at read
  split at read
  · split at read
    · split at read
      · obtain ⟨_, -, same⟩ := map_eq_ok read
        cases same
        exact before
      · cases read
    · rename_i field found
      split at read
      · cases read
      · split at read
        · obtain ⟨⟨value, rest'⟩, value_read, same⟩ := map_eq_ok read
          cases same
          exact kept field (List.mem_of_find?_eq_some found) record value _ _ before value_read
        · cases read
  · cases read

theorem readMembers_induction {record record' : ρ} {seen : List String}
    {tokens rest : List Token} (before : P record)
    (read : shape.readMembers record seen tokens = .ok (record', rest)) : P record' := by
  fun_induction readMembers shape record seen tokens with
  | case1 => cases read
  | case2 record seen tokens record₁ seen₁ rest₁ member ih =>
    exact ih (readMember_induction kept before member) read
  | case3 record seen tokens record₁ seen₁ rest₁ member =>
    obtain ⟨_, closed, same⟩ := map_eq_ok read
    cases same
    rw [close_eq_ok closed]
    exact readMember_induction kept before member
  | case4 => cases read

theorem readElements_induction {record record' : ρ} {length : Nat} {left : List (Field ρ)}
    {tokens rest : List Token} (among : ∀ field ∈ left, field ∈ shape.fields)
    (before : P record)
    (read : shape.readElements record length left tokens = .ok (record', rest)) : P record' := by
  fun_induction readElements shape record length left tokens with
  | case1 =>
    obtain ⟨_, closed, same⟩ := map_eq_ok read
    cases same
    rw [closeList_eq_ok closed]
    exact before
  | case2 record length field left rest₁ value rest₂ value_read ih =>
    have isField := among field List.mem_cons_self
    apply ih (fun other member => among other (List.mem_cons_of_mem _ member)) _ read
    exact kept field isField record value _ _ before value_read
  | case3 => cases read
  | case4 => cases read

/-- What the blank record has and every field keeps holds of every record that was read. -/
theorem decode_induction (blank : P shape.blank) {document : Bytes} {record : ρ}
    (decoded : shape.decode document = .ok record) : P record := by
  rw [decode, whole] at decoded
  split at decoded
  · rename_i value read_ok
    cases decoded
    rw [read.eq_def] at read_ok
    split at read_ok
    · obtain ⟨_, closed, same⟩ := map_eq_ok read_ok
      cases same
      rw [close_eq_ok closed]
      exact blank
    · exact readMembers_induction kept blank read_ok
    · rw [readList.eq_def] at read_ok
      split at read_ok
      · obtain ⟨_, closed, same⟩ := map_eq_ok read_ok
        cases same
        rw [closeList_eq_ok closed]
        exact blank
      · exact readElements_induction kept (fun _ => id) blank read_ok
    · cases read_ok
    · cases read_ok
  · cases decoded
  · cases decoded

end Induction

end Shape

end ControlPlane.Json
