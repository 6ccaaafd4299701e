import ControlPlane.Proofs.Json.PassedValues
import ControlPlane.Proofs.Json.WrittenRecords

/-!
# Records from texts of objects

A text of an object holds members whose names are spelled in any way, with white space
wherever it may stand.  What such a text makes of a record is said by its known members
alone: `Shape.Sets`.  Where every known member holds a value of its kind, and no known name
comes twice, the reader accepts the text, and the record is the one that is said.
-/

namespace ControlPlane.Json

/-! ## Values of the kinds -/

/-- The characters are a quoted text, which is written for some text. -/
def SpellsText (chars : List Char) (value : String) : Prop :=
  ∃ body, chars = quoted body ∧ Spells body value.toList

/-- The characters are a quoted text, which is written for a date and time. -/
def SpellsDate (chars : List Char) (value : DateTime) : Prop :=
  ∃ text, SpellsText chars text ∧ DateTime.ofText? text = some value

/-- The characters are a list of quoted texts. -/
inductive SpellsTexts : List Char → List String → Prop
  | list {space : List Char} {items : List Spaced} {values : List String}
    (space_ : IsSpacing space) (padded : ∀ item ∈ items, item.IsPadded)
    (spells : List.Forall₂ (fun item value => SpellsText item.core value) items values) :
    SpellsTexts (enclosed '[' ']' space (items.map Spaced.chars)) values

/-- The characters are written for a value of a kind. -/
def Kind.Spells : (kind : Kind) → List Char → kind.Value → Prop
  | .text, chars, value => SpellsText chars value
  | .texts, chars, values => SpellsTexts chars values
  | .integer, chars, value => chars = (toString value.toInt).toList
  | .date, chars, value => SpellsDate chars value
  | .optionalDate, chars, none => chars = ['n', 'u', 'l', 'l']
  | .optionalDate, chars, some value => SpellsDate chars value

theorem SpellsText.reads {chars : List Char} {value : String} (spells : SpellsText chars value) :
    Reads chars [.text (some value)] := by
  rcases spells with ⟨body, rfl, spells⟩
  have reads := spells.reads
  rwa [String.ofList_toList] at reads

theorem SpellsDate.readDate_eq {chars : List Char} {value : DateTime}
    (spells : SpellsDate chars value) :
    ∃ text, Reads chars [.text (some text)] ∧
      ∀ rest, readDate (.text (some text) :: rest) = .ok (value, rest) := by
  rcases spells with ⟨text, spells, dated⟩
  refine ⟨text, spells.reads, fun rest => ?_⟩
  rw [readDate, dated]

theorem SpellsTexts.reads {chars : List Char} {values : List String}
    (spells : SpellsTexts chars values) : ReadsToEnd chars (Document.texts values).tokens := by
  cases spells with
  | @list space items values space_ padded spells =>
    have each : List.Forall₂ ReadsToEnd (items.map Spaced.chars)
        ((values.map Document.text).map Document.tokens) := by
      induction spells with
      | nil => exact .nil
      | @cons item value items values spells _ ih =>
        have reads := (padded item List.mem_cons_self).readsToEnd spells.reads.toEnd
        exact .cons reads (ih fun item member => padded item (List.mem_cons_of_mem _ member))
    rw [Document.texts, Document.tokens_list]
    exact readsToEnd_enclosed (by decide) (by decide) space_ each

theorem reads_integer (value : Int64) :
    ReadsToEnd (toString value.toInt).toList [.number (.integer value.toInt)] := by
  intro acc rest ends
  rw [charBytes, ← Utf8.encode_ofList, String.ofList_toList]
  exact tokensOnto_integer (fits_integer value) acc ends

/-- What is written for a value of a kind is read as that value, whatever follows it. -/
theorem Kind.Spells.reads {kind : Kind} {chars : List Char} {value : kind.Value}
    (spells : kind.Spells chars value) :
    ∃ pieces, ReadsToEnd chars pieces ∧ ∀ rest, kind.read (pieces ++ rest) = .ok (value, rest) := by
  cases kind with
  | text => exact ⟨_, SpellsText.reads spells |>.toEnd, fun _ => rfl⟩
  | texts => exact ⟨_, SpellsTexts.reads spells, read_texts value⟩
  | integer =>
    cases spells
    exact ⟨_, reads_integer value, read_integer value⟩
  | date =>
    rcases SpellsDate.readDate_eq spells with ⟨text, reads, read⟩
    exact ⟨_, reads.toEnd, read⟩
  | optionalDate =>
    cases value with
    | none =>
      cases spells
      exact ⟨_, (reads_word (.head _)).toEnd, fun _ => rfl⟩
    | some time =>
      rcases SpellsDate.readDate_eq spells with ⟨text, reads, read⟩
      refine ⟨_, reads.toEnd, fun rest => ?_⟩
      rw [List.singleton_append, Kind.read, readOptionalDate, read]
      · rfl
      · intro rest impossible
        cases impossible

/-- Nothing is written for two values of one kind. -/
theorem Kind.Spells.unique {kind : Kind} {chars : List Char} {value value' : kind.Value}
    (spells : kind.Spells chars value) (spells' : kind.Spells chars value') : value = value' := by
  rcases spells.reads with ⟨pieces, reads, read⟩
  rcases spells'.reads with ⟨pieces', reads', read'⟩
  obtain rfl : pieces = pieces' := reads.tokens_eq.symm.trans reads'.tokens_eq
  have same := (read []).symm.trans (read' [])
  cases same
  rfl

/-! ## Objects -/

/-- A member of an object, whose name is spelled in some way. -/
structure ObjectMember where
  name : String
  text : Labelled
  padded : text.label.IsPadded ∧ text.value.IsPadded
  named : SpellsText text.label.core name
  value : IsValue text.value.core

/-- The name of a member, and the characters of its value. -/
def ObjectMember.entry (member : ObjectMember) : String × List Char :=
  (member.name, member.text.value.core)

/-- The text of an object. -/
structure ObjectText where
  before : List Char
  /-- White space where there is no member. -/
  inner : List Char
  after : List Char
  members : List ObjectMember
  before_ : IsSpacing before
  inner_ : IsSpacing inner
  after_ : IsSpacing after

/-- The members between their braces, with what stands around them. -/
def ObjectText.spaced (object : ObjectText) : Spaced where
  before := object.before
  core := enclosed '\x7b' '\x7d' object.inner (object.members.map (·.text.chars))
  after := object.after

/-- The text as a whole. -/
def ObjectText.text (object : ObjectText) : String :=
  String.ofList object.spaced.chars

/-- A member is read as its name, a colon and its value. -/
theorem ObjectMember.readsToEnd (member : ObjectMember) {pieces : List Token}
    (reads : ReadsToEnd member.text.value.core pieces) :
    ReadsToEnd member.text.chars (.text (some member.name) :: .colon :: pieces) :=
  readsToEnd_labelled member.padded member.named.reads reads

/-- An object is read as its members, one after the other. -/
theorem ObjectText.tokens_eq {object : ObjectText} {pieces : List (List Token)}
    (reads : List.Forall₂ (fun member => ReadsToEnd member.text.chars) object.members pieces) :
    tokens (Utf8.encode object.text) = .openBrace :: (joined pieces ++ [.closeBrace]) := by
  have opens : ('\x7b', Token.openBrace) ∈ marks := by decide
  have closes : ('\x7d', Token.closeBrace) ∈ marks := by decide
  have each := List.forall₂_map_left_iff.2 reads
  have whole := readsToEnd_enclosed opens closes object.inner_ each
  have padded : object.spaced.IsPadded := ⟨object.before_, object.after_⟩
  rw [ObjectText.text, Utf8.encode_ofList]
  exact (padded.readsToEnd whole).tokens_eq

/-! ## What is told of a field -/

/-- The members of an object tell the value of a field: what the member of that name is
written for, or the default if there is no such member. -/
structure Told (entries : List (String × List Char)) (name : String) (kind : Kind)
    (default value : kind.Value) : Prop where
  given : ∀ chars, (name, chars) ∈ entries → kind.Spells chars value
  absent : (∀ chars, (name, chars) ∉ entries) → value = default

theorem Told.congr {entries entries' : List (String × List Char)} {name : String} {kind : Kind}
    {default value : kind.Value} (told : Told entries name kind default value)
    (same : ∀ chars, (name, chars) ∈ entries ↔ (name, chars) ∈ entries') :
    Told entries' name kind default value where
  given chars member := told.given chars ((same chars).2 member)
  absent missing := told.absent fun chars member => missing chars ((same chars).1 member)

/-! ## What known members make of a record -/

namespace Shape

variable {ρ : Type} {shape : Shape ρ} {record record' : ρ}

/-- What the members with the name of a field say. -/
def known (shape : Shape ρ) (members : List ObjectMember) : List (String × List Char) :=
  (members.filter fun member => (shape.field? member.name).isSome).map ObjectMember.entry

theorem known_cons_of_known {member : ObjectMember}
    (isKnown : (shape.field? member.name).isSome = true) (members : List ObjectMember) :
    shape.known (member :: members) = member.entry :: shape.known members := by
  rw [known, List.filter_cons, if_pos isKnown, List.map_cons, known]

theorem known_cons_of_unknown {member : ObjectMember} (unknown : shape.field? member.name = none)
    (members : List ObjectMember) : shape.known (member :: members) = shape.known members := by
  rw [known, List.filter_cons, unknown, Option.isSome_none, if_neg Bool.false_ne_true,
    known]

/-- The known members give their values to a record. -/
inductive Sets (shape : Shape ρ) : ρ → List (String × List Char) → ρ → Prop
  | nil {record : ρ} : Sets shape record [] record
  | cons {record record' : ρ} {name : String} {field : Field ρ} {chars : List Char}
    {value : field.kind.Value} {more : List (String × List Char)}
    (known : shape.field? name = some field) (spells : field.kind.Spells chars value)
    (behind : Sets shape (field.set value record) more record') :
    Sets shape record ((name, chars) :: more) record'

/-- No known name comes twice, and the known members hold values of their kinds. -/
structure Admits (shape : Shape ρ) (known : List (String × List Char)) : Prop where
  distinct : (known.map Prod.fst).Nodup
  spelled : ∀ entry ∈ known, ∃ field, shape.field? entry.1 = some field ∧
    ∃ value, field.kind.Spells entry.2 value

theorem exists_sets {known : List (String × List Char)} (admitted : shape.Admits known)
    (record : ρ) : ∃ record', shape.Sets record known record' := by
  have spelled := admitted.spelled
  clear admitted
  induction known generalizing record with
  | nil => exact ⟨record, .nil⟩
  | cons entry more ih =>
    rcases spelled entry List.mem_cons_self with ⟨field, found, value, spells⟩
    rcases ih (field.set value record) fun other member =>
      spelled other (List.mem_cons_of_mem _ member) with ⟨record', behind⟩
    exact ⟨record', .cons found spells behind⟩

/-- Fields of different names may be given their values in either order. -/
def Commutes (shape : Shape ρ) : Prop :=
  ∀ one ∈ shape.fields, ∀ other ∈ shape.fields, one.name ≠ other.name →
    ∀ value value' record,
      one.set value (other.set value' record) = other.set value' (one.set value record)

theorem name_of_field? {name : String} {field : Field ρ} (found : shape.field? name = some field) :
    field ∈ shape.fields ∧ field.name = name := by
  have same := List.find?_some found
  exact ⟨List.mem_of_find?_eq_some found, beq_iff_eq.1 same⟩

/-- The order of the known members makes no difference. -/
theorem Sets.perm (commutes : shape.Commutes) {known known' : List (String × List Char)}
    (moved : known.Perm known') (distinct : (known.map Prod.fst).Nodup)
    (sets : shape.Sets record known record') : shape.Sets record known' record' := by
  induction moved generalizing record with
  | nil => exact sets
  | cons entry _ ih =>
    cases sets with
    | cons found spells behind =>
      exact .cons found spells (ih (List.nodup_cons.1 distinct).2 behind)
  | swap entry entry' more =>
    cases sets with
    | cons found spells behind =>
      cases behind with
      | cons found' spells' behind =>
        rcases name_of_field? found with ⟨isField, rfl⟩
        rcases name_of_field? found' with ⟨isField', rfl⟩
        have different := (List.nodup_cons.1 distinct).1
        rw [List.map_cons, List.mem_cons, not_or] at different
        rw [commutes _ isField' _ isField (Ne.symm different.1)] at behind
        exact .cons found' spells' (.cons found spells behind)
  | trans moved _ ih ih' =>
    exact ih' ((moved.map Prod.fst).nodup_iff.1 distinct) (ih distinct sets)

/-! ## Reading members -/

/-- A member of another name makes no difference to the record. -/
theorem readMember_unknown {name : String} {pieces : List Token}
    (other : shape.field? name = none) (skipped : Skipped pieces) (record : ρ)
    (seen : List String) (rest : List Token) :
    shape.readMember record seen (.text (some name) :: .colon :: (pieces ++ rest)) =
      .ok ((record, seen), rest) := by
  rw [readMember]
  simp only [other, skipValue, skipped .value List.mem_cons_self, goOn]
  rfl

/-- One member is read, and what the known members behind it make of the record is left. -/
theorem exists_readMember {member : ObjectMember} {members : List ObjectMember}
    {seen : List String} (sets : shape.Sets record (shape.known (member :: members)) record')
    (distinct : (seen ++ (shape.known (member :: members)).map Prod.fst).Nodup) :
    ∃ pieces next seen', ReadsToEnd member.text.chars pieces ∧
      (∀ rest, shape.readMember record seen (pieces ++ rest) = .ok ((next, seen'), rest)) ∧
      shape.Sets next (shape.known members) record' ∧
      (seen' ++ (shape.known members).map Prod.fst).Nodup := by
  cases found : shape.field? member.name with
  | some field =>
    have isKnown := Option.isSome_iff_exists.2 ⟨field, found⟩
    rw [known_cons_of_known isKnown, List.map_cons] at distinct
    rw [known_cons_of_known isKnown, ObjectMember.entry] at sets
    cases sets with
    | cons found' spells behind =>
      rcases spells.reads with ⟨pieces, reads, read⟩
      rcases fresh_cons distinct with ⟨new, fresh⟩
      exact ⟨_, _, _, member.readsToEnd reads, readMember_known found' read record new, behind,
        fresh⟩
  | none =>
    rw [known_cons_of_unknown found] at sets distinct
    rcases member.value.passed with ⟨pieces, reads, skipped⟩
    exact ⟨_, _, _, member.readsToEnd reads, readMember_unknown found skipped record seen, sets,
      distinct⟩

/-- The members are read one after the other. -/
theorem exists_readsEach {members : List ObjectMember} {seen : List String}
    (sets : shape.Sets record (shape.known members) record')
    (distinct : (seen ++ (shape.known members).map Prod.fst).Nodup) :
    ∃ pieces seen',
      List.Forall₂ (fun member => ReadsToEnd member.text.chars) members pieces ∧
        shape.ReadsEach record seen pieces record' seen' := by
  induction members generalizing record seen with
  | nil =>
    cases sets
    exact ⟨[], seen, .nil, .nil⟩
  | cons member members ih =>
    rcases exists_readMember sets distinct with
      ⟨first, next, seen', reads, read, behind, distinct'⟩
    rcases ih behind distinct' with ⟨more, seen'', readsMore, readMore⟩
    exact ⟨first :: more, seen'', .cons reads readsMore, .cons read readMore⟩

/-- An object is read as the record that its known members make, if every field of a record
has a default. -/
theorem decode_of_sets (optional : ∀ field ∈ shape.fields, field.required = false)
    {object : ObjectText} (distinct : ((shape.known object.members).map Prod.fst).Nodup)
    (sets : shape.Sets shape.blank (shape.known object.members) record) :
    shape.decode (Utf8.encode object.text) = .ok record := by
  have fresh : ([] ++ (shape.known object.members).map Prod.fst).Nodup := distinct
  rcases exists_readsEach sets fresh with ⟨pieces, seen, reads, each⟩
  exact each.decode_eq (ObjectText.tokens_eq reads) (complete_of_optional optional seen)

/-- The known members of an object decide on the record: all objects that have the same
ones, in any order, are read as the same record. -/
theorem exists_decode (optional : ∀ field ∈ shape.fields, field.required = false)
    (commutes : shape.Commutes) {members : List ObjectMember}
    (admitted : shape.Admits (shape.known members)) :
    ∃ record, shape.Sets shape.blank (shape.known members) record ∧
      ∀ object : ObjectText, (shape.known object.members).Perm (shape.known members) →
        shape.decode (Utf8.encode object.text) = .ok record := by
  rcases exists_sets admitted shape.blank with ⟨record, sets⟩
  refine ⟨record, sets, fun object moved => ?_⟩
  have distinct := (moved.map Prod.fst).nodup_iff.2 admitted.distinct
  exact decode_of_sets optional distinct (sets.perm commutes moved.symm admitted.distinct)

/-! ## Fields and what they are told -/

/-- A field of a record: no other field changes it. -/
structure IsPart (shape : Shape ρ) (name : String) (kind : Kind) (get : ρ → kind.Value) :
    Prop where
  found : ∃ required set, shape.field? name = some ⟨name, kind, required, set⟩ ∧
    ∀ value record, get (set value record) = value
  others : ∀ other ∈ shape.fields, other.name ≠ name → ∀ value record,
    get (other.set value record) = get record

/-- Known members give a field the value that they tell. -/
theorem IsPart.told {name : String} {kind : Kind} {get : ρ → kind.Value}
    (part : shape.IsPart name kind get) {known : List (String × List Char)}
    (distinct : (known.map Prod.fst).Nodup) (sets : shape.Sets record known record') :
    Told known name kind (get record) (get record') := by
  induction sets with
  | nil => exact ⟨fun _ member => absurd member List.not_mem_nil, fun _ => rfl⟩
  | @cons record record' other field chars value more found spells behind ih =>
    rw [List.map_cons, List.nodup_cons] at distinct
    have told := ih distinct.2
    by_cases same : other = name
    · subst same
      rcases part.found with ⟨required, set, isField, get_set⟩
      cases found.symm.trans isField
      have last : ∀ chars, (other, chars) ∉ more := fun chars member =>
        distinct.1 (List.mem_map.2 ⟨_, member, rfl⟩)
      have kept : get record' = value := (told.absent last).trans (get_set value record)
      constructor
      · intro chars' member
        rcases List.mem_cons.1 member with same | member
        · cases same
          rw [kept]
          exact spells
        · exact absurd member (last chars')
      · exact fun missing => absurd List.mem_cons_self (missing chars)
    · rcases name_of_field? found with ⟨isField, rfl⟩
      rw [part.others field isField same] at told
      apply told.congr
      intro chars'
      rw [List.mem_cons, Prod.mk.injEq]
      exact ⟨.inr, Or.rec (fun both => absurd both.1.symm same) id⟩

/-- The known members say of a field what all members say of it. -/
theorem IsPart.mem_known {name : String} {kind : Kind} {get : ρ → kind.Value}
    (part : shape.IsPart name kind get) (members : List ObjectMember) (chars : List Char) :
    (name, chars) ∈ shape.known members ↔ (name, chars) ∈ members.map ObjectMember.entry := by
  rcases part.found with ⟨required, set, found, -⟩
  rw [known, List.mem_map, List.mem_map]
  constructor
  · rintro ⟨member, isKnown, same⟩
    exact ⟨member, (List.mem_filter.1 isKnown).1, same⟩
  · rintro ⟨member, isMember, same⟩
    refine ⟨member, List.mem_filter.2 ⟨isMember, ?_⟩, same⟩
    rw [show member.name = name from congrArg Prod.fst same, found]
    rfl

/-- A field is told by all members what the known ones give it. -/
theorem IsPart.told_of_sets {name : String} {kind : Kind} {get : ρ → kind.Value}
    (part : shape.IsPart name kind get) {members : List ObjectMember}
    (distinct : ((shape.known members).map Prod.fst).Nodup)
    (sets : shape.Sets record (shape.known members) record') :
    Told (members.map ObjectMember.entry) name kind (get record) (get record') :=
  (part.told distinct sets).congr (part.mem_known members)

end Shape

end ControlPlane.Json
