import ControlPlane.Proofs.Json.WrittenTokens

/-!
# Texts of values

The grammar of JSON values, character by character: white space, numbers with fractions and
exponents, quoted texts with all of their escapes, lists and objects of any depth.  It says
nothing of how values are read.

The scanner finds one token in each number and each quoted text of the grammar.  Half a
surrogate pair may be written in a quoted text, which then stands for no text, but it ends
where the grammar says.
-/

namespace ControlPlane.Json

/-! ## White space and numbers -/

/-- The space, the tab and the two characters that end lines. -/
def spaces : List Char := [' ', '\t', '\n', '\r']

/-- White space. -/
def IsSpacing (chars : List Char) : Prop :=
  ∀ char ∈ chars, char ∈ spaces

instance (chars : List Char) : Decidable (IsSpacing chars) :=
  List.decidableBAll (· ∈ spaces) chars

/-- One decimal digit or more. -/
structure IsDigits (chars : List Char) : Prop where
  filled : chars ≠ []
  digits : ∀ char ∈ chars, char.isDigit = true

/-- The digits before a point: no zero stands before another digit. -/
structure IsWhole (chars : List Char) : Prop extends IsDigits chars where
  noZero : chars.head? = some '0' → chars = ['0']

/-- A point and digits, or nothing. -/
inductive IsFraction : List Char → Prop
  | none : IsFraction []
  | digits {chars : List Char} (digits : IsDigits chars) : IsFraction ('.' :: chars)

/-- A mark, a sign if there is one, and digits, or nothing. -/
inductive IsExponent : List Char → Prop
  | none : IsExponent []
  | digits {mark : Char} {sign chars : List Char} (marked : mark ∈ ['e', 'E'])
    (signed : sign ∈ [[], ['+'], ['-']]) (digits : IsDigits chars) :
    IsExponent (mark :: (sign ++ chars))

/-- A number. -/
inductive IsNumber : List Char → Prop
  | parts {sign whole fraction exponent : List Char} (signed : sign ∈ [[], ['-']])
    (whole_ : IsWhole whole) (fraction_ : IsFraction fraction)
    (exponent_ : IsExponent exponent) :
    IsNumber (sign ++ (whole ++ (fraction ++ exponent)))

/-! ## Quoted texts -/

/-- The letters that stand behind a backslash, with the characters that they are written
for. -/
def letterEscapes : List (Char × Char) :=
  [('"', '"'), ('\\', '\\'), ('/', '/'), ('b', '\x08'), ('f', '\x0c'), ('n', '\n'), ('r', '\r'),
    ('t', '\t')]

/-- A character that stands for itself. -/
structure IsPlain (char : Char) : Prop where
  notQuote : char ≠ '"'
  notSlash : char ≠ '\\'
  visible : 32 ≤ char.toNat

instance (char : Char) : Decidable (IsPlain char) :=
  decidable_of_iff (char ≠ '"' ∧ char ≠ '\\' ∧ 32 ≤ char.toNat)
    ⟨fun all => ⟨all.1, all.2.1, all.2.2⟩, fun plain => ⟨plain.1, plain.2, plain.3⟩⟩

/-- Characters that stand for themselves. -/
def ArePlain (chars : List Char) : Prop :=
  ∀ char ∈ chars, IsPlain char

instance (chars : List Char) : Decidable (ArePlain chars) :=
  List.decidableBAll IsPlain chars

/-- Four hexadecimal digits and their value. -/
inductive Quad : List Char → Nat → Prop
  | digits {a b c d : Char} {w x y z : Nat} (first : Bytes.hexValue? a = some w)
    (second : Bytes.hexValue? b = some x) (third : Bytes.hexValue? c = some y)
    (fourth : Bytes.hexValue? d = some z) :
    Quad [a, b, c, d] (w * 4096 + x * 256 + y * 16 + z)

/-- What may stand between two quotes. -/
inductive IsBody : List Char → Prop
  | nil : IsBody []
  | plain {char : Char} {rest : List Char} (plain : IsPlain char) (behind : IsBody rest) :
    IsBody (char :: rest)
  | letter {letter char : Char} {rest : List Char} (known : (letter, char) ∈ letterEscapes)
    (behind : IsBody rest) : IsBody ('\\' :: letter :: rest)
  | unit {quad rest : List Char} {unit : Nat} (quad_ : Quad quad unit) (behind : IsBody rest) :
    IsBody ('\\' :: 'u' :: (quad ++ rest))

/-- What stands between two quotes, and the characters that it is written for. -/
inductive Spells : List Char → List Char → Prop
  | nil : Spells [] []
  | plain {char : Char} {rest content : List Char} (plain : IsPlain char)
    (behind : Spells rest content) : Spells (char :: rest) (char :: content)
  | letter {letter char : Char} {rest content : List Char}
    (known : (letter, char) ∈ letterEscapes) (behind : Spells rest content) :
    Spells ('\\' :: letter :: rest) (char :: content)
  | unit {quad rest content : List Char} {char : Char} (quad_ : Quad quad char.toNat)
    (behind : Spells rest content) : Spells ('\\' :: 'u' :: (quad ++ rest)) (char :: content)
  /-- A character beyond U+FFFF is written as a surrogate pair. -/
  | pair {quad quad' rest content : List Char} {lead trail : Nat} {char : Char}
    (quad_ : Quad quad lead) (quad'_ : Quad quad' trail)
    (isLead : 0xD800 ≤ lead ∧ lead ≤ 0xDBFF) (isTrail : 0xDC00 ≤ trail ∧ trail ≤ 0xDFFF)
    (code : char.toNat = 0x10000 + (lead - 0xD800) * 1024 + (trail - 0xDC00))
    (behind : Spells rest content) :
    Spells ('\\' :: 'u' :: (quad ++ '\\' :: 'u' :: (quad' ++ rest))) (char :: content)

theorem Spells.isBody {body content : List Char} (spells : Spells body content) : IsBody body := by
  induction spells with
  | nil => exact .nil
  | plain plain _ ih => exact .plain plain ih
  | letter known _ ih => exact .letter known ih
  | unit quad_ _ ih => exact .unit quad_ ih
  | pair quad_ quad'_ _ _ _ _ ih => exact .unit quad_ (.unit quad'_ ih)

theorem ArePlain.spells {chars : List Char} (plain : ArePlain chars) : Spells chars chars := by
  induction chars with
  | nil => exact .nil
  | cons char chars ih =>
    exact .plain (plain char List.mem_cons_self) (ih fun other member =>
      plain other (List.mem_cons_of_mem _ member))

/-- Something between quotes. -/
def quoted (body : List Char) : List Char := '"' :: (body ++ ['"'])

/-! ## Values -/

/-- Something with what stands before and behind it. -/
structure Spaced where
  before : List Char
  core : List Char
  after : List Char

namespace Spaced

/-- All of it. -/
def chars (spaced : Spaced) : List Char :=
  spaced.before ++ (spaced.core ++ spaced.after)

/-- Nothing but white space stands around it. -/
structure IsPadded (spaced : Spaced) : Prop where
  before : IsSpacing spaced.before
  after : IsSpacing spaced.after

end Spaced

/-- A value with its name. -/
structure Labelled where
  label : Spaced
  value : Spaced

/-- A colon stands between name and value. -/
def Labelled.chars (member : Labelled) : List Char :=
  member.label.chars ++ ':' :: member.value.chars

/-- Parts between two marks, with commas between them.  White space stands where there is
no part. -/
def enclosed (first last : Char) (space : List Char) (parts : List (List Char)) : List Char :=
  first :: (space ++ ([','].intercalate parts ++ [last]))

/-- A value. -/
inductive IsValue : List Char → Prop
  | null : IsValue ['n', 'u', 'l', 'l']
  | yes : IsValue ['t', 'r', 'u', 'e']
  | no : IsValue ['f', 'a', 'l', 's', 'e']
  | number {chars : List Char} (number : IsNumber chars) : IsValue chars
  | text {body : List Char} (body_ : IsBody body) : IsValue (quoted body)
  | list {space : List Char} {items : List Spaced} (space_ : IsSpacing space)
    (padded : ∀ item ∈ items, item.IsPadded) (values : ∀ item ∈ items, IsValue item.core) :
    IsValue (enclosed '[' ']' space (items.map Spaced.chars))
  | object {space : List Char} {members : List Labelled} (space_ : IsSpacing space)
    (padded : ∀ member ∈ members, member.label.IsPadded ∧ member.value.IsPadded)
    (labels : ∀ member ∈ members, ∃ body, IsBody body ∧ member.label.core = quoted body)
    (values : ∀ member ∈ members, IsValue member.value.core) :
    IsValue (enclosed '\x7b' '\x7d' space (members.map Labelled.chars))

/-! ## Bytes of the grammar -/

theorem charBytes_small {char : Char} (small : char.toNat < 128) (rest : List Char) :
    charBytes (char :: rest) = byteOf char :: charBytes rest := by
  rw [charBytes_cons, Utf8.utf8EncodeChar_of_lt small]
  rfl

/-- A small character is found again from its byte. -/
theorem ofUInt8_byteOf {char : Char} (small : char.toNat < 256) :
    Char.ofUInt8 (byteOf char) = char := by
  apply Char.toNat_inj.1
  rw [← toNat_byteOf small]
  rfl

theorem small_of_hexValue? {digit : Char} {value : Nat}
    (known : Bytes.hexValue? digit = some value) : digit.toNat < 128 := by
  simp only [Bytes.hexValue?] at known
  split at known
  · omega
  · split at known
    · omega
    · split at known
      · omega
      · cases known

namespace Quad

variable {quad : List Char} {unit : Nat}

theorem unit?_eq (known : Quad quad unit) (rest : Bytes) :
    unit? (charBytes quad ++ rest) = some (unit, rest) := by
  cases known with
  | digits first second third fourth =>
    have ascii {digit : Char} {value : Nat} (known : Bytes.hexValue? digit = some value) :
        Bytes.hexValue? (Char.ofUInt8 (byteOf digit)) = some value := by
      rw [ofUInt8_byteOf (Nat.lt_trans (small_of_hexValue? known) (by decide)), known]
    rw [charBytes_small (small_of_hexValue? first), charBytes_small (small_of_hexValue? second),
      charBytes_small (small_of_hexValue? third), charBytes_small (small_of_hexValue? fourth)]
    simp only [charBytes_nil, List.cons_append, List.nil_append, unit?, hexQuad?, ascii first,
      ascii second, ascii third, ascii fourth, Option.map_some]

end Quad

/-! ## Escapes -/

theorem scanEscape_letter {letter char : Char} (known : (letter, char) ∈ letterEscapes)
    (rest : Bytes) :
    scanEscape (byteOf letter :: rest) = some (⟨String.utf8EncodeChar char, true⟩, rest) := by
  simp only [letterEscapes, List.mem_cons, List.not_mem_nil, or_false, Prod.mk.injEq] at known
  rcases known with ⟨rfl, rfl⟩ | ⟨rfl, rfl⟩ | ⟨rfl, rfl⟩ | ⟨rfl, rfl⟩ | ⟨rfl, rfl⟩ | ⟨rfl, rfl⟩ |
    ⟨rfl, rfl⟩ | ⟨rfl, rfl⟩ <;> rfl

theorem small_of_letterEscapes {letter char : Char} (known : (letter, char) ∈ letterEscapes) :
    letter.toNat < 128 := by
  have all : ∀ pair ∈ letterEscapes, pair.1.toNat < 128 := by decide
  exact all _ known

theorem charBytes_letter {letter char : Char} (known : (letter, char) ∈ letterEscapes)
    (rest : List Char) :
    charBytes ('\\' :: letter :: rest) = byteOf '\\' :: byteOf letter :: charBytes rest := by
  rw [charBytes_small (by decide), charBytes_small (small_of_letterEscapes known)]

theorem charBytes_unit (quad rest : List Char) :
    charBytes ('\\' :: 'u' :: (quad ++ rest)) =
      byteOf '\\' :: byteOf 'u' :: (charBytes quad ++ charBytes rest) := by
  rw [charBytes_small (by decide), charBytes_small (by decide), charBytes_append]

namespace Quad

variable {quad : List Char} {unit : Nat}

/-- No character has the code of half a surrogate pair. -/
theorem scanEscape_char {char : Char} (known : Quad quad char.toNat) (rest : Bytes) :
    scanEscape (byteOf 'u' :: (charBytes quad ++ rest)) =
      some (⟨String.utf8EncodeChar char, true⟩, rest) := by
  have code : char.toNat < 0xD800 ∨ 0xDFFF < char.toNat := by
    rcases char.valid with low | high
    · exact .inl low
    · exact .inr high.1
  have notLead : isLeadUnit char.toNat = false := by
    simp only [isLeadUnit, Bool.and_eq_false_iff, decide_eq_false_iff_not]
    omega
  have notTrail : isTrailUnit char.toNat = false := by
    simp only [isTrailUnit, Bool.and_eq_false_iff, decide_eq_false_iff_not]
    omega
  rw [scanEscape, if_pos rfl, known.unit?_eq]
  simp only [notLead, notTrail, Bool.false_eq_true, if_false, Escape.ofCode, Char.ofNat_toNat,
    Utf8.encode_singleton]

theorem trailUnit?_eq (known : Quad quad unit) (isTrail : 0xDC00 ≤ unit ∧ unit ≤ 0xDFFF)
    (rest : Bytes) :
    trailUnit? (byteOf '\\' :: byteOf 'u' :: (charBytes quad ++ rest)) = some (unit, rest) := by
  have trail : isTrailUnit unit = true := by
    rw [isTrailUnit, Bool.and_eq_true, decide_eq_true_iff, decide_eq_true_iff]
    exact isTrail
  rw [trailUnit?, if_pos ⟨rfl, rfl⟩, known.unit?_eq]
  exact Option.filter_some_pos trail

theorem scanEscape_pair {quad' : List Char} {trail : Nat} {char : Char} (known : Quad quad unit)
    (known' : Quad quad' trail) (isLead : 0xD800 ≤ unit ∧ unit ≤ 0xDBFF)
    (isTrail : 0xDC00 ≤ trail ∧ trail ≤ 0xDFFF)
    (code : char.toNat = 0x10000 + (unit - 0xD800) * 1024 + (trail - 0xDC00)) (rest : Bytes) :
    scanEscape (byteOf 'u' :: (charBytes quad ++
        byteOf '\\' :: byteOf 'u' :: (charBytes quad' ++ rest))) =
      some (⟨String.utf8EncodeChar char, true⟩, rest) := by
  have lead : isLeadUnit unit = true := by
    rw [isLeadUnit, Bool.and_eq_true, decide_eq_true_iff, decide_eq_true_iff]
    exact isLead
  have paired : pairedUnits unit trail = char.toNat := code.symm
  rw [scanEscape, if_pos rfl, known.unit?_eq]
  simp only [lead, if_true, known'.trailUnit?_eq isTrail, paired, Escape.ofCode, Char.ofNat_toNat,
    Utf8.encode_singleton]

end Quad

/-! ## Quoted texts -/

theorem trailUnit?_of_ne {byte : UInt8} (other : byte ≠ byteOf '\\') (rest : Bytes) :
    trailUnit? (byte :: rest) = none := by
  cases rest with
  | nil => rfl
  | cons letter rest => rw [trailUnit?, if_neg fun both => other both.1]

/-- A plain character begins with no backslash. -/
theorem IsPlain.cons_eq {char : Char} (plain : IsPlain char) :
    ∃ first more, String.utf8EncodeChar char = first :: more ∧ first ≠ byteOf '\\' := by
  rcases Nat.lt_or_ge char.toNat 128 with small | large
  · refine ⟨byteOf char, [], Utf8.utf8EncodeChar_of_lt small, ?_⟩
    intro same
    have code := congrArg UInt8.toNat same
    rw [toNat_byteOf (by omega)] at code
    exact plain.notSlash (Char.toNat_inj.1 code)
  · cases bytes : String.utf8EncodeChar char with
    | nil => exact absurd bytes String.utf8EncodeChar_ne_nil
    | cons first more =>
      refine ⟨first, more, rfl, ?_⟩
      rintro rfl
      have high := Utf8.le_of_mem_utf8EncodeChar large (bytes ▸ List.mem_cons_self)
      exact absurd high (by decide)

/-- Whether the second half of a surrogate pair comes next is settled within the quotes. -/
theorem IsBody.trailUnit?_cases {body : List Char} (body_ : IsBody body) :
    (∀ rest, trailUnit? (charBytes body ++ byteOf '"' :: rest) = none) ∨
      ∃ trail body', IsBody body' ∧ body'.length < body.length ∧
        ∀ rest, trailUnit? (charBytes body ++ rest) = some (trail, charBytes body' ++ rest) := by
  cases body_ with
  | nil => exact .inl fun rest => trailUnit?_of_ne (by decide) rest
  | plain plain =>
    rcases plain.cons_eq with ⟨first, more, bytes, other⟩
    refine .inl fun rest => ?_
    rw [charBytes_cons, bytes]
    exact trailUnit?_of_ne other _
  | letter known =>
    refine .inl fun rest => ?_
    have all : ∀ pair ∈ letterEscapes, byteOf pair.1 ≠ byteOf 'u' := by decide
    rw [charBytes_letter known, List.cons_append, List.cons_append, trailUnit?,
      if_neg fun both => all _ known both.2]
  | @unit quad tail unit known behind =>
    by_cases isTrail : 0xDC00 ≤ unit ∧ unit ≤ 0xDFFF
    · refine .inr ⟨unit, tail, behind, ?_, fun rest => ?_⟩
      · simp only [List.length_cons, List.length_append]
        omega
      · rw [charBytes_unit, List.cons_append, List.cons_append, List.append_assoc]
        exact known.trailUnit?_eq isTrail _
    · refine .inl fun rest => ?_
      have other : isTrailUnit unit = false := by
        rw [isTrailUnit, Bool.and_eq_false_iff, decide_eq_false_iff_not, decide_eq_false_iff_not]
        exact Decidable.not_and_iff_not_or_not.1 isTrail
      rw [charBytes_unit, List.cons_append, List.cons_append, List.append_assoc, trailUnit?,
        if_pos ⟨rfl, rfl⟩, known.unit?_eq]
      exact Option.filter_some_neg other

/-- An escape of a code unit takes the second half of a surrogate pair with it, if that is
what comes next, and nothing else. -/
theorem Quad.scanEscape_body {quad : List Char} {unit : Nat} (known : Quad quad unit)
    {body : List Char} (body_ : IsBody body) :
    ∃ escape body', IsBody body' ∧ body'.length ≤ body.length ∧
      ∀ rest, scanEscape (byteOf 'u' :: (charBytes quad ++
        (charBytes body ++ byteOf '"' :: rest))) =
          some (escape, charBytes body' ++ byteOf '"' :: rest) := by
  have unfold (rest : Bytes) := known.unit?_eq (charBytes body ++ byteOf '"' :: rest)
  cases lead : isLeadUnit unit with
  | true =>
    rcases body_.trailUnit?_cases with none | ⟨trail, body', body'_, shorter, second⟩
    · refine ⟨.half, body, body_, Nat.le_refl _, fun rest => ?_⟩
      rw [scanEscape, if_pos rfl, unfold]
      simp only [lead, if_true, none]
    · refine ⟨.ofCode (pairedUnits unit trail), body', body'_, Nat.le_of_lt shorter, fun rest => ?_⟩
      rw [scanEscape, if_pos rfl, unfold]
      simp only [lead, if_true, second]
  | false =>
    refine ⟨if isTrailUnit unit then .half else .ofCode unit, body, body_, Nat.le_refl _,
      fun rest => ?_⟩
    rw [scanEscape, if_pos rfl, unfold]
    simp only [lead, Bool.false_eq_true, if_false]
    split <;> rfl

/-- A quoted text of the grammar ends where the grammar says, whatever comes behind it. -/
theorem IsBody.scanText_eq {body : List Char} (body_ : IsBody body) (paired : Bool) (acc : Bytes) :
    ∃ content, ∀ rest,
      scanText paired acc (charBytes body ++ byteOf '"' :: rest) = some (content, rest) := by
  cases body_ with
  | nil => exact ⟨_, scanText_quote paired acc⟩
  | @plain char tail plain behind =>
    rcases behind.scanText_eq paired ((String.utf8EncodeChar char).reverse ++ acc) with
      ⟨content, read⟩
    refine ⟨content, fun rest => ?_⟩
    rw [charBytes_cons, List.append_assoc,
      scanText_char plain.notQuote plain.notSlash (Nat.not_lt.2 plain.visible), read]
  | @letter letter char tail known behind =>
    rcases behind.scanText_eq paired ((String.utf8EncodeChar char).reverse ++ acc) with
      ⟨content, read⟩
    refine ⟨content, fun rest => ?_⟩
    rw [charBytes_letter known, List.cons_append, List.cons_append,
      scanText_escape (scanEscape_letter known _), Bool.and_true, read]
  | @unit quad tail unit known behind =>
    rcases known.scanEscape_body behind with ⟨escape, body', body'_, shorter, found⟩
    rcases body'_.scanText_eq (paired && escape.paired) (escape.content.reverse ++ acc) with
      ⟨content, read⟩
    refine ⟨content, fun rest => ?_⟩
    rw [charBytes_unit, List.cons_append, List.cons_append, List.append_assoc,
      scanText_escape (found rest), read]
termination_by body.length
decreasing_by
  all_goals
    simp only [List.length_cons, List.length_append]
    omega

/-- What is spelled is what the scanner collects. -/
theorem Spells.scanText_eq {body content : List Char} (spells : Spells body content)
    (acc rest : Bytes) :
    scanText true acc (charBytes body ++ rest) =
      scanText true ((charBytes content).reverse ++ acc) rest := by
  induction spells generalizing acc with
  | nil => rfl
  | plain plain _ ih =>
    rw [charBytes_cons, List.append_assoc,
      scanText_char plain.notQuote plain.notSlash (Nat.not_lt.2 plain.visible), ih, charBytes_cons,
      List.reverse_append, List.append_assoc]
  | letter known _ ih =>
    rw [charBytes_letter known, List.cons_append, List.cons_append,
      scanText_escape (scanEscape_letter known _), Bool.and_true, ih, charBytes_cons,
      List.reverse_append, List.append_assoc]
  | unit known _ ih =>
    rw [charBytes_unit, List.cons_append, List.cons_append, List.append_assoc,
      scanText_escape (known.scanEscape_char _), Bool.and_true, ih, charBytes_cons,
      List.reverse_append, List.append_assoc]
  | pair known known' isLead isTrail code _ ih =>
    rw [charBytes_unit, charBytes_unit, List.cons_append, List.cons_append, List.append_assoc,
      List.cons_append, List.cons_append, List.append_assoc,
      scanText_escape (known.scanEscape_pair known' isLead isTrail code _), Bool.and_true, ih,
      charBytes_cons, List.reverse_append, List.append_assoc]

/-! ## Numbers -/

namespace IsDigits

variable {chars : List Char} (digits : IsDigits chars)

include digits

theorem charBytes_eq : charBytes chars = chars.map byteOf := by
  apply flatMap_utf8EncodeChar
  intro char member
  have range := range_of_isDigit (digits.digits char member)
  omega

theorem isDigitByte_of_mem {byte : UInt8} (member : byte ∈ charBytes chars) :
    isDigitByte byte = true := by
  rw [digits.charBytes_eq] at member
  rcases List.mem_map.1 member with ⟨char, isChar, rfl⟩
  exact isDigitByte_byteOf (digits.digits char isChar)

/-- Digits begin with a digit. -/
theorem cons_eq : ∃ first more, charBytes chars = first :: more ∧ isDigitByte first = true := by
  cases bytes : charBytes chars with
  | nil =>
    rw [digits.charBytes_eq] at bytes
    exact absurd (List.map_eq_nil_iff.1 bytes) digits.filled
  | cons first more =>
    exact ⟨first, more, rfl, digits.isDigitByte_of_mem (bytes ▸ List.mem_cons_self)⟩

theorem splitDigits_eq {rest : Bytes} (ends : EndsDigits rest) :
    splitDigits (charBytes chars ++ rest) = (charBytes chars, rest) :=
  splitDigits_append (fun _ => digits.isDigitByte_of_mem) ends

end IsDigits

theorem IsWhole.scanWhole_eq {chars : List Char} (whole : IsWhole chars) {rest : Bytes}
    (ends : EndsDigits rest) :
    scanWhole (charBytes chars ++ rest) = some (charBytes chars, rest) := by
  rw [whole.charBytes_eq]
  exact scanWhole_digits whole.filled whole.digits whole.noZero ends

/-- Neither a digit nor a point is next. -/
def EndsWhole (bytes : Bytes) : Prop :=
  ∀ byte rest, bytes = byte :: rest → isDigitByte byte = false ∧ byte ≠ byteOf '.'

theorem EndsWhole.endsDigits {bytes : Bytes} (ends : EndsWhole bytes) : EndsDigits bytes :=
  fun byte rest same => (ends byte rest same).1

namespace IsFraction

variable {chars : List Char} (fraction : IsFraction chars)

include fraction

theorem endsDigits {rest : Bytes} (ends : EndsWhole rest) :
    EndsDigits (charBytes chars ++ rest) := by
  cases fraction with
  | none => exact ends.endsDigits
  | digits =>
    rw [charBytes_small (by decide)]
    intro byte behind same
    cases same
    rfl

theorem scanFraction_eq :
    ∃ digits, ∀ rest, EndsWhole rest →
      scanFraction (charBytes chars ++ rest) = some (digits, rest) := by
  cases fraction with
  | none =>
    refine ⟨[], fun rest ends => ?_⟩
    rw [charBytes_nil, List.nil_append]
    cases rest with
    | nil => rfl
    | cons byte rest => rw [scanFraction, if_neg (ends byte rest rfl).2]
  | @digits chars digits =>
    rcases digits.cons_eq with ⟨first, more, bytes, _⟩
    refine ⟨charBytes chars, fun rest ends => ?_⟩
    have split := digits.splitDigits_eq ends.endsDigits
    rw [charBytes_small (by decide), List.cons_append, scanFraction, if_pos rfl, split, bytes]

end IsFraction

namespace IsExponent

variable {chars : List Char} (exponent : IsExponent chars)

include exponent

theorem endsWhole {rest : Bytes} (ends : EndsNumber rest) :
    EndsWhole (charBytes chars ++ rest) := by
  cases exponent with
  | none =>
    intro byte behind same
    exact ⟨(ends byte behind same).1, (ends byte behind same).2.1⟩
  | digits marked =>
    simp only [List.mem_cons, List.not_mem_nil, or_false] at marked
    rcases marked with rfl | rfl <;>
    · rw [charBytes_small (by decide)]
      intro byte behind same
      cases same
      exact ⟨rfl, by decide⟩

theorem scanExponent_eq :
    ∃ size, ∀ rest, EndsNumber rest →
      scanExponent (charBytes chars ++ rest) = some (size, rest) := by
  cases exponent with
  | none => exact ⟨.none, fun rest ends => scanExponent_end ends⟩
  | @digits mark sign chars marked signed digits =>
    rcases digits.cons_eq with ⟨first, more, bytes, isDigit⟩
    have small : mark.toNat < 128 ∧ (byteOf mark = byteOf 'e' ∨ byteOf mark = byteOf 'E') := by
      simp only [List.mem_cons, List.not_mem_nil, or_false] at marked
      rcases marked with rfl | rfl <;> decide
    have unsigned (rest : Bytes) :
        scanSign (charBytes chars ++ rest) = (false, charBytes chars ++ rest) := by
      rw [bytes, List.cons_append, scanSign, if_neg, if_neg]
      · rintro rfl
        exact absurd isDigit (by decide)
      · rintro rfl
        exact absurd isDigit (by decide)
    have signedBy : ∃ negative, ∀ rest, scanSign (charBytes sign ++ (charBytes chars ++ rest)) =
        (negative, charBytes chars ++ rest) := by
      simp only [List.mem_cons, List.not_mem_nil, or_false] at signed
      rcases signed with rfl | rfl | rfl
      · exact ⟨false, unsigned⟩
      · exact ⟨false, fun rest => rfl⟩
      · exact ⟨true, fun rest => rfl⟩
    rcases signedBy with ⟨negative, signedBy⟩
    let size : Int := exponentSize (charBytes chars)
    refine ⟨some (if negative then -size else size), fun rest ends => ?_⟩
    rw [charBytes_small small.1, charBytes_append, List.cons_append, List.append_assoc,
      scanExponent, if_pos small.2, signedBy, digits.splitDigits_eq ends.endsDigits]
    simp only [size, bytes]

end IsExponent

/-- A number of the grammar is one token. -/
theorem IsNumber.scanToken_eq {chars : List Char} (number : IsNumber chars) :
    ∃ first more value, charBytes chars = first :: more ∧ isSpaceByte first = false ∧
      ∀ rest, EndsNumber rest → scanToken first (more ++ rest) = some (.number value, rest) := by
  cases number with
  | @parts sign whole fraction exponent signed whole_ fraction_ exponent_ =>
    rcases exponent_.scanExponent_eq with ⟨size, readExponent⟩
    rcases fraction_.scanFraction_eq with ⟨digits, readFraction⟩
    have read (negative : Bool) (rest : Bytes) (ends : EndsNumber rest) :
        scanNumber negative (charBytes whole ++
          (charBytes fraction ++ (charBytes exponent ++ rest))) =
            some (numberOf negative (charBytes whole) digits size, rest) := by
      have endsWhole := exponent_.endsWhole ends
      rw [scanNumber, whole_.scanWhole_eq (fraction_.endsDigits endsWhole)]
      simp only [readFraction _ endsWhole, readExponent _ ends]
    rw [charBytes_append, charBytes_append, charBytes_append]
    simp only [List.mem_cons, List.not_mem_nil, or_false] at signed
    rcases signed with rfl | rfl
    · rcases whole_.cons_eq with ⟨first, more, bytes, isDigit⟩
      refine ⟨first, more ++ (charBytes fraction ++ charBytes exponent),
        numberOf false (charBytes whole) digits size, ?_, not_isSpaceByte_of_isDigitByte isDigit,
        fun rest ends => ?_⟩
      · rw [bytes]
        rfl
      · have scanned := scanToken_digit isDigit
          (more ++ (charBytes fraction ++ (charBytes exponent ++ rest)))
        rw [← List.cons_append, ← bytes, read false rest ends] at scanned
        rw [List.append_assoc, List.append_assoc]
        exact scanned
    · refine ⟨byteOf '-', charBytes whole ++ (charBytes fraction ++ charBytes exponent),
        numberOf true (charBytes whole) digits size, rfl, rfl, fun rest ends => ?_⟩
      rw [List.append_assoc, List.append_assoc, scanToken, if_neg (by decide), if_pos rfl,
        read true rest ends]
      rfl

end ControlPlane.Json
