import ControlPlane.Json.Document
import ControlPlane.Proofs.Text.Utf8Bytes

/-!
# Written integers read back

An integer is written in decimal without superfluous zeros.  The scanner takes all of
its digits, provided that what follows cannot belong to a number, and finds the same
integer, provided that it fits 64 bits, signed or unsigned.  Anything larger would be
a floating point number to the reader.
-/

namespace ControlPlane.Json

/-- Whether bytes that stand behind a number cannot belong to it. -/
def EndsNumber (bytes : Bytes) : Prop :=
  ∀ byte rest, bytes = byte :: rest →
    isDigitByte byte = false ∧ byte ≠ byteOf '.' ∧ byte ≠ byteOf 'e' ∧ byte ≠ byteOf 'E'

theorem endsNumber_nil : EndsNumber [] := by
  intro byte rest same
  cases same

theorem endsNumber_cons {byte : UInt8} (noDigit : isDigitByte byte = false)
    (noPoint : byte ≠ byteOf '.') (noSmall : byte ≠ byteOf 'e') (noLarge : byte ≠ byteOf 'E')
    (rest : Bytes) : EndsNumber (byte :: rest) := by
  intro byte' rest' same
  cases same
  exact ⟨noDigit, noPoint, noSmall, noLarge⟩

/-! ## Digits as bytes -/

/-- The bytes of the digits of a number. -/
def digitBytes (value : Nat) : Bytes :=
  (Nat.toDigits 10 value).map byteOf

theorem range_of_isDigit {char : Char} (digit : char.isDigit = true) :
    48 ≤ char.toNat ∧ char.toNat ≤ 57 := by
  rw [Char.isDigit, Bool.and_eq_true, decide_eq_true_eq, decide_eq_true_eq] at digit
  exact digit

theorem digit_range {value : Nat} {char : Char} (member : char ∈ Nat.toDigits 10 value) :
    48 ≤ char.toNat ∧ char.toNat ≤ 57 :=
  range_of_isDigit (Nat.isDigit_of_mem_toDigits (by decide) (by decide) member)

theorem toNat_byteOf {char : Char} (small : char.toNat < 256) :
    (byteOf char).toNat = char.toNat := by
  rw [byteOf, UInt8.toNat_ofNat']
  exact Nat.mod_eq_of_lt small

/-- Characters below U+0080 are single bytes. -/
theorem flatMap_utf8EncodeChar {chars : List Char} (small : ∀ char ∈ chars, char.toNat < 128) :
    chars.flatMap String.utf8EncodeChar = chars.map byteOf := by
  induction chars with
  | nil => rfl
  | cons char chars ih =>
    rw [List.flatMap_cons, Utf8.utf8EncodeChar_of_lt (small char List.mem_cons_self),
      ih fun char member => small char (List.mem_cons_of_mem _ member)]
    rfl

theorem encode_repr (value : Nat) : Utf8.encode value.repr = digitBytes value := by
  rw [Utf8.encode_eq_flatMap, Nat.toList_repr]
  apply flatMap_utf8EncodeChar
  intro char member
  have range := digit_range member
  omega

theorem isDigitByte_iff (byte : UInt8) :
    isDigitByte byte = true ↔ 48 ≤ byte.toNat ∧ byte.toNat ≤ 57 := by
  rw [isDigitByte, Bool.and_eq_true, decide_eq_true_eq, decide_eq_true_eq]
  rfl

theorem isDigitByte_byteOf {char : Char} (digit : char.isDigit = true) :
    isDigitByte (byteOf char) = true := by
  obtain ⟨lower, upper⟩ := range_of_isDigit digit
  rw [isDigitByte_iff, toNat_byteOf (by omega)]
  exact ⟨lower, upper⟩

theorem isDigitByte_of_mem_digitBytes {value : Nat} {byte : UInt8}
    (member : byte ∈ digitBytes value) : isDigitByte byte = true := by
  obtain ⟨char, charMember, rfl⟩ := List.mem_map.1 member
  exact isDigitByte_byteOf (Nat.isDigit_of_mem_toDigits (by decide) (by decide) charMember)

theorem digitBytes_ne_nil (value : Nat) : digitBytes value ≠ [] := by
  intro empty
  exact Nat.toDigits_ne_nil (List.map_eq_nil_iff.1 empty)

/-- The digits of a positive number do not begin with a zero. -/
theorem head_toDigits {value : Nat} (positive : 0 < value) :
    (Nat.toDigits 10 value).head? ≠ some '0' := by
  induction value using Nat.strongRecOn with
  | ind value ih =>
    rcases Nat.lt_or_ge value 10 with small | large
    · rw [Nat.toDigits_of_lt_base small, List.head?_cons]
      intro zero
      have digit := Nat.digitChar_eq_zero.1 (Option.some.inj zero)
      omega
    · rw [Nat.toDigits_of_base_le (by decide) large, List.head?_append]
      have front := ih (value / 10) (by omega) (by omega)
      cases digits : Nat.toDigits 10 (value / 10) with
      | nil => exact absurd digits Nat.toDigits_ne_nil
      | cons digit digits' =>
        rw [digits] at front
        exact front

/-! ## Splitting digits off -/

/-- No digit is next. -/
def EndsDigits (bytes : Bytes) : Prop :=
  ∀ byte rest, bytes = byte :: rest → isDigitByte byte = false

theorem EndsNumber.endsDigits {bytes : Bytes} (ends : EndsNumber bytes) : EndsDigits bytes :=
  fun byte rest same => (ends byte rest same).1

theorem splitDigits_append {digits rest : Bytes}
    (all : ∀ byte ∈ digits, isDigitByte byte = true) (ends : EndsDigits rest) :
    splitDigits (digits ++ rest) = (digits, rest) := by
  induction digits with
  | nil =>
    cases rest with
    | nil => rfl
    | cons byte rest =>
      have stop := ends byte rest rfl
      rw [List.nil_append, splitDigits, List.takeWhile_cons_of_neg (by simp [stop]),
        List.dropWhile_cons_of_neg (by simp [stop])]
  | cons digit digits ih =>
    have first := all digit List.mem_cons_self
    have tail := ih fun byte member => all byte (List.mem_cons_of_mem _ member)
    rw [splitDigits, Prod.mk.injEq] at tail
    rw [List.cons_append, splitDigits, List.takeWhile_cons_of_pos first,
      List.dropWhile_cons_of_pos first, tail.1, tail.2]

/-- Digits are read as a whole number if no zero stands before another one. -/
theorem scanWhole_digits {chars : List Char} (filled : chars ≠ [])
    (digits : ∀ char ∈ chars, char.isDigit = true)
    (noZero : chars.head? = some '0' → chars = ['0']) {rest : Bytes} (ends : EndsDigits rest) :
    scanWhole (chars.map byteOf ++ rest) = some (chars.map byteOf, rest) := by
  have all : ∀ byte ∈ chars.map byteOf, isDigitByte byte = true := by
    rw [List.forall_mem_map]
    exact fun char member => isDigitByte_byteOf (digits char member)
  rw [scanWhole, splitDigits_append all ends]
  cases chars with
  | nil => exact absurd rfl filled
  | cons char chars =>
    have alone : ¬(byteOf char = byteOf '0' ∧ chars.map byteOf ≠ []) := by
      rintro ⟨zero, others⟩
      have range := range_of_isDigit (digits char List.mem_cons_self)
      have code := congrArg UInt8.toNat zero
      rw [toNat_byteOf (by omega)] at code
      obtain rfl : char = '0' := Char.toNat_inj.1 code
      cases noZero rfl
      exact others rfl
    simp only [List.map_cons]
    rw [if_neg alone]

theorem scanWhole_digitBytes (value : Nat) {rest : Bytes} (ends : EndsNumber rest) :
    scanWhole (digitBytes value ++ rest) = some (digitBytes value, rest) := by
  apply scanWhole_digits Nat.toDigits_ne_nil _ _ ends.endsDigits
  · exact fun char member => Nat.isDigit_of_mem_toDigits (by decide) (by decide) member
  · intro zero
    rcases Nat.eq_zero_or_pos value with rfl | positive
    · exact Nat.toDigits_zero 10
    · exact absurd zero (head_toDigits positive)

theorem scanFraction_end {rest : Bytes} (ends : EndsNumber rest) :
    scanFraction rest = some ([], rest) := by
  cases rest with
  | nil => rfl
  | cons byte rest => rw [scanFraction, if_neg (ends byte rest rfl).2.1]

theorem scanExponent_end {rest : Bytes} (ends : EndsNumber rest) :
    scanExponent rest = some (none, rest) := by
  cases rest with
  | nil => rfl
  | cons byte rest =>
    obtain ⟨-, -, noSmall, noLarge⟩ := ends byte rest rfl
    rw [scanExponent, if_neg]
    rintro (small | large)
    · exact noSmall small
    · exact noLarge large

/-! ## The value of the digits -/

/-- All digits are absorbed if the number stays within the limit. -/
theorem absorb_digits (chars : List Char) (range : ∀ char ∈ chars, char.toNat ≤ 57)
    (significand : Nat)
    (small : Nat.ofDigitChars 10 chars significand ≤ significandLimit) :
    absorb significand (chars.map byteOf) = (Nat.ofDigitChars 10 chars significand, []) := by
  induction chars generalizing significand with
  | nil => rfl
  | cons char chars ih =>
    have first := range char List.mem_cons_self
    have next : significand * 10 + ((byteOf char).toNat - 48) =
        10 * significand + (char.toNat - '0'.toNat) := by
      rw [toNat_byteOf (by omega), Nat.mul_comm]
      rfl
    rw [Nat.ofDigitChars_cons] at small ⊢
    have grows : 10 * significand + (char.toNat - '0'.toNat) ≤
        Nat.ofDigitChars 10 chars (10 * significand + (char.toNat - '0'.toNat)) := by
      rw [Nat.ofDigitChars_eq_ofDigitChars_zero]
      exact Nat.le_trans (Nat.le_mul_of_pos_left _ (Nat.pow_pos (by decide)))
        (Nat.le_add_right _ _)
    rw [List.map_cons, absorb, next, if_pos (Nat.le_trans grows small)]
    exact ih (fun char member => range char (List.mem_cons_of_mem _ member)) _ small

theorem absorb_digitBytes {value : Nat} (small : value ≤ significandLimit) :
    absorb 0 (digitBytes value) = (value, []) := by
  have whole : Nat.ofDigitChars 10 (Nat.toDigits 10 value) 0 = value :=
    Nat.ofDigitChars_ten_toDigits
  have read := absorb_digits (Nat.toDigits 10 value) (fun _ member => (digit_range member).2) 0
    (by rw [whole]; exact small)
  rw [whole] at read
  exact read

/-! ## Whole numbers -/

/-- Whether an integer fits 64 bits, signed or unsigned. -/
def FitsNumber (value : Int) : Prop :=
  Int64.minValue.toInt ≤ value ∧ value ≤ significandLimit

theorem scanNumber_digitBytes {negative : Bool} {size : Nat} (small : size ≤ significandLimit)
    (signed : negative = true → 0 < size ∧ Int64.minValue.toInt ≤ -(size : Int))
    {rest : Bytes} (ends : EndsNumber rest) :
    scanNumber negative (digitBytes size ++ rest) =
      some (.integer (if negative then -(size : Int) else size), rest) := by
  have number : numberOf negative (digitBytes size) [] none =
      .integer (if negative then -(size : Int) else size) := by
    rw [numberOf, absorb_digitBytes small]
    dsimp only
    rw [if_pos]
    cases negative with
    | false => rfl
    | true =>
      obtain ⟨positive, fits⟩ := signed rfl
      change (decide (0 < size) && decide (Int64.minValue.toInt ≤ -(size : Int))) = true
      rw [decide_eq_true positive, decide_eq_true fits]
      rfl
  rw [scanNumber, scanWhole_digitBytes size ends]
  dsimp only
  rw [scanFraction_end ends]
  dsimp only
  rw [scanExponent_end ends]
  dsimp only
  rw [number]

theorem not_isSpaceByte_of_isDigitByte {byte : UInt8} (digit : isDigitByte byte = true) :
    isSpaceByte byte = false := by
  obtain ⟨lower, -⟩ := (isDigitByte_iff byte).1 digit
  have different {other : UInt8} (small : other.toNat < 48) : (byte == other) = false := by
    rw [beq_eq_false_iff_ne]
    rintro rfl
    omega
  rw [isSpaceByte, different (by decide), different (by decide), different (by decide),
    different (by decide)]
  rfl

theorem scanToken_digit {first : UInt8} (digit : isDigitByte first = true) (rest : Bytes) :
    scanToken first rest =
      (scanNumber false (first :: rest)).map fun (value, rest) => (.number value, rest) := by
  obtain ⟨lower, -⟩ := (isDigitByte_iff first).1 digit
  have notQuote : first ≠ byteOf '"' := by
    rintro rfl
    exact absurd lower (by decide)
  have notMinus : first ≠ byteOf '-' := by
    rintro rfl
    exact absurd lower (by decide)
  rw [scanToken, if_neg notQuote, if_neg notMinus, if_pos digit]

/-- The bytes of a written integer, with the token that they make. -/
theorem scanToken_integer {value : Int} (fits : FitsNumber value) {rest : Bytes}
    (ends : EndsNumber rest) :
    ∃ first more, Utf8.encode (toString value) = first :: more ∧ isSpaceByte first = false ∧
      scanToken first (more ++ rest) = some (.number (.integer value), rest) := by
  obtain ⟨lower, upper⟩ := fits
  have least : Int64.minValue.toInt = -9223372036854775808 := rfl
  have limit : significandLimit = 18446744073709551615 := rfl
  rw [least] at lower
  rw [limit] at upper
  rw [Int.toString_eq_repr, Int.repr_eq_if]
  split
  · rename_i positive
    have read : scanNumber false (digitBytes value.toNat ++ rest) =
        some (.integer value.toNat, rest) :=
      scanNumber_digitBytes (by rw [limit]; omega) (by simp) ends
    rw [encode_repr]
    cases digits : digitBytes value.toNat with
    | nil => exact absurd digits (digitBytes_ne_nil _)
    | cons first more =>
      have digit : isDigitByte first = true :=
        isDigitByte_of_mem_digitBytes (digits ▸ List.mem_cons_self)
      refine ⟨first, more, rfl, not_isSpaceByte_of_isDigitByte digit, ?_⟩
      rw [digits, List.cons_append, Int.toNat_of_nonneg positive] at read
      rw [scanToken_digit digit, read]
      rfl
  · rename_i negative
    have read : scanNumber true (digitBytes (-value).toNat ++ rest) =
        some (.integer (-((-value).toNat : Int)), rest) :=
      scanNumber_digitBytes (by rw [limit]; omega) (by rw [least]; omega) ends
    refine ⟨byteOf '-', digitBytes (-value).toNat, ?_, rfl, ?_⟩
    · rw [Utf8.encode_append, encode_repr]
      rfl
    · rw [Int.toNat_of_nonneg (by omega), Int.neg_neg] at read
      rw [scanToken, if_neg (by decide), if_pos rfl, read]
      rfl

end ControlPlane.Json
