import ControlPlane.Text.Utf8
import Mathlib.Tactic.SplitIfs

/-!
# Bytes of texts

A text is encoded character by character.  The characters below U+0080 are single
bytes, and every byte of any other character is at least `0x80`, so no part of a
longer character can be taken for one of them.  The order of texts by code point is
the order of their bytes.
-/

namespace ControlPlane.Utf8

/-! ## Bytes by character -/

theorem encode_eq_flatMap (text : String) :
    encode text = text.toList.flatMap String.utf8EncodeChar := by
  rw [encode, ← String.utf8Encode_toList, List.utf8Encode]
  simp

theorem encode_ofList (chars : List Char) :
    encode (String.ofList chars) = chars.flatMap String.utf8EncodeChar := by
  rw [encode_eq_flatMap, String.toList_ofList]

theorem encode_singleton (char : Char) :
    encode (String.singleton char) = String.utf8EncodeChar char := by
  rw [String.singleton_eq_ofList, encode_ofList, List.flatMap_singleton]

theorem length_encode (text : String) : (encode text).length = text.utf8ByteSize := rfl

/-- A character below U+0080 is a single byte. -/
theorem utf8EncodeChar_of_lt {char : Char} (small : char.toNat < 128) :
    String.utf8EncodeChar char = [UInt8.ofNat char.toNat] := by
  have within : char.val.toNat ≤ 127 := Nat.le_of_lt_succ small
  rw [String.utf8EncodeChar]
  exact if_pos within

/-- So is a hexadecimal digit. -/
theorem utf8EncodeChar_hexDigit {value : Nat} (small : value < 16) :
    String.utf8EncodeChar (Bytes.hexDigit value) =
      [UInt8.ofNat (Bytes.hexDigit value).toNat] := by
  have all : ∀ v : Fin 16, (Bytes.hexDigit v.val).toNat < 128 := by decide
  exact utf8EncodeChar_of_lt (all ⟨value, small⟩)

/-- There is a text of any number of bytes. -/
theorem utf8ByteSize_replicate (count : Nat) :
    (String.ofList (List.replicate count 'a')).utf8ByteSize = count := by
  have single : 'a'.utf8Size = 1 := rfl
  rw [← length_encode, encode_ofList]
  simp [single]

/-- All bytes of a character from U+0080 on are at least `0x80`. -/
theorem le_of_mem_utf8EncodeChar {char : Char} (large : 128 ≤ char.toNat) {byte : UInt8}
    (member : byte ∈ String.utf8EncodeChar char) : 128 ≤ byte.toNat := by
  have beyond : ¬char.val.toNat ≤ 127 := Nat.not_le.2 large
  rw [String.utf8EncodeChar] at member
  simp only [beyond, if_false] at member
  split at member
  · simp only [List.mem_cons, List.not_mem_nil, or_false] at member
    rcases member with rfl | rfl <;> (rw [UInt8.toNat_ofNat']; omega)
  · split at member
    · simp only [List.mem_cons, List.not_mem_nil, or_false] at member
      rcases member with rfl | rfl | rfl <;> (rw [UInt8.toNat_ofNat']; omega)
    · simp only [List.mem_cons, List.not_mem_nil, or_false] at member
      rcases member with rfl | rfl | rfl | rfl <;> (rw [UInt8.toNat_ofNat']; omega)

/-! ## Order -/

/-- A smaller character comes first, whatever follows either of them. -/
theorem utf8EncodeChar_append_lt {a b : Char} (less : a < b) (as bs : Bytes) :
    String.utf8EncodeChar a ++ as < String.utf8EncodeChar b ++ bs := by
  have less' : a.val.toNat < b.val.toNat := less
  have bound : b.val.toNat < 0x110000 := by
    rcases b.valid with low | high
    · exact Nat.lt_trans low (by decide)
    · exact high.2
  rw [String.utf8EncodeChar, String.utf8EncodeChar]
  generalize a.val.toNat = v at less'
  generalize b.val.toNat = w at less' bound
  have tail (n : Nat) : (n % 64 + 128) % 2 ^ 8 = n % 64 + 128 := by omega
  have firstOfTwo (n : Nat) : (n % 32 + 192) % 2 ^ 8 = n % 32 + 192 := by omega
  have firstOfThree (n : Nat) : (n % 16 + 224) % 2 ^ 8 = n % 16 + 224 := by omega
  have firstOfFour (n : Nat) : (n % 8 + 240) % 2 ^ 8 = n % 8 + 240 := by omega
  have twice (n : Nat) : n / 4096 = n / 64 / 64 := by omega
  have thrice (n : Nat) : n / 262144 = n / 64 / 64 / 64 := by omega
  split_ifs <;>
    simp only [List.cons_append, List.nil_append, List.cons_lt_cons_iff, UInt8.lt_iff_toNat_lt,
      ← UInt8.toNat_inj, UInt8.toNat_ofNat', tail, firstOfTwo, firstOfThree, firstOfFour,
      twice, thrice] <;>
    omega

theorem encode_lt_of_lt {a b : String} (less : a < b) : encode a < encode b := by
  have chars : a.toList < b.toList := less
  rw [encode_eq_flatMap, encode_eq_flatMap]
  generalize a.toList = as at chars
  generalize b.toList = bs at chars
  induction as generalizing bs with
  | nil =>
    cases bs with
    | nil => exact absurd chars (List.lt_irrefl _)
    | cons b bs =>
      rw [List.flatMap_nil, List.flatMap_cons]
      cases bytes : String.utf8EncodeChar b with
      | nil => exact absurd bytes String.utf8EncodeChar_ne_nil
      | cons byte bytes => exact List.nil_lt_cons _ _
  | cons a as ih =>
    cases bs with
    | nil => exact absurd chars (List.not_lt_nil _)
    | cons b bs =>
      rw [List.flatMap_cons, List.flatMap_cons]
      rcases List.cons_lt_cons_iff.1 chars with less | ⟨rfl, rest⟩
      · exact utf8EncodeChar_append_lt less _ _
      · exact List.append_left_lt (ih bs rest)

/-- The order of texts is that of their bytes. -/
theorem encode_lt_iff {a b : String} : encode a < encode b ↔ a < b := by
  constructor
  · intro bytes
    rcases String.le_total b a with le | le
    · exfalso
      by_cases less : b < a
      · exact List.lt_asymm bytes (encode_lt_of_lt less)
      · have same := String.le_antisymm le (String.not_lt.1 less)
        rw [same] at bytes
        exact List.lt_irrefl _ bytes
    · by_cases less : a < b
      · exact less
      · have same := String.le_antisymm le (String.not_lt.1 less)
        rw [same] at bytes
        exact absurd bytes (List.lt_irrefl _)
  · exact encode_lt_of_lt

/-- The bytes of a text start with those of another one only if its characters do: where
two characters differ, so do their bytes, whatever follows them. -/
theorem encode_isPrefix_iff {start text : String} :
    encode start <+: encode text ↔ start.toList <+: text.toList := by
  rw [encode_eq_flatMap, encode_eq_flatMap]
  generalize start.toList = cs
  generalize text.toList = ds
  constructor
  · intro bytes
    induction cs generalizing ds with
    | nil => exact List.nil_prefix
    | cons c cs ih =>
      rcases bytes with ⟨rest, same⟩
      rw [List.flatMap_cons, List.append_assoc] at same
      cases ds with
      | nil => exact absurd (List.append_eq_nil_iff.1 same).1 String.utf8EncodeChar_ne_nil
      | cons d ds =>
        rw [List.flatMap_cons] at same
        have notLess : ¬c < d := by
          intro less
          have before := utf8EncodeChar_append_lt less (cs.flatMap String.utf8EncodeChar ++ rest)
            (ds.flatMap String.utf8EncodeChar)
          rw [same] at before
          exact List.lt_irrefl _ before
        have notGreater : ¬d < c := by
          intro less
          have before := utf8EncodeChar_append_lt less (ds.flatMap String.utf8EncodeChar)
            (cs.flatMap String.utf8EncodeChar ++ rest)
          rw [same] at before
          exact List.lt_irrefl _ before
        have equal : c = d := Char.le_antisymm (Char.not_lt.1 notGreater) (Char.not_lt.1 notLess)
        subst equal
        rw [List.cons_prefix_cons]
        exact ⟨rfl, ih ds ⟨rest, List.append_cancel_left same⟩⟩
  · rintro ⟨rest, rfl⟩
    rw [List.flatMap_append]
    exact List.prefix_append _ _

end ControlPlane.Utf8
