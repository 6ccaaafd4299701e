import ControlPlane.Proofs.Text.Utf8Bytes
import ControlPlane.Row.Codec
import Mathlib.Algebra.Group.Int.Defs
import Mathlib.Algebra.Group.Nat.Defs

/-!
# Written rows read back

A value that a codec has written is read back from the front of any bytes that begin with
it.  Numbers are read back as long as they fit 64 bits, and texts as long as their lengths
do, which is so for every text that a machine can hold.
-/

namespace ControlPlane.Codec

variable {α β : Type}

/-! ## Numbers -/

@[simp]
theorem length_littleEndian (width value : Nat) : (littleEndian width value).length = width := by
  induction width generalizing value with
  | zero => rfl
  | succ width ih => simp [littleEndian, ih]

theorem ofLittleEndian_littleEndian {width value : Nat} (small : value < 256 ^ width) :
    ofLittleEndian (littleEndian width value) = value := by
  induction width generalizing value with
  | zero =>
    have zero : value = 0 := Nat.lt_one_iff.1 small
    rw [zero]
    rfl
  | succ width ih =>
    have smaller : value / 256 < 256 ^ width := by
      rw [Nat.pow_succ, Nat.mul_comm] at small
      exact Nat.div_lt_of_lt_mul small
    have low : (UInt8.ofNat (value % 256)).toNat = value % 256 := by
      rw [UInt8.toNat_ofNat']
      exact Nat.mod_mod value 256
    rw [littleEndian, ofLittleEndian, ih smaller, low]
    exact Nat.mod_add_div value 256

@[simp]
theorem splitBytes?_append (front rest : Bytes) :
    splitBytes? front.length (front ++ rest) = some (front, rest) := by
  simp [splitBytes?]

theorem decodeFixed_littleEndian {width value : Nat} (small : value < 256 ^ width)
    (rest : Bytes) : decodeFixed width (littleEndian width value ++ rest) = some (value, rest) := by
  have split := splitBytes?_append (littleEndian width value) rest
  rw [length_littleEndian] at split
  rw [decodeFixed, split]
  simp [ofLittleEndian_littleEndian small]

/-- A number of 64 bits is read back in the narrowest form that holds it. -/
theorem decodeNumber_encodeNumber {value : Nat} (small : value < 2 ^ 64) (rest : Bytes) :
    decodeNumber (encodeNumber value ++ rest) = some (value, rest) := by
  rw [encodeNumber]
  split
  · rename_i byte
    have same : (UInt8.ofNat value).toNat = value := by
      rw [UInt8.toNat_ofNat']
      exact Nat.mod_eq_of_lt (Nat.lt_trans byte (by decide))
    have below : UInt8.ofNat value < 251 := by
      rw [UInt8.lt_iff_toNat_lt, same]
      exact byte
    rw [List.singleton_append, decodeNumber, if_pos below, same]
  · split
    · rename_i word
      exact decodeFixed_littleEndian word rest
    · split
      · rename_i word
        exact decodeFixed_littleEndian word rest
      · exact decodeFixed_littleEndian small rest

/-! ## Values -/

/-- A value is read back from its bytes, whatever follows them. -/
def ReadsBack (codec : Codec α) (value : α) : Prop :=
  ∀ rest, codec.decode (codec.encode value ++ rest) = some (value, rest)

theorem ReadsBack.read? {codec : Codec α} {value : α} (back : codec.ReadsBack value) :
    codec.read? (codec.encode value) = some value := by
  have whole := back []
  rw [List.append_nil] at whole
  rw [Codec.read?, whole]
  rfl

theorem readsBack_unsigned (value : UInt64) : unsigned.ReadsBack value := by
  intro rest
  have read := decodeNumber_encodeNumber value.toNat_lt rest
  simp [unsigned, read]

/-- Interleaved, the signed numbers of 64 bits are the unsigned ones. -/
theorem interleave_lt {value : Int} (least : -2 ^ 63 ≤ value) (greatest : value < 2 ^ 63) :
    interleave value < 2 ^ 64 := by
  rw [interleave]
  split <;> omega

theorem readsBack_signed (value : Int64) : signed.ReadsBack value := by
  intro rest
  have read := decodeNumber_encodeNumber (interleave_lt value.le_toInt value.toInt_lt) rest
  simp [signed, read, uninterleave_interleave]

/-- Whether the length of a text fits 64 bits. -/
def Measured (value : String) : Prop :=
  value.utf8ByteSize < 2 ^ 64

instance (value : String) : Decidable (Measured value) :=
  inferInstanceAs (Decidable (_ < _))

theorem readsBack_text {value : String} (measured : Measured value) : text.ReadsBack value := by
  intro rest
  have count := decodeNumber_encodeNumber measured (Utf8.encode value ++ rest)
  have split := splitBytes?_append (Utf8.encode value) rest
  rw [← Utf8.length_encode] at count
  simp only [text, List.append_assoc, count, split, Utf8.decode_encode]

theorem ofLittleEndian_lt (bytes : Bytes) : ofLittleEndian bytes < 256 ^ bytes.length := by
  induction bytes with
  | nil => exact Nat.one_pos
  | cons byte rest ih =>
    have small := byte.toNat_lt
    rw [ofLittleEndian, List.length_cons, Nat.pow_succ]
    omega

theorem length_of_splitBytes? {count : Nat} {bytes front rest : Bytes}
    (cut : splitBytes? count bytes = some (front, rest)) : front.length = count := by
  rw [splitBytes?] at cut
  simp only at cut
  split at cut
  · rename_i whole
    cases cut
    exact whole
  · cases cut

theorem lt_of_decodeFixed {width value : Nat} {bytes rest : Bytes}
    (read : decodeFixed width bytes = some (value, rest)) : value < 256 ^ width := by
  rcases Option.map_eq_some_iff.1 read with ⟨⟨front, rest'⟩, cut, same⟩
  cases same
  rw [← length_of_splitBytes? cut]
  exact ofLittleEndian_lt front

/-- Every number that is read fits 64 bits. -/
theorem lt_of_decodeNumber {value : Nat} {bytes rest : Bytes}
    (read : decodeNumber bytes = some (value, rest)) : value < 2 ^ 64 := by
  cases bytes with
  | nil => cases read
  | cons tag bytes =>
    rw [decodeNumber] at read
    split at read
    · cases read
      exact Nat.lt_trans tag.toNat_lt (by decide)
    · split at read
      · exact Nat.lt_trans (lt_of_decodeFixed read) (by decide)
      · split at read
        · exact Nat.lt_trans (lt_of_decodeFixed read) (by decide)
        · split at read
          · exact lt_of_decodeFixed read
          · cases read

/-- The length of every text that is read fits 64 bits. -/
theorem measured_of_decode {value : String} {bytes rest : Bytes}
    (read : text.decode bytes = some (value, rest)) : Measured value := by
  simp only [text] at read
  split at read
  · cases read
  · rename_i count rest' counted
    split at read
    · cases read
    · rename_i front rest'' cut
      split at read
      · rename_i value' decoded
        cases read
        rw [Measured, ← Utf8.length_encode, Utf8.encode_of_decode decoded,
          length_of_splitBytes? cut]
        exact lt_of_decodeNumber counted
      · cases read

theorem ReadsBack.pair {first : Codec α} {second : Codec β} {value : α × β}
    (back : first.ReadsBack value.1) (back' : second.ReadsBack value.2) :
    (first.pair second).ReadsBack value := by
  intro rest
  simp only [Codec.pair, List.append_assoc, back (second.encode value.2 ++ rest), back' rest,
    Option.map_some]

theorem decode_pair_eq_some {first : Codec α} {second : Codec β} {value : α × β}
    {bytes rest : Bytes} (read : (first.pair second).decode bytes = some (value, rest)) :
    ∃ middle, first.decode bytes = some (value.1, middle) ∧
      second.decode middle = some (value.2, rest) := by
  simp only [Codec.pair] at read
  split at read
  · cases read
  · rename_i a middle readFirst
    rcases Option.map_eq_some_iff.1 read with ⟨⟨b, rest'⟩, readSecond, same⟩
    cases same
    exact ⟨middle, readFirst, readSecond⟩

theorem ReadsBack.via {codec : Codec α} {image : β → α} {preimage : α → β} {value : β}
    (back : codec.ReadsBack (image value)) (inverse : preimage (image value) = value) :
    (codec.via image preimage).ReadsBack value := by
  intro rest
  simp [Codec.via, back rest, inverse]

end ControlPlane.Codec
