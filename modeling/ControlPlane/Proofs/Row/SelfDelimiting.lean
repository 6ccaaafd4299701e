import ControlPlane.Proofs.Row.WrittenRows

/-!
# Written values delimit themselves

The reader of a codec is steady if bytes behind those that it takes make no difference to
it.  All readers are, because each part of a value says how long it is before it begins.
What a steady reader reads back from the whole bytes of a value it does not read from a
part of them that ends too early, and then it reads nothing at all.  No value begins with
the bytes of another one.
-/

namespace ControlPlane.Codec

variable {α β : Type}

/-! ## Steady readers -/

/-- Whatever is read from some bytes is read from them also where others follow. -/
def Steady (read : Bytes → Option (α × Bytes)) : Prop :=
  ∀ ⦃bytes value rest⦄, read bytes = some (value, rest) →
    ∀ behind, read (bytes ++ behind) = some (value, rest ++ behind)

theorem Steady.map {read : Bytes → Option (α × Bytes)} (steady : Steady read) (image : α → β) :
    Steady fun bytes => (read bytes).map fun (value, rest) => (image value, rest) := by
  intro bytes value rest found behind
  rcases Option.map_eq_some_iff.1 found with ⟨⟨value', rest'⟩, taken, same⟩
  cases same
  simp [steady taken behind]

theorem steady_splitBytes? (count : Nat) : Steady (splitBytes? count) := by
  intro bytes front rest found behind
  have whole : front.length = count := length_of_splitBytes? found
  simp only [splitBytes?, List.splitAt_eq] at found ⊢
  split at found
  · rename_i enough
    cases found
    have fits : count ≤ bytes.length := by
      rw [List.length_take] at enough
      omega
    simp [List.take_append_of_le_length fits, List.drop_append_of_le_length fits, fits]
  · cases found

theorem steady_decodeFixed (width : Nat) : Steady (decodeFixed width) :=
  (steady_splitBytes? width).map ofLittleEndian

theorem steady_decodeNumber : Steady decodeNumber := by
  intro bytes value rest found behind
  cases bytes with
  | nil => cases found
  | cons tag bytes =>
    simp only [List.cons_append, decodeNumber] at found ⊢
    -- The tag is the number itself or says how many bytes follow.
    split at found
    · cases found
      simp [*]
    · split at found
      · simp [*, steady_decodeFixed 2 found behind]
      · split at found
        · simp [*, steady_decodeFixed 4 found behind]
        · split at found
          · simp [*, steady_decodeFixed 8 found behind]
          · cases found

/-! ## Codecs -/

theorem steady_unsigned : Steady unsigned.decode :=
  steady_decodeNumber.map UInt64.ofNat

theorem steady_signed : Steady signed.decode :=
  steady_decodeNumber.map fun place => Int64.ofInt (uninterleave place)

theorem steady_bool : Steady bool.decode := by
  intro bytes value rest found behind
  simp only [bool] at found ⊢
  split at found
  · cases found
    rfl
  · cases found
    rfl
  · cases found

theorem steady_text : Steady text.decode := by
  intro bytes value rest found behind
  simp only [text] at found ⊢
  split at found
  · cases found
  · rename_i count tail counted
    rw [steady_decodeNumber counted behind]
    dsimp only
    split at found
    · cases found
    · rename_i front rest' cut
      rw [steady_splitBytes? count cut behind]
      dsimp only
      split at found
      · cases found
        simp [*]
      · cases found

variable {codec : Codec α}

theorem steady_option (steady : Steady codec.decode) : Steady (option codec).decode := by
  intro bytes value rest found behind
  simp only [option] at found ⊢
  split at found
  · cases found
    rfl
  · exact steady.map some found behind
  · cases found

theorem steady_decodeElements (steady : Steady codec.decode) (acc : List α) (count : Nat) :
    Steady (decodeElements codec acc count) := by
  induction count generalizing acc with
  | zero =>
    intro bytes values rest found behind
    cases found
    rfl
  | succ count ih =>
    intro bytes values rest found behind
    simp only [decodeElements] at found ⊢
    split at found
    · cases found
    · rename_i value rest' taken
      rw [steady taken behind]
      exact ih _ found behind

theorem steady_list (steady : Steady codec.decode) : Steady (list codec).decode := by
  intro bytes values rest found behind
  simp only [list] at found ⊢
  split at found
  · cases found
  · rename_i count rest' counted
    rw [steady_decodeNumber counted behind]
    exact steady_decodeElements steady [] count found behind

theorem steady_pair {second : Codec β} (steady : Steady codec.decode)
    (steady' : Steady second.decode) : Steady (codec.pair second).decode := by
  intro bytes value rest found behind
  simp only [pair] at found ⊢
  split at found
  · cases found
  · rename_i a rest' taken
    rw [steady taken behind]
    exact (steady'.map fun b => (a, b)) found behind

theorem steady_via (steady : Steady codec.decode) (image : β → α) (preimage : α → β) :
    Steady (codec.via image preimage).decode :=
  steady.map preimage

/-! ## Values that read back -/

theorem readsBack_bool (value : Bool) : bool.ReadsBack value := by
  intro rest
  cases value <;> rfl

theorem ReadsBack.option {value : Option α} (back : ∀ held ∈ value, codec.ReadsBack held) :
    (option codec).ReadsBack value := by
  intro rest
  cases value with
  | none => rfl
  | some held =>
    have read := back held rfl rest
    simp [Codec.option, read]

theorem decodeElements_flatMap {values : List α} (back : ∀ value ∈ values, codec.ReadsBack value)
    (acc : List α) (rest : Bytes) :
    decodeElements codec acc values.length (values.flatMap codec.encode ++ rest) =
      some (acc.reverse ++ values, rest) := by
  induction values generalizing acc with
  | nil => simp [decodeElements]
  | cons value values ih =>
    have first := back value List.mem_cons_self (values.flatMap codec.encode ++ rest)
    have others := ih (fun other member => back other (List.mem_cons_of_mem _ member))
      (value :: acc)
    simp [decodeElements, first, others]

/-- A list is read back if its elements are and its length fits 64 bits. -/
theorem ReadsBack.list {values : List α} (few : values.length < 2 ^ 64)
    (back : ∀ value ∈ values, codec.ReadsBack value) : (list codec).ReadsBack values := by
  intro rest
  have counted := decodeNumber_encodeNumber few (values.flatMap codec.encode ++ rest)
  have elements := decodeElements_flatMap back [] rest
  simp [Codec.list, counted, elements]

/-! ## Parts and beginnings of written values -/

variable {value other : α}

/-- Nothing is read from a part of a written value that ends too early. -/
theorem Steady.eq_none (steady : Steady codec.decode) (back : codec.ReadsBack value)
    {front behind : Bytes} (whole : front ++ behind = codec.encode value) (cut : behind ≠ []) :
    codec.decode front = none := by
  cases found : codec.decode front with
  | none => rfl
  | some taken =>
    -- What is read from the part would be left over when the whole is read.
    have more := steady found behind
    have all := back []
    rw [List.append_nil, ← whole, more] at all
    simp [cut] at all

/-- A value that begins with the bytes of another one is that value. -/
theorem ReadsBack.eq_of_isPrefix (back : codec.ReadsBack value) (back' : codec.ReadsBack other)
    (begins : codec.encode value <+: codec.encode other) : value = other := by
  rcases begins with ⟨behind, same⟩
  have read := back behind
  have read' := back' []
  rw [List.append_nil, ← same, read] at read'
  simp only [Option.some.injEq, Prod.mk.injEq] at read'
  exact read'.1

/-! ## Texts of any size -/

/-- How many bytes of a written number follow its first one. -/
def bytesBehind (tag : UInt8) : Nat :=
  if tag = 251 then 2 else if tag = 252 then 4 else if tag = 253 then 8 else 0

/-- The first byte of a written number says how many follow. -/
theorem encodeNumber_eq_cons (value : Nat) :
    ∃ tag more, encodeNumber value = tag :: more ∧ more.length = bytesBehind tag := by
  rw [encodeNumber]
  split
  · rename_i byte
    have other {tag : UInt8} (large : 251 ≤ tag.toNat) : UInt8.ofNat value ≠ tag := by
      rintro rfl
      rw [UInt8.toNat_ofNat'] at large
      omega
    refine ⟨_, [], rfl, ?_⟩
    rw [bytesBehind, if_neg (other (by decide)), if_neg (other (by decide)),
      if_neg (other (by decide))]
    rfl
  · split
    · exact ⟨_, _, rfl, length_littleEndian 2 value⟩
    · split
      · exact ⟨_, _, rfl, length_littleEndian 4 value⟩
      · exact ⟨_, _, rfl, length_littleEndian 8 value⟩

/-- What follows a written number is told from the number, also where it was cut to 64
bits. -/
theorem encodeNumber_append_inj {value other : Nat} {bytes bytes' : Bytes}
    (same : encodeNumber value ++ bytes = encodeNumber other ++ bytes') : bytes = bytes' := by
  rcases encodeNumber_eq_cons value with ⟨tag, more, written, width⟩
  rcases encodeNumber_eq_cons other with ⟨tag', more', written', width'⟩
  rw [written, written', List.cons_append, List.cons_append, List.cons.injEq] at same
  rcases same with ⟨rfl, same⟩
  exact (List.append_inj same (width.trans width'.symm)).2

/-- Two texts of any size have different bytes. -/
theorem encode_text_injective {value other : String}
    (same : text.encode value = text.encode other) : value = other :=
  Utf8.encode_injective (encodeNumber_append_inj same)

end ControlPlane.Codec
