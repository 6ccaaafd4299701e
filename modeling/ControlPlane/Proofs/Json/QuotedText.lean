import ControlPlane.Json.Document
import ControlPlane.Proofs.Text.Utf8Bytes

/-!
# Quoted texts read back

The scanner takes a quoted text apart byte by byte, while the writer escapes it
character by character.  The two meet at single characters: the scanner passes over
the escaped form of a character and has collected exactly the bytes of the character
itself.  No character is lost or merged with the next one, because an escape has a
fixed length and the bytes of a longer character are neither quotes nor backslashes.
-/

namespace ControlPlane.Json

/-! ## Steps of the scanner -/

theorem scanText_quote (paired : Bool) (acc rest : Bytes) :
    scanText paired acc (byteOf '"' :: rest) = some (contentOf paired acc, rest) := by
  rw [scanText, if_pos rfl]

theorem scanText_plain {byte : UInt8} (notQuote : byte ≠ byteOf '"') (visible : ¬byte < 0x20)
    (notSlash : byte ≠ byteOf '\\') (paired : Bool) (acc rest : Bytes) :
    scanText paired acc (byte :: rest) = scanText paired (byte :: acc) rest := by
  rw [scanText, if_neg notQuote, if_neg visible, if_neg notSlash]

theorem scanText_escape {rest rest' : Bytes} {escape : Escape}
    (read : scanEscape rest = some (escape, rest')) (paired : Bool) (acc : Bytes) :
    scanText paired acc (byteOf '\\' :: rest) =
      scanText (paired && escape.paired) (escape.content.reverse ++ acc) rest' := by
  rw [scanText, if_neg (by decide), if_neg (by decide), if_pos rfl]
  split
  · rename_i none
    rw [read] at none
    cases none
  · rename_i found
    rw [read] at found
    cases found
    rfl

/-- Bytes from `0x80` on are passed over as they are. -/
theorem scanText_high {bytes : Bytes} (high : ∀ byte ∈ bytes, 128 ≤ byte.toNat) (paired : Bool)
    (acc rest : Bytes) :
    scanText paired acc (bytes ++ rest) = scanText paired (bytes.reverse ++ acc) rest := by
  induction bytes generalizing acc with
  | nil => rfl
  | cons byte bytes ih =>
    have first : 128 ≤ byte.toNat := high byte List.mem_cons_self
    have notQuote : byte ≠ byteOf '"' := by
      rintro rfl
      exact absurd first (by decide)
    have notSlash : byte ≠ byteOf '\\' := by
      rintro rfl
      exact absurd first (by decide)
    have visible : ¬byte < 0x20 := by
      intro control
      have control' : byte.toNat < 32 := control
      exact absurd first (by omega)
    rw [List.cons_append, scanText_plain notQuote visible notSlash,
      ih fun byte member => high byte (List.mem_cons_of_mem _ member), List.reverse_cons,
      List.append_assoc]
    rfl

/-! ## Single characters -/

/-- The bytes of a list of characters. -/
def charBytes (chars : List Char) : Bytes :=
  chars.flatMap String.utf8EncodeChar

@[simp]
theorem charBytes_nil : charBytes [] = [] := rfl

theorem charBytes_cons (char : Char) (chars : List Char) :
    charBytes (char :: chars) = String.utf8EncodeChar char ++ charBytes chars :=
  List.flatMap_cons

theorem charBytes_append (front back : List Char) :
    charBytes (front ++ back) = charBytes front ++ charBytes back :=
  List.flatMap_append

/-- A character that is written with one letter behind a backslash. -/
theorem scanText_letter {letter : Char} {byte : UInt8}
    (small : letter.toNat < 128) (notUnit : byteOf letter ≠ byteOf 'u')
    (known : escapedByte? (byteOf letter) = some byte) (acc rest : Bytes) :
    scanText true acc (charBytes ['\\', letter] ++ rest) = scanText true (byte :: acc) rest := by
  have bytes : charBytes ['\\', letter] = [byteOf '\\', byteOf letter] := by
    rw [charBytes_cons, charBytes_cons, Utf8.utf8EncodeChar_of_lt small]
    rfl
  have read : scanEscape (byteOf letter :: rest) = some (⟨[byte], true⟩, rest) := by
    rw [scanEscape, if_neg notUnit, known]
    rfl
  rw [bytes]
  exact scanText_escape read true acc

/-- The value of four digits of which the first two are zero. -/
theorem hexQuad?_low {value : Nat} (small : value < 32) :
    hexQuad? (byteOf '0') (byteOf '0') (byteOf (Bytes.hexDigit (value / 16)))
      (byteOf (Bytes.hexDigit (value % 16))) = some value := by
  have all : ∀ v : Fin 32,
      hexQuad? (byteOf '0') (byteOf '0') (byteOf (Bytes.hexDigit (v.val / 16)))
        (byteOf (Bytes.hexDigit (v.val % 16))) = some v.val := by decide
  exact all ⟨value, small⟩

/-- A control character that is written by its code. -/
theorem scanText_control {char : Char} (control : char.toNat < 32) (acc rest : Bytes) :
    scanText true acc
        (charBytes ['\\', 'u', '0', '0', Bytes.hexDigit (char.toNat / 16),
          Bytes.hexDigit (char.toNat % 16)] ++ rest) =
      scanText true ((String.utf8EncodeChar char).reverse ++ acc) rest := by
  have bytes : charBytes ['\\', 'u', '0', '0', Bytes.hexDigit (char.toNat / 16),
      Bytes.hexDigit (char.toNat % 16)] =
        [byteOf '\\', byteOf 'u', byteOf '0', byteOf '0',
          byteOf (Bytes.hexDigit (char.toNat / 16)),
          byteOf (Bytes.hexDigit (char.toNat % 16))] := by
    simp only [charBytes_cons, charBytes_nil]
    rw [Utf8.utf8EncodeChar_hexDigit (by omega), Utf8.utf8EncodeChar_hexDigit (by omega)]
    rfl
  have notLead : isLeadUnit char.toNat = false := by
    simp only [isLeadUnit, Bool.and_eq_false_iff, decide_eq_false_iff_not]
    omega
  have notTrail : isTrailUnit char.toNat = false := by
    simp only [isTrailUnit, Bool.and_eq_false_iff, decide_eq_false_iff_not]
    omega
  have read : scanEscape (byteOf 'u' :: byteOf '0' :: byteOf '0' ::
      byteOf (Bytes.hexDigit (char.toNat / 16)) ::
      byteOf (Bytes.hexDigit (char.toNat % 16)) :: rest) =
        some (.ofCode char.toNat, rest) := by
    rw [scanEscape, if_pos rfl, unit?, hexQuad?_low (by omega)]
    simp only [Option.map_some, notLead, notTrail, Bool.false_eq_true, if_false]
  rw [bytes]
  have step := scanText_escape read true acc
  rw [Escape.ofCode, Char.ofNat_toNat, Utf8.encode_singleton] at step
  exact step

/-- A character that needs no escape is passed over as it is. -/
theorem scanText_char {char : Char} (notQuote : char ≠ '"') (notSlash : char ≠ '\\')
    (visible : ¬char.toNat < 32) (paired : Bool) (acc rest : Bytes) :
    scanText paired acc (String.utf8EncodeChar char ++ rest) =
      scanText paired ((String.utf8EncodeChar char).reverse ++ acc) rest := by
  rcases Nat.lt_or_ge char.toNat 128 with small | large
  · have byteEq : (UInt8.ofNat char.toNat).toNat = char.toNat := by
      rw [UInt8.toNat_ofNat']
      omega
    rw [Utf8.utf8EncodeChar_of_lt small]
    apply scanText_plain
    · intro same
      apply notQuote
      have code := congrArg UInt8.toNat same
      rw [byteEq] at code
      exact Char.toNat_inj.1 code
    · intro control
      have control' : (UInt8.ofNat char.toNat).toNat < 32 := control
      rw [byteEq] at control'
      exact visible control'
    · intro same
      apply notSlash
      have code := congrArg UInt8.toNat same
      rw [byteEq] at code
      exact Char.toNat_inj.1 code
  · exact scanText_high (fun _ => Utf8.le_of_mem_utf8EncodeChar large) paired acc rest

/-- The scanner passes over the escaped form of a character and keeps its bytes. -/
theorem scanText_escapeChar (char : Char) (acc rest : Bytes) :
    scanText true acc (charBytes (escapeChar char) ++ rest) =
      scanText true ((String.utf8EncodeChar char).reverse ++ acc) rest := by
  rw [escapeChar]
  split
  · subst_vars
    exact scanText_letter (by decide) (by decide) rfl acc rest
  split
  · subst_vars
    exact scanText_letter (by decide) (by decide) rfl acc rest
  split
  · subst_vars
    exact scanText_letter (by decide) (by decide) rfl acc rest
  split
  · subst_vars
    exact scanText_letter (by decide) (by decide) rfl acc rest
  split
  · subst_vars
    exact scanText_letter (by decide) (by decide) rfl acc rest
  split
  · subst_vars
    exact scanText_letter (by decide) (by decide) rfl acc rest
  split
  · subst_vars
    exact scanText_letter (by decide) (by decide) rfl acc rest
  split
  · rename_i control
    exact scanText_control control acc rest
  · rename_i notQuote notSlash _ _ _ _ _ visible
    rw [charBytes_cons, charBytes_nil, List.append_nil]
    exact scanText_char notQuote notSlash visible true acc rest

/-! ## Whole texts -/

theorem scanText_escaped (chars : List Char) (acc rest : Bytes) :
    scanText true acc (charBytes (chars.flatMap escapeChar) ++ rest) =
      scanText true ((charBytes chars).reverse ++ acc) rest := by
  induction chars generalizing acc with
  | nil => rfl
  | cons char chars ih =>
    rw [List.flatMap_cons, charBytes_append, List.append_assoc, scanText_escapeChar, ih,
      charBytes_cons, List.reverse_append, List.append_assoc]

theorem encode_quote (text : String) :
    Utf8.encode (quote text) =
      byteOf '"' :: (charBytes (text.toList.flatMap escapeChar) ++ [byteOf '"']) := by
  have body : Utf8.encode (String.ofList (text.toList.flatMap escapeChar)) =
      charBytes (text.toList.flatMap escapeChar) := Utf8.encode_ofList _
  rw [quote, Utf8.encode_append, Utf8.encode_append, body]
  rfl

/-- A quoted text is scanned up to its closing quote and stands for itself. -/
theorem scanToken_quote (text : String) (rest : Bytes) :
    scanToken (byteOf '"') (charBytes (text.toList.flatMap escapeChar) ++
        byteOf '"' :: rest) =
      some (.text (some text), rest) := by
  have content : contentOf true ((charBytes text.toList).reverse ++ []) = some text := by
    rw [contentOf, if_pos rfl, List.append_nil, List.reverse_reverse, charBytes,
      ← Utf8.encode_eq_flatMap, Utf8.decode_encode]
    rfl
  rw [scanToken, if_pos rfl, scanText_escaped, scanText_quote, content]
  rfl

end ControlPlane.Json
