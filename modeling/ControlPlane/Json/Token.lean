import ControlPlane.Text.Digits
import ControlPlane.Text.Utf8

/-!
# Tokens of a JSON text

A JSON text is read in two steps, through the list of its tokens.  White space
between tokens is space, tab, line feed and carriage return.  The list ends with
`broken` where the text stops being made of tokens, so that a reader meets the
problem only after everything before it.

Some problems depend on whether anyone asks for the value.  A text token without
content is well formed but stands for no text: its escapes name half a surrogate
pair, or its bytes are not UTF-8.  A number that is too large for a floating point
value is marked as not finite.  Both may be skipped, and neither can be read.
-/

namespace ControlPlane.Json

/-- A number, as far as readers tell numbers apart. -/
inductive Number where
  /-- An integer of 64 bits, signed or unsigned. -/
  | integer (value : Int)
  /-- Any other number; whether a floating point value is large enough for it. -/
  | real (finite : Bool)
  deriving DecidableEq, Repr

/-- A token. -/
inductive Token where
  | openBrace
  | closeBrace
  | openBracket
  | closeBracket
  | colon
  | comma
  | null
  | boolean (value : Bool)
  | number (value : Number)
  /-- A quoted text; its content, if it stands for one. -/
  | text (content : Option String)
  /-- The text is not made of tokens from here on. -/
  | broken
  deriving DecidableEq, Repr

/-! ## Bytes -/

/-- The byte of an ASCII character. -/
def byteOf (char : Char) : UInt8 := UInt8.ofNat char.toNat

/-- Whether a byte is a decimal digit. -/
def isDigitByte (byte : UInt8) : Bool :=
  48 ≤ byte && byte ≤ 57

/-- Whether a byte is white space. -/
def isSpaceByte (byte : UInt8) : Bool :=
  byte == 32 || byte == 9 || byte == 10 || byte == 13

/-- The value of four hexadecimal digits. -/
def hexQuad? (a b c d : UInt8) : Option Nat :=
  match Bytes.hexValue? (Char.ofUInt8 a), Bytes.hexValue? (Char.ofUInt8 b),
    Bytes.hexValue? (Char.ofUInt8 c), Bytes.hexValue? (Char.ofUInt8 d) with
  | some a, some b, some c, some d => some (a * 4096 + b * 256 + c * 16 + d)
  | _, _, _, _ => none

/-! ## Quoted texts -/

/-- The byte that a one-letter escape stands for. -/
def escapedByte? (letter : UInt8) : Option UInt8 :=
  if letter = byteOf '"' then some 34
  else if letter = byteOf '\\' then some 92
  else if letter = byteOf '/' then some 47
  else if letter = byteOf 'b' then some 8
  else if letter = byteOf 'f' then some 12
  else if letter = byteOf 'n' then some 10
  else if letter = byteOf 'r' then some 13
  else if letter = byteOf 't' then some 9
  else none

/-- Whether a code unit is the first half of a surrogate pair. -/
def isLeadUnit (unit : Nat) : Bool := 0xD800 ≤ unit && unit ≤ 0xDBFF

/-- Whether a code unit is the second half of a surrogate pair. -/
def isTrailUnit (unit : Nat) : Bool := 0xDC00 ≤ unit && unit ≤ 0xDFFF

/-- The code point of a surrogate pair. -/
def pairedUnits (lead trail : Nat) : Nat :=
  0x10000 + (lead - 0xD800) * 1024 + (trail - 0xDC00)

/-- What an escape stands for. -/
structure Escape where
  /-- The UTF-8 bytes of its character; none for half a surrogate pair. -/
  content : Bytes
  /-- Whether the escape stands for a character. -/
  paired : Bool
  deriving DecidableEq, Repr

/-- The escape of a code point. -/
def Escape.ofCode (code : Nat) : Escape :=
  ⟨Utf8.encode (String.singleton (Char.ofNat code)), true⟩

/-- The escape of half a surrogate pair. -/
def Escape.half : Escape := ⟨[], false⟩

/-- A code unit of four hexadecimal digits at the front. -/
def unit? : Bytes → Option (Nat × Bytes)
  | a :: b :: c :: d :: rest => (hexQuad? a b c d).map fun unit => (unit, rest)
  | _ => none

/-- The second half of a surrogate pair, if the bytes begin with an escape of one. -/
def trailUnit? : Bytes → Option (Nat × Bytes)
  | slash :: letter :: rest =>
    if slash = byteOf '\\' ∧ letter = byteOf 'u' then
      (unit? rest).filter fun (unit, _) => isTrailUnit unit
    else none
  | _ => none

/-- Reads an escape from behind its backslash.  The first half of a surrogate pair
takes the second one with it. -/
def scanEscape : Bytes → Option (Escape × Bytes)
  | [] => none
  | letter :: rest =>
    if letter = byteOf 'u' then
      match unit? rest with
      | none => none
      | some (unit, rest) =>
        if isLeadUnit unit then
          match trailUnit? rest with
          | some (trail, rest) => some (.ofCode (pairedUnits unit trail), rest)
          | none => some (.half, rest)
        else if isTrailUnit unit then some (.half, rest)
        else some (.ofCode unit, rest)
    else (escapedByte? letter).map fun byte => (⟨[byte], true⟩, rest)

theorem length_of_unit? {bytes rest : Bytes} {unit : Nat}
    (found : unit? bytes = some (unit, rest)) : rest.length < bytes.length := by
  match bytes with
  | a :: b :: c :: d :: tail =>
    obtain ⟨_, -, same⟩ := Option.map_eq_some_iff.1 found
    obtain ⟨-, rfl⟩ := Prod.mk.inj same
    simp only [List.length_cons]
    omega

theorem length_of_trailUnit? {bytes rest : Bytes} {unit : Nat}
    (found : trailUnit? bytes = some (unit, rest)) : rest.length < bytes.length := by
  match bytes with
  | slash :: letter :: tail =>
    rw [trailUnit?] at found
    split at found
    · have shorter := length_of_unit? (Option.filter_eq_some_iff.1 found).1
      simp only [List.length_cons]
      omega
    · cases found

theorem length_of_scanEscape {bytes rest : Bytes} {escape : Escape}
    (found : scanEscape bytes = some (escape, rest)) : rest.length < bytes.length := by
  match bytes with
  | letter :: tail =>
    rw [scanEscape] at found
    simp only [List.length_cons]
    split at found
    · split at found
      · cases found
      · rename_i read
        have shorter := length_of_unit? read
        split at found
        · split at found
          · rename_i trail
            have shorter' := length_of_trailUnit? trail
            obtain ⟨-, rfl⟩ := Prod.mk.inj (Option.some.inj found)
            omega
          · obtain ⟨-, rfl⟩ := Prod.mk.inj (Option.some.inj found)
            omega
        · split at found
          · obtain ⟨-, rfl⟩ := Prod.mk.inj (Option.some.inj found)
            omega
          · obtain ⟨-, rfl⟩ := Prod.mk.inj (Option.some.inj found)
            omega
    · obtain ⟨_, -, same⟩ := Option.map_eq_some_iff.1 found
      obtain ⟨-, rfl⟩ := Prod.mk.inj same
      omega

/-- The content of a quoted text that has been read, if it stands for one.  The
bytes are given last first. -/
def contentOf (paired : Bool) (reversed : Bytes) : Option String :=
  if paired then (Utf8.decode reversed.reverse).toOption else none

/-- Reads a quoted text from behind its first quote.  The bytes so far are kept last
first, and `paired` says that every escape so far stands for a character. -/
def scanText (paired : Bool) (acc : Bytes) : Bytes → Option (Option String × Bytes)
  | [] => none
  | byte :: rest =>
    if byte = byteOf '"' then some (contentOf paired acc, rest)
    else if byte < 0x20 then none
    else if byte = byteOf '\\' then
      match _found : scanEscape rest with
      | none => none
      | some (escape, rest') =>
        scanText (paired && escape.paired) (escape.content.reverse ++ acc) rest'
    else scanText paired (byte :: acc) rest
termination_by bytes => bytes.length
decreasing_by
  · have shorter := length_of_scanEscape _found
    simp only [List.length_cons]
    omega
  · simp only [List.length_cons]
    omega

/-! ## Numbers -/

/-- The greatest significand that is kept of a long number. -/
def significandLimit : Nat := UInt64.size - 1

/-- Appends digits to a significand for as long as it stays within its limit, and
returns the digits that are left. -/
def absorb (significand : Nat) : Bytes → Nat × Bytes
  | [] => (significand, [])
  | digit :: rest =>
    let next := significand * 10 + (digit.toNat - 48)
    if next ≤ significandLimit then absorb next rest else (significand, digit :: rest)

/-- A positive number rounded to 53 significant bits, ties to even. -/
def roundTo53 (value : Nat) : Nat :=
  if value.log2 ≤ 52 then value
  else
    let step := Nat.pow 2 (value.log2 - 52)
    let quotient := value / step
    let remainder := value % step
    let up := step < 2 * remainder ∨ (2 * remainder = step ∧ quotient % 2 = 1)
    (if up then quotient + 1 else quotient) * step

/-- Whether the product of a significand and a power of ten, each rounded to 53 bits,
is below the bound from which floating point values round to infinity. -/
def isFinite (significand : Nat) (exponent : Int) : Bool :=
  significand == 0 || exponent ≤ 0 ||
    (exponent ≤ 308 &&
      roundTo53 significand * roundTo53 (Nat.pow 10 exponent.toNat) < Text.floatBound)

/-- The value of the digits of an exponent, which counts no further than 10¹⁰. -/
def exponentSize (digits : Bytes) : Nat :=
  digits.foldl (fun size digit => min (size * 10 + (digit.toNat - 48)) 10000000000) 0

/-- The digits at the front, and the bytes behind them. -/
def splitDigits (bytes : Bytes) : Bytes × Bytes :=
  (bytes.takeWhile isDigitByte, bytes.dropWhile isDigitByte)

theorem length_splitDigits (bytes : Bytes) :
    (splitDigits bytes).1.length + (splitDigits bytes).2.length = bytes.length := by
  rw [splitDigits, ← List.length_append, List.takeWhile_append_dropWhile]

/-- The fraction of a number, its point left out, if it is well formed. -/
def scanFraction : Bytes → Option (Bytes × Bytes)
  | [] => some ([], [])
  | byte :: rest =>
    if byte = byteOf '.' then
      match splitDigits rest with
      | ([], _) => none
      | (digits, rest) => some (digits, rest)
    else some ([], byte :: rest)

/-- Whether a minus sign stands at the front, and the bytes behind a sign. -/
def scanSign : Bytes → Bool × Bytes
  | [] => (false, [])
  | byte :: rest =>
    if byte = byteOf '-' then (true, rest)
    else if byte = byteOf '+' then (false, rest)
    else (false, byte :: rest)

theorem length_scanSign (bytes : Bytes) : (scanSign bytes).2.length ≤ bytes.length := by
  match bytes with
  | [] => exact Nat.le_refl _
  | byte :: rest =>
    rw [scanSign]
    split
    · simp
    · split <;> simp

/-- The exponent of a number, if it has one and it is well formed. -/
def scanExponent : Bytes → Option (Option Int × Bytes)
  | [] => some (none, [])
  | byte :: rest =>
    if byte = byteOf 'e' ∨ byte = byteOf 'E' then
      match splitDigits (scanSign rest).2 with
      | ([], _) => none
      | (digits, rest') =>
        let size : Int := exponentSize digits
        some (some (if (scanSign rest).1 then -size else size), rest')
    else some (none, byte :: rest)

/-- The number of some digits, a fraction and an exponent. -/
def numberOf (negative : Bool) (whole fraction : Bytes) (exponent : Option Int) : Number :=
  let (significand, dropped) := absorb 0 whole
  if fraction.isEmpty && exponent.isNone && dropped.isEmpty &&
      (if negative then 0 < significand && Int64.minValue.toInt ≤ -(significand : Int) else true)
  then
    .integer (if negative then -(significand : Int) else significand)
  else
    let (significand, cut) := absorb significand fraction
    let places : Int := fraction.length - cut.length
    .real (isFinite significand (dropped.length - places + exponent.getD 0))

/-- The digits before the point: no zero stands before another digit. -/
def scanWhole (bytes : Bytes) : Option (Bytes × Bytes) :=
  match splitDigits bytes with
  | ([], _) => none
  | (first :: more, rest) =>
    if first = byteOf '0' ∧ more ≠ [] then none else some (first :: more, rest)

/-- Reads a number from behind its sign. -/
def scanNumber (negative : Bool) (bytes : Bytes) : Option (Number × Bytes) :=
  match scanWhole bytes with
  | none => none
  | some (whole, rest) =>
    match scanFraction rest with
    | none => none
    | some (fraction, rest) =>
      match scanExponent rest with
      | none => none
      | some (exponent, rest) => some (numberOf negative whole fraction exponent, rest)

/-! ## Scanning moves forward -/

theorem length_of_scanText {paired : Bool} {acc bytes rest : Bytes} {content : Option String}
    (found : scanText paired acc bytes = some (content, rest)) : rest.length < bytes.length := by
  fun_induction scanText paired acc bytes with
  | case1 => cases found
  | case2 =>
    obtain ⟨-, rfl⟩ := Prod.mk.inj (Option.some.inj found)
    simp
  | case3 => cases found
  | case4 => cases found
  | case5 _ _ _ _ _ read _ _ ih =>
    have shorter := length_of_scanEscape read
    have shorter' := ih found
    simp only [List.length_cons]
    omega
  | case6 =>
    rename_i ih
    have shorter := ih found
    simp only [List.length_cons]
    omega

theorem length_of_scanWhole {bytes digits rest : Bytes}
    (found : scanWhole bytes = some (digits, rest)) : rest.length < bytes.length := by
  unfold scanWhole at found
  have total := length_splitDigits bytes
  split at found
  · cases found
  · rename_i same
    split at found
    · cases found
    · obtain ⟨-, rfl⟩ := Prod.mk.inj (Option.some.inj found)
      simp only [same, List.length_cons] at total
      omega

theorem length_of_scanFraction {bytes digits rest : Bytes}
    (found : scanFraction bytes = some (digits, rest)) : rest.length ≤ bytes.length := by
  match bytes with
  | [] =>
    obtain ⟨-, rfl⟩ := Prod.mk.inj (Option.some.inj found)
    exact Nat.le_refl _
  | byte :: tail =>
    rw [scanFraction] at found
    have total := length_splitDigits tail
    split at found
    · split at found
      · cases found
      · rename_i same
        obtain ⟨-, rfl⟩ := Prod.mk.inj (Option.some.inj found)
        simp only [same] at total
        simp only [List.length_cons]
        omega
    · obtain ⟨-, rfl⟩ := Prod.mk.inj (Option.some.inj found)
      exact Nat.le_refl _

theorem length_of_scanExponent {bytes rest : Bytes} {exponent : Option Int}
    (found : scanExponent bytes = some (exponent, rest)) : rest.length ≤ bytes.length := by
  match bytes with
  | [] =>
    obtain ⟨-, rfl⟩ := Prod.mk.inj (Option.some.inj found)
    exact Nat.le_refl _
  | byte :: tail =>
    rw [scanExponent] at found
    split at found
    · have total := length_splitDigits (scanSign tail).2
      have signed := length_scanSign tail
      split at found
      · cases found
      · rename_i same
        obtain ⟨-, rfl⟩ := Prod.mk.inj (Option.some.inj found)
        simp only [same] at total
        simp only [List.length_cons]
        omega
    · obtain ⟨-, rfl⟩ := Prod.mk.inj (Option.some.inj found)
      exact Nat.le_refl _

theorem length_of_scanNumber {negative : Bool} {bytes rest : Bytes} {value : Number}
    (found : scanNumber negative bytes = some (value, rest)) : rest.length < bytes.length := by
  unfold scanNumber at found
  split at found
  · cases found
  · rename_i whole
    have shorter := length_of_scanWhole whole
    split at found
    · cases found
    · rename_i fraction
      have shorter' := length_of_scanFraction fraction
      split at found
      · cases found
      · rename_i exponent
        have shorter'' := length_of_scanExponent exponent
        obtain ⟨-, rfl⟩ := Prod.mk.inj (Option.some.inj found)
        omega

/-! ## All tokens -/

/-- The rest of the bytes behind a word, if they begin with it. -/
def dropWord? (word bytes : Bytes) : Option Bytes :=
  if word.isPrefixOf bytes then some (bytes.drop word.length) else none

/-- The token of a byte that is a token by itself. -/
def markToken? (byte : UInt8) : Option Token :=
  if byte = byteOf ',' then some .comma
  else if byte = byteOf ':' then some .colon
  else if byte = 0x7B then some .openBrace
  else if byte = 0x7D then some .closeBrace
  else if byte = byteOf '[' then some .openBracket
  else if byte = byteOf ']' then some .closeBracket
  else none

/-- The rest of the word that a letter begins, and the token of the word. -/
def wordToken? (letter : UInt8) : Option (Bytes × Token) :=
  if letter = byteOf 'n' then some (Utf8.encode "ull", .null)
  else if letter = byteOf 't' then some (Utf8.encode "rue", .boolean true)
  else if letter = byteOf 'f' then some (Utf8.encode "alse", .boolean false)
  else none

/-- Reads one token, given its first byte and the bytes behind that. -/
def scanToken (first : UInt8) (rest : Bytes) : Option (Token × Bytes) :=
  if first = byteOf '"' then
    (scanText true [] rest).map fun (content, rest) => (.text content, rest)
  else if first = byteOf '-' then
    (scanNumber true rest).map fun (value, rest) => (.number value, rest)
  else if isDigitByte first then
    (scanNumber false (first :: rest)).map fun (value, rest) => (.number value, rest)
  else
    match markToken? first with
    | some token => some (token, rest)
    | none =>
      match wordToken? first with
      | some (word, token) => (dropWord? word rest).map fun rest => (token, rest)
      | none => none

theorem length_of_scanToken {first : UInt8} {bytes rest : Bytes} {token : Token}
    (found : scanToken first bytes = some (token, rest)) : rest.length ≤ bytes.length := by
  unfold scanToken at found
  split at found
  · obtain ⟨_, read, same⟩ := Option.map_eq_some_iff.1 found
    obtain ⟨-, rfl⟩ := Prod.mk.inj same
    exact Nat.le_of_lt (length_of_scanText read)
  · split at found
    · obtain ⟨_, read, same⟩ := Option.map_eq_some_iff.1 found
      obtain ⟨-, rfl⟩ := Prod.mk.inj same
      exact Nat.le_of_lt (length_of_scanNumber read)
    · split at found
      · obtain ⟨_, read, same⟩ := Option.map_eq_some_iff.1 found
        obtain ⟨-, rfl⟩ := Prod.mk.inj same
        have shorter := length_of_scanNumber read
        rw [List.length_cons] at shorter
        omega
      · split at found
        · obtain ⟨-, rfl⟩ := Prod.mk.inj (Option.some.inj found)
          exact Nat.le_refl _
        · split at found
          · obtain ⟨_, read, same⟩ := Option.map_eq_some_iff.1 found
            obtain ⟨-, rfl⟩ := Prod.mk.inj same
            unfold dropWord? at read
            split at read
            · obtain rfl := Option.some.inj read
              simp
            · cases read
          · cases found

/-- Reads tokens onto those read so far, which are kept last first. -/
def tokensOnto (acc : List Token) : Bytes → List Token
  | [] => acc.reverse
  | first :: rest =>
    if isSpaceByte first then tokensOnto acc rest
    else
      match _found : scanToken first rest with
      | some (token, rest') => tokensOnto (token :: acc) rest'
      | none => (.broken :: acc).reverse
termination_by bytes => bytes.length
decreasing_by
  · simp
  · have shorter := length_of_scanToken _found
    simp only [List.length_cons]
    omega

/-- The tokens of a JSON text. -/
def tokens (bytes : Bytes) : List Token :=
  tokensOnto [] bytes

end ControlPlane.Json
