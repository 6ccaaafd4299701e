import Mathlib.Data.List.Forall2
import ControlPlane.Json.Reader
import ControlPlane.Proofs.Json.ValueTexts

/-!
# Values that are passed over

Every value of the grammar is passed over from its first token to its last, at any depth:
none of its tokens is left and none behind it is taken.  This holds of numbers that are too
large for any reader and of texts that stand for none.
-/

namespace ControlPlane.Json

/-! ## Tokens of a piece of text -/

/-- The characters are read as some tokens, whatever stands behind them. -/
def Reads (chars : List Char) (pieces : List Token) : Prop :=
  ∀ acc rest, tokensOnto acc (charBytes chars ++ rest) = tokensOnto (pieces.reverse ++ acc) rest

/-- The characters are read as some tokens if what stands behind them ends a number. -/
def ReadsToEnd (chars : List Char) (pieces : List Token) : Prop :=
  ∀ acc rest, EndsNumber rest →
    tokensOnto acc (charBytes chars ++ rest) = tokensOnto (pieces.reverse ++ acc) rest

/-- A number ends before the characters, if they are nothing before what stands behind
them. -/
def EndsBefore (chars : List Char) : Prop :=
  ∀ rest, EndsNumber rest → EndsNumber (charBytes chars ++ rest)

variable {chars chars' : List Char} {pieces pieces' : List Token}

theorem Reads.toEnd (reads : Reads chars pieces) : ReadsToEnd chars pieces :=
  fun acc rest _ => reads acc rest

theorem Reads.append (reads : Reads chars pieces) (behind : Reads chars' pieces') :
    Reads (chars ++ chars') (pieces ++ pieces') := by
  intro acc rest
  rw [charBytes_append, List.append_assoc, reads, behind, List.reverse_append, List.append_assoc]

theorem Reads.appendToEnd (reads : Reads chars pieces) (behind : ReadsToEnd chars' pieces') :
    ReadsToEnd (chars ++ chars') (pieces ++ pieces') := by
  intro acc rest ends
  rw [charBytes_append, List.append_assoc, reads, behind _ _ ends, List.reverse_append,
    List.append_assoc]

theorem ReadsToEnd.append (reads : ReadsToEnd chars pieces) (behind : ReadsToEnd chars' pieces')
    (endsBefore : EndsBefore chars') :
    ReadsToEnd (chars ++ chars') (pieces ++ pieces') := by
  intro acc rest ends
  rw [charBytes_append, List.append_assoc, reads _ _ (endsBefore rest ends), behind _ _ ends,
    List.reverse_append, List.append_assoc]

/-- The tokens of characters are those that they are read as. -/
theorem ReadsToEnd.tokens_eq (reads : ReadsToEnd chars pieces) :
    tokens (charBytes chars) = pieces := by
  have whole := reads [] [] endsNumber_nil
  rw [List.append_nil, List.append_nil] at whole
  rw [tokens, whole, tokensOnto, List.reverse_reverse]

/-! ## Marks and white space -/

/-- The marks, with their tokens. -/
def marks : List (Char × Token) :=
  [(',', .comma), (':', .colon), ('\x7b', .openBrace), ('\x7d', .closeBrace),
    ('[', .openBracket), (']', .closeBracket)]

/-- A character that is a byte of its own, and ends a number. -/
def EndsAsByte (char : Char) : Prop :=
  char.toNat < 128 ∧ isDigitByte (byteOf char) = false ∧ byteOf char ≠ byteOf '.' ∧
    byteOf char ≠ byteOf 'e' ∧ byteOf char ≠ byteOf 'E'

instance (char : Char) : Decidable (EndsAsByte char) :=
  inferInstanceAs (Decidable (_ ∧ _))

theorem EndsAsByte.endsBefore {char : Char} (ends : EndsAsByte char) (behind : List Char) :
    EndsBefore (char :: behind) := by
  rcases ends with ⟨small, noDigit, noPoint, noSmall, noLarge⟩
  intro rest _
  rw [charBytes_small small]
  exact endsNumber_cons noDigit noPoint noSmall noLarge _

theorem endsAsByte_of_mark {mark : Char} {token : Token} (known : (mark, token) ∈ marks) :
    EndsAsByte mark := by
  have all : ∀ pair ∈ marks, EndsAsByte pair.1 := by decide
  exact all _ known

theorem reads_mark {mark : Char} {token : Token} (known : (mark, token) ∈ marks) :
    Reads [mark] [token] := by
  intro acc rest
  simp only [marks, List.mem_cons, List.not_mem_nil, or_false, Prod.mk.injEq] at known
  rcases known with ⟨rfl, rfl⟩ | ⟨rfl, rfl⟩ | ⟨rfl, rfl⟩ | ⟨rfl, rfl⟩ | ⟨rfl, rfl⟩ | ⟨rfl, rfl⟩ <;>
    exact tokensOnto_cons rfl rfl acc

theorem endsAsByte_of_space {char : Char} (space : char ∈ spaces) :
    EndsAsByte char ∧ isSpaceByte (byteOf char) = true := by
  simp only [spaces, List.mem_cons, List.not_mem_nil, or_false] at space
  rcases space with rfl | rfl | rfl | rfl <;> decide

namespace IsSpacing

variable {space : List Char} (spacing : IsSpacing space)

include spacing

/-- White space is no token. -/
theorem reads : Reads space [] := by
  intro acc rest
  induction space with
  | nil => rfl
  | cons char space ih =>
    rcases endsAsByte_of_space (spacing char List.mem_cons_self) with ⟨ends, isSpace⟩
    rw [charBytes_small ends.1, List.cons_append, tokensOnto, if_pos isSpace]
    exact ih fun char member => spacing char (List.mem_cons_of_mem _ member)

theorem endsBefore : EndsBefore space := by
  cases space with
  | nil => exact fun rest ends => ends
  | cons char space => exact (endsAsByte_of_space (spacing char List.mem_cons_self)).1.endsBefore _

end IsSpacing

namespace Spaced.IsPadded

variable {spaced : Spaced} (padded : spaced.IsPadded)

include padded

theorem readsToEnd (reads : ReadsToEnd spaced.core pieces) : ReadsToEnd spaced.chars pieces := by
  have behind := reads.append padded.after.reads.toEnd padded.after.endsBefore
  have whole := padded.before.reads.appendToEnd behind
  rwa [List.append_nil, List.nil_append] at whole

theorem reads (reads : Reads spaced.core pieces) : Reads spaced.chars pieces := by
  have whole := padded.before.reads.append (reads.append padded.after.reads)
  rwa [List.append_nil, List.nil_append] at whole

end Spaced.IsPadded

/-- The tokens of a name, its colon and its value. -/
theorem readsToEnd_labelled {member : Labelled} {label : Token}
    (padded : member.label.IsPadded ∧ member.value.IsPadded)
    (readsLabel : Reads member.label.core [label])
    (readsValue : ReadsToEnd member.value.core pieces) :
    ReadsToEnd member.chars (label :: .colon :: pieces) := by
  have colon : (':', Token.colon) ∈ marks := by decide
  have behind := (reads_mark colon).appendToEnd (padded.2.readsToEnd readsValue)
  exact (padded.1.reads readsLabel).appendToEnd behind

/-! ## Quoted texts -/

theorem charBytes_quoted (body : List Char) :
    charBytes (quoted body) = byteOf '"' :: (charBytes body ++ [byteOf '"']) := by
  rw [quoted, charBytes_small (by decide), charBytes_append]
  rfl

theorem tokensOnto_quoted {body : List Char} {rest : Bytes} {content : Option String}
    (read : scanText true [] (charBytes body ++ byteOf '"' :: rest) = some (content, rest))
    (acc : List Token) :
    tokensOnto acc (charBytes (quoted body) ++ rest) = tokensOnto (.text content :: acc) rest := by
  have scanned : scanToken (byteOf '"') (charBytes body ++ byteOf '"' :: rest) =
      some (.text content, rest) := by
    rw [scanToken, if_pos rfl, read]
    rfl
  rw [charBytes_quoted, List.cons_append, List.append_assoc]
  exact tokensOnto_cons rfl scanned acc

theorem IsBody.reads {body : List Char} (body_ : IsBody body) :
    ∃ content, Reads (quoted body) [.text content] := by
  rcases body_.scanText_eq true [] with ⟨content, read⟩
  exact ⟨content, fun acc rest => tokensOnto_quoted (read rest) acc⟩

theorem Spells.reads {body content : List Char} (spells : Spells body content) :
    Reads (quoted body) [.text (some (String.ofList content))] := by
  have collected : contentOf true ((charBytes content).reverse ++ []) =
      some (String.ofList content) := by
    rw [contentOf, if_pos rfl, List.append_nil, List.reverse_reverse, charBytes,
      ← Utf8.encode_ofList, Utf8.decode_encode]
    rfl
  intro acc rest
  apply tokensOnto_quoted
  rw [spells.scanText_eq, scanText_quote, collected]

/-! ## Words and numbers -/

/-- The words, with their tokens. -/
def words : List (List Char × Token) :=
  [(['n', 'u', 'l', 'l'], .null), (['t', 'r', 'u', 'e'], .boolean true),
    (['f', 'a', 'l', 's', 'e'], .boolean false)]

theorem reads_word {word : List Char} {token : Token} (known : (word, token) ∈ words) :
    Reads word [token] := by
  intro acc rest
  simp only [words, List.mem_cons, List.not_mem_nil, or_false, Prod.mk.injEq] at known
  rcases known with ⟨rfl, rfl⟩ | ⟨rfl, rfl⟩ | ⟨rfl, rfl⟩ <;> exact tokensOnto_cons rfl rfl acc

theorem IsNumber.reads (number : IsNumber chars) :
    ∃ value, ReadsToEnd chars [.number value] := by
  rcases number.scanToken_eq with ⟨first, more, value, bytes, visible, scanned⟩
  refine ⟨value, fun acc rest ends => ?_⟩
  rw [bytes, List.cons_append, tokensOnto_cons visible (scanned rest ends)]
  rfl

/-! ## Parts between marks -/

/-- Where every element has a partner of some kind, there is a list of partners. -/
theorem exists_forall₂ {α β : Type} {R : α → β → Prop} {P : β → Prop} {list : List α}
    (each : ∀ a ∈ list, ∃ b, R a b ∧ P b) :
    ∃ partners, List.Forall₂ R list partners ∧ ∀ b ∈ partners, P b := by
  induction list with
  | nil => exact ⟨[], .nil, fun _ impossible => absurd impossible List.not_mem_nil⟩
  | cons a list ih =>
    rcases each a List.mem_cons_self with ⟨b, related, isPartner⟩
    rcases ih fun a member => each a (List.mem_cons_of_mem _ member) with ⟨bs, relatedAll, all⟩
    refine ⟨b :: bs, .cons related relatedAll, fun other member => ?_⟩
    rcases List.mem_cons.1 member with rfl | member
    · exact isPartner
    · exact all other member

theorem readsToEnd_joined {parts : List (List Char)} {pieces : List (List Token)}
    (reads : List.Forall₂ ReadsToEnd parts pieces) :
    ReadsToEnd ([','].intercalate parts) (joined pieces) := by
  have comma : (',', Token.comma) ∈ marks := List.mem_cons_self
  induction reads with
  | nil => exact fun _ _ _ => rfl
  | @cons first pieces parts morePieces readsFirst readsMore ih =>
    cases readsMore with
    | nil =>
      rw [joined_singleton, List.intercalate_singleton]
      exact readsFirst
    | cons readsNext readsRest =>
      rw [List.intercalate_cons_cons, joined_cons_cons, List.append_assoc]
      exact readsFirst.append ((reads_mark comma).appendToEnd ih)
        ((endsAsByte_of_mark comma).endsBefore _)

/-- Parts between two marks are read one after the other. -/
theorem readsToEnd_enclosed {first last : Char} {opening closing : Token} {space : List Char}
    {parts : List (List Char)} {pieces : List (List Token)} (opens : (first, opening) ∈ marks)
    (closes : (last, closing) ∈ marks) (space_ : IsSpacing space)
    (reads : List.Forall₂ ReadsToEnd parts pieces) :
    ReadsToEnd (enclosed first last space parts) (opening :: (joined pieces ++ [closing])) := by
  have toLast := (readsToEnd_joined reads).append (reads_mark closes).toEnd
    ((endsAsByte_of_mark closes).endsBefore [])
  have behindFirst := space_.reads.appendToEnd toLast
  exact (reads_mark opens).appendToEnd behindFirst

/-! ## Passing over tokens -/

/-- Goes on behind a token. -/
def goOn : Expectation → List Frame → List Token → Except Error (List Token)
  | .commaOrEnd, [], rest => .ok rest
  | next, frames, rest => skipFrom next frames rest

theorem skipFrom_cons {next next' : Expectation} {frames frames' : List Frame} {token : Token}
    (stepped : step next frames token = some (next', frames')) (rest : List Token) :
    skipFrom next frames (token :: rest) = goOn next' frames' rest := by
  rw [skipFrom, stepped]
  cases next' <;> cases frames' <;> rfl

theorem goOn_cons (next : Expectation) (frame : Frame) (frames : List Frame)
    (rest : List Token) : goOn next (frame :: frames) rest = skipFrom next (frame :: frames) rest := by
  cases next <;> rfl

namespace Frame

/-- What may come first in it. -/
def first : Frame → Expectation
  | .list => .valueOrEnd
  | .object => .keyOrEnd

/-- What comes behind a comma in it. -/
def next : Frame → Expectation
  | .list => .value
  | .object => .key

/-- The token that begins it. -/
def opening : Frame → Token
  | .list => .openBracket
  | .object => .openBrace

/-- The token that ends it. -/
def closing : Frame → Token
  | .list => .closeBracket
  | .object => .closeBrace

end Frame

/-- The tokens are passed over where a value may stand. -/
def Skipped (pieces : List Token) : Prop :=
  ∀ start ∈ [Expectation.value, .valueOrEnd], ∀ frames rest,
    skipFrom start frames (pieces ++ rest) = goOn .commaOrEnd frames rest

/-- The tokens are passed over where a part of what is open may stand. -/
def SkippedIn (frame : Frame) (pieces : List Token) : Prop :=
  ∀ start ∈ [frame.first, frame.next], ∀ frames rest,
    skipFrom start (frame :: frames) (pieces ++ rest) = skipFrom .commaOrEnd (frame :: frames) rest

/-- A token that is a value. -/
theorem skipped_of_beginValue {token : Token}
    (begins : ∀ frames, beginValue frames token = some (.commaOrEnd, frames)) :
    Skipped [token] := by
  intro start isStart frames rest
  simp only [List.mem_cons, List.not_mem_nil, or_false] at isStart
  rcases isStart with rfl | rfl
  · apply skipFrom_cons
    rw [step, begins]
  · apply skipFrom_cons
    rw [step, if_neg, begins]
    rintro rfl
    cases begins []

/-- A value is a part of a list. -/
theorem Skipped.item (skipped : Skipped pieces) : SkippedIn .list pieces := by
  intro start isStart frames rest
  apply skipped start
  simp only [Frame.first, Frame.next, List.mem_cons, List.not_mem_nil, or_false] at isStart ⊢
  exact isStart.symm

/-- A name and a value are a part of an object. -/
theorem Skipped.member (skipped : Skipped pieces) (content : Option String) :
    SkippedIn .object (.text content :: .colon :: pieces) := by
  intro start isStart frames rest
  have stepped : step start (.object :: frames) (.text content) =
      some (.colon, .object :: frames) := by
    simp only [Frame.first, Frame.next, List.mem_cons, List.not_mem_nil, or_false] at isStart
    rcases isStart with rfl | rfl <;> rfl
  rw [List.cons_append, List.cons_append, skipFrom_cons stepped, goOn_cons, skipFrom_cons rfl,
    goOn_cons, skipped .value List.mem_cons_self, goOn_cons]

/-- Parts with commas between them are passed over one after the other. -/
theorem skippedIn_joined {frame : Frame} {first : List Token} {more : List (List Token)}
    (skipped : ∀ pieces ∈ first :: more, SkippedIn frame pieces) :
    SkippedIn frame (joined (first :: more)) := by
  have skippedFirst := skipped first List.mem_cons_self
  induction more generalizing first with
  | nil =>
    rw [joined_singleton]
    exact skippedFirst
  | cons next more ih =>
    have skippedMore := ih (fun pieces member => skipped pieces (List.mem_cons_of_mem _ member))
      (skipped next (List.mem_cons_of_mem _ List.mem_cons_self))
    intro start isStart frames rest
    have comma :
        step .commaOrEnd (frame :: frames) .comma = some (frame.next, frame :: frames) := by
      cases frame <;> rfl
    rw [joined_cons_cons, List.append_assoc, skippedFirst start isStart, List.cons_append,
      skipFrom_cons comma, goOn_cons, skippedMore _ (List.mem_cons_of_mem _ List.mem_cons_self)]

/-- What is open is passed over up to its closing mark. -/
theorem skipped_enclosed {frame : Frame} {parts : List (List Token)}
    (skipped : ∀ pieces ∈ parts, SkippedIn frame pieces) :
    Skipped (frame.opening :: (joined parts ++ [frame.closing])) := by
  intro start isStart frames rest
  have opens : step start frames frame.opening = some (frame.first, frame :: frames) := by
    simp only [List.mem_cons, List.not_mem_nil, or_false] at isStart
    rcases isStart with rfl | rfl <;> cases frame <;> rfl
  rw [List.cons_append, skipFrom_cons opens, goOn_cons, List.append_assoc]
  cases parts with
  | nil =>
    have closes : step frame.first (frame :: frames) frame.closing =
        some (.commaOrEnd, frames) := by
      cases frame <;> rfl
    exact skipFrom_cons closes rest
  | cons first more =>
    have closes : step .commaOrEnd (frame :: frames) frame.closing =
        some (.commaOrEnd, frames) := by
      cases frame <;> rfl
    rw [skippedIn_joined skipped _ List.mem_cons_self]
    exact skipFrom_cons closes rest

/-! ## Values -/

/-- Every value of the grammar is passed over as a whole. -/
theorem IsValue.passed (value : IsValue chars) :
    ∃ pieces, ReadsToEnd chars pieces ∧ Skipped pieces := by
  have word {word : List Char} {token : Token} (known : (word, token) ∈ words) :
      ∃ pieces, ReadsToEnd word pieces ∧ Skipped pieces := by
    refine ⟨_, (reads_word known).toEnd, skipped_of_beginValue fun frames => ?_⟩
    have all : ∀ pair ∈ words, pair.2 = .null ∨ ∃ value, pair.2 = .boolean value := by decide
    rcases all _ known with rfl | ⟨value, rfl⟩ <;> rfl
  induction value with
  | null => exact word (.head _)
  | yes => exact word (.tail _ (.head _))
  | no => exact word (.tail _ (.tail _ (.head _)))
  | number number =>
    rcases number.reads with ⟨value, reads⟩
    exact ⟨_, reads, skipped_of_beginValue fun _ => rfl⟩
  | text body_ =>
    rcases body_.reads with ⟨content, reads⟩
    exact ⟨_, reads.toEnd, skipped_of_beginValue fun _ => rfl⟩
  | @list space items space_ padded values ih =>
    have each : ∀ part ∈ items.map Spaced.chars,
        ∃ pieces, ReadsToEnd part pieces ∧ SkippedIn .list pieces := by
      rw [List.forall_mem_map]
      intro item member
      rcases ih item member with ⟨pieces, reads, skipped⟩
      exact ⟨pieces, (padded item member).readsToEnd reads, skipped.item⟩
    rcases exists_forall₂ each with ⟨parts, reads, skipped⟩
    exact ⟨_, readsToEnd_enclosed (by decide) (by decide) space_ reads, skipped_enclosed skipped⟩
  | @object space members space_ padded labels values ih =>
    have each : ∀ part ∈ members.map Labelled.chars,
        ∃ pieces, ReadsToEnd part pieces ∧ SkippedIn .object pieces := by
      rw [List.forall_mem_map]
      intro member isMember
      rcases ih member isMember with ⟨pieces, reads, skipped⟩
      rcases labels member isMember with ⟨body, body_, core⟩
      rcases body_.reads with ⟨content, readsLabel⟩
      rw [← core] at readsLabel
      exact ⟨_, readsToEnd_labelled (padded member isMember) readsLabel reads,
        skipped.member content⟩
    rcases exists_forall₂ each with ⟨parts, reads, skipped⟩
    exact ⟨_, readsToEnd_enclosed (by decide) (by decide) space_ reads, skipped_enclosed skipped⟩

end ControlPlane.Json
