import ControlPlane.Proofs.Json.QuotedText
import ControlPlane.Proofs.Json.WrittenNumbers

/-!
# Tokens of written documents

The tokens of the written form of a document are those that `Document.tokens` lists.
The proof follows the tree of the document.  What it carries along is the rest of the
text: a value inside of a list or an object is followed by a comma or a closing mark,
which ends a number and stands for itself everywhere else.
-/

namespace ControlPlane.Json

/-! ## Single tokens -/

theorem tokensOnto_cons {first : UInt8} {rest rest' : Bytes} {token : Token}
    (visible : isSpaceByte first = false)
    (scanned : scanToken first rest = some (token, rest')) (acc : List Token) :
    tokensOnto acc (first :: rest) = tokensOnto (token :: acc) rest' := by
  rw [tokensOnto, if_neg (by rw [visible]; exact Bool.false_ne_true)]
  split
  · rename_i found
    rw [scanned] at found
    cases found
    rfl
  · rename_i none
    rw [scanned] at none
    cases none

theorem tokensOnto_comma (acc : List Token) (rest : Bytes) :
    tokensOnto acc (byteOf ',' :: rest) = tokensOnto (.comma :: acc) rest :=
  tokensOnto_cons rfl rfl acc

theorem tokensOnto_colon (acc : List Token) (rest : Bytes) :
    tokensOnto acc (byteOf ':' :: rest) = tokensOnto (.colon :: acc) rest :=
  tokensOnto_cons rfl rfl acc

theorem tokensOnto_openBrace (acc : List Token) (rest : Bytes) :
    tokensOnto acc (0x7B :: rest) = tokensOnto (.openBrace :: acc) rest :=
  tokensOnto_cons rfl rfl acc

theorem tokensOnto_closeBrace (acc : List Token) (rest : Bytes) :
    tokensOnto acc (0x7D :: rest) = tokensOnto (.closeBrace :: acc) rest :=
  tokensOnto_cons rfl rfl acc

theorem tokensOnto_openBracket (acc : List Token) (rest : Bytes) :
    tokensOnto acc (byteOf '[' :: rest) = tokensOnto (.openBracket :: acc) rest :=
  tokensOnto_cons rfl rfl acc

theorem tokensOnto_closeBracket (acc : List Token) (rest : Bytes) :
    tokensOnto acc (byteOf ']' :: rest) = tokensOnto (.closeBracket :: acc) rest :=
  tokensOnto_cons rfl rfl acc

theorem tokensOnto_quote (text : String) (acc : List Token) (rest : Bytes) :
    tokensOnto acc (Utf8.encode (quote text) ++ rest) =
      tokensOnto (.text (some text) :: acc) rest := by
  rw [encode_quote, List.cons_append, List.append_assoc]
  exact tokensOnto_cons rfl (scanToken_quote text rest) acc

theorem tokensOnto_integer {value : Int} (fits : FitsNumber value) (acc : List Token)
    {rest : Bytes} (ends : EndsNumber rest) :
    tokensOnto acc (Utf8.encode (toString value) ++ rest) =
      tokensOnto (.number (.integer value) :: acc) rest := by
  obtain ⟨first, more, bytes, visible, scanned⟩ := scanToken_integer fits ends
  rw [bytes]
  exact tokensOnto_cons visible scanned acc

theorem tokensOnto_null (acc : List Token) (rest : Bytes) :
    tokensOnto acc (Utf8.encode "null" ++ rest) = tokensOnto (.null :: acc) rest :=
  tokensOnto_cons rfl rfl acc

/-! ## Lists and objects -/

/-- Texts behind a first one, each with a comma before it. -/
def afterCommas (texts : List String) : Bytes :=
  texts.flatMap fun text => byteOf ',' :: Utf8.encode text

theorem encode_joinCommas_cons (text : String) (texts : List String) :
    Utf8.encode (joinCommas (text :: texts)) = Utf8.encode text ++ afterCommas texts := by
  induction texts generalizing text with
  | nil =>
    rw [joinCommas, String.intercalate_singleton]
    exact (List.append_nil _).symm
  | cons next texts ih =>
    have tail := ih next
    rw [joinCommas] at tail
    rw [joinCommas, String.intercalate_cons_cons, Utf8.encode_append, Utf8.encode_append, tail,
      List.append_assoc]
    rfl

theorem endsNumber_afterCommas (texts : List String) {rest : Bytes} (ends : EndsNumber rest) :
    EndsNumber (afterCommas texts ++ rest) := by
  cases texts with
  | nil => exact ends
  | cons text texts => exact endsNumber_cons rfl (by decide) (by decide) (by decide) _

theorem endsNumber_closeBracket (rest : Bytes) : EndsNumber (byteOf ']' :: rest) :=
  endsNumber_cons rfl (by decide) (by decide) (by decide) rest

theorem endsNumber_closeBrace (rest : Bytes) : EndsNumber (0x7D :: rest) :=
  endsNumber_cons rfl (by decide) (by decide) (by decide) rest

/-! ## Tokens with commas between them -/

/-- The tokens of parts with commas between them. -/
def joined (pieces : List (List Token)) : List Token := [.comma].intercalate pieces

theorem joined_singleton (pieces : List Token) : joined [pieces] = pieces :=
  List.intercalate_singleton

theorem joined_cons_cons (first next : List Token) (pieces : List (List Token)) :
    joined (first :: next :: pieces) = first ++ .comma :: joined (next :: pieces) := by
  rw [joined, joined, List.intercalate_cons_cons, List.append_assoc]
  rfl

/-! ## Documents -/

namespace Document

/-- Whether all integers of a document fit 64 bits. -/
def Fits : Document → Prop
  | .null => True
  | .integer value => FitsNumber value
  | .text _ => True
  | .list items => itemsFit items
  | .object members => membersFit members
where
  /-- Whether all items of a list fit. -/
  itemsFit : List Document → Prop
    | [] => True
    | item :: rest => item.Fits ∧ itemsFit rest
  /-- Whether all members of an object fit. -/
  membersFit : List (String × Document) → Prop
    | [] => True
    | (_, value) :: rest => value.Fits ∧ membersFit rest

/-- The written form of a member of an object. -/
def writeMember (member : String × Document) : String :=
  quote member.1 ++ ":" ++ member.2.write

theorem encode_write_list (item : Document) (items : List Document) :
    Utf8.encode (Document.list (item :: items)).write =
      byteOf '[' :: (Utf8.encode item.write ++ (afterCommas (items.map write) ++
        [byteOf ']'])) := by
  rw [write, writeItems_eq, List.reverse_nil, List.nil_append, List.map_cons, writeList,
    Utf8.encode_append, Utf8.encode_append, encode_joinCommas_cons, List.append_assoc,
    List.append_assoc]
  rfl

theorem encode_write_object (member : String × Document) (members : List (String × Document)) :
    Utf8.encode (Document.object (member :: members)).write =
      0x7B :: (Utf8.encode (writeMember member) ++ (afterCommas (members.map writeMember) ++
        [0x7D])) := by
  rw [write, writeMembers_eq, List.reverse_nil, List.nil_append, writeObject, List.map_map,
    List.map_cons, Utf8.encode_append, Utf8.encode_append, encode_joinCommas_cons,
    List.append_assoc, List.append_assoc]
  rfl

mutual

/-- The tokens of a written value, whatever ends the value behind it. -/
theorem tokensOnto_write (document : Document) (fits : document.Fits) (acc : List Token)
    {rest : Bytes} (ends : EndsNumber rest) :
    tokensOnto acc (Utf8.encode document.write ++ rest) =
      tokensOnto (document.tokens.reverse ++ acc) rest := by
  cases document with
  | null => exact tokensOnto_null acc rest
  | integer value => exact tokensOnto_integer fits acc ends
  | text value => exact tokensOnto_quote value acc rest
  | list items =>
    cases items with
    | nil =>
      change tokensOnto acc (byteOf '[' :: byteOf ']' :: rest) = _
      rw [tokensOnto_openBracket, tokensOnto_closeBracket]
      rfl
    | cons item items =>
      have after := endsNumber_afterCommas (items.map write) (endsNumber_closeBracket rest)
      rw [encode_write_list, List.cons_append, List.append_assoc, List.append_assoc,
        tokensOnto_openBracket, List.singleton_append, tokensOnto_write item fits.1 _ after,
        tokensOnto_moreItems items fits.2, tokens]
      simp
  | object members =>
    cases members with
    | nil =>
      change tokensOnto acc (0x7B :: 0x7D :: rest) = _
      rw [tokensOnto_openBrace, tokensOnto_closeBrace]
      rfl
    | cons member members =>
      have after :=
        endsNumber_afterCommas (members.map writeMember) (endsNumber_closeBrace rest)
      rw [encode_write_object, List.cons_append, List.append_assoc, List.append_assoc,
        tokensOnto_openBrace, List.singleton_append, writeMember, Utf8.encode_append,
        Utf8.encode_append, List.append_assoc, List.append_assoc, tokensOnto_quote]
      change tokensOnto _ (byteOf ':' :: (Utf8.encode member.2.write ++ _)) = _
      rw [tokensOnto_colon, tokensOnto_write member.2 fits.1 _ after,
        tokensOnto_moreMembers members fits.2, tokens]
      simp

theorem tokensOnto_moreItems (items : List Document) (fits : Fits.itemsFit items)
    (acc : List Token) (rest : Bytes) :
    tokensOnto acc (afterCommas (items.map write) ++ byteOf ']' :: rest) =
      tokensOnto ((tokens.moreItems items).reverse ++ acc) rest := by
  cases items with
  | nil => exact tokensOnto_closeBracket acc rest
  | cons item items =>
    have after := endsNumber_afterCommas (items.map write) (endsNumber_closeBracket rest)
    change tokensOnto acc (byteOf ',' :: (Utf8.encode item.write ++
      afterCommas (items.map write)) ++ byteOf ']' :: rest) = _
    rw [List.cons_append, List.append_assoc, tokensOnto_comma,
      tokensOnto_write item fits.1 _ after, tokensOnto_moreItems items fits.2,
      tokens.moreItems]
    simp

theorem tokensOnto_moreMembers (members : List (String × Document))
    (fits : Fits.membersFit members) (acc : List Token) (rest : Bytes) :
    tokensOnto acc (afterCommas (members.map writeMember) ++ 0x7D :: rest) =
      tokensOnto ((tokens.moreMembers members).reverse ++ acc) rest := by
  cases members with
  | nil => exact tokensOnto_closeBrace acc rest
  | cons member members =>
    have after :=
      endsNumber_afterCommas (members.map writeMember) (endsNumber_closeBrace rest)
    change tokensOnto acc (byteOf ',' :: (Utf8.encode (writeMember member) ++
      afterCommas (members.map writeMember)) ++ 0x7D :: rest) = _
    rw [List.cons_append, List.append_assoc, tokensOnto_comma, writeMember, Utf8.encode_append,
      Utf8.encode_append, List.append_assoc, List.append_assoc, tokensOnto_quote]
    change tokensOnto _ (byteOf ':' :: (Utf8.encode member.2.write ++ _)) = _
    rw [tokensOnto_colon, tokensOnto_write member.2 fits.1 _ after,
      tokensOnto_moreMembers members fits.2, tokens.moreMembers]
    simp

end

theorem tokens_list (items : List Document) :
    (Document.list items).tokens =
      .openBracket :: (joined (items.map tokens) ++ [.closeBracket]) := by
  cases items with
  | nil => rfl
  | cons item items =>
    rw [tokens]
    induction items generalizing item with
    | nil => rw [List.map_singleton, joined_singleton, tokens.moreItems]
    | cons next items ih =>
      have behind := List.tail_eq_of_cons_eq (ih next)
      rw [List.map_cons, List.map_cons, joined_cons_cons, List.append_assoc, List.cons_append,
        ← List.map_cons, ← behind, tokens.moreItems]

/-- The tokens of a member of an object. -/
def memberTokens (member : String × Document) : List Token :=
  .text (some member.1) :: .colon :: member.2.tokens

theorem tokens_object (members : List (String × Document)) :
    (Document.object members).tokens =
      .openBrace :: (joined (members.map memberTokens) ++ [.closeBrace]) := by
  cases members with
  | nil => rfl
  | cons member members =>
    rw [tokens]
    induction members generalizing member with
    | nil =>
      rw [List.map_singleton, joined_singleton, tokens.moreMembers, memberTokens]
      rfl
    | cons next members ih =>
      have behind := List.tail_eq_of_cons_eq (ih next)
      rw [List.map_cons, List.map_cons, joined_cons_cons, List.append_assoc, List.cons_append,
        ← List.map_cons, ← behind, tokens.moreMembers, memberTokens]
      rfl

/-- A written document consists of the tokens of the document. -/
theorem tokens_encode_write {document : Document} (fits : document.Fits) :
    Json.tokens (Utf8.encode document.write) = document.tokens := by
  have whole := tokensOnto_write document fits [] endsNumber_nil
  rw [List.append_nil, List.append_nil] at whole
  rw [Json.tokens, whole, tokensOnto, List.reverse_reverse]

end Document

end ControlPlane.Json
