import Mathlib.Data.List.TakeWhile
import ControlPlane.Http.Api
import ControlPlane.Proofs.Text.Utf8Bytes

/-!
# Requests that name something

A request names what it is about in the last segment of its path, percent-encoded.  Every
name but the empty one can be written so, whatever its characters, and mostly in more than
one way.  What a request comes to depends on the name and not on the way it is written.
-/

namespace ControlPlane.Http

/-! ## Percent encoding -/

theorem highDigit_lt (byte : UInt8) : byte.toNat / 16 < 16 := by
  have := byte.toNat_lt
  omega

theorem hexByte?_hexDigit {value : Nat} (small : value < 16) :
    hexByte? (UInt8.ofNat (Bytes.hexDigit value).toNat) = some value := by
  have all : ∀ v : Fin 16, hexByte? (UInt8.ofNat (Bytes.hexDigit v.val).toNat) = some v.val := by
    decide
  exact all ⟨value, small⟩

/-- A byte that is written with a percent sign is read back. -/
theorem percentDecodeOnto_percent (acc : Bytes) (byte : UInt8) (rest : Bytes) :
    percentDecodeOnto acc (0x25 :: UInt8.ofNat (Bytes.hexDigit (byte.toNat / 16)).toNat ::
        UInt8.ofNat (Bytes.hexDigit (byte.toNat % 16)).toNat :: rest) =
      percentDecodeOnto (byte :: acc) rest := by
  have low : byte.toNat % 16 < 16 := Nat.mod_lt _ (by decide)
  have pair : hexPair? (UInt8.ofNat (Bytes.hexDigit (byte.toNat / 16)).toNat ::
      UInt8.ofNat (Bytes.hexDigit (byte.toNat % 16)).toNat :: rest) = some byte := by
    simp only [hexPair?, hexByte?_hexDigit (highDigit_lt byte), hexByte?_hexDigit low,
      Nat.div_add_mod, UInt8.ofNat_toNat]
  rw [percentDecodeOnto]
  simp only [if_true, pair, List.drop_succ_cons, List.drop_zero]

theorem percentDecodeOnto_percentEncode (acc bytes : Bytes) :
    percentDecodeOnto acc (Utf8.encode (String.ofList (percentEncode bytes))) =
      acc.reverse ++ bytes := by
  induction bytes generalizing acc with
  | nil =>
    rw [percentEncode, List.flatMap_nil, List.append_nil]
    exact percentDecodeOnto.eq_1 acc
  | cons byte rest ih =>
    have low : byte.toNat % 16 < 16 := Nat.mod_lt _ (by decide)
    have whole : Utf8.encode (String.ofList (percentEncode (byte :: rest))) =
        0x25 :: UInt8.ofNat (Bytes.hexDigit (byte.toNat / 16)).toNat ::
          UInt8.ofNat (Bytes.hexDigit (byte.toNat % 16)).toNat ::
          Utf8.encode (String.ofList (percentEncode rest)) := by
      rw [Utf8.encode_ofList, Utf8.encode_ofList, percentEncode, List.flatMap_cons]
      simp only [List.cons_append, List.nil_append, List.flatMap_cons,
        Utf8.utf8EncodeChar_hexDigit (highDigit_lt byte), Utf8.utf8EncodeChar_hexDigit low]
      rfl
    rw [whole, percentDecodeOnto_percent, ih, List.reverse_cons, List.append_assoc]
    rfl

/-- A text whose bytes are all percent-encoded is read back. -/
theorem percentDecodeText_percentEncode (text : String) :
    percentDecodeText (percentEncode (Utf8.encode text)) = .ok text := by
  rw [percentDecodeText, percentDecode, percentDecodeOnto_percentEncode]
  exact Utf8.decode_encode text

theorem mem_percentEncode {bytes : Bytes} {char : Char} (member : char ∈ percentEncode bytes) :
    char = '%' ∨ ∃ value < 16, char = Bytes.hexDigit value := by
  rcases List.mem_flatMap.1 member with ⟨byte, _, inside⟩
  simp only [List.mem_cons, List.not_mem_nil, or_false] at inside
  rcases inside with rfl | rfl | rfl
  · exact .inl rfl
  · exact .inr ⟨_, highDigit_lt byte, rfl⟩
  · exact .inr ⟨_, Nat.mod_lt _ (by decide), rfl⟩

/-! ## Segments -/

/-- The characters that end a segment of a path, or the path itself. -/
def segmentEnds : List Char := ['/', '?', '#']

/-- Whether a text is within one segment. -/
def isUnbroken (part : List Char) : Bool := part.all fun char => !segmentEnds.contains char

theorem isUnbroken_iff {part : List Char} :
    isUnbroken part = true ↔ ∀ char ∈ part, char ∉ segmentEnds := by
  simp [isUnbroken]

/-- A segment of a path that stands for a name. -/
structure IsSegment (segment : List Char) (name : String) : Prop where
  filled : segment ≠ []
  unbroken : isUnbroken segment = true
  decodes : percentDecodeText segment = .ok name

/-- Every name but the empty one has a segment. -/
theorem isSegment_percentEncode {name : String} (named : name ≠ "") :
    IsSegment (percentEncode (Utf8.encode name)) name where
  filled := by
    intro empty
    cases bytes : Utf8.encode name with
    | nil => exact named (Utf8.encode_injective bytes)
    | cons byte rest =>
      rw [bytes] at empty
      cases empty
  unbroken := by
    have digits : ∀ value : Fin 16, Bytes.hexDigit value.val ∉ segmentEnds := by decide
    rw [isUnbroken_iff]
    intro char member
    rcases mem_percentEncode member with rfl | ⟨value, small, rfl⟩
    · decide
    · exact digits ⟨value, small⟩
  decodes := percentDecodeText_percentEncode name

/-! ## Targets -/

/-- A text without the separator is one part. -/
theorem splitAll_of_not_mem {separator : Char} {part : List Char} (absent : separator ∉ part) :
    Text.splitAll separator part = [part] := by
  induction part with
  | nil => rfl
  | cons char rest ih =>
    rw [List.mem_cons, not_or] at absent
    have tail := ih absent.2
    rw [Text.splitAll] at tail ⊢
    rw [List.foldr_cons, tail, if_neg (Ne.symm absent.1)]

/-- The part before a separator is split off. -/
theorem splitAll_append {separator : Char} {part : List Char} (absent : separator ∉ part)
    (rest : List Char) :
    Text.splitAll separator (part ++ separator :: rest) =
      part :: Text.splitAll separator rest := by
  induction part with
  | nil =>
    rw [List.nil_append, Text.splitAll, List.foldr_cons, if_pos rfl]
    rfl
  | cons char part ih =>
    rw [List.mem_cons, not_or] at absent
    have tail := ih absent.2
    rw [List.cons_append, Text.splitAll, List.foldr_cons]
    rw [Text.splitAll] at tail
    rw [tail, if_neg (Ne.symm absent.1)]

theorem splitFirst_of_not_mem {separator : Char} {part : List Char} (absent : separator ∉ part) :
    Text.splitFirst separator part = (part, none) := by
  have all : part.dropWhile (fun char => char != separator) = [] := by
    apply List.dropWhile_eq_nil_iff.2
    intro char member
    exact bne_iff_ne.2 fun same => absent (same ▸ member)
  rw [Text.splitFirst, all]

theorem splitFirst_append {separator : Char} {part : List Char} (absent : separator ∉ part)
    (rest : List Char) :
    Text.splitFirst separator (part ++ separator :: rest) = (part, some rest) := by
  have passed : ∀ char ∈ part, (char != separator) = true := by
    intro char member
    exact bne_iff_ne.2 fun same => absent (same ▸ member)
  rw [Text.splitFirst, List.dropWhile_append_of_pos passed, List.dropWhile_cons_of_neg (by simp),
    List.takeWhile_append_of_pos passed, List.takeWhile_cons_of_neg (by simp), List.append_nil]

/-- What is split off at the front begins as the text does. -/
theorem splitFirst_cons {separator char : Char} (different : char ≠ separator)
    (rest : List Char) : ∃ front, (Text.splitFirst separator (char :: rest)).1 = char :: front := by
  rw [Text.splitFirst]
  split
  · exact ⟨rest, rfl⟩
  · refine ⟨rest.takeWhile fun char => char != separator, ?_⟩
    simp only [List.takeWhile_cons, bne_iff_ne.2 different, if_true]

/-- A target that begins with a slash has no scheme. -/
theorem behindScheme?_slash (rest : List Char) : behindScheme? ('/' :: rest) = none := by
  rcases splitFirst_cons (show '/' ≠ ':' by decide) rest with ⟨front, begins⟩
  rw [behindScheme?]
  split
  · rename_i scheme behind split_
    rw [split_] at begins
    simp only at begins
    rw [begins]
    rfl
  · rfl

/-- A query, with the question mark before it, or nothing. -/
def queryTail : Option (List Char) → List Char
  | none => []
  | some query => '?' :: query

/-- The path of a target runs up to its query. -/
theorem path_ofText {path : List Char} (plain : ∀ char ∈ path, char ≠ '?' ∧ char ≠ '#')
    {query : Option (List Char)} (uncut : '#' ∉ queryTail query) :
    Target.ofText (String.ofList ('/' :: path ++ queryTail query)) =
      ⟨'/' :: path, query.getD []⟩ := by
  have noMark : '?' ∉ '/' :: path := by
    rw [List.mem_cons, not_or]
    exact ⟨by decide, fun member => (plain _ member).1 rfl⟩
  have noSign : '#' ∉ '/' :: path ++ queryTail query := by
    rw [List.mem_append, List.mem_cons, not_or, not_or]
    exact ⟨⟨by decide, fun member => (plain _ member).2 rfl⟩, uncut⟩
  rw [Target.ofText, String.toList_ofList, splitFirst_of_not_mem noSign]
  simp only [List.cons_append, behindScheme?_slash]
  cases query with
  | none =>
    have alone := splitFirst_of_not_mem noMark
    rw [queryTail, List.append_nil, alone]
  | some query =>
    have cut := splitFirst_append noMark query
    rw [queryTail, ← List.cons_append, cut]

/-! ## Requests -/

/-- The path of a segment behind the fixed segment of an endpoint. -/
def itemPath (fixed : String) (segment : List Char) : List Char :=
  "1.0".toList ++ '/' :: (fixed.toList ++ '/' :: segment)

/-- The target of such a path and perhaps a query. -/
def itemTarget (fixed : String) (segment : List Char) (query : Option (List Char)) : String :=
  String.ofList ('/' :: itemPath fixed segment ++ queryTail query)

namespace Request

/-- A request is about an item of an endpoint. -/
def Addresses (request : Request) (endpoint : Endpoint) (name : String) : Prop :=
  ∃ parameter, Route.ofPath? (Target.ofText request.target).path = some ⟨endpoint, parameter⟩ ∧
    parameter ≠ [] ∧ percentDecodeText parameter = .ok name

/-- A request is about the name that the last segment of its path stands for. -/
theorem addresses_of_segment {endpoint : Endpoint} {fixed name : String} {segment : List Char}
    (known : Endpoint.withParameter? fixed = some endpoint)
    (unbroken : isUnbroken fixed.toList = true) (stands : IsSegment segment name)
    {query : Option (List Char)} (uncut : '#' ∉ queryTail query) (method : String)
    (body : Bytes) :
    Addresses ⟨method, itemTarget fixed segment query, body⟩ endpoint name := by
  refine ⟨segment, ?_, stands.filled, stands.decodes⟩
  have ends {part : List Char} (whole : isUnbroken part = true) {char : Char}
      (ends : char ∈ segmentEnds) : char ∉ part :=
    fun member => isUnbroken_iff.1 whole char member ends
  have plain : ∀ char ∈ itemPath fixed segment, char ≠ '?' ∧ char ≠ '#' := by
    have version : isUnbroken "1.0".toList = true := by decide
    intro char member
    have cases_ : char = '/' ∨ char ∉ segmentEnds := by
      simp only [itemPath, List.mem_append, List.mem_cons] at member
      rcases member with inside | rfl | inside | rfl | inside
      · exact .inr (isUnbroken_iff.1 version char inside)
      · exact .inl rfl
      · exact .inr (isUnbroken_iff.1 unbroken char inside)
      · exact .inl rfl
      · exact .inr (isUnbroken_iff.1 stands.unbroken char inside)
    rcases cases_ with rfl | inside
    · decide
    · constructor <;> rintro rfl <;> exact inside (by decide)
  have parts : Text.splitAll '/' ('/' :: itemPath fixed segment) =
      [[], "1.0".toList, fixed.toList, segment] := by
    have start := splitAll_append (List.not_mem_nil (a := '/')) (itemPath fixed segment)
    rw [List.nil_append] at start
    rw [start, itemPath, splitAll_append (by decide), splitAll_append (ends unbroken (by decide)),
      splitAll_of_not_mem (ends stands.unbroken (by decide))]
  rw [itemTarget, path_ofText plain uncut, Route.ofPath?]
  simp only [parts, String.ofList_toList]
  rw [if_pos ⟨trivial, stands.filled⟩, known]
  rfl

variable {request : Request} {endpoint : Endpoint} {name : String}

/-- What a request about an item comes to depends on the name of the item, and not on the
way it is written. -/
theorem plan_of_addresses (addresses : request.Addresses endpoint name) (member : String) :
    request.plan member =
      match endpoint.method? request.method with
      | none => .reply (.methodNotAllowed endpoint.allowed)
      | some method =>
        let plan := planItem (Target.ofText request.target) request.body name endpoint method
        if request.method = "HEAD" then plan.withoutBody else plan := by
  rcases addresses with ⟨parameter, route, filled, decoded⟩
  simp only [plan, route]
  cases endpoint.method? request.method with
  | none => rfl
  | some method => simp only [planRoute, if_neg filled, decoded]

end Request

end ControlPlane.Http
