import ControlPlane.Proofs.Text.Decimal
import ControlPlane.Proofs.Time.Calendar
import ControlPlane.Time.Reader

/-!
# Written dates read back

A date and time that was read from a text is written in a form that reads back as
the same instant with the same offset, although the reader accepts many other forms
of it.  The numbers of the text are recovered one by one: a written number consists
of digits, and what follows it is a separator that is neither a digit nor white
space, so each reader stops where the writer stopped.

Only numbers that a text can have are kept by the written form: fewer than 10⁹
nanoseconds before a leap second is added, and offsets of whole minutes.
-/

namespace ControlPlane.DateTime

open ControlPlane.Text

/-! ## Digits and what follows them -/

/-- Whether a text does not go on with a digit. -/
def NoDigit (text : List Char) : Prop :=
  ∀ char rest, text = char :: rest → isDigit char = false

theorem noDigit_nil : NoDigit [] := by
  intro char rest same
  cases same

theorem noDigit_cons {char : Char} {rest : List Char} (stop : isDigit char = false) :
    NoDigit (char :: rest) := by
  intro char' rest' same
  cases same
  exact stop

theorem NoDigit.take {text : List Char} (stop : NoDigit text) (count : Nat) :
    NoDigit (text.take count) := by
  cases count with
  | zero => exact noDigit_nil
  | succ count =>
    cases text with
    | nil => exact noDigit_nil
    | cons char rest => exact noDigit_cons (stop char rest rfl)

theorem isBlank_of_isDigit {char : Char} (digit : isDigit char = true) :
    isBlank char = false := by
  obtain ⟨lower, upper⟩ := toNat_of_isDigit digit
  simp only [isBlank, Bool.or_eq_false_iff, Bool.and_eq_false_iff, decide_eq_false_iff_not,
    beq_eq_false_iff_ne]
  omega

theorem trimStart_cons {char : Char} (visible : isBlank char = false) (rest : List Char) :
    trimStart (char :: rest) = char :: rest := by
  rw [trimStart, List.dropWhile_cons_of_neg (by simp [visible])]

theorem trimStart_digits {digits : List Char} (all : ∀ char ∈ digits, isDigit char = true)
    (some : digits ≠ []) (rest : List Char) :
    trimStart (digits ++ rest) = digits ++ rest := by
  cases digits with
  | nil => exact absurd rfl some
  | cons digit digits =>
    exact trimStart_cons (isBlank_of_isDigit (all digit List.mem_cons_self)) _

theorem takeWhile_digits {digits rest : List Char} (all : ∀ char ∈ digits, isDigit char = true)
    (stop : NoDigit rest) : (digits ++ rest).takeWhile isDigit = digits := by
  induction digits with
  | nil =>
    cases rest with
    | nil => rfl
    | cons char rest =>
      have last := stop char rest rfl
      rw [List.nil_append, List.takeWhile_cons_of_neg (by simp [last])]
  | cons digit digits ih =>
    have first := all digit List.mem_cons_self
    rw [List.cons_append, List.takeWhile_cons_of_pos first,
      ih fun char member => all char (List.mem_cons_of_mem _ member)]

theorem dropWhile_digits {digits rest : List Char} (all : ∀ char ∈ digits, isDigit char = true)
    (stop : NoDigit rest) : (digits ++ rest).dropWhile isDigit = rest := by
  have split := List.takeWhile_append_dropWhile (p := isDigit) (l := digits ++ rest)
  rw [takeWhile_digits all stop] at split
  exact List.append_cancel_left split

/-- A run of digits is taken as a whole if it is not too long and ends there. -/
theorem takeDigits?_append {limit : Nat} {digits rest : List Char}
    (all : ∀ char ∈ digits, isDigit char = true) (some : digits ≠ [])
    (short : digits.length ≤ limit) (stop : digits.length = limit ∨ NoDigit rest) :
    takeDigits? limit (digits ++ rest) = .some (digits, rest) := by
  have taken : ((digits ++ rest).take limit).takeWhile isDigit = digits := by
    rw [List.take_append, List.take_of_length_le short]
    apply takeWhile_digits all
    rcases stop with exact | stop
    · rw [exact, Nat.sub_self]
      exact noDigit_nil
    · exact stop.take _
  have notEmpty : digits.isEmpty = false := by
    cases digits with
    | nil => exact absurd rfl some
    | cons => rfl
  rw [takeDigits?]
  simp only [taken, notEmpty, Bool.false_eq_true, if_false, List.drop_left]

/-! ## Numbers and separators -/

theorem takeNumber?_padded {value : Nat} (small : value < 100) (rest : List Char) :
    takeNumber? ((padded 2 value).toList ++ rest) = some (value, rest) := by
  have length : (padded 2 value).toList.length = 2 := length_padded small
  have notEmpty := padded_ne_nil (by decide : 0 < 2) value
  rw [takeNumber?, trimStart_digits (fun _ => isDigit_of_mem_padded) notEmpty,
    takeDigits?_append (fun _ => isDigit_of_mem_padded) notEmpty (Nat.le_of_eq length)
      (.inl length)]
  simp only [Option.map_some, ofDigits_padded]

theorem takeMark?_cons {mark : Char} (visible : isBlank mark = false) (rest : List Char) :
    takeMark? mark (mark :: rest) = some rest := by
  rw [takeMark?, trimStart_cons visible]
  simp

theorem takeDigits?_padded_minus (value : Nat) (rest : List Char) :
    takeDigits? ((padded 4 value).toList ++ '-' :: rest).length
        ((padded 4 value).toList ++ '-' :: rest) =
      some ((padded 4 value).toList, '-' :: rest) := by
  apply takeDigits?_append (fun _ => isDigit_of_mem_padded) (padded_ne_nil (by decide) value)
  · rw [List.length_append]
    exact Nat.le_add_right _ _
  · exact .inr (noDigit_cons (by decide))

theorem takeYear?_yearText (year : Int) (rest : List Char) :
    takeYear? ((yearText year).toList ++ '-' :: rest) = some (year, '-' :: rest) := by
  unfold yearText
  split
  · rename_i range
    have length : (padded 4 year.toNat).toList.length = 4 := length_padded (by omega)
    have notEmpty := padded_ne_nil (by decide : 0 < 4) year.toNat
    have unsigned := trimStart_digits (fun _ => isDigit_of_mem_padded) notEmpty ('-' :: rest)
    have taken : takeDigits? 4 ((padded 4 year.toNat).toList ++ '-' :: rest) =
        some ((padded 4 year.toNat).toList, '-' :: rest) :=
      takeDigits?_append (fun _ => isDigit_of_mem_padded) notEmpty (Nat.le_of_eq length)
        (.inl length)
    have first (char : Char) (tail : List Char)
        (same : (padded 4 year.toNat).toList ++ '-' :: rest = char :: tail) :
        isDigit char = true := by
      cases written : (padded 4 year.toNat).toList with
      | nil => exact absurd written notEmpty
      | cons digit digits =>
        rw [written] at same
        cases same
        exact isDigit_of_mem_padded (written ▸ List.mem_cons_self)
    rw [takeYear?, unsigned]
    split
    · rename_i same
      exact absurd (first _ _ same) (by decide)
    · rename_i same
      exact absurd (first _ _ same) (by decide)
    · simp only [taken, Option.map_some, ofDigits_padded]
      rw [Int.toNat_of_nonneg range.1]
  · rename_i range
    split
    · rename_i negative
      rw [String.toList_append]
      change takeYear? ('-' :: ((padded 4 year.natAbs).toList ++ '-' :: rest)) = _
      rw [takeYear?, trimStart_cons (by decide)]
      simp only [takeDigits?_padded_minus, Option.map_some, ofDigits_padded]
      rw [Int.ofNat_natAbs_of_nonpos (Int.le_of_lt negative), Int.neg_neg]
    · rename_i positive
      rw [String.toList_append]
      change takeYear? ('+' :: ((padded 4 year.natAbs).toList ++ '-' :: rest)) = _
      rw [takeYear?, trimStart_cons (by decide)]
      simp only [takeDigits?_padded_minus, Option.map_some, ofDigits_padded]
      rw [Int.natAbs_of_nonneg (Int.not_lt.1 positive)]

/-! ## Fractions -/

/-- A fraction that is written with `width` digits. -/
theorem takeFraction?_padded {width value : Nat} (positive : 0 < width) (short : width ≤ 9)
    (fits : value < 10 ^ width) {rest : List Char} (stop : NoDigit rest) :
    takeFraction? ('.' :: ((padded width value).toList ++ rest)) =
      some (value * 10 ^ (9 - width), rest) := by
  have length := length_padded fits
  rw [takeFraction?, takeDigits?_append (fun _ => isDigit_of_mem_padded)
    (padded_ne_nil positive value) (by rw [length]; exact short) (.inr stop)]
  simp only [Option.map_some, ofDigits_padded, length]
  have after : ([] ++ rest).dropWhile isDigit = rest := dropWhile_digits (by simp) stop
  rw [List.nil_append] at after
  rw [after]
  rfl

theorem takeFraction?_fractionText {nanos : Nat} (small : nanos < nanosPerSecond)
    {rest : List Char} (stop : NoDigit rest) (noPoint : ∀ tail, rest ≠ '.' :: tail) :
    takeFraction? ((fractionText nanos).toList ++ rest) = some (nanos, rest) := by
  unfold nanosPerSecond at small
  unfold fractionText
  split
  · rename_i zero
    rw [zero]
    change takeFraction? rest = some (0, rest)
    unfold takeFraction?
    split
    · rename_i tail
      exact absurd rfl (noPoint tail)
    · rfl
  · split
    · rw [String.toList_append]
      change takeFraction? ('.' :: ((padded 3 (nanos / 1000000)).toList ++ rest)) = _
      rw [takeFraction?_padded (by decide) (by decide) (by omega) stop]
      congr 2
      omega
    · split
      · rw [String.toList_append]
        change takeFraction? ('.' :: ((padded 6 (nanos / 1000)).toList ++ rest)) = _
        rw [takeFraction?_padded (by decide) (by decide) (by omega) stop]
        congr 2
        omega
      · rw [String.toList_append]
        change takeFraction? ('.' :: ((padded 9 nanos).toList ++ rest)) = _
        rw [takeFraction?_padded (by decide) (by decide) (by omega) stop]
        congr 2
        omega

/-! ## Offsets -/

theorem takeOffsetSize?_written {hours minutes : Nat} (hoursLt : hours < 100)
    (minutesLt : minutes < 60) :
    takeOffsetSize? ((padded 2 hours).toList ++ ':' :: (padded 2 minutes).toList) =
      some (3600 * hours + 60 * minutes, []) := by
  have tens : isDigit (digitOf (minutes / 10)) = true := isDigit_digitOf (by omega)
  have ones : isDigit (digitOf (minutes % 10)) = true := isDigit_digitOf (by omega)
  have hourTens : isDigit (digitOf (hours / 10)) = true := isDigit_digitOf (by omega)
  have hourOnes : isDigit (digitOf (hours % 10)) = true := isDigit_digitOf (by omega)
  have value := ofDigits_padded 2 hours
  have value' := ofDigits_padded 2 minutes
  rw [padded_two (by omega)] at value value'
  rw [padded_two (by omega), padded_two (by omega), List.cons_append, List.cons_append,
    List.nil_append, takeOffsetSize?]
  have notColon : digitOf (minutes / 10) ≠ ':' := by
    intro same
    rw [same] at tens
    exact absurd tens (by decide)
  have after : (':' :: [digitOf (minutes / 10), digitOf (minutes % 10)]).dropWhile
      (fun char => char == ':' || isBlank char) =
        [digitOf (minutes / 10), digitOf (minutes % 10)] := by
    rw [List.dropWhile_cons_of_pos (by decide), List.dropWhile_cons_of_neg]
    simp [notColon, isBlank_of_isDigit tens]
  rw [after]
  have small : digitValue (digitOf (minutes / 10)) < 6 := by
    rw [digitValue_digitOf (by omega)]
    omega
  simp [hourTens, hourOnes, tens, ones, small, value, value']

theorem takeOffset?_minus {text rest : List Char} {size : Nat}
    (taken : takeOffsetSize? text = some (size, rest)) :
    takeOffset? ('-' :: text) = some (-(size : Int), rest) := by
  rw [takeOffset?, trimStart_cons (by decide)]
  simp [taken]

theorem takeOffset?_plus {text rest : List Char} {size : Nat}
    (taken : takeOffsetSize? text = some (size, rest)) :
    takeOffset? ('+' :: text) = some ((size : Int), rest) := by
  rw [takeOffset?, trimStart_cons (by decide)]
  simp [taken]

theorem takeOffset?_offsetText {offset : Int} (minutes : offset % 60 = 0)
    (small : offset.natAbs < secondsPerDay) :
    takeOffset? (offsetText offset).toList = some (offset, []) := by
  unfold secondsPerDay at small
  have hoursLt : offset.natAbs / 3600 < 100 := by omega
  have minutesLt : offset.natAbs / 60 % 60 < 60 := by omega
  have size := takeOffsetSize?_written hoursLt minutesLt
  have whole : 3600 * (offset.natAbs / 3600) + 60 * (offset.natAbs / 60 % 60) =
      offset.natAbs := by omega
  rw [whole] at size
  unfold offsetText
  split
  · rename_i zero
    rw [zero]
    rfl
  · rw [String.toList_append, String.toList_append, String.toList_append, List.append_assoc,
      List.append_assoc]
    split
    · rename_i negative
      change takeOffset? ('-' :: ((padded 2 (offset.natAbs / 3600)).toList ++
        ':' :: (padded 2 (offset.natAbs / 60 % 60)).toList)) = _
      have value : -(offset.natAbs : Int) = offset := by omega
      rw [takeOffset?_minus size, value]
    · rename_i positive
      change takeOffset? ('+' :: ((padded 2 (offset.natAbs / 3600)).toList ++
        ':' :: (padded 2 (offset.natAbs / 60 % 60)).toList)) = _
      have value : (offset.natAbs : Int) = offset := by omega
      rw [takeOffset?_plus size, value]

theorem offsetText_start (offset : Int) :
    ∃ char rest, (offsetText offset).toList = char :: rest ∧
      (char = 'Z' ∨ char = '-' ∨ char = '+') := by
  unfold offsetText
  split
  · exact ⟨'Z', [], rfl, .inl rfl⟩
  · rw [String.toList_append, String.toList_append, String.toList_append, List.append_assoc,
      List.append_assoc]
    split
    · exact ⟨'-', _, rfl, .inr (.inl rfl)⟩
    · exact ⟨'+', _, rfl, .inr (.inr rfl)⟩

/-! ## Whole dates -/

namespace Parts

/-- Whether the written form keeps the numbers of a date and time. -/
def Kept (parts : Parts) : Prop :=
  parts.nanos < nanosPerSecond ∧ parts.offset % 60 = 0

/-- The written form of the numbers of a date and time. -/
def text (parts : Parts) : List Char :=
  (yearText parts.date.year).toList ++ '-' :: ((padded 2 parts.date.month).toList ++
    '-' :: ((padded 2 parts.date.day).toList ++ 'T' :: ((padded 2 parts.hour).toList ++
      ':' :: ((padded 2 parts.minute).toList ++ ':' :: ((padded 2 parts.second).toList ++
        ((fractionText parts.nanos).toList ++ (offsetText parts.offset).toList))))))

end Parts

/-- A step that reads something is left behind. -/
theorem bind_of_some {α β : Type} {step : Option α} {value : α} (read : step = some value)
    (next : α → Option β) : (step >>= next) = next value := by
  rw [read]
  rfl

theorem parts?_text {parts : Parts} (kept : parts.Kept) (month : parts.date.month < 100)
    (day : parts.date.day < 100) (hour : parts.hour < 100) (minute : parts.minute < 100)
    (second : parts.second < 100) (offset : parts.offset.natAbs < secondsPerDay) :
    parts? parts.text = some parts := by
  obtain ⟨char, rest, same, start⟩ := offsetText_start parts.offset
  have stop : NoDigit (offsetText parts.offset).toList := by
    rw [same]
    apply noDigit_cons
    rcases start with rfl | rfl | rfl <;> decide
  have noPoint : ∀ tail, (offsetText parts.offset).toList ≠ '.' :: tail := by
    intro tail point
    rw [same] at point
    cases point
    rcases start with equal | equal | equal <;> exact absurd equal (by decide)
  have dash (rest : List Char) : takeMark? '-' ('-' :: rest) = some rest :=
    takeMark?_cons (by decide) rest
  have colon (rest : List Char) : takeMark? ':' (':' :: rest) = some rest :=
    takeMark?_cons (by decide) rest
  rw [parts?, Parts.text]
  apply (bind_of_some (takeYear?_yearText _ _) _).trans
  apply (bind_of_some (dash _) _).trans
  apply (bind_of_some (takeNumber?_padded month _) _).trans
  apply (bind_of_some (dash _) _).trans
  apply (bind_of_some (takeNumber?_padded day _) _).trans
  apply (if_pos (.inl rfl)).trans
  apply (bind_of_some rfl _).trans
  apply (bind_of_some (takeNumber?_padded hour _) _).trans
  apply (bind_of_some (colon _) _).trans
  apply (bind_of_some (takeNumber?_padded minute _) _).trans
  apply (bind_of_some (colon _) _).trans
  apply (bind_of_some (takeNumber?_padded second _) _).trans
  apply (bind_of_some (takeFraction?_fractionText kept.1 stop noPoint) _).trans
  apply (bind_of_some (takeOffset?_offsetText kept.2 offset) _).trans
  rfl

/-! ## What a reader can return -/

theorem ofDigits_lt {digits : List Char} (all : ∀ char ∈ digits, isDigit char = true) :
    ofDigits digits < 10 ^ digits.length := by
  have from_value (value : Nat) :
      digits.foldl (fun value digit => 10 * value + digitValue digit) value <
        (value + 1) * 10 ^ digits.length := by
    induction digits generalizing value with
    | nil => simp
    | cons digit digits ih =>
      have rest := ih (fun char member => all char (List.mem_cons_of_mem _ member))
        (10 * value + digitValue digit)
      have bounds := toNat_of_isDigit (all digit List.mem_cons_self)
      rw [List.foldl_cons, List.length_cons, Nat.pow_succ', ← Nat.mul_assoc]
      apply Nat.lt_of_lt_of_le rest
      apply Nat.mul_le_mul_right
      rw [digitValue]
      omega
  have whole := from_value 0
  rw [Nat.zero_add, Nat.one_mul] at whole
  exact whole

theorem takeDigits?_eq_some {limit : Nat} {text digits rest : List Char}
    (taken : takeDigits? limit text = some (digits, rest)) :
    (∀ char ∈ digits, isDigit char = true) ∧ digits.length ≤ limit := by
  rw [takeDigits?] at taken
  split at taken
  · cases taken
  · cases taken
    constructor
    · intro char member
      exact (List.all_eq_true.1 List.all_takeWhile) char member
    · have prefixed := (List.takeWhile_prefix (l := text.take limit) isDigit).length_le
      exact Nat.le_trans prefixed (List.length_take_le _ _)

theorem lt_of_takeFraction? {text rest : List Char} {nanos : Nat}
    (taken : takeFraction? text = some (nanos, rest)) : nanos < nanosPerSecond := by
  unfold takeFraction? at taken
  split at taken
  · obtain ⟨⟨digits, tail⟩, digitsTaken, same⟩ := Option.map_eq_some_iff.1 taken
    obtain ⟨all, short⟩ := takeDigits?_eq_some digitsTaken
    cases same
    calc ofDigits digits * 10 ^ (9 - digits.length)
        < 10 ^ digits.length * 10 ^ (9 - digits.length) :=
          Nat.mul_lt_mul_of_pos_right (ofDigits_lt all) (Nat.pow_pos (by decide))
      _ = 10 ^ 9 := by rw [← Nat.pow_add, Nat.add_sub_cancel' short]
  · cases taken
    decide

theorem minutes_of_takeOffsetSize? {text rest : List Char} {size : Nat}
    (taken : takeOffsetSize? text = some (size, rest)) : size % 60 = 0 := by
  unfold takeOffsetSize? at taken
  split at taken
  · split at taken
    · split at taken
      · cases taken
        omega
      · cases taken
    · cases taken
  · cases taken

theorem minutes_of_takeOffset? {text rest : List Char} {offset : Int}
    (taken : takeOffset? text = some (offset, rest)) : offset % 60 = 0 := by
  unfold takeOffset? at taken
  dsimp only at taken
  split at taken
  · cases taken
    rfl
  · split at taken
    · split at taken
      · cases taken
        rfl
      · split at taken
        · obtain ⟨⟨size, tail⟩, sizeTaken, same⟩ := Option.map_eq_some_iff.1 taken
          have minutes := minutes_of_takeOffsetSize? sizeTaken
          cases same
          omega
        · split at taken
          · obtain ⟨⟨size, tail⟩, sizeTaken, same⟩ := Option.map_eq_some_iff.1 taken
            have minutes := minutes_of_takeOffsetSize? sizeTaken
            cases same
            omega
          · cases taken
    · cases taken

/-- The numbers of any text that is split are kept by the written form. -/
theorem kept_of_parts? {text : List Char} {parts : Parts} (split : parts? text = some parts) :
    parts.Kept := by
  rcases Option.bind_eq_some_iff.1 split with ⟨year, -, split⟩
  rcases Option.bind_eq_some_iff.1 split with ⟨_, -, split⟩
  rcases Option.bind_eq_some_iff.1 split with ⟨month, -, split⟩
  rcases Option.bind_eq_some_iff.1 split with ⟨_, -, split⟩
  rcases Option.bind_eq_some_iff.1 split with ⟨⟨day, text⟩, -, clock⟩
  -- The clock is behind one of three characters; anything else ends the text.
  dsimp only at clock
  split at clock
  · split at clock
    · rcases Option.bind_eq_some_iff.1 clock with ⟨_, -, clock⟩
      rcases Option.bind_eq_some_iff.1 clock with ⟨hour, -, clock⟩
      rcases Option.bind_eq_some_iff.1 clock with ⟨_, -, clock⟩
      rcases Option.bind_eq_some_iff.1 clock with ⟨minute, -, clock⟩
      rcases Option.bind_eq_some_iff.1 clock with ⟨_, -, clock⟩
      rcases Option.bind_eq_some_iff.1 clock with ⟨second, -, clock⟩
      rcases Option.bind_eq_some_iff.1 clock with ⟨fraction, fractionTaken, clock⟩
      rcases Option.bind_eq_some_iff.1 clock with ⟨offset, offsetTaken, rest⟩
      rcases Option.ite_none_right_eq_some.1 rest with ⟨-, same⟩
      cases same
      exact ⟨lt_of_takeFraction? fractionTaken, minutes_of_takeOffset? offsetTaken⟩
    · cases clock
  · cases clock

/-! ## The round trip -/

theorem shown_of_clock {date : Date} (found : date.Exists) {hour minute second : Nat}
    (hourLt : hour < 24) (minuteLt : minute < 60) (secondLt : second < 60) (nanos : Nat)
    (offset : Int) :
    DateTime.shown ⟨⟨date.toDays * secondsPerDay + (3600 * hour + 60 * minute + second : Nat) -
        offset, nanos⟩, offset⟩ =
      (date, 3600 * hour + 60 * minute + second) := by
  have days : (date.toDays * (secondsPerDay : Int) +
      (3600 * hour + 60 * minute + second : Nat) - offset + offset) / secondsPerDay =
        date.toDays := by
    unfold secondsPerDay
    omega
  have ofDay : (date.toDays * (secondsPerDay : Int) +
      (3600 * hour + 60 * minute + second : Nat) - offset + offset) % secondsPerDay =
        (3600 * hour + 60 * minute + second : Nat) := by
    unfold secondsPerDay
    omega
  rw [DateTime.shown, days, ofDay, Date.ofDays_toDays found]
  rfl

theorem clockText_leap {hour minute second nanos : Nat} (minuteLt : minute < 60)
    (secondLe : second ≤ 60) (nanosLt : nanos < nanosPerSecond) :
    clockText (3600 * hour + 60 * minute + min second 59)
        (nanos + if second = 60 then nanosPerSecond else 0) =
      padded 2 hour ++ ":" ++ padded 2 minute ++ ":" ++ padded 2 second ++
        fractionText nanos := by
  have hourEq : (3600 * hour + 60 * minute + min second 59) / 3600 = hour := by omega
  have minuteEq : (3600 * hour + 60 * minute + min second 59) / 60 % 60 = minute := by omega
  have secondEq : (3600 * hour + 60 * minute + min second 59) % 60 = min second 59 := by omega
  rw [clockText, hourEq, minuteEq, secondEq]
  by_cases leap : second = 60
  · rw [if_pos leap, if_pos (Nat.le_add_left _ _), if_pos (Nat.le_add_left _ _),
      Nat.add_sub_cancel, leap]
    rfl
  · have early : ¬nanosPerSecond ≤ nanos := Nat.not_le.2 nanosLt
    have kept : min second 59 = second := by omega
    rw [if_neg leap, Nat.add_zero, if_neg early, if_neg early, kept, Nat.add_zero]

theorem text_of_ofParts? {parts : Parts} {time : DateTime} (kept : parts.Kept)
    (made : ofParts? parts = some time) : time.text.toList = parts.text := by
  rw [ofParts?] at made
  obtain ⟨range, made⟩ := Option.ite_none_right_eq_some.1 made
  obtain ⟨-, same⟩ := Option.ite_none_right_eq_some.1 made
  obtain ⟨-, -, found, hour, minute, second, -⟩ := range
  have secondLt : min parts.second 59 < 60 := by omega
  cases same
  rw [DateTime.text, shown_of_clock found hour minute secondLt]
  dsimp only
  rw [clockText_leap minute second kept.1, Date.text, Parts.text]
  simp only [String.toList_append, List.append_assoc]
  rfl

/-- A date and time that some numbers make is read back from its written form, if this
form keeps the numbers. -/
theorem ofText?_of_ofParts? {parts : Parts} {time : DateTime} (kept : parts.Kept)
    (made : ofParts? parts = some time) : ofText? time.text = some time := by
  obtain ⟨range, -⟩ := Option.ite_none_right_eq_some.1 made
  obtain ⟨-, -, ⟨-, month, -, day⟩, hour, minute, second, offset⟩ := range
  have dayLe := Nat.le_trans day (Date.daysInMonth_le _ _)
  have dayLt : parts.date.day < 100 := by
    split at dayLe
    · omega
    · split at dayLe <;> omega
  have text := text_of_ofParts? kept made
  rw [ofText?, text, parts?_text kept (by omega) dayLt (by omega) (by omega) (by omega) offset]
  exact made

/-- A date and time that was read is written in a form that reads back as the same
instant with the same offset. -/
theorem ofText?_text {source : String} {time : DateTime} (read : ofText? source = some time) :
    ofText? time.text = some time := by
  obtain ⟨parts, split, made⟩ := Option.bind_eq_some_iff.1 read
  exact ofText?_of_ofParts? (kept_of_parts? split) made

end ControlPlane.DateTime
