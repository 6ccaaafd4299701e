import ControlPlane.Proofs.Time.WrittenDates

/-!
# Written instants read back

An instant in universal time is read back from its written form if its date lies in the
range of years and its leap second, if it is one, ends a minute.  No text is needed to
begin with: the numbers of the text are found from the instant.  Every instant that is
stored as a count of nanoseconds is of this kind.
-/

namespace ControlPlane

namespace Instant

/-- Whether the calendar has the instant: its date lies in the range of years, and its
second is not split into more than 10⁹ nanoseconds unless it ends a minute, where a leap
second follows. -/
def Valid (instant : Instant) : Prop :=
  instant.InRange ∧
    (instant.nanos < nanosPerSecond ∨
      (instant.nanos < 2 * nanosPerSecond ∧ instant.seconds % 60 = 59))

instance (instant : Instant) : Decidable instant.Valid :=
  inferInstanceAs (Decidable (_ ∧ _))

/-- The instants that the calendar has are those that are made of seconds and
nanoseconds. -/
theorem valid_iff {instant : Instant} :
    instant.Valid ↔ ofParts? instant.seconds instant.nanos = some instant := by
  rw [Valid, ofParts?]
  exact (Option.ite_none_right_eq_some.trans (and_iff_left rfl)).symm

/-- The numbers that an instant is written with. -/
def parts (instant : Instant) : DateTime.Parts :=
  let secondOfDay := (instant.seconds % secondsPerDay).toNat
  let leap := nanosPerSecond ≤ instant.nanos
  { date := instant.date
    hour := secondOfDay / 3600
    minute := secondOfDay / 60 % 60
    second := if leap then 60 else secondOfDay % 60
    nanos := if leap then instant.nanos - nanosPerSecond else instant.nanos
    offset := 0 }

theorem nanos_parts (instant : Instant) :
    instant.parts.nanos + (if instant.parts.second = 60 then nanosPerSecond else 0) =
      instant.nanos := by
  by_cases leap : nanosPerSecond ≤ instant.nanos
  · simp [parts, leap]
  · have early : (instant.seconds % secondsPerDay).toNat % 60 ≠ 60 := by omega
    simp [parts, leap, early]

namespace Valid

variable {instant : Instant} (valid : instant.Valid)

include valid

theorem kept_parts : instant.parts.Kept := by
  obtain ⟨-, nanos⟩ := valid
  constructor
  · simp only [parts]
    split <;> omega
  · rfl

/-- The clock shows the second of the day, second 59 in a leap second. -/
theorem secondOfDay_parts :
    3600 * instant.parts.hour + 60 * instant.parts.minute + min instant.parts.second 59 =
      (instant.seconds % secondsPerDay).toNat := by
  obtain ⟨-, nanos⟩ := valid
  have minute : ((instant.seconds % secondsPerDay).toNat % 60 : Nat) = instant.seconds % 60 := by
    simp only [secondsPerDay]
    omega
  simp only [parts]
  split <;> omega

/-- The numbers that an instant is written with make the instant. -/
theorem ofParts?_parts : DateTime.ofParts? instant.parts = some ⟨instant, 0⟩ := by
  have range := valid.1
  have found : instant.parts.date.Exists := Date.exists_ofDays _
  have days : instant.parts.date.toDays = instant.seconds / secondsPerDay := Date.toDays_ofDays _
  have inDay : (instant.seconds % secondsPerDay).toNat < 86400 := by
    simp only [secondsPerDay]
    omega
  have total : instant.seconds / secondsPerDay * secondsPerDay +
      (instant.seconds % secondsPerDay).toNat = instant.seconds := by
    simp only [secondsPerDay]
    omega
  have clock : instant.parts.hour < 24 ∧ instant.parts.minute < 60 ∧
      instant.parts.second ≤ 60 := by
    simp only [parts]
    refine ⟨by omega, by omega, ?_⟩
    split <;> omega
  have offset : instant.parts.offset = 0 := rfl
  rw [DateTime.ofParts?, if_pos ⟨range.1, range.2, found, clock.1, clock.2.1, clock.2.2, by
    rw [offset]
    decide⟩]
  simp only [valid.secondOfDay_parts, instant.nanos_parts, days, offset, total, Int.sub_zero]
  exact if_pos range

/-- An instant is read back from its written form. -/
theorem ofText?_text : DateTime.ofText? instant.text = some ⟨instant, 0⟩ :=
  DateTime.ofText?_of_ofParts? valid.kept_parts valid.ofParts?_parts

end Valid

end Instant

end ControlPlane
