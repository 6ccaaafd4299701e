import ControlPlane.Proofs.Json.WrittenRecords
import ControlPlane.Proofs.Time.WrittenDates
import ControlPlane.Records.Lock

/-!
# Written locks read back

A lock reads back from its written form if its date is one that a text can stand for.
Every lock that was read is of this kind: its date, if it has one, came from a text.
-/

namespace ControlPlane.Lock

open Json

/-- Whether the date of a lock, if it has one, is what some text stands for. -/
def Dated (lock : Lock) : Prop :=
  ∀ time, lock.created = some time → ∃ source, DateTime.ofText? source = some time

/-! ## Locks that were read -/

theorem dated_of_readOptionalDate {value : Option DateTime} {tokens rest : List Token}
    (read : readOptionalDate tokens = .ok (value, rest)) {time : DateTime}
    (dated : value = some time) : ∃ source, DateTime.ofText? source = some time := by
  rw [readOptionalDate.eq_def] at read
  split at read
  · cases read
    cases dated
  · obtain ⟨⟨time', rest'⟩, date_read, same⟩ := Shape.map_eq_ok read
    cases same
    cases dated
    rw [readDate.eq_def] at date_read
    split at date_read
    · split at date_read
      · rename_i found
        cases date_read
        exact ⟨_, found⟩
      · cases date_read
    · cases date_read
    · cases date_read

theorem dated_of_decode {document : Bytes} {lock : Lock} (decoded : decode document = .ok lock) :
    lock.Dated := by
  have kept : ∀ field ∈ shape.fields, Shape.KeptBy Dated field := by
    intro field isField record value tokens rest before read
    simp only [shape, List.mem_cons, List.not_mem_nil, or_false] at isField
    rcases isField with rfl | rfl | rfl | rfl | rfl | rfl | rfl
    · exact before
    · exact before
    · exact before
    · exact before
    · exact before
    · exact fun time dated => dated_of_readOptionalDate read dated
    · exact before
  have blank : Dated shape.blank := by
    intro time dated
    cases dated
  exact Shape.decode_induction kept blank decoded

/-! ## The written members -/

/-- The members before the date. -/
def textMembers (lock : Lock) : List (WrittenMember shape) := [
  ⟨⟨"ID", .text, false, fun value lock => { lock with id := value }⟩, lock.id, .text lock.id,
    rfl, fun _ => rfl⟩,
  ⟨⟨"Operation", .text, false, fun value lock => { lock with operation := value }⟩,
    lock.operation, .text lock.operation, rfl, fun _ => rfl⟩,
  ⟨⟨"Info", .text, false, fun value lock => { lock with info := value }⟩, lock.info,
    .text lock.info, rfl, fun _ => rfl⟩,
  ⟨⟨"Who", .text, false, fun value lock => { lock with who := value }⟩, lock.who,
    .text lock.who, rfl, fun _ => rfl⟩,
  ⟨⟨"Version", .text, false, fun value lock => { lock with version := value }⟩, lock.version,
    .text lock.version, rfl, fun _ => rfl⟩]

theorem read_optionalDate {source : String} {time : DateTime}
    (dated : DateTime.ofText? source = some time) (rest : List Token) :
    Kind.optionalDate.read ((Document.text source).tokens ++ rest) = .ok (some time, rest) := by
  rw [Document.tokens, List.singleton_append, Kind.read, readOptionalDate, readDate, dated]
  · rfl
  · intro rest impossible
    cases impossible

/-- A date as a member, in any form that it reads back from. -/
def dateMember {source : String} {time : DateTime}
    (dated : DateTime.ofText? source = some time) : WrittenMember shape :=
  ⟨⟨"Created", .optionalDate, false, fun value lock => { lock with created := value }⟩,
    some time, .text source, rfl, read_optionalDate dated⟩

/-- The member behind the date. -/
def pathMember (lock : Lock) : WrittenMember shape :=
  ⟨⟨"Path", .text, false, fun value lock => { lock with path := value }⟩, lock.path,
    .text lock.path, rfl, fun _ => rfl⟩

/-! ## The round trip -/

theorem optional : ∀ field ∈ shape.fields, field.required = false := by
  simp [shape]

/-- No member has to be there. -/
theorem complete (names : List String) :
    ∀ field ∈ shape.fields, field.required = true → field.name ∈ names :=
  Shape.complete_of_optional optional names

/-- A lock whose date came from a text reads back from its written form. -/
theorem decode_text {lock : Lock} (dated : lock.Dated) :
    decode (Utf8.encode lock.text) = .ok lock := by
  obtain ⟨id, operation, info, who, version, created, path⟩ := lock
  cases created with
  | none =>
    let lock : Lock := ⟨id, operation, info, who, version, none, path⟩
    exact Shape.decode_written (lock.textMembers ++ [lock.pathMember])
      (by simp [textMembers, pathMember]) (complete _) (by
        simp [textMembers, pathMember, WrittenMember.pair, Document.Fits,
          Document.Fits.membersFit])
  | some time =>
    obtain ⟨source, read⟩ := dated time rfl
    have reads := DateTime.ofText?_text read
    let lock : Lock := ⟨id, operation, info, who, version, some time, path⟩
    exact Shape.decode_written (lock.textMembers ++ [dateMember reads, lock.pathMember])
      (by simp [textMembers, dateMember, pathMember]) (complete _) (by
        simp [textMembers, dateMember, pathMember, WrittenMember.pair, Document.Fits,
          Document.Fits.membersFit])

end ControlPlane.Lock
