import ControlPlane.Proofs.Registry.PlanRows

/-!
# A lock that stands

A lock stands for a plan where the plan's row holds its written form.  It stands once it
is taken, through everything that leaves the row alone and through commits, and as long
as it does, everyone who asks about the plan is told exactly this lock.
-/

namespace ControlPlane.Plans

variable {database : Database} {writes : WriteSet} {plan : String} {lock : Lock}

/-- The row of a plan's lock holds the written form of a lock. -/
def Stands (database : Database) (writes : WriteSet) (plan : String) (lock : Lock) : Prop :=
  ConfigItems.Reads database writes (lockKey plan) (some lock.text)

/-- What is told about a plan while a lock stands: the lock is read, and nobody is
refused with another one. -/
structure Told (database : Database) (writes : WriteSet) (plan : String) (lock : Lock) :
    Prop where
  stored : storedLock? plan database writes = (.ok (some lock), writes)
  read : getLock plan database writes = (.ok lock, writes)
  taken : ∀ requested, Plans.lock plan requested database writes =
    (.error (refusal lock requested), writes)
  kept : ∀ requested, lock.sameHolder requested = false →
    unlock plan requested database writes = (.error (.lockConflict lock), writes)
  guarded : ∀ lockId state, lock.id ≠ lockId →
    putState plan lockId state database writes = (.error (.lockConflict lock), writes)

/-! ## Taking a lock -/

/-- Taking a lock writes it into its row. -/
theorem writes_of_lock {after : WriteSet}
    (taken : Plans.lock plan lock database writes = (.ok (), after)) :
    after = writes.put .config (lockKey plan) (Utf8.encode lock.text) := by
  rcases (readsOnly_storedLock? plan).ok_of_bind taken with ⟨row, _, rest⟩
  cases row with
  | none => exact (congrArg Prod.snd rest).symm
  | some held =>
    simp only at rest
    split at rest
    · cases rest
    · cases rest

theorem stands_of_lock {after : WriteSet}
    (taken : Plans.lock plan lock database writes = (.ok (), after)) :
    Stands database after plan lock := by
  rw [writes_of_lock taken]
  exact ConfigItems.reads_put _ _ _ _

/-! ## While it stands -/

theorem told_of_stands (stands : Stands database writes plan lock)
    (decoded : LockRow.ofText? (some lock.text) = .held lock) :
    Told database writes plan lock := by
  constructor
  · rw [storedLock?_apply stands, decoded]
    rfl
  · rw [getLock_apply stands, decoded]
  · intro requested
    rw [lock_apply stands, decoded]
  · intro requested other
    rw [unlock_apply stands, decoded]
    simp only [other, Bool.false_eq_true, if_false]
  · intro lockId state other
    rw [putState_apply stands, decoded]
    simp only [other, if_false]

/-- A lock that a client sends reads back from its written form as it was sent, and is
written in the same way again.  Once it is taken it stands; it stands as long as nothing
is staged in its row, and through commits; and while it stands, it is the lock that
everyone is told. -/
theorem sent_lock_round_trip {document : Bytes} (sent : decodeLock document = .ok lock) :
    Lock.decode (Utf8.encode lock.text) = .ok lock ∧
      (Lock.decode (Utf8.encode lock.text)).map Lock.text = .ok lock.text ∧
      (∀ plan database writes after, Plans.lock plan lock database writes = (.ok (), after) →
        Stands database after plan lock) ∧
      ∀ plan database writes, Stands database writes plan lock →
        Told database writes plan lock ∧
        (∀ writes', writes'.get? .config (lockKey plan) = writes.get? .config (lockKey plan) →
          Stands database writes' plan lock) ∧
        ∀ committed, database.apply writes = .ok committed →
          Stands committed .empty plan lock := by
  have decoded := Lock.decode_text (Lock.dated_of_decode (decode_of_sent sent))
  refine ⟨decoded, ?_, ?_, ?_⟩
  · rw [decoded]
    rfl
  · intro plan database writes after taken
    exact stands_of_lock taken
  · intro plan database writes stands
    refine ⟨told_of_stands stands (ofText?_text sent), ?_, ?_⟩
    · intro writes' same
      exact stands.congr same
    · intro committed applied
      exact stands.commit applied

/-- A document with its members out of order, a control character in one of them, and
a leap second of a negative year, written with a space and seven digits. -/
theorem sent_lock_round_trip_leap_second :
    let source := "-12024-02-29 23:59:60.1234567 -01:30"
    let created : DateTime := ⟨⟨-441602836201, 1123456700⟩, -5400⟩
    let lock : Lock := { id := "7", info := "a\"\n\u0001é", created := some created }
    let document := Utf8.encode <| Json.Document.write <| .object
      [("Path", .text ""), ("Created", .text source), ("ID", .text "7"), ("Operation", .text ""),
        ("Info", .text "a\"\n\u0001é"), ("Who", .text ""), ("Version", .text "")]
    decodeLock document = .ok lock ∧
      created.text = "-12024-02-29T23:59:60.123456700-01:30" ∧
      Lock.decode (Utf8.encode lock.text) = .ok lock := by
  intro source created lock document
  have read : DateTime.ofText? source = some created := by decide +kernel
  have decoded : Lock.decode document = .ok lock :=
    Json.Shape.decode_written (lock.pathMember :: Lock.dateMember read :: lock.textMembers)
      (by simp [Lock.pathMember, Lock.dateMember, Lock.textMembers]) (Lock.complete _) (by
        simp [Lock.pathMember, Lock.dateMember, Lock.textMembers, Json.WrittenMember.pair,
          Json.Document.Fits, Json.Document.Fits.membersFit])
  have sent : decodeLock document = .ok lock := by
    rw [decodeLock, decoded]
    rfl
  exact ⟨sent, by decide +kernel, (sent_lock_round_trip sent).1⟩

end ControlPlane.Plans
