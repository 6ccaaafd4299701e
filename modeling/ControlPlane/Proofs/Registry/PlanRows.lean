import ControlPlane.Proofs.Records.WrittenLocks
import ControlPlane.Proofs.Registry.ConfigTexts
import ControlPlane.Registry.Plans

/-!
# The rows of a deployment plan

A plan has two rows among the configuration items, and no two plans share one.  What
an operation on a plan does is settled by them: one equation for each operation says
so, for any text under the key of the lock.
-/

namespace ControlPlane.Plans

/-! ## Keys -/

theorem lockKey_injective {a b : String} (same : lockKey a = lockKey b) : a = b :=
  String.append_right_inj lockStart |>.1 same

theorem stateKey_injective {a b : String} (same : stateKey a = stateKey b) : a = b :=
  String.append_right_inj stateStart |>.1 same

/-- No lock is kept under the key of a state: the starts of their keys differ within
their length. -/
@[simp]
theorem lockKey_ne_stateKey (a b : String) : lockKey a ≠ stateKey b := by
  intro same
  have chars := congrArg (fun key => key.toList.take 4) same
  rw [lockKey, stateKey, String.toList_append, String.toList_append,
    List.take_append_of_le_length (by decide), List.take_append_of_le_length (by decide)] at chars
  exact absurd chars (by decide)

@[simp]
theorem stateKey_ne_lockKey (a b : String) : stateKey a ≠ lockKey b :=
  (lockKey_ne_stateKey b a).symm

theorem stateKey_ne_empty (plan : String) : stateKey plan ≠ "" := by
  rw [ne_eq, ← String.toList_inj, stateKey, String.toList_append]
  exact List.cons_ne_nil _ _

theorem lockKey_ne_empty (plan : String) : lockKey plan ≠ "" := by
  rw [ne_eq, ← String.toList_inj, lockKey, String.toList_append]
  exact List.cons_ne_nil _ _

@[simp]
theorem startsWith_lockKey (plan : String) : startsWith (lockKey plan) lockStart = true := by
  rw [startsWith_iff, lockKey, String.toList_append]
  exact List.prefix_append _ _

/-- No key of a state starts like those of locks. -/
@[simp]
theorem startsWith_stateKey (plan : String) : startsWith (stateKey plan) lockStart = false := by
  rw [startsWith, stateKey, String.toList_append]
  rfl

/-! ## The row of a lock -/

/-- What stands in the row of a lock. -/
inductive LockRow where
  | absent
  | held (lock : Lock)
  /-- The text is not that of a lock. -/
  | corrupt (problem : Json.Error)
  deriving DecidableEq

namespace LockRow

/-- What a text, or none, in the row of a lock stands for. -/
def ofText? : Option String → LockRow
  | none => .absent
  | some text =>
    match Lock.decode (Utf8.encode text) with
    | .ok lock => .held lock
    | .error problem => .corrupt problem

/-- The lock that is read from the row, if any. -/
def read (plan : String) : LockRow → Except Failure (Option Lock)
  | .absent => .ok none
  | .held lock => .ok (some lock)
  | .corrupt problem => .error (.internal (.lock plan problem))

theorem ofText?_eq_absent {text? : Option String} : ofText? text? = .absent ↔ text? = none := by
  cases text? with
  | none => simp [ofText?]
  | some text =>
    rw [ofText?]
    cases Lock.decode (Utf8.encode text) <;> simp

end LockRow

/-- A lock is read from its text wherever a date is read as it is written. -/
theorem decodeLock_text {requested : Lock} (dated : requested.Dated) :
    decodeLock (Utf8.encode requested.text) = .ok requested := by
  rw [decodeLock, Lock.decode_text dated]
  rfl

theorem decode_of_sent {document : Bytes} {requested : Lock}
    (sent : decodeLock document = .ok requested) : Lock.decode document = .ok requested := by
  rw [decodeLock] at sent
  cases read : Lock.decode document with
  | ok lock =>
    rw [read] at sent
    exact congrArg Except.ok (Except.ok.inj sent)
  | error problem =>
    rw [read] at sent
    cases sent

/-- A lock that a client sent stands as it was sent. -/
theorem ofText?_text {document : Bytes} {requested : Lock}
    (sent : decodeLock document = .ok requested) :
    LockRow.ofText? (some requested.text) = .held requested := by
  rw [LockRow.ofText?, Lock.decode_text (Lock.dated_of_decode (decode_of_sent sent))]

/-- How a held lock is refused to whoever asks for it. -/
def refusal (held requested : Lock) : Failure :=
  if held.sameHolder requested then .locked .sameId held else .lockConflict held

/-! ## Operations on the rows -/

variable {database : Database} {writes : WriteSet} {plan : String} {text? : Option String}

section OnLock

variable (reads : ConfigItems.Reads database writes (lockKey plan) text?)

include reads

theorem storedLock?_apply :
    storedLock? plan database writes = ((LockRow.ofText? text?).read plan, writes) := by
  rw [storedLock?, Action.bind_apply, ConfigItems.get?_apply reads]
  cases text? with
  | none => rfl
  | some text =>
    simp only [LockRow.ofText?]
    cases Lock.decode (Utf8.encode text) <;> rfl

theorem getLock_apply :
    getLock plan database writes =
      match LockRow.ofText? text? with
      | .absent => (.error ConfigItems.notFound, writes)
      | .held held => (.ok held, writes)
      | .corrupt problem => (.error (.internal (.lock plan problem)), writes) := by
  rw [getLock, Action.bind_apply, storedLock?_apply reads]
  cases LockRow.ofText? text? <;> rfl

theorem lock_apply (requested : Lock) :
    lock plan requested database writes =
      match LockRow.ofText? text? with
      | .absent => (.ok (), writes.put .config (lockKey plan) (Utf8.encode requested.text))
      | .held held => (.error (refusal held requested), writes)
      | .corrupt problem => (.error (.internal (.lock plan problem)), writes) := by
  rw [lock, Action.bind_apply, storedLock?_apply reads]
  cases LockRow.ofText? text? with
  | absent => rfl
  | corrupt problem => rfl
  | held held =>
    simp only [LockRow.read, refusal]
    split <;> rfl

theorem unlock_apply (requested : Lock) :
    unlock plan requested database writes =
      match LockRow.ofText? text? with
      | .absent => (.ok (), writes)
      | .held held =>
        if held.sameHolder requested then (.ok (), writes.delete .config (lockKey plan))
        else (.error (.lockConflict held), writes)
      | .corrupt problem => (.error (.internal (.lock plan problem)), writes) := by
  rw [unlock, Action.bind_apply, storedLock?_apply reads]
  cases stands : LockRow.ofText? text? with
  | absent => rfl
  | corrupt problem => rfl
  | held held =>
    simp only [LockRow.read]
    split
    · rw [ConfigItems.delete_apply reads]
      cases text? with
      | none => cases stands
      | some text => rfl
    · rfl

theorem putState_apply (lockId state : String) :
    putState plan lockId state database writes =
      match LockRow.ofText? text? with
      | .absent => (.error (.lockConflict .blank), writes)
      | .held held =>
        if held.id = lockId then
          (.ok (), writes.put .config (stateKey plan) (Utf8.encode state))
        else (.error (.lockConflict held), writes)
      | .corrupt problem => (.error (.internal (.lock plan problem)), writes) := by
  rw [putState, Action.bind_apply, storedLock?_apply reads]
  cases LockRow.ofText? text? with
  | absent => rfl
  | corrupt problem => rfl
  | held held =>
    simp only [LockRow.read]
    split <;> rfl

end OnLock

section OnState

variable (reads : ConfigItems.Reads database writes (stateKey plan) text?)

include reads

theorem getState_apply :
    getState plan database writes =
      (text?.elim (.error ConfigItems.notFound) Except.ok, writes) := by
  rw [getState, Action.bind_apply, ConfigItems.get?_apply reads]
  cases text? <;> rfl

theorem deleteState_apply :
    deleteState plan database writes =
      text?.elim (.error ConfigItems.notFound, writes) fun _ =>
        (.ok (), writes.delete .config (stateKey plan)) := by
  rw [deleteState, Action.bind_apply, ConfigItems.get?_apply reads]
  cases text? with
  | none => rfl
  | some state => exact ConfigItems.delete_apply reads

end OnState

/-! ## What the operations may change -/

theorem readsOnly_storedLock? (plan : String) : (storedLock? plan).ReadsOnly := by
  apply (ConfigItems.readsOnly_get? _).bind
  rintro (_ | text)
  · exact Action.readsOnly_pure _
  · simp only
    cases Lock.decode (Utf8.encode text) with
    | ok lock => exact Action.readsOnly_pure _
    | error problem => exact Action.readsOnly_fail _

/-- A state that is replaced is written into its row. -/
theorem writes_of_putState {lockId state : String} {after : WriteSet}
    (replaced : putState plan lockId state database writes = (.ok (), after)) :
    after = writes.put .config (stateKey plan) (Utf8.encode state) := by
  rcases (readsOnly_storedLock? plan).ok_of_bind replaced with ⟨row, _, rest⟩
  cases row with
  | none => cases rest
  | some held =>
    simp only at rest
    split at rest
    · exact (congrArg Prod.snd rest).symm
    · cases rest

theorem readsOnly_getLock (plan : String) : (getLock plan).ReadsOnly := by
  apply (readsOnly_storedLock? plan).bind
  rintro (_ | lock)
  · exact Action.readsOnly_fail _
  · exact Action.readsOnly_pure _

theorem readsOnly_getState (plan : String) : (getState plan).ReadsOnly := by
  apply (ConfigItems.readsOnly_get? _).bind
  rintro (_ | state)
  · exact Action.readsOnly_fail _
  · exact Action.readsOnly_pure _

theorem readsOnly_plansWith (start : String) : (plansWith start).ReadsOnly :=
  (ConfigItems.readsOnly_keys start).bind fun _ => Action.readsOnly_pure _

theorem staysIn_lock (plan : String) (requested : Lock) :
    (lock plan requested).StaysIn (Action.onlyRow .config (lockKey plan)) := by
  apply (readsOnly_storedLock? plan).staysIn.bind
  rintro (_ | held)
  · exact ConfigItems.staysIn_upsert _ _
  · simp only
    split
    · exact (Action.readsOnly_fail _).staysIn
    · exact (Action.readsOnly_fail _).staysIn

theorem staysIn_unlock (plan : String) (requested : Lock) :
    (unlock plan requested).StaysIn (Action.onlyRow .config (lockKey plan)) := by
  apply (readsOnly_storedLock? plan).staysIn.bind
  rintro (_ | held)
  · exact (Action.readsOnly_pure _).staysIn
  · simp only
    split
    · exact ConfigItems.staysIn_delete _
    · exact (Action.readsOnly_fail _).staysIn

theorem staysIn_putState (plan lockId state : String) :
    (putState plan lockId state).StaysIn (Action.onlyRow .config (stateKey plan)) := by
  apply (readsOnly_storedLock? plan).staysIn.bind
  rintro (_ | held)
  · exact (Action.readsOnly_fail _).staysIn
  · simp only
    split
    · exact ConfigItems.staysIn_upsert _ _
    · exact (Action.readsOnly_fail _).staysIn

theorem staysIn_deleteState (plan : String) :
    (deleteState plan).StaysIn (Action.onlyRow .config (stateKey plan)) := by
  apply (ConfigItems.readsOnly_get? _).staysIn.bind
  rintro (_ | state)
  · exact (Action.readsOnly_fail _).staysIn
  · exact ConfigItems.staysIn_delete _

/-! ## Lists of plans -/

theorem dropStart_append (start plan : String) : dropStart start (start ++ plan) = plan := by
  rw [dropStart, String.toList_append, ← String.length_toList, List.drop_left,
    String.ofList_toList]

/-- A key with the start is the start and the rest of it. -/
theorem append_dropStart {start key : String} (starts : startsWith key start = true) :
    start ++ dropStart start key = key := by
  rw [startsWith_iff] at starts
  rcases starts with ⟨rest, chars⟩
  have whole : key = start ++ String.ofList rest := by
    rw [← String.toList_inj, String.toList_append, String.toList_ofList, chars]
  rw [whole, dropStart_append]

theorem append_lt_append {start a b : String} : start ++ a < start ++ b ↔ a < b := by
  have forward {a b : String} (less : a < b) : start ++ a < start ++ b := by
    have chars : a.toList < b.toList := less
    have behind : start.toList ++ a.toList < start.toList ++ b.toList :=
      List.append_left_lt chars
    rw [← String.toList_append, ← String.toList_append] at behind
    exact behind
  constructor
  · intro less
    rcases String.le_total b a with le | le
    · by_cases equal : b = a
      · rw [equal] at less
        exact absurd less (String.lt_irrefl _)
      · have reverse := forward (KeyMap.lt_of_not_lt_of_ne (String.not_lt.2 le) equal)
        exact absurd (String.lt_trans less reverse) (String.lt_irrefl _)
    · by_cases equal : a = b
      · rw [equal] at less
        exact absurd less (String.lt_irrefl _)
      · exact KeyMap.lt_of_not_lt_of_ne (String.not_lt.2 le) equal
  · exact forward

/-- The names behind a start of keys are listed once each and in ascending order. -/
theorem plansWith_apply {start : String} (canFind : database.medium.canFind start = true)
    (readable : database.unreadable.get .config = []) (writes : WriteSet) :
    ∃ plans, plansWith start database writes = (.ok plans, writes) ∧
      plans.Pairwise (· < ·) ∧
      ∀ plan, plan ∈ plans ↔ (database.value? writes .config (start ++ plan)).isSome := by
  let map := ((database.seen writes).get .config).filter fun key _ => startsWith key start
  have starts (entry : String × Bytes) (member : entry ∈ map.entries) :
      start ++ dropStart start entry.1 = entry.1 := by
    have found := KeyMap.mem_entries_iff.1 member
    rw [KeyMap.get?_filter, Option.filter_eq_some_iff] at found
    exact append_dropStart found.2
  refine ⟨map.keys.map (dropStart start), ?_, ?_, ?_⟩
  · rw [plansWith, Action.bind_apply, ConfigItems.keys_apply canFind readable]
    rfl
  · rw [KeyMap.keys, List.map_map, List.pairwise_map]
    apply map.ascending.imp_of_mem
    intro a b member member' less
    rw [← starts a member, ← starts b member', append_lt_append] at less
    exact less
  · intro plan
    constructor
    · intro listed
      rcases List.mem_map.1 listed with ⟨key, member, rfl⟩
      rcases List.mem_map.1 member with ⟨entry, inside, rfl⟩
      have found := KeyMap.mem_entries_iff.1 inside
      rw [KeyMap.get?_filter, Option.filter_eq_some_iff] at found
      rw [starts entry inside, Database.value?, found.1]
      rfl
    · intro present
      rcases Option.isSome_iff_exists.1 present with ⟨value, found⟩
      apply List.mem_map.2
      refine ⟨start ++ plan, List.mem_map.2 ⟨(start ++ plan, value), ?_, rfl⟩,
        dropStart_append start plan⟩
      rw [KeyMap.mem_entries_iff, KeyMap.get?_filter, Option.filter_eq_some_iff]
      refine ⟨found, ?_⟩
      rw [startsWith_iff, String.toList_append]
      exact List.prefix_append _ _

end ControlPlane.Plans
