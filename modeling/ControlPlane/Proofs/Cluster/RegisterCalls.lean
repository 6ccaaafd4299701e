import ControlPlane.Proofs.Cluster.RegisterRows
import ControlPlane.Proofs.Cluster.SoundCalls

/-!
# Calls on rows that stand for registers

A call on rows that stand for registers is answered as the registers answer it, and the
rows that it leaves stand for the registers after it.  This is read off the equation of
each operation, one operation at a time.
-/

namespace ControlPlane

open Registers (Stand Answers KeptRoles matchesRoles)

/-- How an action ends on rows that stand for registers.  An answer is one that the
registers give, and the rows stand for the registers after it.  A failure is one of theirs
as well, and leaves them as they are. -/
inductive RegisterEnd (database : Database) (registers : Registers) {α : Type}
    (answers : Except Failure α → Registers → Prop) : Except Failure α × WriteSet → Prop
  | answer {value : α} {writes : WriteSet} {after : Registers} :
      answers (.ok value) after → after.Stand (database.plain writes) →
      RegisterEnd database registers answers (.ok value, writes)
  | failure {failure : Failure} {writes : WriteSet} : answers (.error failure) registers →
      RegisterEnd database registers answers (.error failure, writes)

variable {registers : Registers} {database : Database} {writes : WriteSet} {member : String}
  {now : Instant}

namespace Register

variable {ρ : Type} {register : Register ρ} {name : String}

theorem find_eq_elim (register : Register ρ) (missing : Failure) (name : String) :
    register.find missing name = (register name).elim (.error missing) .ok := by
  rw [find]
  cases register name <;> rfl

theorem find_of_none (missing : Failure) (absent : register name = none) :
    register.find missing name = .error missing := by
  rw [find_eq_elim, absent]
  rfl

theorem find_of_some (missing : Failure) {record : ρ} (present : register name = some record) :
    register.find missing name = .ok record := by
  rw [find_eq_elim, present]
  rfl

end Register

/-! ## Actions of one kind -/

namespace RegisterEnd

/-- The answers may be said to be those of a weaker rule. -/
theorem imp {α : Type} {answers answers' : Except Failure α → Registers → Prop}
    {result : Except Failure α × WriteSet} (ends : RegisterEnd database registers answers result)
    (weaker : ∀ outcome after, answers outcome after → answers' outcome after) :
    RegisterEnd database registers answers' result := by
  cases ends with
  | answer kept stand => exact .answer (weaker _ _ kept) stand
  | failure kept => exact .failure (weaker _ _ kept)

/-- An action that only reads. -/
theorem read {α : Type} {answers : Except Failure α → Registers → Prop}
    (stand : registers.Stand (database.plain writes)) {outcome : Except Failure α}
    (kept : answers outcome registers) :
    RegisterEnd database registers answers (outcome, writes) := by
  cases outcome with
  | ok value => exact .answer kept stand
  | error failure => exact .failure kept

section OneRegister

variable {ρ : Type} {register : Register ρ} {shows_ : String → Bytes → ρ → Prop}
  {table : Table} {name : String} (shown : register.Shown shows_ (database.plain writes table))
  (within : Register ρ → Registers) (same : within register = registers)

include shown same

/-- A record is put under a name that is free. -/
theorem add {record : ρ} {added : WriteSet} (taken : Failure)
    (left : (within (Function.update register name (some record))).Stand
      (database.plain added)) :
    RegisterEnd database registers
      (fun outcome after =>
        ∃ other, (outcome, other) = register.add taken name record ∧ after = within other)
      (match database.value? writes table name with
      | some _ => (.error taken, writes)
      | none => (.ok (), added)) := by
  rcases shown.cases name with ⟨row, absent⟩ | ⟨value, stored, row, present, _⟩
  · have unseen : database.value? writes table name = none := row
    rw [unseen]
    refine .answer ⟨_, ?_, rfl⟩ left
    rw [Register.add, absent]
  · have seen : database.value? writes table name = some value := row
    rw [seen]
    refine .failure ⟨register, ?_, same.symm⟩
    rw [Register.add, present]

/-- A record that has to be there is taken away. -/
theorem remove (found : database.medium.canFind name = true) (missing : Failure)
    (left : (within (Function.update register name none)).Stand
      (database.plain (writes.delete table name))) :
    RegisterEnd database registers
      (fun outcome after =>
        ∃ other, (outcome, other) = register.remove missing name ∧ after = within other)
      ((do if ← Action.delete table name then return () else Action.fail missing : Action Unit)
        database writes) := by
  rw [Action.deleteFound_apply found]
  rcases shown.cases name with ⟨row, absent⟩ | ⟨value, stored, row, present, _⟩
  · have unseen : database.value? writes table name = none := row
    rw [unseen]
    refine .failure ⟨register, ?_, same.symm⟩
    rw [Register.remove, absent]
  · have seen : database.value? writes table name = some value := row
    rw [seen]
    refine .answer ⟨_, ?_, rfl⟩ left
    rw [Register.remove, present]

end OneRegister

section Items

variable (stand : registers.Stand (database.plain writes)) {α : Type}
  {rule : Except Failure α × Register String} {value : α} {key : String}

include stand

/-- The items stay as they are. -/
theorem keepItems {outcome : Except Failure α} (settles : rule = (outcome, registers.items)) :
    RegisterEnd database registers
      (fun outcome after =>
        ∃ items, (outcome, items) = rule ∧ after = { registers with items })
      (outcome, writes) :=
  .read stand ⟨registers.items, settles.symm, rfl⟩

theorem putItem {text : String}
    (settles : rule = (.ok value, Function.update registers.items key (some text))) :
    RegisterEnd database registers
      (fun outcome after =>
        ∃ items, (outcome, items) = rule ∧ after = { registers with items })
      (.ok value, writes.put .config key (Utf8.encode text)) := by
  refine .answer ⟨_, settles.symm, rfl⟩ ?_
  rw [Database.plain_put]
  exact stand.setItem

theorem deleteItem
    (settles : rule = (.ok value, Function.update registers.items key none)) :
    RegisterEnd database registers
      (fun outcome after =>
        ∃ items, (outcome, items) = rule ∧ after = { registers with items })
      (.ok value, writes.delete .config key) := by
  refine .answer ⟨_, settles.symm, rfl⟩ ?_
  rw [Database.plain_delete]
  exact stand.setItem

end Items

end RegisterEnd

/-! ## What is read -/

namespace Registers

variable (stand : registers.Stand (database.plain writes))

include stand

theorem Stand.reads (found : ∀ key, database.medium.canFind key = true) (key : String) :
    ConfigItems.Reads database writes key (registers.items key) :=
  ConfigItems.reads_of_value (found key) (stand.items key)

theorem Stand.isSome_item (key : String) :
    (database.value? writes .config key).isSome ↔ registers.items key ≠ none := by
  have row : database.value? writes .config key = (registers.items key).map Utf8.encode :=
    stand.items key
  rw [row, Option.isSome_map, Option.ne_none_iff_isSome]

end Registers

section Ends

variable (stand : registers.Stand (database.plain writes))

include stand

/-! ## Actions that look nothing up -/

theorem ConfigItems.upsert_answers {key : String} (named : key ≠ "") (text : String) :
    RegisterEnd database registers (Answers member registers ⟨now, .putConfig key text⟩)
      (upsert key text database writes) :=
  .putItem stand (if_neg named)

theorem Nodes.list_answers (readable : database.unreadable.get .nodes = [])
    (wanted : List String) :
    RegisterEnd database registers (Answers member registers ⟨now, .listNodes wanted⟩)
      (list wanted database writes) := by
  have shows_ : ∀ row ∈ database.listed writes .nodes, ∃ node, Shows row node := by
    intro row member
    rcases stand.nodes.of_listed member with ⟨node, _, is⟩
    exact ⟨node, is.shows⟩
  rcases list_apply readable wanted shows_ with ⟨nodes, answered, each⟩
  rw [answered]
  rcases stand.nodes.lists (fun is is' => is.unique is') (fun is => is.matches_iff wanted)
    each with ⟨listed, rfl, lists⟩
  exact .read stand ⟨⟨listed, rfl, lists⟩, rfl⟩

theorem Manifests.list_answers (readable : database.unreadable.get .manifest = []) :
    RegisterEnd database registers (Answers member registers ⟨now, .listManifests⟩)
      (list database writes) := by
  have shows_ : ∀ row ∈ database.listed writes .manifest, ∃ entry, Shows row entry := by
    intro row member
    rcases stand.manifests.of_listed member with ⟨_, _, stored, read, _⟩
    exact ⟨(row.1, stored), rfl, read⟩
  rcases rows_apply readable shows_ with ⟨entries, read, each⟩
  rw [list_of_rows read]
  have records : List.Forall₂ (fun row manifest => Records row.1 row.2 manifest)
      ((database.listed writes .manifest).filter fun _ => true)
      (entries.map fun entry => entry.2.toManifest entry.1) := by
    rw [List.filter_true, List.forall₂_map_right_iff]
    apply each.imp
    rintro row ⟨id, stored⟩ ⟨rfl, read⟩
    exact ⟨stored, read, rfl⟩
  obtain ⟨listed, same, lists⟩ : ∃ listed, _ = listed.map (·.2) ∧
      registers.manifests.Lists (fun _ _ => True) listed :=
    stand.manifests.lists (fun is is' => is.unique is') (fun _ => iff_of_true rfl trivial) records
  rw [same]
  exact .read stand ⟨⟨listed, rfl, lists⟩, rfl⟩

theorem JujuUsers.list_answers (readable : database.unreadable.get .jujuUser = []) :
    RegisterEnd database registers (Answers member registers ⟨now, .listJujuUsers⟩)
      (list database writes) := by
  have shows_ : ∀ row ∈ database.listed writes .jujuUser, ∃ user, Shows row user := by
    intro row member
    rcases stand.users.of_listed member with ⟨user, _, is⟩
    exact ⟨user, is⟩
  rcases list_apply readable shows_ with ⟨users, answered, each⟩
  rw [answered]
  rw [← List.filter_true (database.listed writes .jujuUser)] at each
  obtain ⟨listed, rfl, lists⟩ : ∃ listed, users = listed.map (·.2) ∧
      registers.users.Lists (fun _ _ => True) listed :=
    stand.users.lists (fun is is' => is.unique is') (fun _ => iff_of_true rfl trivial) each
  exact .read stand ⟨⟨listed, rfl, lists⟩, rfl⟩

/-- An item is taken away that was looked up before. -/
theorem ConfigItems.remove_answers (key : String) {action : Action Unit}
    (acts : action database writes =
      (registers.items key).elim (.error notFound, writes) fun _ =>
        (.ok (), writes.delete .config key)) :
    RegisterEnd database registers
      (fun outcome after => ∃ items, (outcome, items) = registers.items.remove notFound key ∧
        after = { registers with items })
      (action database writes) := by
  rw [acts]
  cases present : registers.items key with
  | none =>
    apply RegisterEnd.keepItems stand
    rw [Register.remove, present]
  | some text =>
    apply RegisterEnd.deleteItem stand
    rw [Register.remove, present]

variable (found : ∀ key, database.medium.canFind key = true)

include found

/-! ## Configuration items -/

namespace ConfigItems

theorem get_answers (key : String) :
    RegisterEnd database registers (Answers member registers ⟨now, .getConfig key⟩)
      (get key database writes) := by
  rw [get_apply (stand.reads found key), ← Register.find_eq_elim]
  exact .read stand ⟨rfl, rfl⟩

theorem keys_answers (readable : database.unreadable.get .config = []) (start : String) :
    RegisterEnd database registers (Answers member registers ⟨now, .listConfigKeys start⟩)
      (keys start database writes) := by
  rw [keys_apply (found start) readable]
  let rows := ((database.seen writes).get .config).filter fun key _ => startsWith key start
  have mem_rows (key : String) (value : Bytes) : (key, value) ∈ rows.entries ↔
      (registers.items key).map Utf8.encode = some value ∧ start.toList <+: key.toList := by
    rw [KeyMap.mem_entries_iff, KeyMap.get?_filter, Option.filter_eq_some_iff, startsWith_iff,
      ← stand.items]
    rfl
  refine .read stand ⟨⟨registers.items.listing rows.entries, ?_, ?_⟩, rfl⟩
  · rw [Register.map_fst_listing]
    · rfl
    · rintro ⟨key, value⟩ member
      rcases Option.map_eq_some_iff.1 ((mem_rows key value).1 member).1 with ⟨text, present, _⟩
      exact ⟨text, present⟩
  · apply Register.lists_listing rows.ascending
    intro key text present
    constructor
    · rintro ⟨value, member⟩
      exact ((mem_rows key value).1 member).2
    · intro starts
      refine ⟨Utf8.encode text, (mem_rows key _).2 ⟨?_, starts⟩⟩
      rw [present]
      rfl

theorem delete_answers (key : String) :
    RegisterEnd database registers (Answers member registers ⟨now, .deleteConfig key⟩)
      ((do let _ ← get key; delete key : Action Unit) database writes) := by
  apply remove_answers stand key
  have reads := stand.reads found key
  rw [Action.bind_apply, get_apply reads]
  cases present : registers.items key with
  | none => rfl
  | some text =>
    rw [present] at reads
    exact delete_apply reads

end ConfigItems

/-! ## Plans -/

namespace Plans

theorem listStates_answers (readable : database.unreadable.get .config = []) :
    RegisterEnd database registers (Registers.Answers member registers ⟨now, .listStates⟩)
      (listStates database writes) := by
  rcases plansWith_apply (found stateStart) readable writes with ⟨plans, listed, ascending, present⟩
  rw [listStates, listed]
  exact .read stand ⟨⟨plans, rfl, ascending, fun plan =>
    (present plan).trans (stand.isSome_item _)⟩, rfl⟩

theorem listLocks_answers (readable : database.unreadable.get .config = []) :
    RegisterEnd database registers (Registers.Answers member registers ⟨now, .listLocks⟩)
      (listLocks database writes) := by
  rcases plansWith_apply (found lockStart) readable writes with ⟨plans, listed, ascending, present⟩
  rw [listLocks, listed]
  exact .read stand ⟨⟨plans, rfl, ascending, fun plan =>
    (present plan).trans (stand.isSome_item _)⟩, rfl⟩

theorem getState_answers (plan : String) :
    RegisterEnd database registers (Registers.Answers member registers ⟨now, .getState plan⟩)
      (getState plan database writes) := by
  rw [getState_apply (stand.reads found _), ← Register.find_eq_elim]
  exact .read stand ⟨rfl, rfl⟩

theorem deleteState_answers (plan : String) :
    RegisterEnd database registers (Registers.Answers member registers ⟨now, .deleteState plan⟩)
      (deleteState plan database writes) := by
  apply ConfigItems.remove_answers stand (stateKey plan)
  rw [deleteState_apply (stand.reads found _)]

theorem getLock_answers (plan : String) :
    RegisterEnd database registers (Registers.Answers member registers ⟨now, .getLock plan⟩)
      (getLock plan database writes) := by
  rw [getLock_apply (stand.reads found _)]
  rcases row : LockRow.ofText? (registers.items (lockKey plan)) with _ | held | problem <;>
    refine .read stand ⟨?_, rfl⟩ <;> rw [Registers.lockRow, row]

theorem lock_answers (plan : String) (requested : Lock) :
    RegisterEnd database registers
      (Registers.Answers member registers ⟨now, .lockPlan plan requested⟩)
      (lock plan requested database writes) := by
  rw [lock_apply (stand.reads found _)]
  cases row : LockRow.ofText? (registers.items (lockKey plan)) with
  | absent =>
    apply RegisterEnd.putItem stand
    rw [Registers.lockRow, row]
  | held held =>
    apply RegisterEnd.keepItems stand
    rw [Registers.lockRow, row]
  | corrupt problem =>
    apply RegisterEnd.keepItems stand
    rw [Registers.lockRow, row]

theorem unlock_answers (plan : String) (requested : Lock) :
    RegisterEnd database registers
      (Registers.Answers member registers ⟨now, .unlockPlan plan requested⟩)
      (unlock plan requested database writes) := by
  rw [unlock_apply (stand.reads found _)]
  cases row : LockRow.ofText? (registers.items (lockKey plan)) with
  | absent =>
    apply RegisterEnd.keepItems stand
    rw [Registers.lockRow, row]
  | held held =>
    by_cases same : held.sameHolder requested = true
    · simp only [if_pos same]
      apply RegisterEnd.deleteItem stand
      rw [Registers.lockRow, row]
      exact if_pos same
    · simp only [if_neg same]
      apply RegisterEnd.keepItems stand
      rw [Registers.lockRow, row]
      exact if_neg same
  | corrupt problem =>
    apply RegisterEnd.keepItems stand
    rw [Registers.lockRow, row]

theorem putState_answers (plan lockId state : String) :
    RegisterEnd database registers
      (Registers.Answers member registers ⟨now, .putState plan lockId state⟩)
      (putState plan lockId state database writes) := by
  rw [putState_apply (stand.reads found _)]
  cases row : LockRow.ofText? (registers.items (lockKey plan)) with
  | absent =>
    apply RegisterEnd.keepItems stand
    rw [Registers.lockRow, row]
  | held held =>
    by_cases same : held.id = lockId
    · simp only [if_pos same]
      apply RegisterEnd.putItem stand
      rw [Registers.lockRow, row]
      exact if_pos same
    · simp only [if_neg same]
      apply RegisterEnd.keepItems stand
      rw [Registers.lockRow, row]
      exact if_neg same
  | corrupt problem =>
    apply RegisterEnd.keepItems stand
    rw [Registers.lockRow, row]

end Plans

/-! ## Nodes -/

namespace Nodes

theorem get_answers (name : String) :
    RegisterEnd database registers (Answers member registers ⟨now, .getNode name⟩)
      (get name database writes) := by
  rw [get_apply (found name)]
  refine .read stand ⟨?_, rfl⟩
  rcases stand.nodes.cases name with ⟨row, absent⟩ | ⟨value, node, row, present, is⟩
  · rw [Register.find_of_none _ absent, row?_of_none row]
    rfl
  · rcases is.shows with ⟨stored, read, ofStored⟩
    rw [Register.find_of_some _ present, row?_of_some row read]
    exact ofStored

variable {roles : List String} {systemId : String}

theorem create_answers (name : String) (machineId : Int64)
    (measured : (Row.mk member (encodeRoles roles) machineId systemId).Measured) :
    RegisterEnd database registers
      (Answers member registers ⟨now, .addNode name roles machineId systemId⟩)
      (create member name roles machineId systemId database writes) := by
  rcases records_created name measured with ⟨kept, keeps, new⟩
  rw [create_apply (found name)]
  by_cases unnamed : name = ""
  · rw [if_pos unnamed]
    refine .failure ⟨registers.nodes, kept, keeps, ?_, rfl⟩
    rw [if_pos unnamed]
  · rw [if_neg unnamed]
    have left := stand.setNode (.some new)
    rw [← Database.plain_put] at left
    apply (RegisterEnd.add stand.nodes (fun nodes => { registers with nodes }) rfl
      (.alreadyExists "node") left).imp
    rintro outcome after ⟨nodes, settles, become⟩
    refine ⟨nodes, kept, keeps, ?_, become⟩
    rw [if_neg unnamed]
    exact settles

theorem update_answers (name : String) (machineId : Int64)
    (measured : (Row.mk member (encodeRoles roles) machineId systemId).Measured) :
    RegisterEnd database registers
      (Answers member registers ⟨now, .updateNode name roles machineId systemId⟩)
      (update member name roles machineId systemId database writes) := by
  rw [update_apply (found name)]
  rcases stand.nodes.cases name with ⟨row, absent⟩ | ⟨value, node, row, present, is⟩
  · rw [row?_of_none row]
    apply RegisterEnd.failure
    simp only [Answers, absent, and_self]
  · rw [row?_of_some row is.row]
    rcases is.update measured with ⟨kept, keeps, new⟩
    have left := stand.setNode (.some new)
    rw [← Database.plain_put] at left
    refine .answer ?_ left
    simp only [Answers, present]
    exact ⟨kept, keeps, trivial, rfl⟩

theorem delete_answers (name : String) :
    RegisterEnd database registers (Answers member registers ⟨now, .deleteNode name⟩)
      (delete name database writes) := by
  have left := stand.setNode (.none : Option.Rel (Records name) none none)
  rw [← Database.plain_delete] at left
  exact RegisterEnd.remove stand.nodes (fun nodes => { registers with nodes }) rfl
    (found name) notFound left

end Nodes

/-! ## Manifests -/

namespace Manifests

theorem get_answers {id : String} (named : id ≠ Manifest.latestId) :
    RegisterEnd database registers (Answers member registers ⟨now, .getManifest id⟩)
      (get id database writes) := by
  rw [get_apply (found id) named]
  rcases stand.manifests.cases id with ⟨row, absent⟩ | ⟨value, manifest, row, present, is⟩
  · rw [show database.value? writes .manifest id = none from row]
    exact .failure ⟨(Register.find_of_none _ absent).symm, rfl⟩
  · rcases is with ⟨stored, read, rfl⟩
    rw [show database.value? writes .manifest id = some value from row]
    simp only [read]
    exact .read stand ⟨(Register.find_of_some _ present).symm, rfl⟩

theorem create_answers (id data : String) (measured : Codec.Measured data) :
    RegisterEnd database registers (Answers member registers ⟨now, .addManifest id data⟩)
      (create id data now database writes) := by
  rw [create_apply (found id)]
  by_cases unnamed : id = ""
  · rw [if_pos unnamed]
    refine .failure ⟨registers.manifests, ?_, rfl⟩
    rw [if_pos unnamed]
  · by_cases reserved : id = Manifest.latestId
    · rw [if_neg unnamed, if_pos reserved]
      refine .failure ⟨registers.manifests, ?_, rfl⟩
      rw [if_neg unnamed, if_pos reserved]
    · rw [if_neg unnamed, if_neg reserved]
      rcases stand.manifests.cases id with ⟨row, absent⟩ | ⟨value, manifest, row, present, is⟩
      · rw [show database.value? writes .manifest id = none from row]
        by_cases fits : Int64.minValue.toInt ≤ now.toNanos ∧
            now.toNanos ≤ Int64.maxValue.toInt
        · rcases storedNanos?_of_fits fits with ⟨nanos, stored, same⟩
          rcases stand.counter with ⟨count, counts⟩
          have is : Records id (Row.codec.encode ⟨UInt64.ofNat count + 1, nanos, data⟩)
              ⟨id, .ofNanos now.toNanos, data⟩ := by
            refine ⟨_, (readsBack_row measured).read?, ?_⟩
            rw [Row.toManifest, same]
          have left := (stand.setCounter (UInt64.ofNat count + 1)).setManifest (.some is)
          rw [← Database.plain_put, ← Database.plain_put] at left
          simp only [stored, counts.lastRowId?]
          refine .answer ⟨_, ?_, rfl⟩ left
          rw [if_neg unnamed, if_neg reserved, if_neg fun both => both.2 fits, Register.add, absent]
        · simp only [storedNanos?_of_not_fits fits]
          refine .failure ⟨registers.manifests, ?_, rfl⟩
          rw [if_neg unnamed, if_neg reserved, if_pos ⟨Option.isNone_iff_eq_none.2 absent, fits⟩]
      · rw [show database.value? writes .manifest id = some value from row]
        have notFree : ¬((registers.manifests id).isNone ∧
            ¬(Int64.minValue.toInt ≤ now.toNanos ∧ now.toNanos ≤ Int64.maxValue.toInt)) := by
          rintro ⟨absent, _⟩
          rw [present] at absent
          cases absent
        refine .failure ⟨registers.manifests, ?_, rfl⟩
        rw [if_neg unnamed, if_neg reserved, if_neg notFree, Register.add, present]

theorem delete_answers (id : String) :
    RegisterEnd database registers (Answers member registers ⟨now, .deleteManifest id⟩)
      (delete id database writes) := by
  have left := stand.setManifest (.none : Option.Rel (Records id) none none)
  rw [← Database.plain_delete] at left
  exact RegisterEnd.remove stand.manifests (fun manifests => { registers with manifests }) rfl
    (found id) notFound left

end Manifests

/-! ## Juju users -/

namespace JujuUsers

theorem get_answers (username : String) :
    RegisterEnd database registers (Answers member registers ⟨now, .getJujuUser username⟩)
      (get username database writes) := by
  rw [get_apply (found username)]
  rcases stand.users.cases username with ⟨row, absent⟩ | ⟨value, user, row, present, is⟩
  · rw [show database.value? writes .jujuUser username = none from row]
    exact .failure ⟨(Register.find_of_none _ absent).symm, rfl⟩
  · rw [show database.value? writes .jujuUser username = some value from row]
    rcases user with ⟨name, token⟩
    rcases is with ⟨rfl, read⟩
    simp only [read]
    exact .read stand ⟨(Register.find_of_some _ present).symm, rfl⟩

theorem create_answers (username token : String) (measured : Codec.Measured token) :
    RegisterEnd database registers (Answers member registers ⟨now, .addJujuUser username token⟩)
      (create username token database writes) := by
  rw [create_apply (found username)]
  by_cases unnamed : username = ""
  · rw [if_pos unnamed]
    refine .failure ⟨registers.users, ?_, rfl⟩
    rw [if_pos unnamed]
  · rw [if_neg unnamed]
    have is : Records username (rowCodec.encode token) ⟨username, token⟩ :=
      ⟨rfl, (Codec.readsBack_text measured).read?⟩
    have left := stand.setUser (.some is)
    rw [← Database.plain_put] at left
    apply (RegisterEnd.add stand.users (fun users => { registers with users }) rfl
      (.alreadyExists "jujuuser") left).imp
    rintro outcome after ⟨users, settles, become⟩
    refine ⟨users, ?_, become⟩
    rw [if_neg unnamed]
    exact settles

theorem delete_answers (username : String) :
    RegisterEnd database registers (Answers member registers ⟨now, .deleteJujuUser username⟩)
      (delete username database writes) := by
  have left := stand.setUser (.none : Option.Rel (Records username) none none)
  rw [← Database.plain_delete] at left
  exact RegisterEnd.remove stand.users (fun users => { registers with users }) rfl
    (found username) notFound left

end JujuUsers

end Ends

/-! ## Calls -/

/-- A call that is refused up front is one that the registers refuse. -/
theorem Registers.answers_of_refusal {call : Call} {failure : Failure}
    (refused : call.refusal? = some failure) :
    Answers member registers ⟨now, call⟩ (.error failure) registers := by
  cases call with
  | putConfig key value =>
    simp only [Call.refusal?] at refused
    split at refused
    · rename_i unnamed
      cases refused
      refine ⟨registers.items, ?_, rfl⟩
      rw [if_pos unnamed]
    · cases refused
  | _ => cases refused

/-- A call that names what it asks for is answered as the registers answer it. -/
theorem Call.action_answers (stand : registers.Stand (database.plain writes))
    (memory : database.medium = .memory)
    (readable : ∀ table, database.unreadable.get table = []) (member : String) (now : Instant)
    {call : Call} (admitted : call.refusal? = none) (measured : call.Measured member)
    (named : call ≠ .getManifest Manifest.latestId) :
    RegisterEnd database registers (Answers member registers ⟨now, call⟩)
      (call.action member now database writes) := by
  have found := Database.canFind_of_memory memory
  cases call with
  | getConfig key => exact ConfigItems.get_answers stand found key
  | listConfigKeys start => exact ConfigItems.keys_answers stand found (readable _) start
  | putConfig key value =>
    have named : key ≠ "" := by
      rintro rfl
      cases admitted
    exact ConfigItems.upsert_answers stand named value
  | deleteConfig key => exact ConfigItems.delete_answers stand found key
  | listNodes roles => exact Nodes.list_answers stand (readable _) roles
  | getNode name => exact Nodes.get_answers stand found name
  | addNode name roles machineId systemId =>
    exact Nodes.create_answers stand found name machineId measured
  | updateNode name roles machineId systemId =>
    exact Nodes.update_answers stand found name machineId measured
  | deleteNode name => exact Nodes.delete_answers stand found name
  | listManifests => exact Manifests.list_answers stand (readable _)
  | getManifest id =>
    exact Manifests.get_answers stand found fun latest => named (congrArg _ latest)
  | addManifest id data => exact Manifests.create_answers stand found id data measured
  | deleteManifest id => exact Manifests.delete_answers stand found id
  | listJujuUsers => exact JujuUsers.list_answers stand (readable _)
  | getJujuUser username => exact JujuUsers.get_answers stand found username
  | addJujuUser username token => exact JujuUsers.create_answers stand found username token measured
  | deleteJujuUser username => exact JujuUsers.delete_answers stand found username
  | listStates => exact Plans.listStates_answers stand found (readable _)
  | getState plan => exact Plans.getState_answers stand found plan
  | putState plan lockId state => exact Plans.putState_answers stand found plan lockId state
  | deleteState plan => exact Plans.deleteState_answers stand found plan
  | listLocks => exact Plans.listLocks_answers stand found (readable _)
  | getLock plan => exact Plans.getLock_answers stand found plan
  | lockPlan plan requested => exact Plans.lock_answers stand found plan requested
  | unlockPlan plan requested => exact Plans.unlock_answers stand found plan requested

end ControlPlane
