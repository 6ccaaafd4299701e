import ControlPlane.Proofs.Cluster.SoundRows

/-!
# Calls on sound rows

A call on sound rows leaves sound rows behind, as long as it writes no item among the
locks, and fails by nothing but its own request.  This is read off the equation of each
operation, one operation at a time.
-/

namespace ControlPlane

/-- The failure is one of the request, and neither of the store nor of a record. -/
def Failure.OfRequest : Failure → Prop
  | .storage _ | .internal _ => False
  | .notFound _ | .conflict _ _ | .locked _ _ | .invalidArgument _ => True

/-- How an action ends on sound rows.  The rows are sound again if the request was a
regular one, and a failure is one of the request. -/
inductive SoundEnd (database : Database) (created : Nat) (regular : Prop) {α : Type} :
    Except Failure α × WriteSet → Prop
  | answer {value : α} {writes : WriteSet} :
      (regular → SoundRows (database.plain writes) created) →
      SoundEnd database created regular (.ok value, writes)
  | failure {failure : Failure} {writes : WriteSet} : failure.OfRequest →
      SoundEnd database created regular (.error failure, writes)

variable {database : Database} {writes : WriteSet} {created : Nat} {regular : Prop}

/-! ## What is read -/

namespace SoundRows

variable (sound : SoundRows (database.plain writes) created)

include sound

theorem holdsTexts : database.HoldsTexts writes := by
  intro key value row
  rcases (sound.rows .config key value row).text with ⟨text, decoded⟩
  exact ⟨text, (Utf8.encode_of_decode decoded).symm⟩

theorem reads (found : ∀ key, database.medium.canFind key = true) (key : String) :
    ConfigItems.Reads database writes key (database.text? writes key) :=
  ConfigItems.reads_of_texts sound.holdsTexts (found key)

/-- The row of a lock is missing, or is that of a lock. -/
theorem lockRow (plan : String) :
    Plans.LockRow.ofText? (database.text? writes (Plans.lockKey plan)) = .absent ∨
      ∃ lock, Plans.LockRow.ofText? (database.text? writes (Plans.lockKey plan)) =
        .held lock := by
  have seen := sound.holdsTexts.value?_eq (Plans.lockKey plan)
  cases found : database.text? writes (Plans.lockKey plan) with
  | none => exact .inl rfl
  | some text =>
    rw [found] at seen
    rcases (sound.rows .config _ _ seen).lock (Plans.startsWith_lockKey plan) with
      ⟨lock, decoded⟩
    right
    exact ⟨lock, by simp only [Plans.LockRow.ofText?, decoded]⟩

theorem nodeShown : ∀ row ∈ database.listed writes .nodes, ∃ node, Nodes.Shows row node := by
  rintro ⟨name, value⟩ listed
  rcases (sound.rows .nodes name value (Database.mem_listed.1 listed)).row with
    ⟨row, read, ordered⟩
  rcases ordered.decodeRoles with ⟨roles, decoded⟩
  refine ⟨⟨name, roles, row.machineId, row.systemId, row.member⟩, row, read, ?_⟩
  rw [Nodes.ofRow, decoded]
  rfl

theorem manifestShown :
    ∀ row ∈ database.listed writes .manifest, ∃ entry, Manifests.Shows row entry := by
  rintro ⟨id, value⟩ listed
  rcases (sound.rows .manifest id value (Database.mem_listed.1 listed)).row with ⟨row, read, _⟩
  exact ⟨(id, row), rfl, read⟩

theorem userShown :
    ∀ row ∈ database.listed writes .jujuUser, ∃ user, JujuUsers.Shows row user := by
  rintro ⟨username, value⟩ listed
  rcases (sound.rows .jujuUser username value (Database.mem_listed.1 listed)).row with
    ⟨token, read⟩
  exact ⟨⟨username, token⟩, rfl, read⟩

/-- The row of a node is missing, or can be read. -/
theorem nodeRow (name : String) :
    Nodes.row? database writes name = .error Nodes.notFound ∨
      ∃ row, Nodes.row? database writes name = .ok row ∧ name ≠ "" ∧ row.Ordered ∧
        row.Measured := by
  rw [Nodes.row?]
  cases seen : database.value? writes .nodes name with
  | none => exact .inl rfl
  | some value =>
    have kept := sound.rows .nodes name value seen
    rcases kept.row with ⟨row, read, ordered⟩
    right
    simp only [read]
    exact ⟨row, rfl, kept.named, ordered, Nodes.Row.measured_of_read? read⟩

/-! ## How actions end -/

/-- An action that only reads leaves sound rows. -/
theorem read {α : Type} (value : α) :
    SoundEnd database created regular (Except.ok value, writes) :=
  .answer fun _ => sound

/-- A row may be taken, save the counter. -/
theorem deleteRow {table : Table} (kept : table ≠ .counters) (key : String) {α : Type}
    (value : α) :
    SoundEnd database created regular (Except.ok value, writes.delete table key) := by
  apply SoundEnd.answer
  intro _
  rw [Database.plain_delete]
  exact sound.erase kept key

theorem deleteFound (found : ∀ key, database.medium.canFind key = true) {table : Table}
    (kept : table ≠ .counters) (key : String) {failure : Failure}
    (ofRequest : failure.OfRequest) :
    SoundEnd database created regular
      ((do if ← Action.delete table key then return () else Action.fail failure : Action Unit)
        database writes) := by
  rw [Action.deleteFound_apply (found key)]
  split
  · exact sound.deleteRow kept key ()
  · exact .failure ofRequest

/-- A row may be put in place of what was there, save of a manifest or the counter. -/
theorem putRow {table : Table} (notManifest : table ≠ .manifest) (notCounter : table ≠ .counters)
    {key : String} {value : Bytes} (row : regular → table.SoundRow created key value) :
    SoundEnd database created regular (Except.ok (), writes.put table key value) := by
  apply SoundEnd.answer
  intro admitted
  rw [Database.plain_put]
  exact sound.put (row admitted) notManifest notCounter

end SoundRows

section Ends

variable (sound : SoundRows (database.plain writes) created)

include sound

/-! ## Actions that look nothing up -/

/-- An item may be written under every key, save among the locks. -/
theorem ConfigItems.upsert_sound {key : String} (named : key ≠ "")
    (spared : regular → startsWith key Plans.lockStart = false) (text : String) :
    SoundEnd database created regular (upsert key text database writes) := by
  apply sound.putRow (by decide) (by decide)
  intro admitted
  refine ⟨named, ⟨text, Utf8.decode_encode text⟩, ?_⟩
  intro amongLocks
  rw [spared admitted] at amongLocks
  cases amongLocks

theorem Nodes.list_sound (readable : database.unreadable.get .nodes = []) (wanted : List String) :
    SoundEnd database created regular (list wanted database writes) := by
  rcases list_apply readable wanted sound.nodeShown with ⟨nodes, listed, _⟩
  rw [listed]
  exact sound.read nodes

theorem Manifests.list_sound (readable : database.unreadable.get .manifest = []) :
    SoundEnd database created regular (list database writes) := by
  rcases rows_apply readable sound.manifestShown with ⟨entries, read, _⟩
  rw [list_of_rows read]
  exact sound.read _

theorem JujuUsers.list_sound (readable : database.unreadable.get .jujuUser = []) :
    SoundEnd database created regular (list database writes) := by
  rcases list_apply readable sound.userShown with ⟨users, listed, _⟩
  rw [listed]
  exact sound.read users

variable (found : ∀ key, database.medium.canFind key = true)

include found

/-! ## Configuration items -/

namespace ConfigItems

theorem get_sound (key : String) :
    SoundEnd database created regular (get key database writes) := by
  rw [get_apply (sound.reads found key)]
  cases database.text? writes key with
  | none => exact .failure trivial
  | some text => exact sound.read text

theorem keys_sound (readable : database.unreadable.get .config = []) (start : String) :
    SoundEnd database created regular (keys start database writes) := by
  rw [keys_apply (found start) readable]
  exact sound.read _

theorem delete_sound (key : String) :
    SoundEnd database created regular
      ((do let _ ← get key; delete key : Action Unit) database writes) := by
  have reads := sound.reads found key
  rw [Action.bind_apply, get_apply reads]
  cases text : database.text? writes key with
  | none => exact .failure trivial
  | some value =>
    rw [text] at reads
    simp only [Option.elim_some, delete_apply reads]
    exact sound.deleteRow (by decide) key ()

end ConfigItems

/-! ## Plans -/

namespace Plans

theorem plansWith_sound (readable : database.unreadable.get .config = []) (start : String) :
    SoundEnd database created regular (plansWith start database writes) := by
  rw [plansWith, Action.bind_apply, ConfigItems.keys_apply (found start) readable]
  exact sound.read _

theorem getState_sound (plan : String) :
    SoundEnd database created regular (getState plan database writes) := by
  rw [getState_apply (sound.reads found _)]
  cases database.text? writes (stateKey plan) with
  | none => exact .failure trivial
  | some text => exact sound.read text

theorem deleteState_sound (plan : String) :
    SoundEnd database created regular (deleteState plan database writes) := by
  rw [deleteState_apply (sound.reads found _)]
  cases database.text? writes (stateKey plan) with
  | none => exact .failure trivial
  | some text => exact sound.deleteRow (by decide) _ ()

theorem getLock_sound (plan : String) :
    SoundEnd database created regular (getLock plan database writes) := by
  rw [getLock_apply (sound.reads found _)]
  rcases sound.lockRow plan with absent | ⟨held, stands⟩
  · rw [absent]
    exact .failure trivial
  · rw [stands]
    exact sound.read held

/-- A lock that a client sent may be stored. -/
theorem lock_sound (plan : String) (requested : Lock)
    (sent : regular → ∃ document, decodeLock document = .ok requested) :
    SoundEnd database created regular (lock plan requested database writes) := by
  rw [lock_apply (sound.reads found _)]
  rcases sound.lockRow plan with absent | ⟨held, stands⟩
  · rw [absent]
    apply sound.putRow (by decide) (by decide)
    intro admitted
    rcases sent admitted with ⟨document, decoded⟩
    refine ⟨lockKey_ne_empty plan, ⟨requested.text, Utf8.decode_encode _⟩, fun _ => ?_⟩
    exact ⟨requested, Lock.decode_text (Lock.dated_of_decode (decode_of_sent decoded))⟩
  · rw [stands]
    apply SoundEnd.failure
    rw [refusal]
    split <;> trivial

theorem unlock_sound (plan : String) (requested : Lock) :
    SoundEnd database created regular (unlock plan requested database writes) := by
  rw [unlock_apply (sound.reads found _)]
  rcases sound.lockRow plan with absent | ⟨held, stands⟩
  · rw [absent]
    exact sound.read ()
  · rw [stands]
    simp only
    split
    · exact sound.deleteRow (by decide) _ ()
    · exact .failure trivial

theorem putState_sound (plan lockId state : String) :
    SoundEnd database created regular (putState plan lockId state database writes) := by
  rw [putState_apply (sound.reads found _)]
  rcases sound.lockRow plan with absent | ⟨held, stands⟩
  · rw [absent]
    exact .failure trivial
  · rw [stands]
    simp only
    split
    · exact ConfigItems.upsert_sound sound (stateKey_ne_empty plan)
        (fun _ => startsWith_stateKey plan) state
    · exact .failure trivial

end Plans

/-! ## Nodes -/

namespace Nodes

theorem get_sound (name : String) :
    SoundEnd database created regular (get name database writes) := by
  rw [get_apply (found name)]
  rcases sound.nodeRow name with missing | ⟨row, present, _, ordered, _⟩
  · rw [missing]
    exact .failure trivial
  · rcases ordered.decodeRoles with ⟨roles, decoded⟩
    rw [present, Except.bind, ofRow, decoded]
    exact sound.read _

variable {member systemId : String} {roles : List String}

theorem create_sound (name : String) (machineId : Int64)
    (measured : regular → (Row.mk member (encodeRoles roles) machineId systemId).Measured) :
    SoundEnd database created regular
      (create member name roles machineId systemId database writes) := by
  rw [create_apply (found name)]
  split
  · exact .failure trivial
  · rename_i named
    split
    · exact .failure trivial
    · apply sound.putRow (by decide) (by decide)
      intro admitted
      exact (Row.ordered_of_encodeRoles rfl).sound named (measured admitted)

theorem update_sound (name : String) (machineId : Int64)
    (measured : regular → (Row.mk member (encodeRoles roles) machineId systemId).Measured) :
    SoundEnd database created regular
      (update member name roles machineId systemId database writes) := by
  rw [update_apply (found name)]
  rcases sound.nodeRow name with missing | ⟨row, present, named, ordered, stored⟩
  · rw [missing]
    exact .failure trivial
  · rw [present]
    apply sound.putRow (by decide) (by decide)
    intro admitted
    have sizes := measured admitted
    exact (ordered.update _ _ _ _).sound named
      (stored.update sizes.member sizes.roles sizes.systemId machineId)

end Nodes

/-! ## Manifests -/

namespace Manifests

theorem get_sound (readable : database.unreadable.get .manifest = []) (id : String) :
    SoundEnd database created regular (get id database writes) := by
  by_cases latest_ : id = Manifest.latestId
  · rcases rows_apply readable sound.manifestShown with ⟨entries, read, _⟩
    rw [get, if_pos latest_, latest_of_rows read]
    cases newest? entries with
    | none => exact .failure trivial
    | some newest => exact sound.read _
  · rw [get_apply (found id) latest_]
    cases stored : database.value? writes .manifest id with
    | none => exact .failure trivial
    | some value =>
      rcases (sound.rows .manifest id value stored).row with ⟨row, read, _⟩
      simp only [read]
      exact sound.read _

/-- A manifest may be recorded as long as a row id is left for it. -/
theorem create_sound (id data : String) (appliedAt : Instant)
    (measured : regular → Codec.Measured data) (room : regular → created + 1 < 2 ^ 64) :
    SoundEnd database (created + 1) regular (create id data appliedAt database writes) := by
  rw [create_apply (found id)]
  split
  · exact .failure trivial
  · rename_i named
    split
    · exact .failure trivial
    · rename_i notLatest
      split
      · exact .failure trivial
      · split
        · exact .failure trivial
        · rename_i nanos _
          rw [sound.counter.lastRowId?]
          apply SoundEnd.answer
          intro admitted
          have next : UInt64.ofNat created + 1 = UInt64.ofNat (created + 1) :=
            (UInt64.ofNat_add created 1).symm
          rw [record, Database.plain_put, Database.plain_put, next]
          exact sound.record named notLatest nanos (measured admitted) (room admitted)

end Manifests

/-! ## Juju users -/

namespace JujuUsers

theorem get_sound (username : String) :
    SoundEnd database created regular (get username database writes) := by
  rw [get_apply (found username)]
  cases stored : database.value? writes .jujuUser username with
  | none => exact .failure trivial
  | some value =>
    rcases (sound.rows .jujuUser username value stored).row with ⟨token, read⟩
    simp only [read]
    exact sound.read _

theorem create_sound (username token : String) (measured : regular → Codec.Measured token) :
    SoundEnd database created regular (create username token database writes) := by
  rw [create_apply (found username)]
  split
  · exact .failure trivial
  · rename_i named
    split
    · exact .failure trivial
    · apply sound.putRow (by decide) (by decide)
      intro admitted
      exact ⟨named, token, (Codec.readsBack_text (measured admitted)).read?⟩

end JujuUsers

end Ends

/-! ## Calls -/

namespace Call

/-- The call puts no item among the locks. -/
def SparesLocks : Call → Prop
  | putConfig key _ => startsWith key Plans.lockStart = false
  | _ => True

/-- The lengths of the texts that the call would keep in a row fit 64 bits, as those of all
texts do that a machine can hold. -/
def Measured (member : String) : Call → Prop
  | addNode _ roles machineId systemId | updateNode _ roles machineId systemId =>
    (Nodes.Row.mk member (Nodes.encodeRoles roles) machineId systemId).Measured
  | addManifest _ data => Codec.Measured data
  | addJujuUser _ token => Codec.Measured token
  | _ => True

/-- A call as clients make it, save that it puts no item among the locks. -/
structure Regular (member : String) (call : Call) : Prop where
  sent : call.Sent
  sparesLocks : call.SparesLocks
  measured : call.Measured member

/-- The manifests that a call creates when it is answered. -/
def creations : Call → Nat
  | addManifest .. => 1
  | _ => 0

variable {call : Call}

/-- A refusal is about an argument. -/
theorem ofRequest_of_refusal? {failure : Failure} (refused : call.refusal? = some failure) :
    failure.OfRequest := by
  cases call with
  | putConfig key value =>
    simp only [refusal?] at refused
    split at refused
    · cases refused
      trivial
    · cases refused
  | _ => cases refused

/-- Whatever is asked for on sound rows ends well. -/
theorem action_sound (sound : SoundRows (database.plain writes) created)
    (memory : database.medium = .memory)
    (readable : ∀ table, database.unreadable.get table = []) (member : String) (now : Instant)
    (admitted : call.refusal? = none) :
    SoundEnd database (created + call.creations)
      (call.Regular member ∧ created + call.creations < 2 ^ 64)
      (call.action member now database writes) := by
  have found := Database.canFind_of_memory memory
  cases call with
  | getConfig key => exact ConfigItems.get_sound sound found key
  | listConfigKeys start => exact ConfigItems.keys_sound sound found (readable _) start
  | putConfig key value =>
    have named : key ≠ "" := by
      rintro rfl
      cases admitted
    exact ConfigItems.upsert_sound sound named (fun usual => usual.1.sparesLocks) value
  | deleteConfig key => exact ConfigItems.delete_sound sound found key
  | listNodes roles => exact Nodes.list_sound sound (readable _) roles
  | getNode name => exact Nodes.get_sound sound found name
  | addNode name roles machineId systemId =>
    exact Nodes.create_sound sound found name machineId fun usual => usual.1.measured
  | updateNode name roles machineId systemId =>
    exact Nodes.update_sound sound found name machineId fun usual => usual.1.measured
  | deleteNode name => exact sound.deleteFound found (by decide) name trivial
  | listManifests => exact Manifests.list_sound sound (readable _)
  | getManifest id => exact Manifests.get_sound sound found (readable _) id
  | addManifest id data =>
    exact Manifests.create_sound sound found id data now (fun usual => usual.1.measured)
      fun usual => usual.2
  | deleteManifest id => exact sound.deleteFound found (by decide) id trivial
  | listJujuUsers => exact JujuUsers.list_sound sound (readable _)
  | getJujuUser username => exact JujuUsers.get_sound sound found username
  | addJujuUser username token =>
    exact JujuUsers.create_sound sound found username token fun usual => usual.1.measured
  | deleteJujuUser username => exact sound.deleteFound found (by decide) username trivial
  | listStates => exact Plans.plansWith_sound sound found (readable _) Plans.stateStart
  | getState plan => exact Plans.getState_sound sound found plan
  | putState plan lockId state => exact Plans.putState_sound sound found plan lockId state
  | deleteState plan => exact Plans.deleteState_sound sound found plan
  | listLocks => exact Plans.plansWith_sound sound found (readable _) Plans.lockStart
  | getLock plan => exact Plans.getLock_sound sound found plan
  | lockPlan plan requested =>
    exact Plans.lock_sound sound found plan requested fun usual => usual.1.sent
  | unlockPlan plan requested => exact Plans.unlock_sound sound found plan requested

end Call

end ControlPlane
