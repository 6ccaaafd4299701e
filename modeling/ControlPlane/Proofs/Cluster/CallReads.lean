import ControlPlane.Proofs.Cluster.CallFootprint

/-!
# What calls look up

Calls look at the committed rows by reading keys and scanning tables, and in no other
way.  Every call names the keys that it looks up and the starts that it scans for, and does
the same on two databases that are read and scanned alike for them.
-/

namespace ControlPlane

open ControlPlane.Action (onlyRow)

variable {α β : Type} {a b : Database} {table : Table} {key : String}

/-- Two databases that are read and scanned alike wherever the persistent medium can. -/
structure Database.Alike (a b : Database) : Prop where
  read : ∀ table key, key.utf8ByteSize ≤ Medium.keyLimit → a.read table key = b.read table key
  scan : ∀ table start, start.utf8ByteSize ≤ Medium.keyLimit →
    a.scan table start = b.scan table start

/-! ## Steps of a transaction -/

/-- Two parts that do the same on two databases do so one behind the other. -/
theorem Action.bind_alike {first : Action α} {next : α → Action β} (same : first a = first b)
    (rest : ∀ value, next value a = next value b) : (first >>= next) a = (first >>= next) b := by
  funext writes
  rw [bind_apply, bind_apply, same]
  rcases first b writes with ⟨failure | value, writes⟩
  · rfl
  · exact congrFun (rest value) writes

namespace Action

/-- A row is decoded without a look at the others. -/
theorem decodeRow_alike (codec : Codec α) (row : Bytes) :
    decodeRow codec row a = decodeRow codec row b := by
  rw [decodeRow]
  cases codec.read? row <;> rfl

section

variable (same : a.read table key = b.read table key)

include same

theorem get_congr : get table key a = get table key b := by
  funext writes
  rw [get, get, same]

theorem contains_congr : contains table key a = contains table key b :=
  bind_alike (get_congr same) fun _ => rfl

theorem delete_congr : delete table key a = delete table key b := by
  apply bind_alike (contains_congr same)
  rintro (_ | _) <;> rfl

theorem deleteFound_congr (failure : Failure) :
    (do if ← delete table key then return () else fail failure : Action Unit) a =
      (do if ← delete table key then return () else fail failure : Action Unit) b := by
  apply bind_alike (delete_congr same)
  rintro (_ | _) <;> rfl

end

theorem scan_congr {start : String} (same : a.scan table start = b.scan table start) :
    scan table start a = scan table start b := by
  funext writes
  rw [scan, scan, same]

theorem nextRowId_congr
    (same : a.read .counters table.sequenceKey = b.read .counters table.sequenceKey) :
    nextRowId table a = nextRowId table b := by
  apply bind_alike (get_congr same)
  rintro (_ | row)
  · rfl
  · exact bind_alike (decodeRow_alike Codec.unsigned row) fun _ => rfl

end Action

/-! ## Configuration items and plans

An operation on an item looks at its row, and one on a plan at one of its two rows. -/

section Items

variable (same : a.read .config key = b.read .config key)

include same

theorem ConfigItems.get?_congr : get? key a = get? key b := by
  apply Action.bind_alike (Action.get_congr same)
  rintro (_ | value)
  · rfl
  · exact Action.bind_alike rfl fun _ => rfl

theorem ConfigItems.get_congr : get key a = get key b := by
  apply Action.bind_alike (get?_congr same)
  rintro (_ | value) <;> rfl

theorem ConfigItems.delete_congr : delete key a = delete key b :=
  Action.bind_alike (Action.delete_congr same) fun _ => rfl

end Items

namespace Plans

variable {plan : String}

theorem getState_congr (same : a.read .config (stateKey plan) = b.read .config (stateKey plan)) :
    getState plan a = getState plan b := by
  apply Action.bind_alike (ConfigItems.get?_congr same)
  rintro (_ | state) <;> rfl

theorem deleteState_congr
    (same : a.read .config (stateKey plan) = b.read .config (stateKey plan)) :
    deleteState plan a = deleteState plan b := by
  apply Action.bind_alike (ConfigItems.get?_congr same)
  rintro (_ | state)
  · rfl
  · exact ConfigItems.delete_congr same

section Lock

variable (same : a.read .config (lockKey plan) = b.read .config (lockKey plan))

include same

theorem storedLock?_congr : storedLock? plan a = storedLock? plan b := by
  apply Action.bind_alike (ConfigItems.get?_congr same)
  rintro (_ | text)
  · rfl
  · simp only
    cases Lock.decode (Utf8.encode text) <;> rfl

theorem putState_congr (lockId state : String) :
    putState plan lockId state a = putState plan lockId state b := by
  apply Action.bind_alike (storedLock?_congr same)
  rintro (_ | held)
  · rfl
  · simp only
    split <;> rfl

theorem getLock_congr : getLock plan a = getLock plan b := by
  apply Action.bind_alike (storedLock?_congr same)
  rintro (_ | held) <;> rfl

theorem lock_congr (requested : Lock) : lock plan requested a = lock plan requested b := by
  apply Action.bind_alike (storedLock?_congr same)
  rintro (_ | held)
  · rfl
  · simp only
    split <;> rfl

theorem unlock_congr (requested : Lock) : unlock plan requested a = unlock plan requested b := by
  apply Action.bind_alike (storedLock?_congr same)
  rintro (_ | held)
  · rfl
  · simp only
    split
    · exact ConfigItems.delete_congr same
    · rfl

end Lock

end Plans

/-! ## Lists of keys -/

theorem ConfigItems.keys_congr {start : String}
    (same : a.scan .config start = b.scan .config start) : keys start a = keys start b :=
  Action.bind_alike (Action.scan_congr same) fun _ => rfl

theorem Plans.plansWith_congr {start : String}
    (same : a.scan .config start = b.scan .config start) : plansWith start a = plansWith start b :=
  Action.bind_alike (ConfigItems.keys_congr same) fun _ => rfl

/-! ## Nodes -/

namespace Nodes

variable {name : String}

theorem list_congr (wanted : List String) (same : a.scan .nodes "" = b.scan .nodes "") :
    list wanted a = list wanted b :=
  Action.bind_alike (Action.scan_congr same) fun _ => rfl

section Row

variable (same : a.read .nodes name = b.read .nodes name)

include same

theorem getRow_congr : getRow name a = getRow name b := by
  apply Action.bind_alike (Action.get_congr same)
  rintro (_ | row)
  · rfl
  · exact Action.decodeRow_alike Row.codec row

theorem get_congr : get name a = get name b :=
  Action.bind_alike (getRow_congr same) fun _ => rfl

theorem create_congr (member : String) (roles : List String) (machineId : Int64)
    (systemId : String) :
    create member name roles machineId systemId a =
      create member name roles machineId systemId b := by
  rw [create]
  split
  · rfl
  · apply Action.bind_alike (Action.contains_congr same)
    rintro (_ | _) <;> rfl

theorem update_congr (member : String) (roles : List String) (machineId : Int64)
    (systemId : String) :
    update member name roles machineId systemId a =
      update member name roles machineId systemId b :=
  Action.bind_alike (getRow_congr same) fun _ => rfl

end Row

end Nodes

/-! ## Manifests -/

namespace Manifests

variable {id : String}

theorem rows_congr (same : a.scan .manifest "" = b.scan .manifest "") : rows a = rows b :=
  Action.bind_alike (Action.scan_congr same) fun _ => rfl

theorem list_congr (same : a.scan .manifest "" = b.scan .manifest "") : list a = list b :=
  Action.bind_alike (rows_congr same) fun _ => rfl

theorem get_congr (all : id = Manifest.latestId → a.scan .manifest "" = b.scan .manifest "")
    (same : id ≠ Manifest.latestId → a.read .manifest id = b.read .manifest id) :
    get id a = get id b := by
  rw [get]
  split
  case isTrue latest =>
    apply Action.bind_alike (rows_congr (all latest))
    intro rows
    cases newest? rows <;> rfl
  case isFalse named =>
    apply Action.bind_alike (Action.get_congr (same named))
    rintro (_ | row)
    · rfl
    · exact Action.bind_alike (Action.decodeRow_alike Row.codec row) fun _ => rfl

theorem create_congr (same : a.read .manifest id = b.read .manifest id)
    (counted : a.read .counters Table.manifest.sequenceKey =
      b.read .counters Table.manifest.sequenceKey) (data : String) (appliedAt : Instant) :
    create id data appliedAt a = create id data appliedAt b := by
  rw [create]
  split
  · rfl
  · split
    · rfl
    · apply Action.bind_alike (Action.contains_congr same)
      rintro (_ | _)
      · simp only [Bool.false_eq_true, if_false]
        cases storedNanos? appliedAt with
        | none => rfl
        | some nanos => exact Action.bind_alike (Action.nextRowId_congr counted) fun _ => rfl
      · rfl

end Manifests

/-! ## Juju users -/

namespace JujuUsers

variable {username : String}

theorem list_congr (same : a.scan .jujuUser "" = b.scan .jujuUser "") : list a = list b :=
  Action.bind_alike (Action.scan_congr same) fun _ => rfl

section Row

variable (same : a.read .jujuUser username = b.read .jujuUser username)

include same

theorem get_congr : get username a = get username b := by
  apply Action.bind_alike (Action.get_congr same)
  rintro (_ | row)
  · rfl
  · exact Action.bind_alike (Action.decodeRow_alike rowCodec row) fun _ => rfl

theorem create_congr (token : String) : create username token a = create username token b := by
  rw [create]
  split
  · rfl
  · apply Action.bind_alike (Action.contains_congr same)
    rintro (_ | _) <;> rfl

end Row

end JujuUsers

/-! ## Calls -/

namespace Call

/-- The rows that a call looks up by their keys. -/
def looksUp : Call → Table → String → Prop
  | getConfig key | deleteConfig key => onlyRow .config key
  | getNode name | addNode name _ _ _ | updateNode name _ _ _ | deleteNode name =>
    onlyRow .nodes name
  | getManifest id => fun table key => id ≠ Manifest.latestId ∧ onlyRow .manifest id table key
  | addManifest id _ => Manifests.counted id
  | deleteManifest id => onlyRow .manifest id
  | getJujuUser username | addJujuUser username _ | deleteJujuUser username =>
    onlyRow .jujuUser username
  | getState plan | deleteState plan => onlyRow .config (Plans.stateKey plan)
  | putState plan _ _ | getLock plan | lockPlan plan _ | unlockPlan plan _ =>
    onlyRow .config (Plans.lockKey plan)
  | putConfig .. | listConfigKeys _ | listNodes _ | listManifests | listJujuUsers | listStates
  | listLocks => fun _ _ => False

/-- The starts of keys that a call scans for. -/
def scansFor : Call → Table → String → Prop
  | listConfigKeys start => onlyRow .config start
  | listNodes _ => onlyRow .nodes ""
  | listManifests => onlyRow .manifest ""
  | getManifest id => fun table start => id = Manifest.latestId ∧ onlyRow .manifest "" table start
  | listJujuUsers => onlyRow .jujuUser ""
  | listStates => onlyRow .config Plans.stateStart
  | listLocks => onlyRow .config Plans.lockStart
  | _ => fun _ _ => False

/-- A call does the same on databases that are alike where it looks. -/
theorem action_congr (member : String) (now : Instant) {call : Call}
    (rows : ∀ {table key}, call.looksUp table key → a.read table key = b.read table key)
    (scans : ∀ {table start}, call.scansFor table start → a.scan table start = b.scan table start) :
    call.action member now a = call.action member now b := by
  cases call with
  | getConfig key => exact ConfigItems.get_congr (rows ⟨rfl, rfl⟩)
  | listConfigKeys start => exact ConfigItems.keys_congr (scans ⟨rfl, rfl⟩)
  | putConfig key value => rfl
  | deleteConfig key =>
    have row := rows ⟨rfl, rfl⟩
    exact Action.bind_alike (ConfigItems.get_congr row) fun _ => ConfigItems.delete_congr row
  | listNodes roles => exact Nodes.list_congr roles (scans ⟨rfl, rfl⟩)
  | getNode name => exact Nodes.get_congr (rows ⟨rfl, rfl⟩)
  | addNode name roles machineId systemId =>
    exact Nodes.create_congr (rows ⟨rfl, rfl⟩) member roles machineId systemId
  | updateNode name roles machineId systemId =>
    exact Nodes.update_congr (rows ⟨rfl, rfl⟩) member roles machineId systemId
  | deleteNode name => exact Action.deleteFound_congr (rows ⟨rfl, rfl⟩) _
  | listManifests => exact Manifests.list_congr (scans ⟨rfl, rfl⟩)
  | getManifest id =>
    exact Manifests.get_congr (fun latest => scans ⟨latest, rfl, rfl⟩)
      fun named => rows ⟨named, rfl, rfl⟩
  | addManifest id data =>
    exact Manifests.create_congr (rows (.inl ⟨rfl, rfl⟩)) (rows (.inr ⟨rfl, rfl⟩)) data now
  | deleteManifest id => exact Action.deleteFound_congr (rows ⟨rfl, rfl⟩) _
  | listJujuUsers => exact JujuUsers.list_congr (scans ⟨rfl, rfl⟩)
  | getJujuUser username => exact JujuUsers.get_congr (rows ⟨rfl, rfl⟩)
  | addJujuUser username token => exact JujuUsers.create_congr (rows ⟨rfl, rfl⟩) token
  | deleteJujuUser username => exact Action.deleteFound_congr (rows ⟨rfl, rfl⟩) _
  | listStates => exact Plans.plansWith_congr (scans ⟨rfl, rfl⟩)
  | getState plan => exact Plans.getState_congr (rows ⟨rfl, rfl⟩)
  | putState plan lockId state => exact Plans.putState_congr (rows ⟨rfl, rfl⟩) lockId state
  | deleteState plan => exact Plans.deleteState_congr (rows ⟨rfl, rfl⟩)
  | listLocks => exact Plans.plansWith_congr (scans ⟨rfl, rfl⟩)
  | getLock plan => exact Plans.getLock_congr (rows ⟨rfl, rfl⟩)
  | lockPlan plan requested => exact Plans.lock_congr (rows ⟨rfl, rfl⟩) requested
  | unlockPlan plan requested => exact Plans.unlock_congr (rows ⟨rfl, rfl⟩) requested

/-! ## Calls with short keys -/

/-- The keys that a call looks up by name, and the start that it scans for. -/
def lookups : Call → List String
  | getConfig key | deleteConfig key => [key]
  | listConfigKeys start => [start]
  | getNode name | addNode name _ _ _ | updateNode name _ _ _ | deleteNode name => [name]
  | getManifest id | addManifest id _ | deleteManifest id => [id]
  | getJujuUser username | addJujuUser username _ | deleteJujuUser username => [username]
  | getState plan | deleteState plan => [Plans.stateKey plan]
  | putState plan _ _ | getLock plan | lockPlan plan _ | unlockPlan plan _ =>
    [Plans.lockKey plan]
  | putConfig .. | listNodes _ | listManifests | listJujuUsers | listStates | listLocks => []

section Short

variable {call : Call} (short : ∀ key ∈ call.lookups, key.utf8ByteSize ≤ Medium.keyLimit)

include short

theorem short_of_looksUp (looks : call.looksUp table key) :
    key.utf8ByteSize ≤ Medium.keyLimit := by
  cases call with
  | putConfig | listConfigKeys | listNodes | listManifests | listJujuUsers | listStates
  | listLocks => exact looks.elim
  | getManifest id => exact looks.2.2 ▸ short _ List.mem_cons_self
  | addManifest id data =>
    rcases looks with ⟨_, rfl⟩ | ⟨_, rfl⟩
    · exact short _ List.mem_cons_self
    · decide
  | _ => exact looks.2 ▸ short _ List.mem_cons_self

theorem short_of_scansFor {start : String} (scans : call.scansFor table start) :
    start.utf8ByteSize ≤ Medium.keyLimit := by
  cases call with
  | listConfigKeys => exact scans.2 ▸ short _ List.mem_cons_self
  | listNodes | listManifests | listJujuUsers | listStates | listLocks =>
    rw [scans.2]
    decide
  | getManifest id =>
    rw [scans.2.2]
    decide
  | _ => exact scans.elim

end Short

/-- A call does the same on databases that are read and scanned alike. -/
theorem action_alike (alike : a.Alike b) (member : String) (now : Instant) {call : Call}
    (short : ∀ key ∈ call.lookups, key.utf8ByteSize ≤ Medium.keyLimit) :
    call.action member now a = call.action member now b :=
  action_congr member now
    (fun looks => alike.read _ _ (short_of_looksUp short looks))
    fun scans => alike.scan _ _ (short_of_scansFor short scans)

end Call

end ControlPlane
