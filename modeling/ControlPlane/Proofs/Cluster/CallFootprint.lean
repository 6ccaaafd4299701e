import ControlPlane.Cluster.Call
import ControlPlane.Proofs.Registry.PlanRows
import ControlPlane.Proofs.Store.Footprint

/-!
# What a call may change

Every call names the rows that it may change, and changes no others: most calls none or
one, and a new manifest its own row and the counter of manifests.
-/

namespace ControlPlane

open ControlPlane.Action

/-! ## Nodes -/

namespace Nodes

theorem readsOnly_getRow (name : String) : (getRow name).ReadsOnly := by
  apply (readsOnly_get _ name).bind
  rintro (_ | row)
  · exact readsOnly_fail _
  · exact readsOnly_decodeRow _ row

theorem readsOnly_get (name : String) : (get name).ReadsOnly :=
  (readsOnly_getRow name).bind fun _ => readsOnly_ofExcept _

theorem readsOnly_list (wanted : List String) : (list wanted).ReadsOnly :=
  (readsOnly_scan _ _).bind fun _ => readsOnly_ofExcept _

theorem staysIn_create (member name : String) (roles : List String) (machineId : Int64)
    (systemId : String) :
    (create member name roles machineId systemId).StaysIn (onlyRow .nodes name) := by
  rw [create]
  split
  · exact (readsOnly_fail _).staysIn
  · apply (readsOnly_contains _ name).staysIn.bind
    rintro (_ | _)
    · exact staysIn_put _ ⟨rfl, rfl⟩
    · exact (readsOnly_fail _).staysIn

theorem staysIn_update (member name : String) (roles : List String) (machineId : Int64)
    (systemId : String) :
    (update member name roles machineId systemId).StaysIn (onlyRow .nodes name) :=
  (readsOnly_getRow name).staysIn.bind fun _ => staysIn_put _ ⟨rfl, rfl⟩

theorem staysIn_delete (name : String) : (delete name).StaysIn (onlyRow .nodes name) :=
  staysIn_deleteFound _ _ _

end Nodes

/-! ## Manifests -/

namespace Manifests

/-- The rows of a manifest and of the counter of manifests. -/
def counted (id : String) (table : Table) (key : String) : Prop :=
  onlyRow .manifest id table key ∨ onlyRow .counters Table.manifest.sequenceKey table key

theorem readsOnly_rows : rows.ReadsOnly :=
  (readsOnly_scan _ _).bind fun _ => readsOnly_ofExcept _

theorem readsOnly_list : list.ReadsOnly :=
  readsOnly_rows.bind fun _ => readsOnly_pure _

theorem readsOnly_latest : latest.ReadsOnly := by
  apply readsOnly_rows.bind
  intro rows
  cases newest? rows with
  | none => exact readsOnly_fail _
  | some newest => exact readsOnly_pure _

theorem readsOnly_get (id : String) : (get id).ReadsOnly := by
  rw [get]
  split
  · exact readsOnly_latest
  · apply (Action.readsOnly_get _ id).bind
    rintro (_ | row)
    · exact readsOnly_fail _
    · exact (readsOnly_decodeRow _ row).bind fun _ => readsOnly_pure _

theorem staysIn_create (id data : String) (appliedAt : Instant) :
    (create id data appliedAt).StaysIn (counted id) := by
  rw [create]
  split
  · exact (readsOnly_fail _).staysIn
  · split
    · exact (readsOnly_fail _).staysIn
    · apply (readsOnly_contains _ id).staysIn.bind
      rintro (_ | _)
      · simp only [Bool.false_eq_true, if_false]
        split
        · exact (readsOnly_fail _).staysIn
        · exact (staysIn_nextRowId (.inr ⟨rfl, rfl⟩)).bind fun _ =>
            staysIn_put _ (.inl ⟨rfl, rfl⟩)
      · exact (readsOnly_fail _).staysIn

theorem staysIn_delete (id : String) : (delete id).StaysIn (onlyRow .manifest id) :=
  staysIn_deleteFound _ _ _

end Manifests

/-! ## Juju users -/

namespace JujuUsers

theorem readsOnly_list : list.ReadsOnly :=
  (readsOnly_scan _ _).bind fun _ => readsOnly_ofExcept _

theorem readsOnly_get (username : String) : (get username).ReadsOnly := by
  apply (Action.readsOnly_get _ username).bind
  rintro (_ | row)
  · exact readsOnly_fail _
  · exact (readsOnly_decodeRow _ row).bind fun _ => readsOnly_pure _

theorem staysIn_create (username token : String) :
    (create username token).StaysIn (onlyRow .jujuUser username) := by
  rw [create]
  split
  · exact (readsOnly_fail _).staysIn
  · apply (readsOnly_contains _ username).staysIn.bind
    rintro (_ | _)
    · exact staysIn_put _ ⟨rfl, rfl⟩
    · exact (readsOnly_fail _).staysIn

theorem staysIn_delete (username : String) :
    (delete username).StaysIn (onlyRow .jujuUser username) :=
  staysIn_deleteFound _ _ _

end JujuUsers

/-! ## Calls -/

namespace Call

/-- The rows that a call may change. -/
def part : Call → Table → String → Prop
  | putConfig key _ | deleteConfig key => onlyRow .config key
  | addNode name _ _ _ | updateNode name _ _ _ | deleteNode name => onlyRow .nodes name
  | addManifest id _ => Manifests.counted id
  | deleteManifest id => onlyRow .manifest id
  | addJujuUser username _ | deleteJujuUser username => onlyRow .jujuUser username
  | putState plan _ _ | deleteState plan => onlyRow .config (Plans.stateKey plan)
  | lockPlan plan _ | unlockPlan plan _ => onlyRow .config (Plans.lockKey plan)
  | _ => fun _ _ => False

/-- A call changes nothing but its own rows. -/
theorem staysIn_action (member : String) (now : Instant) (call : Call) :
    (call.action member now).StaysIn call.part := by
  cases call with
  | getConfig key => exact (ConfigItems.readsOnly_get key).staysIn
  | listConfigKeys start => exact (ConfigItems.readsOnly_keys start).staysIn
  | putConfig key value => exact ConfigItems.staysIn_upsert key value
  | deleteConfig key =>
    exact (ConfigItems.readsOnly_get key).staysIn.bind fun _ => ConfigItems.staysIn_delete key
  | listNodes roles => exact (Nodes.readsOnly_list roles).staysIn
  | getNode name => exact (Nodes.readsOnly_get name).staysIn
  | addNode name roles machineId systemId =>
    exact Nodes.staysIn_create member name roles machineId systemId
  | updateNode name roles machineId systemId =>
    exact Nodes.staysIn_update member name roles machineId systemId
  | deleteNode name => exact Nodes.staysIn_delete name
  | listManifests => exact Manifests.readsOnly_list.staysIn
  | getManifest id => exact (Manifests.readsOnly_get id).staysIn
  | addManifest id data => exact Manifests.staysIn_create id data now
  | deleteManifest id => exact Manifests.staysIn_delete id
  | listJujuUsers => exact JujuUsers.readsOnly_list.staysIn
  | getJujuUser username => exact (JujuUsers.readsOnly_get username).staysIn
  | addJujuUser username token => exact JujuUsers.staysIn_create username token
  | deleteJujuUser username => exact JujuUsers.staysIn_delete username
  | listStates => exact (Plans.readsOnly_plansWith _).staysIn
  | getState plan => exact (Plans.readsOnly_getState plan).staysIn
  | putState plan lockId state => exact Plans.staysIn_putState plan lockId state
  | deleteState plan => exact Plans.staysIn_deleteState plan
  | listLocks => exact (Plans.readsOnly_plansWith _).staysIn
  | getLock plan => exact (Plans.readsOnly_getLock plan).staysIn
  | lockPlan plan requested => exact Plans.staysIn_lock plan requested
  | unlockPlan plan requested => exact Plans.staysIn_unlock plan requested

end Call

end ControlPlane
