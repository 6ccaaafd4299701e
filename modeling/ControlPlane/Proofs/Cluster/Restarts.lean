import ControlPlane.Proofs.Cluster.CallReads
import ControlPlane.Proofs.Cluster.Serving
import ControlPlane.Proofs.Registry.RegistryRows
import ControlPlane.Proofs.Store.Engines

/-!
# Restarts and the choice of a medium

One cluster keeps its rows on disk and is closed and opened again between calls, another
one keeps them in memory and is never stopped.  As long as no key is too long for the
disk, nobody who calls either can tell which one it is, and both hold the same rows in
the same order.
-/

namespace ControlPlane

/-! ## Empty keys -/

namespace Database

/-- No committed row has an empty key. -/
def Named (database : Database) : Prop :=
  ∀ table, database.value? .empty table "" = none

end Database

namespace Call

variable {database : Database} {member : String} {now : Instant} {call : Call}

/-- Where no row has an empty key, a call about one fails: the calls that create a record
refuse the name, and the others do not find it. -/
theorem fails_on_empty (named : database.Named) (admitted : call.refusal? = none) {table : Table}
    (inside : call.part table "") :
    ∃ failure, (call.action member now database .empty).1 = .error failure := by
  have found := database.medium.canFind_empty
  have missing (table : Table) (failure : Failure) :
      (do if ← Action.delete table "" then return () else Action.fail failure : Action Unit)
        database .empty = (.error failure, .empty) := by
    rw [Action.deleteFound_apply found, named]
  cases call with
  | putConfig key value =>
    rcases inside with ⟨_, rfl⟩
    cases admitted
  | deleteConfig key =>
    rcases inside with ⟨_, rfl⟩
    have unread : ConfigItems.Reads database .empty "" none :=
      ConfigItems.reads_of_value found (named .config)
    exact ⟨_, congrArg Prod.fst (Action.bind_of_error (ConfigItems.get_apply unread))⟩
  | addNode name roles machineId systemId =>
    rcases inside with ⟨_, rfl⟩
    rw [action, Nodes.create_apply found, if_pos rfl]
    exact ⟨_, rfl⟩
  | updateNode name roles machineId systemId =>
    rcases inside with ⟨_, rfl⟩
    rw [action, Nodes.update_apply found, Nodes.row?, named]
    exact ⟨_, rfl⟩
  | addManifest id data =>
    rcases inside with ⟨_, rfl⟩ | ⟨_, same⟩
    · rw [action, Manifests.create_apply found, if_pos rfl]
      exact ⟨_, rfl⟩
    · exact absurd same (by decide)
  | addJujuUser username token =>
    rcases inside with ⟨_, rfl⟩
    rw [action, JujuUsers.create_apply found, if_pos rfl]
    exact ⟨_, rfl⟩
  | deleteNode name | deleteManifest name | deleteJujuUser name =>
    rcases inside with ⟨_, rfl⟩
    exact ⟨_, congrArg Prod.fst (missing _ _)⟩
  | putState plan | deleteState plan => exact absurd inside.2.symm (Plans.stateKey_ne_empty plan)
  | lockPlan plan | unlockPlan plan => exact absurd inside.2.symm (Plans.lockKey_ne_empty plan)
  | _ => exact inside.elim

/-- Where no row has an empty key, no call that is answered writes one. -/
theorem unstaged_empty (named : database.Named) (admitted : call.refusal? = none)
    {answer : call.Answer} {writes : WriteSet}
    (acts : call.action member now database .empty = (.ok answer, writes)) (table : Table) :
    writes.get? table "" = none := by
  by_cases inside : call.part table ""
  · rcases fails_on_empty named admitted inside with ⟨failure, failed⟩
    cases failed.symm.trans (congrArg Prod.fst acts)
  · have same := staysIn_action member now call database .empty table "" inside
    rw [acts] at same
    exact same.trans (WriteSet.get?_empty table "")

end Call

/-! ## Two media side by side -/

/-- The same rows on the persistent medium. -/
def Database.onDisk (database : Database) : Database :=
  { database with medium := .persistent }

/-- The persistent medium is read and scanned as memory is, for keys that it can find. -/
theorem Database.alike_onDisk {database : Database} (memory : database.medium = .memory) :
    database.onDisk.Alike database where
  read := by
    intro table key short
    have found : database.onDisk.medium.canFind key = true := decide_eq_true short
    rw [read, read, if_pos found, memory]
    rfl
  scan := by
    intro table start short
    have found : database.onDisk.medium.canFind start = true := decide_eq_true short
    rw [scan, scan, if_pos found, memory]
    rfl

/-- The persistent medium takes every write to keys that it can store. -/
theorem Database.apply_onDisk (database : Database) {writes : WriteSet}
    (storable : ∀ table key write, writes.get? table key = some write →
      Medium.persistent.canStore key = true) :
    database.onDisk.apply writes =
      .ok { database with rows := database.seen writes }.onDisk := by
  rw [apply, if_pos (accepts_iff.2 storable)]
  rfl

/-- Every key that a call looks up or writes, and every start that it scans for, is short
enough for the persistent medium. -/
structure Call.Fits (call : Call) (cluster : Cluster) (now : Instant) : Prop where
  lookups : ∀ key ∈ call.lookups, key.utf8ByteSize ≤ Medium.keyLimit
  writes : ∀ table key write,
    (call.action cluster.member now cluster.store.database .empty).2.get? table key = some write →
      key.utf8ByteSize ≤ Medium.keyLimit

/-- A call writes to none but its own rows, so that their keys settle whether it fits. -/
theorem Call.fits_of_part {call : Call} (cluster : Cluster) (now : Instant)
    (lookups : ∀ key ∈ call.lookups, key.utf8ByteSize ≤ Medium.keyLimit)
    (own : ∀ table key, call.part table key → key.utf8ByteSize ≤ Medium.keyLimit) :
    call.Fits cluster now where
  lookups := lookups
  writes := by
    intro table key write staged
    by_cases inside : call.part table key
    · exact own table key inside
    · have same := Call.staysIn_action cluster.member now call cluster.store.database .empty
        table key inside
      rw [WriteSet.get?_empty] at same
      cases same.symm.trans staged

namespace Cluster

/-- The cluster that opens on the rows of one that was closed. -/
def reopen (cluster : Cluster) : Cluster :=
  { cluster with store := cluster.store.reopen }

/-- Two clusters with the same rows, one on disk and the other in memory. -/
structure Paired (disk memory : Cluster) : Prop where
  member : disk.member = memory.member
  medium : memory.store.database.medium = .memory
  rows : disk.store.database = memory.store.database.onDisk
  readable : ∀ table, memory.store.database.unreadable.get table = []
  named : memory.store.database.Named

variable {disk memory : Cluster}

theorem paired_empty (member : String) :
    Paired (.empty .persistent member) (.empty .memory member) where
  member := rfl
  medium := rfl
  rows := rfl
  readable := fun table => Tables.get_const [] table
  named := by
    intro table
    cases table <;> rfl

/-- A restart of the one on disk leaves the pair as it is. -/
theorem Paired.reopen (paired : Paired disk memory) : Paired disk.reopen memory :=
  ⟨paired.member, paired.medium, paired.rows, paired.readable, paired.named⟩

/-- Both answer a call alike, and are a pair again after it. -/
theorem Paired.serve (paired : Paired disk memory) {now : Instant} {call : Call}
    (fits : call.Fits memory now) :
    (disk.serve now call).1 = (memory.serve now call).1 ∧
      Paired (disk.serve now call).2 (memory.serve now call).2 := by
  rw [Cluster.serve, Cluster.serve]
  cases admitted : call.refusal? with
  | some failure => exact ⟨rfl, paired⟩
  | none =>
    have same := Call.action_alike (Database.alike_onDisk paired.medium) memory.member now
      fits.lookups
    have short := fits.writes
    simp only [Store.transact, paired.member, paired.rows, same]
    rcases acts : call.action memory.member now memory.store.database .empty with
      ⟨failure | answer, writes⟩
    · exact ⟨rfl, ⟨rfl, paired.medium, rfl, paired.readable, paired.named⟩⟩
    · rw [acts] at short
      have unnamed := Call.unstaged_empty paired.named admitted acts
      have storable (table : Table) (key : String) (write : Option Bytes)
          (staged : writes.get? table key = some write) :
          Medium.persistent.canStore key = true := by
        refine Medium.canStore_persistent_iff.2 ⟨short table key write staged, ?_⟩
        rintro rfl
        cases (unnamed table).symm.trans staged
      simp only [Database.apply_onDisk _ storable, Database.apply_of_memory writes paired.medium]
      refine ⟨trivial, ⟨rfl, paired.medium, rfl, paired.readable, fun table => ?_⟩⟩
      have untouched := (unnamed table).trans (WriteSet.get?_empty table "").symm
      exact (Database.value?_congr untouched).trans (paired.named table)

/-! ## Runs side by side -/

/-- The same calls at the same readings of the clock, served by an empty cluster on disk,
which may be closed and opened again between calls, and by one in memory.  The histories
say what each of them answered. -/
inductive SideBySide (member : String) : List (Exchange Call.Answer) →
    List (Exchange Call.Answer) → Cluster → Cluster → Prop
  | start : SideBySide member [] [] (.empty .persistent member) (.empty .memory member)
  | serve {onDisk inMemory : List (Exchange Call.Answer)} {disk memory : Cluster} :
      SideBySide member onDisk inMemory disk memory →
      ∀ (now : Instant) (call : Call), call.Fits memory now →
      SideBySide member (onDisk ++ [⟨call, (disk.serve now call).1⟩])
        (inMemory ++ [⟨call, (memory.serve now call).1⟩])
        (disk.serve now call).2 (memory.serve now call).2
  | reopen {onDisk inMemory : List (Exchange Call.Answer)} {disk memory : Cluster} :
      SideBySide member onDisk inMemory disk memory →
      SideBySide member onDisk inMemory disk.reopen memory

variable {member : String} {onDisk inMemory : List (Exchange Call.Answer)}

/-- Clusters that are run side by side stay a pair, and answer alike. -/
theorem SideBySide.paired (run : SideBySide member onDisk inMemory disk memory) :
    onDisk = inMemory ∧ Paired disk memory := by
  induction run with
  | start => exact ⟨rfl, paired_empty member⟩
  | serve run now call fits ih =>
    rcases ih with ⟨rfl, paired⟩
    rcases paired.serve fits with ⟨same, next⟩
    exact ⟨by rw [same], next⟩
  | reopen run ih => exact ⟨ih.1, ih.2.reopen⟩

/-- Calls whose keys are short enough for the disk are answered on disk, with any restarts
between them, exactly as they are in memory without any.  After them, tables of byte keys
on disk and maps of texts in memory back the two clusters, and hold the same rows in the
same order. -/
theorem restarts_and_media_unseen (run : SideBySide member onDisk inMemory disk memory) :
    onDisk = inMemory ∧
      ∃ tables maps, Engine.disk.Backs tables disk.store.database ∧
        Engine.memory.Backs maps memory.store.database ∧
        ∀ table, tables.get table =
          (maps.get table).entries.map fun row => (Utf8.encode row.1, row.2) := by
  rcases run.paired with ⟨same, paired⟩
  let database := memory.store.database
  refine ⟨same, database.rows.map fun _ rows => byteRows rows, database.rows, ?_, ?_, ?_⟩
  · refine ⟨Database.HasBytes, Engine.disk_simulation, ?_⟩
    rw [paired.rows]
    exact ⟨rfl, paired.readable, fun table => Tables.get_map _ _ table⟩
  · exact ⟨Database.HasMaps, Engine.memory_simulation, paired.medium, paired.readable, rfl⟩
  · intro table
    exact Tables.get_map _ _ table

/-- An item is written, and found after a restart of the cluster on disk. -/
theorem restarts_and_media_unseen_of_item :
    let history : List (Exchange Call.Answer) :=
      [⟨.putConfig "a" "v", .ok ()⟩, ⟨.getConfig "a", .ok "v"⟩]
    ∃ onDisk disk memory,
      SideBySide "node-1" onDisk history disk memory ∧ onDisk = history := by
  intro history
  let now : Instant := ⟨0, 0⟩
  have written (cluster : Cluster) : Call.Fits (.putConfig "a" "v") cluster now := by
    apply Call.fits_of_part cluster now (by decide)
    rintro _ _ ⟨_, rfl⟩
    decide
  have found (cluster : Cluster) : Call.Fits (.getConfig "a") cluster now :=
    Call.fits_of_part cluster now (by decide) nofun
  have begun : SideBySide "node-1" [] [] (.empty .persistent "node-1") (.empty .memory "node-1") :=
    .start
  have run : SideBySide "node-1" _ history _ _ :=
    ((begun.serve now _ (written _)).reopen).serve now _ (found _)
  exact ⟨_, _, _, run, (restarts_and_media_unseen run).1⟩

end Cluster

end ControlPlane
