import ControlPlane.Proofs.Cluster.Serving
import ControlPlane.Proofs.Cluster.SoundRows

/-!
# Updates of one node, one behind the other

An update of a node may leave each of its fields open.  Two updates come to one, which asks
for what the second asks for and, where that leaves a field open, for what the first asks
for: the stored bytes are the same, whoever makes the first.  So it is in one transaction
and in two.
-/

namespace ControlPlane

/-- Only the last of two puts under a key counts. -/
theorem WriteSet.put_put (writes : WriteSet) (table : Table) (key : String) (value last : Bytes) :
    (writes.put table key value).put table key last = writes.put table key last := by
  apply ext_get?
  intro other other'
  simp only [put, get?_stage]
  split <;> rfl

namespace Nodes

/-! ## What an update asks for -/

/-- What an update asks for.  No roles, machine number -1 and an empty system name leave a
field open. -/
structure Update where
  roles : List String
  machineId : Int64
  systemId : String

variable {database : Database} {writes : WriteSet} {name : String} {row : Row}

namespace Update

/-- The update that leaves all fields open. -/
def unset : Update := ⟨[], Node.unsetMachineId, ""⟩

/-- Two updates as one: what the second leaves open is as in the first. -/
def followedBy (first second : Update) : Update where
  roles := if second.roles.isEmpty then first.roles else second.roles
  machineId := if second.machineId = Node.unsetMachineId then first.machineId else second.machineId
  systemId := if second.systemId = "" then first.systemId else second.systemId

/-- A row after an update by a member. -/
def onRow (asked : Update) (member : String) (row : Row) : Row :=
  row.update member asked.roles asked.machineId asked.systemId

/-- An update inside a transaction. -/
def action (asked : Update) (member name : String) : Action Unit :=
  Nodes.update member name asked.roles asked.machineId asked.systemId

/-- A call for an update. -/
def call (asked : Update) (name : String) : Call :=
  .updateNode name asked.roles asked.machineId asked.systemId

/-- The lengths of what a member writes with an update fit 64 bits. -/
def Measured (asked : Update) (member : String) : Prop :=
  (Row.mk member (encodeRoles asked.roles) asked.machineId asked.systemId).Measured

/-- A row after one update and then another is the row after the two as one.  Where the second
names no roles, it copies the text that the first has written. -/
theorem onRow_followedBy (first second : Update) (member member' : String) (row : Row) :
    second.onRow member' (first.onRow member row) =
      (first.followedBy second).onRow member' row := by
  simp only [onRow, Row.update, followedBy, Row.mk.injEq, true_and]
  refine ⟨?roles, ?machineId, ?systemId⟩
  case roles =>
    by_cases kept : second.roles.isEmpty = true
    · simp only [if_pos kept]
    · simp only [if_neg kept]
  case machineId =>
    by_cases kept : second.machineId = Node.unsetMachineId
    · simp only [if_pos kept]
    · simp only [if_neg kept]
  case systemId =>
    by_cases kept : second.systemId = ""
    · simp only [if_pos kept]
    · simp only [if_neg kept]

theorem followedBy_self (asked : Update) : asked.followedBy asked = asked := by
  simp only [followedBy, ite_self]

theorem Measured.onRow {asked : Update} {member : String} (measured : asked.Measured member)
    (held : row.Measured) : (asked.onRow member row).Measured :=
  held.update measured.member measured.roles measured.systemId asked.machineId

end Update

/-! ## One update in a transaction -/

theorem getRow_put (measured : row.Measured) :
    getRow name database (writes.put .nodes name (Row.codec.encode row)) =
      (.ok row, writes.put .nodes name (Row.codec.encode row)) := by
  have staged : (writes.put .nodes name (Row.codec.encode row)).get? .nodes name =
      some (some (Row.codec.encode row)) := by
    rw [WriteSet.put, WriteSet.get?_stage, if_pos ⟨rfl, rfl⟩]
  rw [getRow, Action.bind_apply, Action.get, staged]
  simp only [Action.decodeRow, measured.readsBack.read?, Action.pure_apply]

/-- A node answers as its row stands. -/
theorem get_of_getRow (found : getRow name database writes = (.ok row, writes)) :
    get name database writes = (ofRow name row, writes) := by
  rw [get, Action.bind_apply, found]
  rfl

theorem getRow_of_absent (absent : Action.get .nodes name database writes = (.ok none, writes)) :
    getRow name database writes = (.error notFound, writes) := by
  rw [getRow, Action.bind_apply, absent]
  rfl

/-- What was read as a row has room for its texts. -/
theorem measured_of_getRow (found : getRow name database writes = (.ok row, writes)) :
    row.Measured := by
  rcases (Action.readsOnly_get .nodes name).ok_of_bind found with ⟨value, _, shown⟩
  cases value with
  | none => cases shown
  | some value =>
    simp only [Action.decodeRow] at shown
    cases read : Row.codec.read? value with
    | none =>
      rw [read] at shown
      cases shown
    | some row' =>
      rw [read] at shown
      cases shown
      exact Row.measured_of_read? read

namespace Update

variable {asked first second : Update} {member member' : String}

theorem action_of_getRow (found : getRow name database writes = (.ok row, writes)) :
    asked.action member name database writes =
      (.ok (), writes.put .nodes name (Row.codec.encode (asked.onRow member row))) := by
  rw [action, Nodes.update, Action.bind_apply, found]
  rfl

theorem action_of_absent
    (absent : Action.get .nodes name database writes = (.ok none, writes)) :
    asked.action member name database writes = (.error notFound, writes) := by
  rw [action, Nodes.update, Action.bind_apply, getRow_of_absent absent]

/-- Behind an update, another one writes what the two as one write. -/
theorem action_behind (found : getRow name database writes = (.ok row, writes))
    (measured : first.Measured member) :
    second.action member' name database
        (writes.put .nodes name (Row.codec.encode (first.onRow member row))) =
      (first.followedBy second).action member' name database writes := by
  have held := measured.onRow (measured_of_getRow found)
  rw [action_of_getRow found, action_of_getRow (getRow_put held), WriteSet.put_put,
    onRow_followedBy]

end Update

/-! ## Updates in transactions of their own -/

/-- The rows after a row of a node is committed. -/
def commitRow (database : Database) (name : String) (row : Row) : Database :=
  { database with rows := database.seen (WriteSet.empty.put .nodes name (Row.codec.encode row)) }

theorem commitRow_commitRow (row last : Row) :
    commitRow (commitRow database name row) name last = commitRow database name last := by
  have same : (commitRow (commitRow database name row) name last).rows =
      (commitRow database name last).rows := by
    apply Tables.ext_get
    intro table
    apply KeyMap.ext_get?
    intro key
    have shown (database : Database) (row : Row) :
        ((commitRow database name row).rows.get table).get? key =
          if table = .nodes ∧ key = name then some (Row.codec.encode row)
          else (database.rows.get table).get? key := by
      rw [← Database.value?_empty]
      exact Database.value?_put database .empty .nodes name (Row.codec.encode row) table key
    simp only [shown]
    split <;> rfl
  exact congrArg (fun rows => { database with rows }) same

theorem getRow_commitRow (found : database.medium.canFind name = true) (measured : row.Measured) :
    getRow name (commitRow database name row) .empty = (.ok row, .empty) := by
  have value : (commitRow database name row).value? .empty .nodes name =
      some (Row.codec.encode row) := by
    rw [Database.value?_empty]
    have put := Database.value?_put database .empty .nodes name (Row.codec.encode row) .nodes name
    rwa [if_pos ⟨rfl, rfl⟩] at put
  have medium : (commitRow database name row).medium.canFind name = true := found
  exact (getRow_apply medium).trans
    (congrArg (·, WriteSet.empty) (row?_of_some value measured.readsBack.read?))

namespace Update

variable {store : Store} {asked first : Update} {member : String}

/-- The member serves the update in a transaction of its own. -/
abbrev serve (asked : Update) (member name : String) (now : Instant) (store : Store) :
    Except Failure Unit × Store :=
  let served := (Cluster.mk member store).serve now (asked.call name)
  (served.1, served.2.store)

theorem serve_of_canStore (asked : Update) (member : String)
    (found : getRow name store.database .empty = (.ok row, .empty))
    (canStore : store.database.medium.canStore name = true) (now : Instant) :
    (asked.serve member name now store).1 = .ok () ∧
      (asked.serve member name now store).2.database =
        commitRow store.database name (asked.onRow member row) := by
  have applied : store.database.apply
      (WriteSet.empty.put .nodes name (Row.codec.encode (asked.onRow member row))) =
      .ok (commitRow store.database name (asked.onRow member row)) := by
    rw [Database.apply, WriteSet.put, if_pos (Database.accepts_stage canStore _ _)]
    rfl
  have acts : Nodes.update member name asked.roles asked.machineId asked.systemId
      store.database .empty = (.ok (), _) := action_of_getRow found
  simp only [Cluster.serve, call, Call.refusal?, Call.action, Store.transact, acts, applied]
  exact ⟨trivial, trivial⟩

/-- Where the name cannot be stored, the update fails and no row changes. -/
theorem serve_of_not_canStore (asked : Update) (member : String)
    (found : getRow name store.database .empty = (.ok row, .empty))
    (lost : store.database.medium.canStore name = false) (now : Instant) :
    (asked.serve member name now store).1 = .error (.storage .taskFailed) ∧
      (asked.serve member name now store).2.database = store.database := by
  have failed : (asked.serve member name now store).1 = .error (.storage .taskFailed) :=
    Cluster.serve_of_not_canStore rfl (action_of_getRow found)
      (by rw [WriteSet.put, WriteSet.get?_stage, if_pos ⟨rfl, rfl⟩]) lost
  exact ⟨failed, Cluster.database_of_serve_error failed⟩

/-- After an update that is answered, the row is found as the update leaves it. -/
theorem getRow_serve (found : getRow name store.database .empty = (.ok row, .empty))
    (measured : asked.Measured member) {now : Instant}
    (answered : (asked.serve member name now store).1 = .ok ()) :
    getRow name (asked.serve member name now store).2.database .empty =
      (.ok (asked.onRow member row), .empty) := by
  cases canStore : store.database.medium.canStore name with
  | false =>
    rw [(serve_of_not_canStore asked member found canStore now).1] at answered
    cases answered
  | true =>
    rw [(serve_of_canStore asked member found canStore now).2]
    exact getRow_commitRow (Medium.canFind_of_canStore canStore)
      (measured.onRow (measured_of_getRow found))

/-- Two updates, each in a transaction of its own, leave the rows that the two as one leave. -/
theorem serve_behind (found : getRow name store.database .empty = (.ok row, .empty))
    (measured : first.Measured member) (second : Update) (member' : String) (now now' : Instant) :
    let behind := second.serve member' name now' (first.serve member name now store).2
    let once := (first.followedBy second).serve member' name now' store
    behind.1 = once.1 ∧ behind.2.database = once.2.database := by
  cases canStore : store.database.medium.canStore name with
  | false =>
    have before := (serve_of_not_canStore first member found canStore now).2
    have again : getRow name (first.serve member name now store).2.database .empty =
        (.ok row, .empty) := by rw [before, found]
    rcases serve_of_not_canStore second member' again
      (by rw [before, canStore]) now' with ⟨failed, kept⟩
    rcases serve_of_not_canStore (first.followedBy second) member' found
      canStore now' with ⟨failed', kept'⟩
    exact ⟨failed.trans failed'.symm, kept.trans (before.trans kept'.symm)⟩
  | true =>
    rcases serve_of_canStore first member found canStore now with
      ⟨taken, before⟩
    have again := getRow_serve found measured taken
    rcases serve_of_canStore second member' again
      (by rw [before]; exact canStore) now' with ⟨answered, left⟩
    rcases serve_of_canStore (first.followedBy second) member' found
      canStore now' with ⟨answered', left'⟩
    refine ⟨answered.trans answered'.symm, ?_⟩
    rw [left, left', before, commitRow_commitRow, onRow_followedBy]

end Update

/-! ## What is shown of a node -/

theorem ofRow_of_owner (name member : String) (row : Row) :
    ofRow name { row with member } = (ofRow name row).map fun node => { node with member } := by
  rw [ofRow, ofRow]
  cases decodeRoles row.roles <;> rfl

/-- Where only the owner of a row is another one, so it is with the node that is shown. -/
theorem get_of_owner {database' : Database} {writes' : WriteSet} {member : String}
    (found : getRow name database writes = (.ok row, writes))
    (found' : getRow name database' writes' = (.ok { row with member }, writes')) :
    (get name database' writes').1 =
      (get name database writes).1.map fun node => { node with member } := by
  rw [get_of_getRow found, get_of_getRow found', ofRow_of_owner]

/-- Updates of a node whose row can be read come to one.  In a transaction, a second update
leaves the writes that the two as one leave, whoever makes the first; to repeat an update
changes nothing; and one that leaves all fields open changes nothing that is shown of the
node but its owner.  In transactions of their own, on either medium, the committed rows are
the same in the same way.

No update touches another row, and where there is no such node an update is refused and
stages nothing. -/
theorem node_updates_combine :
    (∀ {database : Database} {writes : WriteSet} {name : String} {row : Row},
      getRow name database writes = (.ok row, writes) →
      ∀ {member : String} {asked : Update}, asked.Measured member →
      ∃ after, asked.action member name database writes = (.ok (), after) ∧
        (∀ member' (second : Update), ∃ last,
          second.action member' name database after = (.ok (), last) ∧
          (asked.followedBy second).action member' name database writes = (.ok (), last)) ∧
        asked.action member name database after = (.ok (), after) ∧
        (asked = .unset → (get name database after).1 =
          (get name database writes).1.map fun node => { node with member })) ∧
    (∀ {store : Store} {name : String} {row : Row},
      getRow name store.database .empty = (.ok row, .empty) →
      ∀ {member : String} {asked : Update} (now now' : Instant), asked.Measured member →
      let served := asked.serve member name now store
      (store.database.medium.canStore name = true → served.1 = .ok ()) ∧
      (∀ member' (second : Update),
        let behind := second.serve member' name now' served.2
        let once := (asked.followedBy second).serve member' name now' store
        behind.1 = once.1 ∧ behind.2.database = once.2.database) ∧
      (asked.serve member name now' served.2).2.database = served.2.database ∧
      (asked = .unset → served.1 = .ok () → (get name served.2.database .empty).1 =
        (get name store.database .empty).1.map fun node => { node with member })) ∧
    (∀ (asked : Update) (member name : String) {table : Table} {key : String},
      ¬(table = .nodes ∧ key = name) →
      (∀ database writes, (asked.action member name database writes).2.get? table key =
        writes.get? table key) ∧
      ∀ (cluster : Cluster) now, (cluster.serve now (asked.call name)).2.value? table key =
        cluster.value? table key) ∧
    ∀ {database : Database} {writes : WriteSet} {name : String},
      Action.get .nodes name database writes = (.ok none, writes) →
      ∀ (member : String) (asked : Update),
        asked.action member name database writes = (.error notFound, writes) := by
  refine ⟨?inside, ?committed, ?others, ?absent⟩
  case inside =>
    intro database writes name row found member asked measured
    refine ⟨_, Update.action_of_getRow found, ?_, ?_, ?_⟩
    · intro member' second
      exact ⟨_, (Update.action_behind found measured).trans (Update.action_of_getRow found),
        Update.action_of_getRow found⟩
    · rw [Update.action_behind found measured, asked.followedBy_self, Update.action_of_getRow found]
    · rintro rfl
      exact get_of_owner found (getRow_put (measured.onRow (measured_of_getRow found)))
  case committed =>
    intro store name row found member asked now now' measured served
    have behind (member' : String) (second : Update) :=
      Update.serve_behind found measured second member' now now'
    refine ⟨fun canStore => (Update.serve_of_canStore asked member found canStore now).1,
      behind, ?_, ?_⟩
    · have once : _ = ((asked.followedBy asked).serve member name now' store).2.database :=
        (behind member asked).2
      rwa [asked.followedBy_self] at once
    · rintro rfl answered
      exact get_of_owner found (Update.getRow_serve found measured answered)
  case others =>
    intro asked member name table key other
    exact ⟨fun database writes => staysIn_update member name _ _ _ database writes table key other,
      fun cluster now => Cluster.value?_serve now (asked.call name) (.inl other)⟩
  case absent =>
    intro database writes name absent member asked
    exact Update.action_of_absent absent

/-- One update names a new role and a machine number, and the next one, by another member,
another number and a system name. -/
theorem node_updates_combine_of_two_members :
    let store : Store := ⟨commitRow (.empty .persistent) "é" ⟨"m1", "[]", 1, "s"⟩, 0, none⟩
    let first : Update := ⟨["c\""], 7, ""⟩
    let second : Update := ⟨[], 9, "t"⟩
    let both : Update := ⟨["c\""], 9, "t"⟩
    ∃ after, first.action "m2" "é" store.database .empty = (.ok (), after) ∧
      second.action "m3" "é" store.database after =
        both.action "m3" "é" store.database .empty ∧
      (second.serve "m3" "é" ⟨0, 0⟩ (first.serve "m2" "é" ⟨0, 0⟩ store).2).2.database =
        (both.serve "m3" "é" ⟨0, 0⟩ store).2.database := by
  intro store first second both
  have roles : encodeRoles first.roles = "[\"c\\\"\"]" := by
    rw [encodeRoles, sortTexts, List.mergeSort_singleton]
    decide
  have measured : first.Measured "m2" := ⟨by decide, by rw [roles]; decide, by decide⟩
  have found : getRow "é" store.database .empty = (.ok ⟨"m1", "[]", 1, "s"⟩, .empty) :=
    getRow_commitRow (by decide) ⟨by decide, by decide, by decide⟩
  rcases node_updates_combine with ⟨inside, committed, _, _⟩
  rcases inside found measured with ⟨after, acts, behind, _, _⟩
  rcases behind "m3" second with ⟨last, acts', once⟩
  rcases committed found ⟨0, 0⟩ ⟨0, 0⟩ measured with ⟨_, same, _, _⟩
  exact ⟨after, acts, acts'.trans once.symm, (same "m3" second).2⟩

end Nodes

end ControlPlane
