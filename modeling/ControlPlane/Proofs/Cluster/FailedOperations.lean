import ControlPlane.Proofs.Cluster.Refusals
import ControlPlane.Proofs.Store.CleanFailures

/-!
# Operations that fail inside a transaction

Every operation that can be asked of an open transaction reads, decodes and compares all
that it may fail on before it stages anything.  So one that fails leaves the transaction
as it found it, whatever the rows, and a client may go on and commit as if it had never
asked.  A manifest stages writes in two tables, its row id first; nothing can fail behind
the row id.
-/

namespace ControlPlane

open ControlPlane.Action

/-! ## Operations of each registry -/

namespace ConfigItems

theorem neverFails_upsert (key value : String) : (upsert key value).NeverFails :=
  neverFails_put _ _ _

theorem failsCleanly_create (key value : String) : (create key value).FailsCleanly := by
  apply (readsOnly_contains _ key).bind_failsCleanly
  rintro (_ | _)
  · exact (neverFails_upsert key value).failsCleanly
  · exact (readsOnly_fail _).failsCleanly

theorem failsCleanly_delete (key : String) : (delete key).FailsCleanly :=
  (Action.failsCleanly_delete _ key).bind fun _ => neverFails_pure ()

end ConfigItems

namespace Nodes

theorem failsCleanly_create (member name : String) (roles : List String) (machineId : Int64)
    (systemId : String) : (create member name roles machineId systemId).FailsCleanly := by
  rw [create]
  split
  · exact (readsOnly_fail _).failsCleanly
  · apply (readsOnly_contains _ name).bind_failsCleanly
    rintro (_ | _)
    · exact (neverFails_put _ _ _).failsCleanly
    · exact (readsOnly_fail _).failsCleanly

theorem failsCleanly_update (member name : String) (roles : List String) (machineId : Int64)
    (systemId : String) : (update member name roles machineId systemId).FailsCleanly :=
  (readsOnly_getRow name).bind_failsCleanly fun _ => (neverFails_put _ _ _).failsCleanly

end Nodes

/-- The date is checked before a row id is handed out, and nothing behind it can fail. -/
theorem Manifests.failsCleanly_create (id data : String) (appliedAt : Instant) :
    (create id data appliedAt).FailsCleanly := by
  rw [create]
  split
  · exact (readsOnly_fail _).failsCleanly
  · split
    · exact (readsOnly_fail _).failsCleanly
    · apply (readsOnly_contains _ id).bind_failsCleanly
      rintro (_ | _)
      · simp only [Bool.false_eq_true, if_false]
        split
        · exact (readsOnly_fail _).failsCleanly
        · exact (failsCleanly_nextRowId _).bind fun _ => neverFails_put _ _ _
      · exact (readsOnly_fail _).failsCleanly

theorem JujuUsers.failsCleanly_create (username token : String) :
    (create username token).FailsCleanly := by
  rw [create]
  split
  · exact (readsOnly_fail _).failsCleanly
  · apply (readsOnly_contains _ username).bind_failsCleanly
    rintro (_ | _)
    · exact (neverFails_put _ _ _).failsCleanly
    · exact (readsOnly_fail _).failsCleanly

namespace Plans

theorem failsCleanly_lock (plan : String) (requested : Lock) :
    (lock plan requested).FailsCleanly := by
  apply (readsOnly_storedLock? plan).bind_failsCleanly
  rintro (_ | held)
  · exact (ConfigItems.neverFails_upsert _ _).failsCleanly
  · simp only
    split
    · exact (readsOnly_fail _).failsCleanly
    · exact (readsOnly_fail _).failsCleanly

theorem failsCleanly_unlock (plan : String) (requested : Lock) :
    (unlock plan requested).FailsCleanly := by
  apply (readsOnly_storedLock? plan).bind_failsCleanly
  rintro (_ | held)
  · exact (neverFails_pure ()).failsCleanly
  · simp only
    split
    · exact ConfigItems.failsCleanly_delete _
    · exact (readsOnly_fail _).failsCleanly

theorem failsCleanly_putState (plan lockId state : String) :
    (putState plan lockId state).FailsCleanly := by
  apply (readsOnly_storedLock? plan).bind_failsCleanly
  rintro (_ | held)
  · exact (readsOnly_fail _).failsCleanly
  · simp only
    split
    · exact (ConfigItems.neverFails_upsert _ _).failsCleanly
    · exact (readsOnly_fail _).failsCleanly

theorem failsCleanly_deleteState (plan : String) : (deleteState plan).FailsCleanly := by
  apply (ConfigItems.readsOnly_get? _).bind_failsCleanly
  rintro (_ | state)
  · exact (readsOnly_fail _).failsCleanly
  · exact ConfigItems.failsCleanly_delete _

end Plans

theorem Call.failsCleanly_action (member : String) (now : Instant) (call : Call) :
    (call.action member now).FailsCleanly := by
  cases call with
  | putConfig key value => exact (ConfigItems.neverFails_upsert key value).failsCleanly
  | deleteConfig key =>
    exact (ConfigItems.readsOnly_get key).bind_failsCleanly fun _ =>
      ConfigItems.failsCleanly_delete key
  | addNode name roles machineId systemId =>
    exact Nodes.failsCleanly_create member name roles machineId systemId
  | updateNode name roles machineId systemId =>
    exact Nodes.failsCleanly_update member name roles machineId systemId
  | addManifest id data => exact Manifests.failsCleanly_create id data now
  | addJujuUser username token => exact JujuUsers.failsCleanly_create username token
  | deleteNode | deleteManifest | deleteJujuUser => exact failsCleanly_deleteFound _ _ _
  | putState plan lockId state => exact Plans.failsCleanly_putState plan lockId state
  | deleteState plan => exact Plans.failsCleanly_deleteState plan
  | lockPlan plan requested => exact Plans.failsCleanly_lock plan requested
  | unlockPlan plan requested => exact Plans.failsCleanly_unlock plan requested
  | getConfig | listConfigKeys | listNodes | getNode | listManifests | getManifest
  | listJujuUsers | getJujuUser | listStates | getState | listLocks | getLock =>
    exact (readsOnly_action member now rfl).failsCleanly

theorem PlainTables.Request.failsCleanly_action (request : Request) :
    request.action.FailsCleanly := by
  cases request with
  | get table key => exact (readsOnly_get table key).failsCleanly
  | contains table key => exact (readsOnly_contains table key).failsCleanly
  | scan table start => exact (readsOnly_scan table start).failsCleanly
  | put table key value => exact (neverFails_put table key value).failsCleanly
  | delete table key => exact Action.failsCleanly_delete table key
  | nextRowId table => exact failsCleanly_nextRowId table

/-! ## Everything that can be asked of a transaction -/

/-- What can be asked of an open transaction. -/
inductive Operation where
  /-- What a member does for a call, whatever the arguments and the clock reading. -/
  | call (member : String) (now : Instant) (asked : Call)
  -- Operations on items that no call consists of.
  | findItem (key : String)
  | createItem (key value : String)
  | deleteItem (key : String)
  /-- A request to the rows themselves. -/
  | rows (request : PlainTables.Request)

namespace Operation

/-- The answers to an operation. -/
abbrev Answer : Operation → Type
  | call _ _ asked => asked.Answer
  | findItem _ => Option String
  | createItem .. | deleteItem _ => Unit
  | rows request => request.Answer

/-- What an operation does. -/
def action : (operation : Operation) → Action operation.Answer
  | call member now asked => asked.action member now
  | findItem key => ConfigItems.get? key
  | createItem key value => ConfigItems.create key value
  | deleteItem key => ConfigItems.delete key
  | rows request => request.action

theorem failsCleanly_action (operation : Operation) : operation.action.FailsCleanly := by
  cases operation with
  | call member now asked => exact asked.failsCleanly_action member now
  | findItem key => exact (ConfigItems.readsOnly_get? key).failsCleanly
  | createItem key value => exact ConfigItems.failsCleanly_create key value
  | deleteItem key => exact ConfigItems.failsCleanly_delete key
  | rows request => exact request.failsCleanly_action

end Operation

namespace Store

variable {store : Store} {transaction : Transaction}

/-- An action that fails cleanly leaves the store as it was, with the same transaction open
and the same writes staged. -/
theorem inside?_of_failure {α : Type} {action : Action α} (clean : action.FailsCleanly)
    {failure : Failure} {after : Store}
    (failed : store.inside? action = some (.error failure, after)) : after = store := by
  rcases store with ⟨database, begun, _ | ⟨id, writes⟩⟩
  · cases failed
  · rw [inside?] at failed
    rcases acts : action database writes with ⟨outcome, staged⟩
    simp only [acts, Option.some.injEq, Prod.mk.injEq] at failed
    rcases failed with ⟨rfl, rfl⟩
    rw [clean acts]

/-- An operation that fails leaves no trace in its transaction.  Of a whole run of
operations, those that were answered have the same answers, and leave the same transaction
to be committed, as without those that failed.  A manifest that is not recorded, for
whatever reason, leaves the next row id as it was. -/
theorem failed_operations_leave_no_trace (current : store.current = some transaction) :
    (∀ (operation : Operation) failure after,
      store.inside? operation.action = some (.error failure, after) → after = store) ∧
    (∀ operations, ∃ history ended,
      store.insideAll? Operation.action operations = some (history, ended) ∧
      history.map Exchange.request = operations ∧
      store.insideAll? Operation.action
          ((history.filter Exchange.isAnswered).map Exchange.request) =
        some (history.filter Exchange.isAnswered, ended)) ∧
    ∀ id data appliedAt failure after,
      store.inside? (Manifests.create id data appliedAt) = some (.error failure, after) →
      after.inside? (Action.nextRowId .manifest) = store.inside? (Action.nextRowId .manifest) := by
  refine ⟨?one, ?run, ?manifest⟩
  case one =>
    intro operation failure after failed
    exact inside?_of_failure operation.failsCleanly_action failed
  case run =>
    intro operations
    refine ⟨_, _, insideAll?_eq Operation.action current operations,
      requests_exchanges _ _ _ _, ?_⟩
    rw [insideAll?_eq Operation.action current,
      exchanges_of_answered Operation.failsCleanly_action]
  case manifest =>
    intro id data appliedAt failure after failed
    rw [inside?_of_failure (Manifests.failsCleanly_create id data appliedAt) failed]

/-- A manifest whose identifier is taken is refused between two operations on items, where
seven row ids were handed out before. -/
theorem failed_operations_leave_no_trace_of_taken_id :
    let counters := KeyMap.empty.insert Table.manifest.sequenceKey [7]
    let manifests := KeyMap.empty.insert "m1" [7, 10, 0]
    let rows := ((Tables.const .empty).set .counters counters).set .manifest manifests
    let store : Store := ⟨⟨.memory, rows, .const []⟩, 1, some ⟨1, .empty⟩⟩
    let record := Manifests.create "m1" "text" ⟨5, 0⟩
    let operations : List Operation :=
      [.createItem "k" "v", .call "node-1" ⟨5, 0⟩ (.addManifest "m1" "text"), .deleteItem "k"]
    store.current = some ⟨1, .empty⟩ ∧
      (∃ after, store.inside? record = some (.error (.alreadyExists "manifest"), after) ∧
        after.inside? (Action.nextRowId .manifest) =
          store.inside? (Action.nextRowId .manifest)) ∧
      (store.inside? (Action.nextRowId .manifest)).map (·.1) = some (.ok 8) ∧
      ∃ history ended, store.insideAll? Operation.action operations = some (history, ended) ∧
        store.insideAll? Operation.action
            ((history.filter Exchange.isAnswered).map Exchange.request) =
          some (history.filter Exchange.isAnswered, ended) := by
  intro counters manifests rows store record operations
  have current : store.current = some ⟨1, .empty⟩ := rfl
  rcases failed_operations_leave_no_trace current with ⟨_, run, manifest⟩
  have refused : store.inside? record = some (.error (.alreadyExists "manifest"), store) := rfl
  rcases run operations with ⟨history, ended, whole, _, answered⟩
  exact ⟨current, ⟨store, refused, manifest _ _ _ _ _ refused⟩, rfl, history, ended, whole,
    answered⟩

end Store

end ControlPlane
