import ControlPlane.Store.Action

/-!
# Transactions and the writer slot

A store has one writer slot.  A transaction takes the slot when it begins and gives
it back when it ends, so that at most one is open and nothing comes between its
reads and its commit.  Transactions are numbered from 1 in the order in which they
take the slot; there is no bound on the numbers, and those of the first 2 ^ 64 - 1
transactions fit in 64 bits.
-/

namespace ControlPlane

/-- An open transaction. -/
structure Transaction where
  id : Nat
  writes : WriteSet
  deriving DecidableEq

/-- The committed rows and the writer slot. -/
structure Store where
  database : Database
  /-- The number of transactions that have begun. -/
  begun : Nat := 0
  /-- The transaction that holds the writer slot. -/
  current : Option Transaction := none
  deriving DecidableEq

namespace Store

variable {α : Type}

/-- A store without rows. -/
def empty (medium : Medium) : Store := ⟨.empty medium, 0, none⟩

/-- The store that opens on the same rows after everything else is lost. -/
def reopen (store : Store) : Store := ⟨store.database, 0, none⟩

/-- Begins a transaction, if the slot is free. -/
def begin? (store : Store) : Option (Transaction × Store) :=
  match store.current with
  | some _ => none
  | none =>
    let transaction : Transaction := ⟨store.begun + 1, .empty⟩
    some (transaction, { store with begun := store.begun + 1, current := some transaction })

/-- Carries out an action inside the open transaction, if there is one. -/
def inside? (store : Store) (action : Action α) : Option (Except Failure α × Store) :=
  match store.current with
  | none => none
  | some transaction =>
    let (outcome, writes) := action store.database transaction.writes
    some (outcome, { store with current := some { transaction with writes } })

/-- Ends the open transaction and commits its writes as a unit.  If the medium
refuses them, none is carried out. -/
def commit? (store : Store) : Option (Except Failure Unit × Store) :=
  match store.current with
  | none => none
  | some transaction =>
    match store.database.apply transaction.writes with
    | .ok database => some (.ok (), { store with database, current := none })
    | .error fault => some (.error (.storage fault), { store with current := none })

/-- Ends the open transaction and forgets its writes. -/
def rollback? (store : Store) : Option Store :=
  match store.current with
  | none => none
  | some _ => some { store with current := none }

/-- Carries out an action in a transaction of its own, while the slot is free: an
answer is committed and a failure rolled back. -/
def transact (store : Store) (action : Action α) : Except Failure α × Store :=
  let store := { store with begun := store.begun + 1 }
  match action store.database .empty with
  | (.ok value, writes) =>
    match store.database.apply writes with
    | .ok database => (.ok value, { store with database })
    | .error fault => (.error (.storage fault), store)
  | (.error failure, _) => (.error failure, store)

end Store

end ControlPlane
