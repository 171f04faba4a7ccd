import IdentityLifecycle.Log
import IdentityLifecycle.Step
import IdentityLifecycle.Store.Database

/-!
The store: a database that is read by any number of callers and changed by one unit of work at a
time.
-/
namespace IdentityLifecycle

/-- What the engine reports in place of committing a unit of work, and in place of rolling one back,
where it fails to. -/
structure Settling where
  commit : Option DatabaseError := none
  rollback : Option DatabaseError := none
  deriving DecidableEq, Repr

/-- The committed tables. `locked` says that a unit of work is open, and holds the right to write;
a closed store answers nobody, one that is only for reading refuses every change, and in a
scattered one each connection has tables of its own, which the next does not see. The engine
answers as in `settling` where a unit is to be settled. -/
structure Store where
  database : Database := {}
  locked : Bool := false
  closed : Bool := false
  readOnly : Bool := false
  scattered : Bool := false
  settling : Settling := {}
  deriving DecidableEq, Repr

structure WriteUnit where
  database : Database
  readOnly : Bool := false
  deriving DecidableEq, Repr

def Store.begin (store : Store) : Except StoreError (WriteUnit × Store) :=
  if store.closed then .error (.begin .poolClosed)
  else if store.locked then .error (.begin .locked)
  else
    .ok ({ database := store.database, readOnly := store.readOnly }, { store with locked := true })

/-- What settles a unit that has changed the tables to `left`: besides the engine, a reference that
it has broken keeps it from being committed. -/
def Store.settlingOf (store : Store) (left : Database) : Settling :=
  { store.settling with
    commit := store.settling.commit.or (store.database.brokenReference? left) }

def Store.writeBarrier (store : Store) : Option DatabaseError :=
  if store.readOnly then some .readOnly else if store.locked then some .locked else none

namespace WriteUnit

def store (unit : WriteUnit) : Store := { database := unit.database, readOnly := unit.readOnly }

def commit (unit : WriteUnit) (store : Store) : Store :=
  { store with database := unit.database, locked := false }

/-- The store without the changes of the unit, which is also left where its guard is dropped. -/
def rollback (_ : WriteUnit) (store : Store) : Store := { store with locked := false }

def tryCommit (unit : WriteUnit) (store : Store) (settling : Settling := {}) :
    Except StoreError Unit × Store :=
  match settling.commit with
  | none => (.ok (), unit.commit store)
  | some cause => (.error (.commit cause), unit.rollback store)

/-- Commits a unit that succeeded and rolls back one that failed. The outcome stays, unless the
engine fails to do so; a failing rollback keeps the text of the first error. -/
def finish {ε α : Type} [HasStoreError ε] (unit : WriteUnit) (store : Store)
    (outcome : Except ε α) (settling : Settling := {}) : Except ε α × Store :=
  match outcome with
  | .ok a =>
    let (committed, store) := unit.tryCommit store settling
    ((committed.mapError HasStoreError.ofStoreError).map fun _ => a, store)
  | .error e =>
    match settling.rollback with
    | none => (.error e, unit.rollback store)
    | some cause =>
      (.error (HasStoreError.ofStoreError (.rollback (HasStoreError.message e) cause)),
        unit.rollback store)

end WriteUnit

def Settling.entries {ε α : Type} [HasStoreError ε] (settling : Settling) :
    Except ε α → List Log.Entry
  | .ok _ => []
  | .error e => settling.rollback.toList.map fun cause => {
      level := .warn
      source := .store
      message := "Rollback failed"
      fields := [("error", .displayed cause.message),
        ("cause", .displayed (HasStoreError.message e))] }

structure Desk where
  store : Store := {}
  log : Log := {}
  deriving DecidableEq, Repr

abbrev Query (α : Type) := Step Desk StoreError α

namespace Query

def report (entry : Log.Entry) : Query Unit :=
  .update fun desk => { desk with log := desk.log.write entry }

def connect : Query Unit := fun desk =>
  if desk.store.closed then (.error (.query "failed to acquire a connection" .poolClosed), desk)
  else (.ok (), desk)

def onConnection {α : Type} (query : Query α) : Query α := do
  connect
  query

end Query

end IdentityLifecycle
