import IdentityLifecycle.Store
import IdentityLifecycle.Store.Schema

/-!
Versioned changes of the schema, each applied once and recorded.
-/
namespace IdentityLifecycle

structure Migration where
  version : Int64
  description : String
  statements : List SchemaStatement

namespace Migration

def schema : List Migration := [
    { version := 1
      description := "Create users table"
      statements := [.createUsers] },
    { version := 2
      description := "Create tokens table"
      statements := [
        .createTokens,
        .createIndex "idx_tokens_email_type" Database.tokensName ["email", "type"],
        .createIndex "idx_tokens_expires_at" Database.tokensName ["expires_at"]] }]

/-- The table of records, which another table of its name may hide. What a statement wants of that
one is missing. -/
def historyOf (db : Database) (missing : String) : Except DatabaseError (List HistoryRow) :=
  match db.visible? Database.historyName, db.history with
  | some .history, some rows => .ok rows
  | none, _ => .error (.noSuchTable Database.historyName)
  | _, _ => .error (.complaint missing)

def recorded (db : Database) : Except DatabaseError (List HistoryRow) :=
  historyOf db "no such column: version"

/-- Adds the record of a migration, which must not be there yet. -/
def record (m : Migration) (db : Database) : Except DatabaseError Database :=
  (historyOf db ("table " ++ Database.historyName ++ " has no column named version")).bind
    (db.insertHistory ⟨m.version, m.description⟩)

def change (m : Migration) (db : Database) : Except DatabaseError Database :=
  (SchemaStatement.execAll m.statements db).bind m.record

def exec (m : Migration) (store : Store) : Except StoreError Database :=
  match m.change store.database with
  | .error e => .error (.migration m.version e)
  | .ok left =>
    match (store.settlingOf left).commit with
    | some e => .error (.commit e)
    | none => .ok left

/-- Creates the table of records if there is none. In a scattered store that does not last. -/
def ensureHistory : Query Unit := fun desk =>
  let fail (e : DatabaseError) : Except StoreError Unit × Desk :=
    (.error (.query "failed to create the migrations table" e), desk)
  let store := desk.store
  if store.closed then fail .poolClosed
  else match SchemaStatement.createHistory.exec store.database with
    | .error e => fail e
    | .ok db =>
      match store.writeBarrier with
      | some e =>
        if store.database.hasTable Database.historyName then (.ok (), desk) else fail e
      | none => (.ok (), if store.scattered then desk else { desk with store.database := db })

def apply (m : Migration) : Query Bool := fun desk =>
  let store := desk.store
  if store.closed then (.error (.begin .poolClosed), desk)
  else match recorded store.database with
    | .error e => (.error (.query "failed to check migration status" e), desk)
    | .ok rows =>
      if rows.any (·.version = m.version) then (.ok false, desk)
      else match store.writeBarrier, m.exec store with
        | some e, _ => (.error (.migration m.version e), desk)
        | none, .error e => (.error e, desk)
        | none, .ok db =>
          let entry : Log.Entry := {
            level := .info
            source := .migrations
            message := "Applied migration"
            fields := [("version", .integer m.version.toInt),
              ("description", .text m.description)] }
          (.ok true, { store := { store with database := db }, log := desk.log.write entry })

def applyAll : List Migration → Query Nat
  | [] => pure 0
  | m :: rest => do
    let applied ← m.apply
    let more ← applyAll rest
    return if applied then more + 1 else more

def run (migrations : List Migration) : Query Nat := do
  ensureHistory
  applyAll migrations

def currentVersion : Query (Option Int64) := do
  ensureHistory
  let desk ← Step.get
  match recorded desk.store.database with
  | .error e => .fail (.query "failed to get the migration version" e)
  | .ok rows =>
    return rows.foldl (fun greatest row =>
      match greatest with
      | none => some row.version
      | some v => some (if v < row.version then row.version else v)) none

def migrate : Query (Option Int64) := do
  let _ ← run schema
  currentVersion

end Migration

end IdentityLifecycle
