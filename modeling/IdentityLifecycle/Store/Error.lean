import IdentityLifecycle.Store.Cell

/-!
What can go wrong in the store.
-/
namespace IdentityLifecycle

inductive DatabaseError where
  | poolClosed
  | poolTimedOut
  | workerCrashed
  | rowNotFound
  | protocol (detail : String)
  | columnNotFound (name : String)
  /-- The value of a column has the class `found` where the column has values `wanted`. -/
  | mismatchedColumn (column : String) (wanted found : String)
  | configuration (detail : String)
  | communication (detail : String)
  | rejected (code : Nat) (text : String)
  deriving DecidableEq, Repr

namespace DatabaseError

def complaint (text : String) : DatabaseError := .rejected 1 text

def noSuchTable (table : String) : DatabaseError := .complaint ("no such table: " ++ table)

def locked : DatabaseError := .rejected 5 "database is locked"

def readOnly : DatabaseError := .rejected 8 "attempt to write a readonly database"

def cannotOpen : DatabaseError := .rejected 14 "unable to open database file"

def malformedSchema (table : String) : DatabaseError :=
  .rejected 11 ("malformed database schema (" ++ table ++ ") - near \"(\": syntax error")

def unreadable : DatabaseError := .rejected 266 "disk I/O error"

def notADatabase : DatabaseError := .rejected 26 "file is not a database"

def notUnique (code : Nat) (column : String) : DatabaseError :=
  .rejected code ("UNIQUE constraint failed: " ++ column)

def primaryKeyCode : Nat := 1555

def uniqueCode : Nat := 2067

def missingValue (column : String) : DatabaseError :=
  .rejected 1299 ("NOT NULL constraint failed: " ++ column)

/-- A reference that the end of a unit of work would leave without its row. -/
def brokenReference : DatabaseError := .rejected 787 "FOREIGN KEY constraint failed"

def isNotUnique : DatabaseError → Bool
  | rejected code _ => code == primaryKeyCode || code == uniqueCode
  | _ => false

def wantedType (wanted : String) : String :=
  if wanted = "INTEGER" then "i64" else "alloc::string::String"

def detail : DatabaseError → Option String
  | mismatchedColumn _ wanted found =>
    some ("mismatched types; Rust type `" ++ wantedType wanted ++ "` (as SQL type `" ++ wanted ++
      "`) is not compatible with SQL type `" ++ found ++ "`")
  | configuration detail => some detail
  | communication detail => some detail
  | rejected code text => some ("(code: " ++ toString code ++ ") " ++ text)
  | _ => none

def message (e : DatabaseError) : String :=
  match e with
  | poolClosed => "attempted to acquire a connection on a closed pool"
  | poolTimedOut => "pool timed out while waiting for an open connection"
  | workerCrashed => "attempted to communicate with a crashed background worker"
  | rowNotFound =>
    "no rows returned by a query that expected to return at least one row"
  | protocol detail => "encountered unexpected or invalid data: " ++ detail
  | columnNotFound name => "no column found for name: " ++ name
  | mismatchedColumn column _ _ =>
    "error occurred while decoding column " ++ "\"" ++ column ++ "\": " ++ e.detail.getD ""
  | configuration detail => "error with configuration: " ++ detail
  | communication detail => "error communicating with database: " ++ detail
  | rejected _ _ => "error returned from database: " ++ e.detail.getD ""

end DatabaseError

inductive StoreError where
  | connect (cause : DatabaseError)
  | begin (cause : DatabaseError)
  | commit (cause : DatabaseError)
  /-- The unit of work failed with the text `outcome`, and then so did its rollback. -/
  | rollback (outcome : String) (cause : DatabaseError)
  | query (context : String) (cause : DatabaseError)
  | conflict (context : String)
  | corrupt (detail : String)
  | migration (version : Int64) (cause : DatabaseError)
  deriving DecidableEq, Repr

namespace StoreError

def message : StoreError → String
  | connect cause => "failed to connect to the database: " ++ cause.message
  | begin cause => "failed to begin the transaction: " ++ cause.message
  | commit cause => "failed to commit the transaction: " ++ cause.message
  | rollback outcome cause =>
    "failed to roll back the transaction after \"" ++ outcome ++ "\": " ++ cause.message
  | query context cause => context ++ ": " ++ cause.message
  | conflict context => context ++ ": unique constraint violated"
  | corrupt detail => "corrupt row: " ++ detail
  | migration version cause => "migration " ++ toString version ++ " failed: " ++ cause.message

def cause? : StoreError → Option DatabaseError
  | connect cause => some cause
  | begin cause => some cause
  | commit cause => some cause
  | rollback _ cause => some cause
  | query _ cause => some cause
  | conflict _ => none
  | corrupt _ => none
  | migration _ cause => some cause

def chain (e : StoreError) : List String :=
  e.message :: match e.cause? with
    | some cause => cause.message :: cause.detail.toList
    | none => []

def isBookkeeping : StoreError → Bool
  | begin _ => true
  | commit _ => true
  | rollback _ _ => true
  | _ => false

end StoreError

/-- Errors that failures of the store are among, and that have a text. -/
class HasStoreError (ε : Type) where
  ofStoreError : StoreError → ε
  message : ε → String

instance storeHasStoreError : HasStoreError StoreError := ⟨id, StoreError.message⟩

end IdentityLifecycle
