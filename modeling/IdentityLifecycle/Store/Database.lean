import IdentityLifecycle.Store.Row

/-!
The tables of a database.
-/
namespace IdentityLifecycle

structure HistoryRow where
  version : Int64
  description : String
  deriving DecidableEq, Repr

/-- The tables that exist, with their rows: the three that the engine uses, and others with one
column of integers. An index is given with the table it is on. Temporary tables belong to a
connection, which finds them before the others. -/
structure Database where
  users : Option (List UserRow) := none
  tokens : Option (List TokenRow) := none
  history : Option (List HistoryRow) := none
  /-- A table of records that a text has made is one without a key. -/
  historyKeyed : Bool := true
  others : List (String × List Int64) := []
  /-- Those of the others whose integers are to be values of tokens, once a unit of work ends. -/
  referring : List String := []
  indexes : List (String × String) := []
  temporary : List (String × List Int64) := []
  deriving DecidableEq, Repr

namespace Database

def usersName : String := "users"

def tokensName : String := "tokens"

def historyName : String := "_migrations"

def sameName (a b : String) : Bool := a.toLower == b.toLower

inductive Relation where
  | users
  | tokens
  | history
  | other
  | temporary
  /-- The list of tables, which only the database itself changes. -/
  | catalog (name : String)
  deriving DecidableEq, Repr

def find? (db : Database) (name : String) : Option Relation :=
  if db.users.isSome && sameName name usersName then some .users
  else if db.tokens.isSome && sameName name tokensName then some .tokens
  else if db.history.isSome && sameName name historyName then some .history
  else if db.others.any (sameName name ·.1) then some .other
  else none

def findTemporary? (db : Database) (name : String) : Option Relation :=
  if db.temporary.any (sameName name ·.1) then some .temporary else none

def visible? (db : Database) (name : String) : Option Relation :=
  (db.findTemporary? name).or (db.find? name)

def hasTable (db : Database) (name : String) : Bool := (db.find? name).isSome

def hasIndex (db : Database) (name : String) : Bool := db.indexes.any (sameName name ·.1)

def integers (db : Database) (name : String) : List Int64 :=
  (((db.temporary ++ db.others).find? (sameName name ·.1)).map (·.2)).getD []

def objectNames (db : Database) : List String :=
  (if db.users.isSome then [usersName] else []) ++
    (if db.tokens.isSome then [tokensName] else []) ++
    (if db.history.isSome then [historyName] else []) ++ db.others.map (·.1) ++
      db.indexes.map (·.1)

def dangling (db : Database) : Nat :=
  let isToken (n : Int64) : Bool := (db.tokens.getD []).any (·.hasValue (toString n))
  let referring := db.others.filter fun other => db.referring.any (sameName other.1)
  (referring.flatMap (·.2)).countP (!isToken ·)

/-- What stops a unit that turns `before` into `after`: it must not lose tokens that are referred
to. -/
def brokenReference? (before after : Database) : Option DatabaseError :=
  if before.dangling < after.dangling then some .brokenReference else none

def insertUser (row : UserRow) (db : Database) : Except DatabaseError Database :=
  match db.users with
  | none => .error (.noSuchTable usersName)
  | some rows =>
    match UserRow.fault? rows row with
    | some e => .error e
    | none => .ok { db with users := some (rows ++ [row]) }

def insertHistory (db : Database) (row : HistoryRow) (rows : List HistoryRow) :
    Except DatabaseError Database :=
  if db.historyKeyed && rows.any (·.version = row.version) then
    .error (.notUnique DatabaseError.primaryKeyCode (historyName ++ ".version"))
  else .ok { db with history := some (rows ++ [row]) }

def insertToken (row : TokenRow) (db : Database) : Except DatabaseError Database :=
  match db.tokens with
  | none => .error (.noSuchTable tokensName)
  | some rows =>
    match TokenRow.fault? rows row with
    | some e => .error e
    | none => .ok { db with tokens := some (rows ++ [row]) }

end Database

end IdentityLifecycle
