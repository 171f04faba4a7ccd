import IdentityLifecycle.Store.Database
import IdentityLifecycle.Store.Statement

/-!
Statements that change which tables and indexes there are.
-/
namespace IdentityLifecycle

inductive SchemaStatement where
  /-- Creates the table for users unless there is a table of the name. -/
  | createUsers
  | createTokens
  | createHistory
  /-- Creates an index unless there is one of the name. -/
  | createIndex (name table : String) (columns : List String)
  /-- The statements of a text. -/
  | text (statements : String)
  /-- Any other statement, by what it makes of a database. -/
  | effect (change : Database → Except DatabaseError Database)

namespace Database

inductive Place where
  | lasting
  | temporary
  deriving DecidableEq, Repr

namespace Place

def named? (name : String) : Option Place :=
  if sameName name "main" then some lasting
  else if sameName name "temp" then some temporary
  else none

def catalog? (place : Place) (name : String) : Option Relation :=
  let isNamed (names : List String) : Bool := names.any (sameName name)
  let lastingNames := ["sqlite_master", "sqlite_schema"]
  let temporaryNames := ["sqlite_temp_master", "sqlite_temp_schema"]
  match place with
  | lasting => if isNamed lastingNames then some (.catalog "sqlite_master") else none
  | temporary =>
    if isNamed (lastingNames ++ temporaryNames) then some (.catalog "sqlite_temp_master") else none

def find? (place : Place) (db : Database) (name : String) : Option Relation :=
  (place.catalog? name).or <| match place with
    | lasting => db.find? name
    | temporary => db.findTemporary? name

end Place

/-- What the name of a table stands for. Without a place the temporary tables come first. -/
def lookUp? (db : Database) (table : TableName) : Option Relation :=
  match table.place with
  | some place => (Place.named? place.name).bind (·.find? db table.name)
  | none =>
    (Place.lasting.catalog? table.name).or <|
      (Place.temporary.find? db table.name).or (db.find? table.name)

def reservedStart : String := "sqlite_"

def isReserved (name : String) : Bool := reservedStart.toList.isPrefixOf name.toLower.toList

def nameTaken? (db : Database) (place : Place) (table : Identifier) : Option DatabaseError :=
  if isReserved table.name then
    some (.complaint ("object name reserved for internal use: " ++ table.name))
  else if (place.find? db table.name).isSome then
    some (.complaint ("table " ++ table.written ++ " already exists"))
  else if place = .lasting && db.hasIndex table.name then
    some (.complaint ("there is already an index named " ++ table.name))
  else none

def createIfMissing (db : Database) (name : String) (add : Database → Database) :
    Except DatabaseError Database :=
  if db.hasTable name then .ok db
  else match db.nameTaken? .lasting ⟨name, name⟩ with
    | some e => .error e
    | none => .ok (add db)

def isHistory (name : String) (columns : List String) : Bool :=
  sameName name historyName &&
    ["version", "description"].all fun column => columns.any (sameName column)

def addTable (db : Database) (place : Place) (name : String) (shape : TableShape) : Database :=
  match place with
  | .lasting =>
    if isHistory name shape.columns then { db with history := some [], historyKeyed := false }
    else { db with
      others := db.others ++ [(name, [])]
      referring := if shape.refers then db.referring ++ [name] else db.referring }
  | .temporary => { db with temporary := db.temporary ++ [(name, [])] }

/-- Whether a table of this name cannot be found again: after the words that create a table the
name itself reads as a condition. -/
def readsAsCondition (table : Identifier) : Bool := sameName table.written "if"

def placeOfNew (table : TableName) : Except DatabaseError Place :=
  match table.place with
  | none => .ok .lasting
  | some place =>
    match Place.named? place.name with
    | some place => .ok place
    | none => .error (.complaint ("unknown database " ++ place.written))

/-- Creates a table. The name counts before `rest`, the shape read from what follows it in the
statement. -/
def createTable (db : Database) (table : TableName) (ifMissing : Bool)
    (rest : Except DatabaseError TableShape) : Except DatabaseError Database := do
  let place ← placeOfNew table
  if ifMissing && !isReserved table.name && (place.find? db table.name).isSome then
    let _ ← rest
    return db
  else match db.nameTaken? place table.table with
    | some e => throw e
    | none =>
      let shape ← rest
      if readsAsCondition table.table then throw (.malformedSchema table.name)
      else return db.addTable place table.name shape

def columnsOf : Relation → List String
  | .users => ["id", "email", "name", "password", "salt", "verified_at"]
  | .tokens => ["token", "type", "email", "expires_at"]
  | .history => ["version", "description", "installed_on"]
  | .other => ["id"]
  | .temporary => ["id"]
  | .catalog _ => ["type", "name", "tbl_name", "rootpage", "sql"]

def createIndex (db : Database) (name table : String) (columns : List String) :
    Except DatabaseError Database :=
  match db.visible? table with
  | none => .error (.noSuchTable ("main." ++ table))
  | some relation =>
    let place := if relation = .temporary then Place.temporary else Place.lasting
    if (place.find? db name).isSome then
      .error (.complaint ("there is already a table named " ++ name))
    else if place = .lasting && db.hasIndex name then .ok db
    else match columns.find? fun column => !(columnsOf relation).contains column with
      | some column => .error (.complaint ("no such column: " ++ column))
      | none =>
        .ok (if place = .temporary then db
          else { db with indexes := db.indexes ++ [(name, table)] })

def dropTable (db : Database) (table : TableName) (ifPresent : Bool) :
    Except DatabaseError Database :=
  let name := table.name
  let db' := { db with indexes := db.indexes.filter fun i => !sameName i.2 name }
  let without (tables : List (String × List Int64)) : List (String × List Int64) :=
    tables.filter fun other => !sameName other.1 name
  match db.lookUp? table with
  | none => if ifPresent then .ok db else .error (.noSuchTable table.shown)
  | some .users => .ok { db' with users := none }
  | some .tokens => .ok { db' with tokens := none }
  | some .history => .ok { db' with history := none }
  | some .other => .ok { db' with
      others := without db.others, referring := db.referring.filter fun other =>
        !sameName other name }
  | some .temporary => .ok { db with temporary := without db.temporary }
  | some (.catalog catalog) => .error (.complaint ("table " ++ catalog ++ " may not be dropped"))

def insertRow (db : Database) (table : TableName) (value : Int64) :
    Except DatabaseError Database :=
  let noColumn : DatabaseError :=
    .complaint ("table " ++ table.shown ++ " has no column named id")
  let put (other : String × List Int64) : String × List Int64 :=
    if sameName other.1 table.name then (other.1, other.2 ++ [value]) else other
  match db.lookUp? table with
  | none => .error (.noSuchTable table.shown)
  | some .users => .error (.missingValue "users.email")
  | some .tokens => .error noColumn
  | some .history => .error noColumn
  | some .other =>
    if db.tokens.isNone && db.referring.any (sameName · table.name) then
      .error (.noSuchTable ("main." ++ tokensName))
    else .ok { db with others := db.others.map put }
  | some .temporary => .ok { db with temporary := db.temporary.map put }
  | some (.catalog catalog) => .error (.complaint ("table " ++ catalog ++ " may not be modified"))

end Database

def Statement.exec (statement : Statement) (db : Database) : Except DatabaseError Database :=
  match statement with
  | createTable table ifMissing rest => db.createTable table ifMissing rest
  | dropTable table ifPresent => db.dropTable table ifPresent
  | insertRow table value => db.insertRow table value

namespace SchemaStatement

def execText (statements : String) (db : Database) : Except DatabaseError Database :=
  (Statement.ofText statements).foldlM (fun db statement => statement.bind (·.exec db)) db

def exec (statement : SchemaStatement) (db : Database) : Except DatabaseError Database :=
  match statement with
  | createUsers => db.createIfMissing Database.usersName ({ · with users := some [] })
  | createTokens => db.createIfMissing Database.tokensName ({ · with tokens := some [] })
  | createHistory => db.createIfMissing Database.historyName fun db =>
      { db with history := some [], historyKeyed := true }
  | createIndex name table columns => db.createIndex name table columns
  | text statements => execText statements db
  | effect change => change db

def execAll : List SchemaStatement → Database → Except DatabaseError Database
  | [], db => .ok db
  | statement :: rest, db => (statement.exec db).bind (execAll rest)

end SchemaStatement

end IdentityLifecycle
