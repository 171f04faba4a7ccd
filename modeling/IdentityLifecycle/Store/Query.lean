import IdentityLifecycle.Store

/-!
The statements on the tables for users and tokens.
-/
namespace IdentityLifecycle.Query

def usersFor (context : String) : Query (List UserRow) := fun desk =>
  match desk.store.database.users with
  | some rows => (.ok rows, desk)
  | none => (.error (.query context (.noSuchTable Database.usersName)), desk)

def tokensFor (context : String) : Query (List TokenRow) := fun desk =>
  match desk.store.database.tokens with
  | some rows => (.ok rows, desk)
  | none => (.error (.query context (.noSuchTable Database.tokensName)), desk)

def writing (context : String) : Query Unit := fun desk =>
  match desk.store.writeBarrier with
  | some e => (.error (.query context e), desk)
  | none => (.ok (), desk)

def setUsers (rows : List UserRow) : Query Unit :=
  .update fun desk => { desk with store.database.users := some rows }

def setTokens (rows : List TokenRow) : Query Unit :=
  .update fun desk => { desk with store.database.tokens := some rows }

def decodeUser : Option UserRow → Query (Option User)
  | none => pure none
  | some row =>
    .ofExcept ((row.decode.mapError (.query "failed to decode the user row")).map some)

def decodeToken : Option TokenRow → Query (Option Token)
  | none => pure none
  | some row => .ofExcept (row.decode.map some)

def userByEmail (email : String) : Query (Option User) := do
  let rows ← usersFor "failed to get the user by email"
  decodeUser (rows.find? (·.hasEmail email))

def userById (id : String) : Query (Option User) := do
  let rows ← usersFor "failed to get the user by id"
  decodeUser (rows.find? (·.hasId id))

def insert (context : String) (add : Database → Except DatabaseError Database) : Query Unit :=
  fun desk =>
    match add desk.store.database with
    | .ok db => (.ok (), { desk with store.database := db })
    | .error e => (.error (if e.isNotUnique then .conflict context else .query context e), desk)

def createUser (user : User) : Query Unit := do
  let context := "failed to create the user"
  let _ ← usersFor context
  writing context
  insert context (Database.insertUser user.row)

/-- Changes the rows with an email and answers the user as changed. -/
def updateUser (context email : String) (change : UserRow → UserRow) : Query (Option User) := do
  let rows ← usersFor context
  writing context
  let rows := rows.map fun row => if row.hasEmail email then change row else row
  setUsers rows
  decodeUser (rows.find? (·.hasEmail email))

def updateUserPassword (email : String) (password : HashedPassword) : Query (Option User) :=
  updateUser "failed to update the user password" email fun row => { row with password }

/-- Stamps the instant of verification; a user who has one keeps it. -/
def setUserVerified (email : String) (now : Instant) : Query (Option User) :=
  updateUser "failed to set the user as verified" email (·.stamp now)

def createToken (token : Token) : Query Unit := do
  let context := "failed to create the token"
  let _ ← tokensFor context
  writing context
  insert context (Database.insertToken token.row)

def liveToken (value : String) (type : TokenType) (now : Instant) : Query (Option Token) := do
  let rows ← tokensFor "failed to get the token"
  decodeToken (rows.find? (·.isLiveAs value type now))

def deleteTokens (context : String) (drop : TokenRow → Bool) : Query Nat := do
  let rows ← tokensFor context
  writing context
  setTokens (rows.filter fun row => !drop row)
  return rows.countP drop

def deleteTokensFor (email : String) (type : TokenType) : Query Nat :=
  deleteTokens "failed to delete the tokens for the email" (·.isFor email type)

def deleteToken (value : String) : Query Bool := do
  return 0 < (← deleteTokens "failed to delete the token" (·.hasValue value))

def purgeExpiredTokens (now : Instant) : Query Nat :=
  deleteTokens "failed to purge expired tokens" (·.isExpired now)

def countUsers : Query Nat := do
  return (← usersFor "failed to count users").length

def countTokens (email : String) (type : TokenType) : Query Nat := do
  return (← tokensFor "failed to count tokens").countP (·.isFor email type)

end IdentityLifecycle.Query
