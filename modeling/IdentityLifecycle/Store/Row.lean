import IdentityLifecycle.Store.Error
import IdentityLifecycle.Token
import IdentityLifecycle.User

/-!
The rows of the tables for users and tokens.
-/
namespace IdentityLifecycle

namespace Cell

def readText (column : String) : Cell → Except DatabaseError String
  | text s => .ok s
  | null => .ok ""
  | cell => .error (.mismatchedColumn column "TEXT" cell.className)

def readInteger (column : String) : Cell → Except DatabaseError Int64
  | integer n => .ok n
  | null => .ok 0
  | cell => .error (.mismatchedColumn column "INTEGER" cell.className)

end Cell

structure UserRow where
  id : Cell
  email : Cell
  name : Cell
  password : HashedPassword
  verifiedAt : Cell
  deriving DecidableEq, Repr

def User.row (user : User) : UserRow where
  id := .text user.id
  email := .text user.email
  name := .text user.name
  password := user.password
  verifiedAt := .integer user.verifiedAt

namespace UserRow

def hasId (row : UserRow) (id : String) : Bool := row.id = .text id

def hasEmail (row : UserRow) (email : String) : Bool := row.email = .text email

def decode (row : UserRow) : Except DatabaseError User := do
  return {
    id := ← row.id.readText "id"
    email := ← row.email.readText "email"
    name := ← row.name.readText "name"
    password := row.password
    verifiedAt := ← row.verifiedAt.readInteger "verified_at" }

def stamp (row : UserRow) (now : Instant) : UserRow :=
  if row.verifiedAt = .integer 0 then { row with verifiedAt := .integer now } else row

/-- The constraint that a new row would break: it has all values but perhaps an id, emails differ,
and so do ids. -/
def fault? (rows : List UserRow) (new : UserRow) : Option DatabaseError :=
  if new.email = .null then some (.missingValue "users.email")
  else if new.name = .null then some (.missingValue "users.name")
  else if new.verifiedAt = .null then some (.missingValue "users.verified_at")
  else if rows.any (·.email = new.email) then
    some (.notUnique DatabaseError.uniqueCode "users.email")
  else if new.id ≠ .null && rows.any (·.id = new.id) then
    some (.notUnique DatabaseError.primaryKeyCode "users.id")
  else none

end UserRow

structure TokenRow where
  value : Cell
  type : String
  email : Cell
  expiresAt : Cell
  deriving DecidableEq, Repr

def Token.row (token : Token) : TokenRow where
  value := .text token.value
  type := token.type.text
  email := .text token.email
  expiresAt := .integer token.expiresAt

namespace TokenRow

def hasValue (row : TokenRow) (value : String) : Bool := row.value = .text value

def isFor (row : TokenRow) (email : String) (type : TokenType) : Bool :=
  row.email = .text email && row.type = type.text

def isLiveAs (row : TokenRow) (value : String) (type : TokenType) (now : Instant) : Bool :=
  row.hasValue value && row.type = type.text && row.expiresAt.exceeds now

def isExpired (row : TokenRow) (now : Instant) : Bool := row.expiresAt.atMost now

def decode (row : TokenRow) : Except StoreError Token := do
  let column {α : Type} (outcome : Except DatabaseError α) : Except StoreError α :=
    outcome.mapError (.query "failed to decode the token row")
  let value ← column (row.value.readText "token")
  let email ← column (row.email.readText "email")
  let expiresAt ← column (row.expiresAt.readInteger "expires_at")
  let type ← (TokenType.ofText row.type).mapError .corrupt
  return { value, type, email, expiresAt }

/-- The constraint that a new row would break: it has all columns but perhaps the value, and values
differ. -/
def fault? (rows : List TokenRow) (new : TokenRow) : Option DatabaseError :=
  if new.email = .null then some (.missingValue "tokens.email")
  else if new.expiresAt = .null then some (.missingValue "tokens.expires_at")
  else if new.value ≠ .null && rows.any (·.value = new.value) then
    some (.notUnique DatabaseError.primaryKeyCode "tokens.token")
  else none

end TokenRow

end IdentityLifecycle
