import IdentityLifecycle.Basic
import IdentityLifecycle.Text.Quoted

/-!
User accounts, the stored form of their passwords, and the part of an account that callers see.
-/
namespace IdentityLifecycle

structure HashedPassword where
  hash : Bytes
  salt : Bytes
  deriving DecidableEq, Repr

/-- An account; `verifiedAt` is zero until the owner has confirmed the email address. -/
structure User where
  id : String
  email : String
  name : String
  password : HashedPassword
  verifiedAt : Instant
  deriving DecidableEq, Repr

structure PublicUser where
  id : String
  name : String
  email : String
  deriving DecidableEq, Repr

namespace User

def register (id email name : String) (password : HashedPassword) : User :=
  { id, email, name, password, verifiedAt := 0 }

def isVerified (user : User) : Bool := 0 < user.verifiedAt

def toPublic (user : User) : PublicUser :=
  { id := user.id, name := user.name, email := user.email }

end User

/-! Displayed forms show the sizes of hash and salt only. -/

def HashedPassword.describe (password : HashedPassword) : String :=
  "HashedPassword \x7b hash_len: " ++ toString password.hash.length ++
    ", salt_len: " ++ toString password.salt.length ++ " \x7d"

def User.describe (user : User) : String :=
  "User \x7b id: UserId(" ++ Text.quoted user.id ++ "), email: " ++ Text.quoted user.email ++
    ", name: " ++ Text.quoted user.name ++ ", password: " ++ user.password.describe ++
    ", verified_at: " ++ toString user.verifiedAt ++ " \x7d"

/-- The hexadecimal text of a version 4 identifier made from 16 random bytes. -/
def generateUserId (source : ByteSource) : String :=
  let bytes := source.take 16
  let stamped := bytes.mapIdx fun i b =>
    if i = 6 then b % 16 + 0x40 else if i = 8 then b % 64 + 0x80 else b
  let part (start size : Nat) : String := hexText ((stamped.drop start).take size)
  "-".intercalate [part 0 4, part 4 2, part 6 2, part 8 2, part 10 6]

end IdentityLifecycle
