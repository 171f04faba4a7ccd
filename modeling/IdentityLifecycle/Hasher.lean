import IdentityLifecycle.Hash.Argon2id
import IdentityLifecycle.Settings
import IdentityLifecycle.User

/-!
Hashing and checking of passwords with Argon2id under fixed costs.
-/
namespace IdentityLifecycle

inductive HashError where
  | invalidPassword
  | invalidHash
  | invalidSalt
  | passwordNotMatch
  | params (message : String)
  deriving DecidableEq, Repr

def HashError.message : HashError → String
  | invalidPassword => "invalid password"
  | invalidHash => "invalid hash"
  | invalidSalt => "invalid salt"
  | passwordNotMatch => "password does not match"
  | params message => "invalid argon2 parameters: " ++ message

structure Hasher where
  settings : HasherSettings
  deriving DecidableEq, Repr

namespace Hasher

/-- Checks the costs; the memory needed for the lanes is counted in 32 bits. -/
def ofSettings (settings : HasherSettings) : Except HashError Hasher :=
  if settings.memoryKib < 8 || settings.memoryKib < settings.parallelism * 8 then
    .error (.params "memory cost is too small")
  else if settings.timeCost < 1 then .error (.params "time cost is too small")
  else if settings.parallelism < 1 then .error (.params "not enough threads")
  else if 0xFFFFFF < settings.parallelism then .error (.params "too many threads")
  else if settings.keyLength < 4 then .error (.params "output is too short")
  else if 0xFFFFFFFF < settings.keyLength then .error (.params "output is too long")
  else .ok { settings }

def costs (hasher : Hasher) : Hash.Argon2id.Costs where
  passes := hasher.settings.timeCost.toNat
  memory := hasher.settings.memoryKib.toNat
  lanes := hasher.settings.parallelism.toNat

def keyLength (hasher : Hasher) : Nat := hasher.settings.keyLength.toNat

def saltLength (hasher : Hasher) : Nat := hasher.settings.saltLength.toNat

def maxInputLength : Nat := 0xFFFFFFFF

def minSaltLength : Nat := 8

def refusal? (passwordLength saltLength : Nat) : Option HashError :=
  if maxInputLength < passwordLength then some .invalidPassword
  else if saltLength < minSaltLength || maxInputLength < saltLength then some .invalidSalt
  else none

def key (hasher : Hasher) (password salt : Bytes) : Bytes :=
  Hash.argon2id hasher.costs hasher.keyLength password salt

def derive (hasher : Hasher) (password salt : Bytes) : Except HashError Bytes :=
  match refusal? password.length salt.length with
  | some e => .error e
  | none => .ok (hasher.key password salt)

/-- The salt to hash with: the one supplied, or random bytes if none or an empty one is. -/
def effectiveSalt (hasher : Hasher) (supplied : Option Bytes) (random : ByteSource) : Bytes :=
  match supplied with
  | some (b :: bs) => b :: bs
  | _ => random.take hasher.saltLength

def effectiveSaltLength (hasher : Hasher) (supplied : Option Bytes) : Nat :=
  match supplied with
  | some (b :: bs) => (b :: bs).length
  | _ => hasher.saltLength

def generateHash (hasher : Hasher) (password : Bytes) (supplied : Option Bytes)
    (random : ByteSource) : Except HashError HashedPassword :=
  let saltLength := hasher.effectiveSaltLength supplied
  if password.isEmpty then .error .invalidPassword
  else if saltLength = 0 then .error .invalidSalt
  else match refusal? password.length saltLength with
    | some e => .error e
    | none =>
      let salt := hasher.effectiveSalt supplied random
      .ok { hash := hasher.key password salt, salt }

def compare (hasher : Hasher) (hash salt password : Bytes) : Except HashError Unit :=
  if hash.isEmpty then .error .invalidHash
  else if salt.isEmpty then .error .invalidSalt
  else if password.isEmpty then .error .invalidPassword
  else match hasher.derive password salt with
    | .error e => .error e
    | .ok candidate => if candidate = hash then .ok () else .error .passwordNotMatch

def describe (hasher : Hasher) : String :=
  let zeros (n : Nat) : String := "[" ++ ", ".intercalate (List.replicate n "0") ++ "]"
  let s := hasher.settings
  "Argon2idHasher \x7b params: Params \x7b m_cost: " ++ toString s.memoryKib ++
    ", t_cost: " ++ toString s.timeCost ++ ", p_cost: " ++ toString s.parallelism ++
    ", keyid: KeyId \x7b bytes: " ++ zeros 8 ++
    ", len: 0 \x7d, data: AssociatedData \x7b bytes: " ++ zeros 32 ++
    ", len: 0 \x7d, output_len: Some(" ++ toString s.keyLength ++ ") \x7d, salt_length: " ++
    toString s.saltLength ++ ", key_length: " ++ toString s.keyLength ++ " \x7d"

end Hasher

end IdentityLifecycle
