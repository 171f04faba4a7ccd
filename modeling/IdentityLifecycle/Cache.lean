import IdentityLifecycle.User

/-!
A bounded memory of the public users that were looked up or changed.
-/
namespace IdentityLifecycle

inductive IdentityKey where
  | id (id : String)
  | email (email : String)
  deriving DecidableEq, Repr

def IdentityKey.describe : IdentityKey → String
  | .id s => "Id(" ++ Text.quoted s ++ ")"
  | .email s => "Email(" ++ Text.quoted s ++ ")"

abbrev CacheEntries := List (IdentityKey × PublicUser)

/-- Which entries a cache gives up: given how many changes there have been and the entries after
the latest, whether it keeps the entry of a key. -/
abbrev Eviction := Nat → CacheEntries → IdentityKey → Bool

structure Cache where
  evict : Eviction
  entries : CacheEntries := []
  changes : Nat := 0

namespace Cache

def keepOldest (capacity : Nat) : Eviction := fun _ entries key =>
  ((entries.drop (entries.length - capacity)).any (·.1 = key))

def ofCapacity (capacity : Nat) : Cache := { evict := keepOldest capacity }

def unbounded : Cache := { evict := fun _ _ _ => true }

def load (cache : Cache) (key : IdentityKey) : Option PublicUser := cache.entries.lookup key

def put (entries : CacheEntries) (key : IdentityKey) (user : PublicUser) : CacheEntries :=
  if (entries.lookup key).isSome then
    entries.map fun entry => if entry.1 = key then (key, user) else entry
  else (key, user) :: entries

def insert (cache : Cache) (key : IdentityKey) (user : PublicUser) : Cache :=
  let entries := put cache.entries key user
  { cache with
    entries := entries.filter fun entry => cache.evict cache.changes entries entry.1
    changes := cache.changes + 1 }

/-- Files a user under a key unless there is an entry, and answers the user that the entry then
has. -/
def storeIfAbsent (cache : Cache) (key : IdentityKey) (user : PublicUser) : PublicUser × Cache :=
  match cache.load key with
  | some found => (found, cache)
  | none => (user, cache.insert key user)

def store (cache : Cache) (user : PublicUser) : Cache :=
  (cache.insert (.id user.id) user).insert (.email user.email) user

def entryCount (cache : Cache) : Nat := cache.entries.length

end Cache

end IdentityLifecycle
