import IdentityLifecycle.Store.Url

/-!
Where a database is kept, as its URL says: in a file, or in memory. A name that starts with `file:`
is read once more, as a URI with options of its own.
-/
namespace IdentityLifecycle

/-- A database without a path is kept in memory and lost at the end. -/
structure Location where
  path : Option String
  /-- All connections work on the same tables. -/
  shared : Bool := true
  /-- The database is only read, and an empty file is none. -/
  readOnly : Bool := false
  /-- The database is only read, but a missing or empty file counts as an empty database. -/
  immutable : Bool := false
  mustExist : Bool := false
  deriving DecidableEq, Repr

namespace Location

def decodePart (cs : List Char) : String :=
  Text.textOfBytes ((DatabaseUrl.percentDecode cs).takeWhile (· ≠ 0))

def readOptions (cs : List Char) : List (String × String) :=
  let readOption (s : String) : String × String :=
    match s.toList.span (· ≠ '=') with
    | (name, value) => (decodePart name, decodePart (value.drop 1))
  ((DatabaseUrl.parts '&' cs).map readOption).filter (·.1 ≠ "")

def modeRank : String → Option Nat
  | "ro" => some 1
  | "rw" => some 2
  | "rwc" => some 6
  | "memory" => some 0
  | _ => none

def allowsMode (access : Access) (rank : Nat) : Bool :=
  access.inMemory || rank ≤ if access.readOnly then 1 else if access.mustExist then 2 else 6

def applyMode (access : Access) (mode : String) : Except DatabaseError Access :=
  match modeRank mode with
  | none => .error (.rejected 1 ("no such access mode: " ++ mode))
  | some rank =>
    if allowsMode access rank then
      .ok { access with
        readOnly := rank = 1, inMemory := rank = 0, mustExist := rank = 1 || rank = 2 }
    else .error (.rejected 3 ("access mode not allowed: " ++ mode))

def isYes (value : String) : Bool :=
  ["yes", "true", "on"].contains value.toLower ||
    (value.toList.takeWhile Char.isDigit).any (· ≠ '0')

def applyOption (access : Access) (name value : String) : Except DatabaseError Access :=
  match name with
  | "mode" => applyMode access value
  | "cache" =>
    if value = "shared" then .ok { access with sharedCache := true }
    else if value = "private" then .ok { access with sharedCache := false }
    else .error (.rejected 1 ("no such cache mode: " ++ value))
  | "immutable" => .ok { access with immutable := isYes value }
  | "vfs" => .ok { access with fileSystem := some value }
  | _ => .ok access

def applyOptions : List (String × String) → Access → Except DatabaseError Access
  | [], access => .ok access
  | (name, value) :: rest, access => (applyOption access name value).bind (applyOptions rest)

def uriStart : List Char := "file:".toList

def dropAuthority : List Char → Except DatabaseError (List Char)
  | '/' :: '/' :: cs =>
    let (authority, rest) := cs.span (· ≠ '/')
    if authority.isEmpty || authority = "localhost".toList then .ok rest
    else .error (.rejected 1 ("invalid uri authority: " ++ String.ofList authority))
  | cs => .ok cs

def readUri (cs : List Char) (access : Access) : Except DatabaseError DatabaseUrl := do
  let cs ← dropAuthority cs
  let (name, options) := (cs.takeWhile (· ≠ '#')).span (· ≠ '?')
  return { name := decodePart name, access := ← applyOptions (readOptions (options.drop 1)) access }

def usualFileSystem : String := "unix"

def memoryFileSystem : String := "memdb"

def fileSystems : List String :=
  [usualFileSystem, "unix-none", "unix-dotfile", "unix-excl", memoryFileSystem]

/-- The location of a database with a name. Only what has a name can be shared in memory: under the
rules of URIs in a shared cache, or in files in memory with a path from the root. -/
def ofName (name : String) (access : Access) (isUri : Bool) : Except DatabaseError Location :=
  let fileSystem := access.fileSystem.getD usualFileSystem
  if !fileSystems.contains fileSystem then .error (.rejected 1 ("no such vfs: " ++ fileSystem))
  else
    let inMemory := access.inMemory || name = ":memory:" || name = ""
    if inMemory || fileSystem = memoryFileSystem then
      let rooted := 1 < name.length && ['/', '\\'].contains (name.front)
      .ok {
        path := none
        shared := name ≠ "" && ((isUri && access.sharedCache) || (!inMemory && rooted))
        readOnly := access.readOnly || (access.immutable && !inMemory) }
    else
      .ok {
        path := some name
        readOnly := access.readOnly
        immutable := access.immutable
        mustExist := access.mustExist || access.readOnly }

/-- The location that a URL stands for. A URL that sets how files are accessed names its file as it
is, up to a null character; any other name may be a URI, and holds no null character. -/
def ofDatabaseUrl (url : DatabaseUrl) : Except DatabaseError Location :=
  let upToNull (s : String) : String := String.ofList (s.toList.takeWhile (· ≠ '\x00'))
  let { name, access } := url
  if access.immutable || access.fileSystem.isSome then
    ofName (upToNull name) { access with fileSystem := access.fileSystem.map upToNull } true
  else if name.toList.contains '\x00' then
    .error (.communication "filename passed to SQLite must not contain nul bytes")
  else if uriStart.isPrefixOf name.toList then do
    let { name, access } ← readUri (name.toList.drop uriStart.length) access
    ofName name access true
  else ofName name access false

def ofUrl (url : String) : Except DatabaseError Location :=
  (DatabaseUrl.ofText url).bind ofDatabaseUrl

end Location

end IdentityLifecycle
