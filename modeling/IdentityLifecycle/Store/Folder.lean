import IdentityLifecycle.Store.Database
import IdentityLifecycle.Store.Location

/-!
The directory that a program works in: texts, databases, and directories inside it.
-/
namespace IdentityLifecycle

structure Folder where
  texts : List (String × String) := []
  databases : List (String × Database) := []
  directories : List String := []
  deriving DecidableEq, Repr

namespace Folder

def joinPath (parts : List String) : String := "/".intercalate parts

def pathParts (path : String) : List String := (Text.split '/' path).filter (· ≠ "")

def parents (path : String) : List String :=
  let parts := pathParts path
  (List.range (parts.length - 1)).map fun i => joinPath (parts.take (i + 1))

def ofTexts (texts : List (String × String)) : Folder where
  texts := texts
  directories := texts.flatMap fun (path, _) => parents path

def text? (folder : Folder) (path : String) : Option String := folder.texts.lookup path

def isFile (folder : Folder) (key : String) : Bool :=
  (folder.texts.lookup key).isSome || (folder.databases.lookup key).isSome

/-- The parts that lead to a file: those of a path, where `.` is left out and `..` takes back the
part before it. Directories on the way need not exist, but no file may stand for one. -/
def resolveParts (folder : Folder) : List String → List String → Option (List String)
  | done, [] => some done
  | done, "." :: rest => folder.resolveParts done rest
  | done, ".." :: rest =>
    if done.getLast?.all (· = "..") then folder.resolveParts (done ++ [".."]) rest
    else folder.resolveParts done.dropLast rest
  | done, part :: rest =>
    if folder.isFile (joinPath done) then none else folder.resolveParts (done ++ [part]) rest

def key? (folder : Folder) (path : String) : Option String :=
  if path.toList.head? = some '/' then none
  else (folder.resolveParts [] (pathParts path)).map joinPath

def hasDirectory (folder : Folder) (parts : List String) : Bool :=
  parts.all (· = "..") || folder.directories.contains (joinPath parts)

/-- The greatest length of a name that leaves room for the names of the files kept beside it. -/
def maxNameBytes : Nat := 247

def openFile (folder : Folder) (location : Location) (key : String) :
    Except DatabaseError Database :=
  let parts := pathParts key
  if folder.hasDirectory parts then
    .error (if location.readOnly then .unreadable else .cannotOpen)
  else if !folder.hasDirectory parts.dropLast ||
      parts.getLast?.any (maxNameBytes < ·.utf8ByteSize) then
    .error .cannotOpen
  else match folder.databases.lookup key, folder.texts.lookup key with
    | some db, _ => .ok db
    | none, some "" =>
      if location.readOnly && !location.immutable then .error .readOnly else .ok {}
    | none, some _ => .error .notADatabase
    | none, none => if location.mustExist then .error .cannotOpen else .ok {}

def openDatabase (folder : Folder) (location : Location) : Except DatabaseError Database :=
  match location.path with
  | none => .ok {}
  | some path =>
    match folder.key? path with
    | some key => folder.openFile location key
    | none => .error .cannotOpen

def keep (folder : Folder) (location : Location) (db : Database) : Folder :=
  match location.path.bind folder.key? with
  | none => folder
  | some key =>
    { folder with
      texts := folder.texts.filter (·.1 ≠ key)
      databases := (key, db) :: folder.databases.filter (·.1 ≠ key) }

end Folder

end IdentityLifecycle
