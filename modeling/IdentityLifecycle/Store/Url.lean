import IdentityLifecycle.Store.Error
import IdentityLifecycle.Text.Basic
import IdentityLifecycle.Text.Quoted
import IdentityLifecycle.Text.Utf8

/-!
The URLs that databases are asked for by: a scheme, which may be left out, the name of a file, and
parameters behind a question mark.
-/
namespace IdentityLifecycle

structure Access where
  readOnly : Bool := false
  /-- A missing file is not made. -/
  mustExist : Bool := false
  inMemory : Bool := false
  /-- Connections share a database in memory that has a name. -/
  sharedCache : Bool := false
  /-- The file counts as one that nobody changes. -/
  immutable : Bool := false
  /-- The interface to the file system, if it is not the usual one. -/
  fileSystem : Option String := none
  deriving DecidableEq, Repr

structure DatabaseUrl where
  name : String
  access : Access := {}
  deriving DecidableEq, Repr

namespace DatabaseUrl

def dropAll (start : List Char) : Nat → List Char → List Char
  | 0, cs => cs
  | fuel + 1, cs =>
    if start.isPrefixOf cs then dropAll start fuel (cs.drop start.length) else cs

def percentDecode : List Char → Bytes
  | '%' :: a :: b :: cs =>
    match hexValue a, hexValue b with
    | some x, some y => UInt8.ofNat (x * 16 + y) :: percentDecode cs
    | _, _ => 0x25 :: percentDecode (a :: b :: cs)
  | c :: cs => utf8 c.toString ++ percentDecode cs
  | [] => []

def parts (separator : Char) (cs : List Char) : List String :=
  (Text.split separator (String.ofList cs)).filter (· ≠ "")

def readParameter (s : String) : String × String :=
  let decode (cs : List Char) : String :=
    Text.textOfBytes (percentDecode (cs.map fun c => if c = '+' then ' ' else c))
  match s.toList.span (· ≠ '=') with
  | (name, _ :: value) => (decode name, decode value)
  | (name, []) => (decode name, "")

def applyParameter (access : Access) (name value : String) : Except DatabaseError Access :=
  let unknown : Except DatabaseError Access :=
    .error (.configuration ("unknown value " ++ Text.quoted value ++ " for `" ++ name ++ "`"))
  match name with
  | "mode" =>
    if value = "ro" then .ok { access with readOnly := true }
    else if value = "memory" then .ok { access with inMemory := true, sharedCache := true }
    else if value = "rw" || value = "rwc" then .ok access
    else unknown
  | "cache" =>
    if value = "shared" then .ok { access with sharedCache := true }
    else if value = "private" then .ok { access with sharedCache := false }
    else unknown
  | "immutable" =>
    if value = "true" || value = "1" then .ok { access with immutable := true }
    else if value = "false" || value = "0" then .ok { access with immutable := false }
    else unknown
  | "vfs" => .ok { access with fileSystem := some value }
  | _ => .error (.configuration
      ("unknown query parameter `" ++ name ++ "` while parsing connection URL"))

def applyParameters : List (String × String) → Access → Except DatabaseError Access
  | [], access => .ok access
  | (name, value) :: rest, access =>
    (applyParameter access name value).bind (applyParameters rest)

/-- The name under which connections share the database that a URL calls `:memory:`. -/
def memoryName : String := "file:shared-memory"

def readName (cs : List Char) : Except DatabaseError DatabaseUrl :=
  if cs = ":memory:".toList then
    .ok { name := memoryName, access := { inMemory := true, sharedCache := true } }
  else match Text.decodeUtf8 (percentDecode cs) with
    | .ok name => .ok { name }
    | .error fault => .error (.configuration fault.message)

def ofText (url : String) : Except DatabaseError DatabaseUrl := do
  let cs := dropAll "sqlite://".toList url.length url.toList
  let cs := dropAll "sqlite:".toList url.length cs
  let (name, parameters) := cs.span (· ≠ '?')
  let { name, access } ← readName name
  let access ← applyParameters ((parts '&' (parameters.drop 1)).map readParameter) access
  return { name, access }

end DatabaseUrl

end IdentityLifecycle
