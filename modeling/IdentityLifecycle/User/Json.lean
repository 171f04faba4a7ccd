import IdentityLifecycle.Json.Print
import IdentityLifecycle.Json.Read
import IdentityLifecycle.Text.Quoted
import IdentityLifecycle.User

/-!
The JSON form of a public user: an object of three strings, or the three strings in an array.
-/
namespace IdentityLifecycle

inductive PublicUserFault where
  | malformed
  | wrongForm (message : String)
  deriving DecidableEq, Repr

namespace PublicUser

open Json

def toJsonText (user : PublicUser) : String :=
  String.ofList ("\x7b\"id\":".toList ++ stringText user.id ++ ",\"name\":".toList ++
    stringText user.name ++ ",\"email\":".toList ++ stringText user.email ++ ['\x7d'])

def numberName : JsonNumber → String
  | .natural n => "integer `" ++ toString n ++ "`"
  | .negative n => "integer `" ++ toString n ++ "`"
  | .real x => "floating point `" ++ realText x ++ "`"

def mismatch (cs : List Char) (wanted : String) : PublicUserFault :=
  let named (form : String) : PublicUserFault :=
    .wrongForm ("invalid type: " ++ form ++ ", expected " ++ wanted)
  match cs with
  | 'n' :: 'u' :: 'l' :: 'l' :: _ => named "null"
  | 't' :: 'r' :: 'u' :: 'e' :: _ => named "boolean `true`"
  | 'f' :: 'a' :: 'l' :: 's' :: 'e' :: _ => named "boolean `false`"
  | '"' :: rest =>
    match readString rest with
    | some (s, _) => named ("string " ++ Text.quoted (String.ofList s))
    | none => .malformed
  | '[' :: _ => named "sequence"
  | '{' :: _ => named "map"
  | cs =>
    match readNumber cs with
    | some (n, _) => named (numberName n)
    | none => .malformed

def readText (cs : List Char) : Except PublicUserFault (String × List Char) :=
  match skipBlanks cs with
  | '"' :: rest =>
    match readString rest with
    | some (s, rest) => .ok (String.ofList s, rest)
    | none => .error .malformed
  | cs => .error (mismatch cs "a string")

structure Draft where
  id : Option String
  name : Option String
  email : Option String

def Draft.finish (draft : Draft) : Except PublicUserFault PublicUser :=
  match draft with
  | { id := none, .. } => .error (.wrongForm "missing field `id`")
  | { id := some _, name := none, .. } => .error (.wrongForm "missing field `name`")
  | { id := some _, name := some _, email := none } => .error (.wrongForm "missing field `email`")
  | { id := some id, name := some name, email := some email } => .ok { id, name, email }

/-- Takes one member into the draft: a second member of a known name is refused before its value
is read, and the value of an unknown name is passed over. -/
def Draft.readMember (draft : Draft) (name : String) (cs : List Char) :
    Except PublicUserFault (Draft × List Char) :=
  let repeated : Except PublicUserFault (Draft × List Char) :=
    .error (.wrongForm ("duplicate field `" ++ name ++ "`"))
  let valued (put : String → Draft) : Except PublicUserFault (Draft × List Char) :=
    match afterColon cs with
    | some cs => (readText cs).map fun (s, cs) => (put s, cs)
    | none => .error .malformed
  if name = "id" then
    if draft.id.isSome then repeated else valued fun s => { draft with id := some s }
  else if name = "name" then
    if draft.name.isSome then repeated else valued fun s => { draft with name := some s }
  else if name = "email" then
    if draft.email.isSome then repeated else valued fun s => { draft with email := some s }
  else
    match afterColon cs with
    | some cs =>
      match skipValue (2 * cs.length + 2) cs with
      | some rest => .ok (draft, rest)
      | none => .error .malformed
    | none => .error .malformed
where
  afterColon (cs : List Char) : Option (List Char) :=
    match skipBlanks cs with
    | ':' :: rest => some rest
    | _ => none

def readMembers : Nat → Draft → List Char → Except PublicUserFault (PublicUser × List Char)
  | 0, _, _ => .error .malformed
  | fuel + 1, draft, cs =>
    match skipBlanks cs with
    | '"' :: rest =>
      match readString rest with
      | none => .error .malformed
      | some (name, rest) => do
        let (draft, rest) ← draft.readMember (String.ofList name) rest
        match skipBlanks rest with
        | '}' :: rest => return (← draft.finish, rest)
        | ',' :: rest => readMembers fuel draft rest
        | _ => .error .malformed
    | _ => .error .malformed

/-- Reads the next of the array's items after `read` of them, or complains that it ends early. -/
def readItem (read : Nat) (cs : List Char) : Except PublicUserFault (String × List Char) :=
  match skipBlanks cs with
  | ']' :: _ =>
    .error (.wrongForm ("invalid length " ++ toString read ++
      ", expected struct PublicUser with 3 elements"))
  | ',' :: rest =>
    if read = 0 then .error (mismatch cs "a string")
    else match skipBlanks rest with
      | ']' :: _ => .error .malformed
      | _ => readText rest
  | cs => if read = 0 then readText cs else .error .malformed

def readArray (cs : List Char) : Except PublicUserFault (PublicUser × List Char) := do
  let (id, cs) ← readItem 0 cs
  let (name, cs) ← readItem 1 cs
  let (email, cs) ← readItem 2 cs
  match skipBlanks cs with
  | ']' :: rest => return ({ id, name, email }, rest)
  | _ => .error .malformed

def read (cs : List Char) : Except PublicUserFault (PublicUser × List Char) :=
  match skipBlanks cs with
  | '{' :: rest =>
    match skipBlanks rest with
    | '}' :: rest => (Draft.finish ⟨none, none, none⟩).map (·, rest)
    | _ => readMembers (rest.length + 1) ⟨none, none, none⟩ rest
  | '[' :: rest => readArray rest
  | cs => .error (mismatch cs "struct PublicUser")

def ofJsonText (s : String) : Except PublicUserFault PublicUser := do
  let (user, rest) ← read s.toList
  if (skipBlanks rest).isEmpty then return user else .error .malformed

end PublicUser

end IdentityLifecycle
