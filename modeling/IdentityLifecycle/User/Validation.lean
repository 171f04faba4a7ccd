import IdentityLifecycle.Basic
import IdentityLifecycle.Text.Basic
import IdentityLifecycle.Text.Case

/-!
What a user may submit as an email address, a name and a password.
-/
namespace IdentityLifecycle

/-- The most UTF-8 bytes of a normalized email address. -/
def maxEmailLength : Nat := 254

def maxNameLength : Nat := 100

def maxPasswordLength : Nat := 1024

inductive ValidationError where
  | emptyEmail
  | invalidEmail (email : String)
  | emailTooLong (limit : Nat)
  | emptyName
  | nameTooLong (limit : Nat)
  | emptyPassword
  | passwordTooLong (limit : Nat)
  deriving DecidableEq, Repr

def ValidationError.message : ValidationError → String
  | emptyEmail => "Email cannot be empty"
  | invalidEmail email => "Email '" ++ email ++ "' is not a valid address"
  | emailTooLong limit => "Email cannot exceed " ++ toString limit ++ " characters"
  | emptyName => "Name cannot be empty"
  | nameTooLong limit => "Name cannot exceed " ++ toString limit ++ " characters"
  | emptyPassword => "Password cannot be empty"
  | passwordTooLong limit => "Password cannot exceed " ++ toString limit ++ " bytes"

def isAddress (cs : List Char) : Bool :=
  match cs.span (· ≠ '@') with
  | (user, _ :: host) =>
    !user.isEmpty && !host.isEmpty && !host.contains '@' && !cs.any Text.isBlank
  | (_, []) => false

/-- The spelling under which an email address is kept: trimmed and in lower case. -/
def canonicalEmail (email : String) : String :=
  Text.lowercase (Text.trim Text.isBlank email)

def normalizeEmail (email : String) : Except ValidationError String :=
  let email := canonicalEmail email
  if email = "" then .error .emptyEmail
  else if maxEmailLength < email.utf8ByteSize then .error (.emailTooLong maxEmailLength)
  else if isAddress email.toList then .ok email
  else .error (.invalidEmail email)

def validateName (name : String) : Except ValidationError String :=
  let name := Text.trim Text.isBlank name
  if name = "" then .error .emptyName
  else if maxNameLength < name.length then .error (.nameTooLong maxNameLength)
  else .ok name

def validatePassword (password : String) : Except ValidationError Unit :=
  if password = "" then .error .emptyPassword
  else if maxPasswordLength < password.utf8ByteSize then
    .error (.passwordTooLong maxPasswordLength)
  else .ok ()

end IdentityLifecycle
