import IdentityLifecycle.Hasher
import IdentityLifecycle.Mail
import IdentityLifecycle.Store.Error
import IdentityLifecycle.User.Validation

/-!
What the operations of the service can fail with, and what callers are told about it.
-/
namespace IdentityLifecycle

inductive IdentityError where
  | invalidCredentials
  | emailInUse
  | userNotVerified
  | emailNotFound
  | userNotFound
  | userAlreadyVerified
  | invalidToken
  | validation (cause : ValidationError)
  | hash (cause : HashError)
  | store (cause : StoreError)
  | mail (cause : MailError)
  | internal (detail : String)
  deriving DecidableEq, Repr

inductive ErrorKind where
  | invalidCredentials
  | emailInUse
  | userNotVerified
  | emailNotFound
  | userNotFound
  | userAlreadyVerified
  | invalidToken
  | validation
  | infrastructure
  deriving DecidableEq, Repr

namespace IdentityError

def message : IdentityError → String
  | invalidCredentials => "invalid credentials"
  | emailInUse => "email already in use"
  | userNotVerified => "verify your mail box"
  | emailNotFound => "email not found"
  | userNotFound => "user not found"
  | userAlreadyVerified => "user already verified"
  | invalidToken => "invalid token"
  | validation cause => cause.message
  | hash cause => "password hashing failed: " ++ cause.message
  | store cause => cause.message
  | mail cause => "failed to send mail: " ++ cause.message
  | internal detail => "internal error: " ++ detail

def kind : IdentityError → ErrorKind
  | invalidCredentials => .invalidCredentials
  | emailInUse => .emailInUse
  | userNotVerified => .userNotVerified
  | emailNotFound => .emailNotFound
  | userNotFound => .userNotFound
  | userAlreadyVerified => .userAlreadyVerified
  | invalidToken => .invalidToken
  | validation _ => .validation
  | hash .invalidPassword => .validation
  | hash _ => .infrastructure
  | store _ => .infrastructure
  | mail _ => .infrastructure
  | internal _ => .infrastructure

/-- The text of the failure underneath. Validation and store failures speak for themselves, so
that theirs is the one under them. -/
def causeMessage? : IdentityError → Option String
  | hash cause => some cause.message
  | store cause => cause.cause?.map (·.message)
  | mail cause => some cause.message
  | _ => none

def chain (e : IdentityError) : List String :=
  match e with
  | store cause => cause.chain
  | e => e.message :: e.causeMessage?.toList

end IdentityError

instance identityHasStoreError : HasStoreError IdentityError := ⟨.store, IdentityError.message⟩

/-- What is answered wherever an answer must not tell whether an account exists. -/
def neutralRecoveryMessage : String :=
  "If an account exists for that address, an email is on its way."

namespace ErrorKind

def publicMessage : ErrorKind → String
  | invalidCredentials => "Invalid email or password."
  | emailInUse => "This email address is already registered."
  | userNotVerified => "Please confirm your email address first."
  | emailNotFound => neutralRecoveryMessage
  | userNotFound => "Your session is no longer valid. Please sign in again."
  | userAlreadyVerified => "This account is already confirmed. You can sign in."
  | invalidToken => "This link is invalid or has expired."
  | validation => "Please check the submitted data and try again."
  | infrastructure => "Something went wrong. Please try again later."

def recoveryMessage : ErrorKind → String
  | emailNotFound => neutralRecoveryMessage
  | userNotVerified => neutralRecoveryMessage
  | kind => kind.publicMessage

def isClientError (kind : ErrorKind) : Bool := kind ≠ .infrastructure

end ErrorKind

end IdentityLifecycle
