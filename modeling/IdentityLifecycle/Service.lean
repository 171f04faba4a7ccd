import IdentityLifecycle.Service.Procedure
import IdentityLifecycle.Token.Ledger

/-!
Signing up and in, confirming an address, and recovering from a forgotten password.
-/
namespace IdentityLifecycle

structure Service where
  hasher : Hasher
  ledger : Ledger
  site : SiteDomain
  deriving DecidableEq, Repr

/-- What one operation meets: the readings of the clock, random values, and the mailer. An
operation that reads the clock twice finds `later` the second time. -/
structure Surroundings where
  now : Instant
  later : Instant
  userId : String
  salt : ByteSource
  token : ByteSource
  mailer : Mailer

namespace Service

open Procedure

def say (level : Log.Level) (message : String) (fields : List (String × Log.Value) := []) :
    Procedure Unit :=
  report { level, source := .service, message, fields }

def hashPassword (service : Service) (around : Surroundings) (password : String) :
    Procedure HashedPassword :=
  hashing (service.hasher.generateHash (utf8 password) none around.salt)

def emailSpan (name email : String) : Log.Span := { name, fields := [("email", email)] }

/-- Files a user who was read from the tables, unless the cache has one already, and answers whom
the cache has. -/
def cacheRead (user : User) : Procedure PublicUser := fun s =>
  let (found, cache) := s.cache.storeIfAbsent (.id user.id) user.toPublic
  let (_, cache) := cache.storeIfAbsent (.email user.email) found
  (.ok found, { s with cache })

def mailSignupToken (service : Service) (around : Surroundings) (email name : String) :
    Procedure Unit := do
  let token ← query (service.ledger.issue email .signup around.now around.token)
  send around.mailer (Mail.signup service.site email name token.value)

def register (service : Service) (around : Surroundings) (user : User) : Procedure Unit := do
  if (← query (Query.userByEmail user.email)).isSome then .fail .emailInUse
  (query (Query.createUser user)).recover fun
    | .store (.conflict _) => .error .emailInUse
    | e => .error e
  service.mailSignupToken around user.email user.name

def signup (service : Service) (around : Surroundings) (email name password : String) :
    Procedure Unit :=
  within (emailSpan "signup" email) do
    let email ← validate (normalizeEmail email)
    let name ← validate (validateName name)
    validate (validatePassword password)
    let hashed ← service.hashPassword around password
    let user := User.register around.userId email name hashed
    asUnit (service.register around user)
    onCache (·.store user.toPublic)
    say .info "User signed up" [("user_id", .displayed user.id)]

/-- Authenticates a verified user. A wrong password looks like an unknown email. -/
def signin (service : Service) (email password : String) : Procedure PublicUser :=
  within (emailSpan "signin" email) do
    let email ← .ofExcept ((normalizeEmail email).mapError fun _ => .invalidCredentials)
    let user ← query (Query.onConnection (Query.userByEmail email))
    let user ← .ofOption .invalidCredentials user
    if !user.isVerified then .fail .userNotVerified
    match service.hasher.compare user.password.hash user.password.salt (utf8 password) with
    | .ok () =>
      say .info "User signed in" [("user_id", .displayed user.id)]
      cacheRead user
    | .error .passwordNotMatch => mismatch
    | .error .invalidPassword => mismatch
    | .error e => .fail (.hash e)
where
  mismatch : Procedure PublicUser := do
    say .debug "Password mismatch"
    .fail .invalidCredentials

def reissueSignup (service : Service) (around : Surroundings) (email : String) :
    Procedure Unit := do
  let user ← .ofOption .userNotVerified (← query (Query.userByEmail email))
  if user.isVerified then .fail .userAlreadyVerified
  service.mailSignupToken around email user.name

def resendSignupToken (service : Service) (around : Surroundings) (email : String) :
    Procedure Unit :=
  within (emailSpan "resend_signup_token" email) do
    let email ← validate (normalizeEmail email)
    asUnit (service.reissueSignup around email)
    say .debug "Signup token resent"

def verify (around : Surroundings) (value : String) : Procedure User := do
  let token ← query (Ledger.consume value .signup around.now)
  let token ← .ofOption .invalidToken token
  .ofOption .invalidToken (← query (Query.setUserVerified token.email around.now))

def validateSignupToken (around : Surroundings) (token : String) : Procedure PublicUser :=
  within { name := "validate_signup_token" } do
    if token = "" then .fail .invalidToken
    let user ← asUnit (verify around token)
    onCache (·.store user.toPublic)
    say .info "User verified" [("user_id", .displayed user.id)]
    return user.toPublic

def issueReset (service : Service) (around : Surroundings) (email : String) : Procedure Unit := do
  let user ← .ofOption .emailNotFound (← query (Query.userByEmail email))
  if !user.isVerified then .fail .userNotVerified
  let token ← query (service.ledger.issue email .passwordReset around.now around.token)
  send around.mailer (Mail.passwordReset service.site email user.name token.value)

def resetPassword (service : Service) (around : Surroundings) (email : String) : Procedure Unit :=
  within (emailSpan "reset_password" email) do
    let email ← validate (normalizeEmail email)
    asUnit (service.issueReset around email)
    say .debug "Password reset requested"

def resetPasswordToken (now : Instant) (token : String) : Procedure Unit :=
  within { name := "reset_password_token" } do
    if token = "" then .fail .invalidToken
    query Query.connect
    let token ← .ofOption .invalidToken (← query (Ledger.peek token .passwordReset now))
    let _ ← .ofOption .emailNotFound (← query (Query.userByEmail token.email))

def replacePasswordWithToken (now : Instant) (value : String) (hashed : HashedPassword) :
    Procedure User := do
  let token ← query (Ledger.consume value .passwordReset now)
  let token ← .ofOption .invalidToken token
  .ofOption .emailNotFound (← query (Query.updateUserPassword token.email hashed))

/-- Uses a reset token up and replaces its owner's password. A token that cannot succeed is found
out before the password is hashed. -/
def changePasswordWithToken (service : Service) (around : Surroundings)
    (token password : String) : Procedure PublicUser :=
  within { name := "change_password_with_token" } do
    validate (validatePassword password)
    resetPasswordToken around.now token
    let hashed ← service.hashPassword around password
    let user ← asUnit (replacePasswordWithToken around.later token hashed)
    onCache (·.store user.toPublic)
    say .info "Password changed with reset token" [("user_id", .displayed user.id)]
    return user.toPublic

def replacePassword (email : String) (hashed : HashedPassword) : Procedure User := do
  let user ← query (Query.updateUserPassword email hashed)
  let user ← .ofOption .emailNotFound user
  let _ ← query (Query.deleteTokensFor email .passwordReset)
  return user

def changePassword (service : Service) (around : Surroundings) (email password : String) :
    Procedure Unit :=
  within (emailSpan "change_password" email) do
    let email ← validate (normalizeEmail email)
    validate (validatePassword password)
    let hashed ← service.hashPassword around password
    let user ← asUnit (replacePassword email hashed)
    onCache (·.store user.toPublic)
    say .info "Password changed" [("user_id", .displayed user.id)]

def lookUp (key : IdentityKey) (read : Query (Option User)) : Procedure PublicUser := do
  match (← .get).cache.load key with
  | some user => return user
  | none =>
    let user ← query (Query.onConnection read)
    cacheRead (← .ofOption .userNotFound user)

def getUser (id : String) : Procedure PublicUser :=
  lookUp (.id id) (Query.userById id)

def getUserByEmail (email : String) : Procedure PublicUser := do
  let email ← validate (normalizeEmail email)
  lookUp (.email email) (Query.userByEmail email)

def remember (user : PublicUser) : Procedure Unit := onCache (·.store user)

def purgeExpiredTokens (now : Instant) : Procedure Nat :=
  within { name := "purge_expired_tokens" } do
    let purged ← asUnit (query (Query.purgeExpiredTokens now))
    say .info "Purged expired tokens" [("purged", .integer purged)]
    return purged

def describe (service : Service) : String :=
  "IdentityService \x7b hasher: " ++ service.hasher.describe ++ ", ledger: " ++
    service.ledger.describe ++ ", domain: " ++ service.site.describe ++ ", .. \x7d"

end Service

end IdentityLifecycle
