import IdentityLifecycle.Proofs.Work

/-!
# The units of work of the service

Each unit is described twice: as a procedure on a session, and as work on tables of users and
tokens. The second does not mention rows, logs or the order in which statements are made.
-/

namespace IdentityLifecycle

open Step (Carries)

def Mail.forToken (site : SiteDomain) (type : TokenType) (email name value : String) : Mail :=
  match type with
  | .signup => Mail.signup site email name value
  | .passwordReset => Mail.passwordReset site email name value

def User.withPassword (user : User) (password : HashedPassword) : User := { user with password }

@[simp] theorem User.withPassword_email (user : User) (password : HashedPassword) :
    (user.withPassword password).email = user.email := rfl

namespace Service

open Procedure

variable (service : Service) (around : Surroundings) {tables : Tables}

def tokenFor (type : TokenType) (email : String) : Token :=
  service.ledger.newToken email type around.now around.token

def mailing (type : TokenType) (email name : String) (tables : Tables) : Work Unit :=
  let token := service.tokenFor around type email
  let mail := Mail.forToken service.site type email name token.value
  if tables.HasRoomFor token then
    match around.mailer mail with
    | .ok _ =>
      { result := .ok ((), tables.replaceToken token), postings := [{ mail, accepted := true }] }
    | .error e => { result := .error (.mail e), postings := [{ mail, accepted := false }] }
  else .fail (.store (.conflict "failed to create the token"))

def registering (user : User) (tables : Tables) : Work Unit :=
  if tables.userWithEmail? user.email ≠ none ∨ tables.userWithId? user.id ≠ none then
    .fail .emailInUse
  else service.mailing around .signup user.email user.name (tables.addUser user)

def reissuing (email : String) (tables : Tables) : Work Unit :=
  match tables.userWithEmail? email with
  | none => .fail .userNotVerified
  | some user =>
    if user.isVerified then .fail .userAlreadyVerified
    else service.mailing around .signup email user.name tables

def issuingReset (email : String) (tables : Tables) : Work Unit :=
  match tables.userWithEmail? email with
  | none => .fail .emailNotFound
  | some user =>
    if user.isVerified then service.mailing around .passwordReset email user.name tables
    else .fail .userNotVerified

def redeeming (value : String) (type : TokenType) (now : Instant) (change : User → User)
    (orphaned : IdentityError) (tables : Tables) : Work User :=
  match tables.liveToken? value type now with
  | none => .fail .invalidToken
  | some token =>
    let tables := (tables.dropTokens (·.value = token.value)).changeUser token.email change
    match tables.userWithEmail? token.email with
    | none => .fail orphaned
    | some user => .done user tables

def replacing (email : String) (hashed : HashedPassword) (tables : Tables) : Work User :=
  let changed := tables.changeUser email (·.withPassword hashed)
  match changed.userWithEmail? email with
  | none => .fail .emailNotFound
  | some user => .done user (changed.dropTokens (·.isFor email .passwordReset))

def purging (now : Instant) (tables : Tables) : Work Nat :=
  .done (tables.tokens.countP fun token => !token.isLive now)
    (tables.dropTokens fun token => !token.isLive now)

/-- Issuing a token and mailing it, as the last steps of a unit. -/
theorem does_mailing (type : TokenType) (email name : String) (tables : Tables) :
    Does (do
        let token ← query (service.ledger.issue email type around.now around.token)
        send around.mailer (Mail.forToken service.site type email name token.value))
      tables (service.mailing around type email name tables) := by
  unfold mailing
  by_cases hroom : tables.HasRoomFor (service.tokenFor around type email)
  · rw [if_pos hroom]
    have hissue := Ledger.issue_carries_ok _ _ _ _ _ hroom
    cases hmail : around.mailer (Mail.forToken service.site type email name
        (service.tokenFor around type email).value) with
    | ok entries =>
      exact .of_ok fun _ _ => .bind_ok (query_carries_ok hissue) (send_carries_ok hmail _)
    | error e =>
      exact .of_error fun _ _ => .bind_ok (query_carries_ok hissue) (send_carries_error hmail _)
  · rw [if_neg hroom]
    exact .query_bind_error (Ledger.issue_carries_error _ _ _ _ _ hroom) _

theorem registering_of_taken {user : User}
    (htaken : tables.userWithEmail? user.email ≠ none ∨ tables.userWithId? user.id ≠ none) :
    service.registering around user tables = .fail .emailInUse :=
  if_pos htaken

theorem registering_of_free {user : User} (hemail : tables.userWithEmail? user.email = none)
    (hid : tables.userWithId? user.id = none) :
    service.registering around user tables =
      service.mailing around .signup user.email user.name (tables.addUser user) :=
  if_neg (by simp [hemail, hid])

/-- Registering a user is the work that is described on the tables. -/
theorem does_register (user : User) (tables : Tables) :
    (service.register around user).Does tables (service.registering around user tables) := by
  refine .query_bind (Query.userByEmail_carries user.email tables) ?_
  cases hemail : tables.userWithEmail? user.email with
  | some other =>
    rw [service.registering_of_taken around (.inl (by simp [hemail]))]
    exact .fail_bind _ _ _
  | none =>
    cases hid : tables.userWithId? user.id with
    | some other =>
      have htaken : tables.userWithEmail? user.email ≠ none ∨ tables.userWithId? user.id ≠ none :=
        .inr (by simp [hid])
      rw [service.registering_of_taken around htaken]
      refine .recover_bind_error (Query.createUser_carries_error htaken) ?_ _
      rfl
    | none =>
      rw [service.registering_of_free around hemail hid]
      exact .recover_bind (Query.createUser_carries_ok hemail hid)
        (service.does_mailing around .signup user.email user.name _)

theorem does_reissueSignup (email : String) (tables : Tables) :
    (service.reissueSignup around email).Does tables
      (service.reissuing around email tables) := by
  unfold reissuing
  refine .query_bind (Query.userByEmail_carries email tables) ?_
  cases tables.userWithEmail? email with
  | none => exact .fail_bind _ _ _
  | some user =>
    refine .some_bind ?_
    by_cases hverified : user.isVerified
    · simp only [hverified, if_true]
      exact .fail_bind _ _ _
    · simp only [hverified]
      exact service.does_mailing around .signup email user.name tables

theorem does_issueReset (email : String) (tables : Tables) :
    (service.issueReset around email).Does tables
      (service.issuingReset around email tables) := by
  unfold issuingReset
  refine .query_bind (Query.userByEmail_carries email tables) ?_
  cases tables.userWithEmail? email with
  | none => exact .fail_bind _ _ _
  | some user =>
    refine .some_bind ?_
    by_cases hverified : user.isVerified
    · simp only [hverified, if_true]
      exact service.does_mailing around .passwordReset email user.name tables
    · simp only [hverified]
      exact .fail_bind _ _ _

/-- Using a token up and changing its owner, as the steps of a unit. -/
theorem does_redeem {value : String} {type : TokenType} {now : Instant}
    {update : String → Query (Option User)} {change : User → User}
    (hupdate : ∀ email tables, Carries Desk.Holds (update email) tables
      (.ok ((tables.changeUser email change).userWithEmail? email))
      (tables.changeUser email change))
    (orphaned : IdentityError) (tables : Tables) :
    Does (do
        let token ← query (Ledger.consume value type now)
        let token ← .ofOption .invalidToken token
        .ofOption orphaned (← query (update token.email)))
      tables (redeeming value type now change orphaned tables) := by
  unfold redeeming
  cases hfound : tables.liveToken? value type now with
  | none =>
    exact .query_bind (Ledger.consume_carries_none type now hfound) (.fail_bind _ _ _)
  | some token =>
    refine .query_bind (Ledger.consume_carries_some type now hfound) (.some_bind ?_)
    refine .query_bind (hupdate token.email _) ?_
    dsimp only
    cases ((tables.dropTokens (·.value = token.value)).changeUser token.email
        change).userWithEmail? token.email with
    | none => exact .fail _ _
    | some user => exact .ofOption_some user _

/-- To verify is to redeem a signup token. -/
theorem does_verify (value : String) (tables : Tables) :
    (verify around value).Does tables
      (redeeming value .signup around.now (·.stamp around.now) .invalidToken tables) :=
  does_redeem (fun email _ => Query.updateUser_carries _ email (fun user => user.stamp_row _) _)
    _ tables

theorem does_replacePasswordWithToken (now : Instant) (value : String) (hashed : HashedPassword)
    (tables : Tables) :
    (replacePasswordWithToken now value hashed).Does tables
      (redeeming value .passwordReset now (·.withPassword hashed) .emailNotFound tables) :=
  does_redeem (fun email _ => Query.updateUser_carries _ email (fun _ => rfl) _) _ tables

theorem does_replacePassword (email : String) (hashed : HashedPassword) (tables : Tables) :
    (replacePassword email hashed).Does tables (replacing email hashed tables) := by
  have hupdate : Carries Desk.Holds (Query.updateUserPassword email hashed) tables _ _ :=
    Query.updateUser_carries _ email (fun user => (rfl : _ = (user.withPassword hashed).row)) tables
  unfold replacing
  refine .query_bind hupdate ?_
  dsimp only
  cases (tables.changeUser email (·.withPassword hashed)).userWithEmail? email with
  | none => exact .fail_bind _ _ _
  | some user =>
    refine .some_bind (.query_bind (Query.deleteTokens_carries _
      (fun token => token.isFor_row email .passwordReset) _) ?_)
    exact .ofOption_some (e := .emailNotFound) user _

theorem does_purge (now : Instant) (tables : Tables) :
    (query (Query.purgeExpiredTokens now)).Does tables (purging now tables) :=
  .query (Query.deleteTokens_carries _ (fun token => token.isExpired_row now) tables)

end Service

end IdentityLifecycle
