import IdentityLifecycle.Proofs.Units
import IdentityLifecycle.Service.Call

/-!
# How the operations end

Every operation is described by its ending: what it answers, and the view that it leaves.
-/

namespace IdentityLifecycle

open Step (Carries)

abbrev Ending (α : Type) := Except IdentityError α × View

namespace Ending

variable {α β : Type}

def map (f : α → β) (ending : Ending α) : Ending β := (ending.1.map f, ending.2)

def given (checks : Except IdentityError α) (view : View) (next : α → Ending β) : Ending β :=
  match checks with
  | .error e => (.error e, view)
  | .ok a => next a

end Ending

def View.unit {α β : Type} (view : View) (work : Work α) (answer : α → β)
    (refresh : α → Cache → Cache) : Ending β :=
  match work.result with
  | .error e => (.error e, { view with postings := view.postings ++ work.postings })
  | .ok (a, tables) =>
    (.ok (answer a),
      { tables, cache := refresh a view.cache, postings := view.postings ++ work.postings })

def View.read (view : View) (user : User) : Ending PublicUser :=
  let (found, cache) := view.cache.storeIfAbsent (.id user.id) user.toPublic
  let (_, cache) := cache.storeIfAbsent (.email user.email) found
  (.ok found, { view with cache })

def View.lookUp (view : View) (key : IdentityKey) (found : Option User) : Ending PublicUser :=
  match view.cache.load key with
  | some user => (.ok user, view)
  | none =>
    match found with
    | none => (.error .userNotFound, view)
    | some user => view.read user

/-- Whether a reset token is live and has an owner. -/
def Tables.resetGate (tables : Tables) (value : String) (now : Instant) :
    Except IdentityError Unit :=
  if value = "" then .error .invalidToken
  else
    match tables.liveToken? value .passwordReset now with
    | none => .error .invalidToken
    | some token =>
      match tables.userWithEmail? token.email with
      | none => .error .emailNotFound
      | some _ => .ok ()

namespace Service

variable (service : Service) (around : Surroundings)

def hashing (password : String) : Except IdentityError HashedPassword :=
  (service.hasher.generateHash (utf8 password) none around.salt).mapError .hash

def newUser (email name password : String) : Except IdentityError User := do
  let email ← (normalizeEmail email).mapError .validation
  let name ← (validateName name).mapError .validation
  (validatePassword password).mapError .validation
  let hashed ← service.hashing around password
  return User.register around.userId email name hashed

def signupEnding (email name password : String) (view : View) : Ending Unit :=
  .given (service.newUser around email name password) view fun user =>
    view.unit (service.registering around user view.tables) id fun _ cache =>
      cache.store user.toPublic

def authenticate (email password : String) (tables : Tables) : Except IdentityError User := do
  let email ← (normalizeEmail email).mapError fun _ => .invalidCredentials
  match tables.userWithEmail? email with
  | none => .error .invalidCredentials
  | some user =>
    if user.isVerified then
      match service.hasher.compare user.password.hash user.password.salt (utf8 password) with
      | .ok () => .ok user
      | .error .passwordNotMatch => .error .invalidCredentials
      | .error .invalidPassword => .error .invalidCredentials
      | .error e => .error (.hash e)
    else .error .userNotVerified

def signinEnding (email password : String) (view : View) : Ending PublicUser :=
  .given (service.authenticate email password view.tables) view view.read

def resendSignupTokenEnding (email : String) (view : View) : Ending Unit :=
  .given ((normalizeEmail email).mapError .validation) view fun email =>
    view.unit (service.reissuing around email view.tables) id fun _ => id

def validateSignupTokenEnding (value : String) (view : View) : Ending PublicUser :=
  if value = "" then (.error .invalidToken, view)
  else
    view.unit (redeeming value .signup around.now (·.stamp around.now) .invalidToken view.tables)
      User.toPublic fun user cache => cache.store user.toPublic

def resetPasswordEnding (email : String) (view : View) : Ending Unit :=
  .given ((normalizeEmail email).mapError .validation) view fun email =>
    view.unit (service.issuingReset around email view.tables) id fun _ => id

def newPasswordWithToken (value password : String) (tables : Tables) :
    Except IdentityError HashedPassword := do
  (validatePassword password).mapError .validation
  tables.resetGate value around.now
  service.hashing around password

def changePasswordWithTokenEnding (value password : String) (view : View) : Ending PublicUser :=
  .given (service.newPasswordWithToken around value password view.tables) view fun hashed =>
    view.unit (redeeming value .passwordReset around.later (·.withPassword hashed) .emailNotFound
      view.tables) User.toPublic fun user cache => cache.store user.toPublic

def newPassword (email password : String) : Except IdentityError (String × HashedPassword) := do
  let email ← (normalizeEmail email).mapError .validation
  (validatePassword password).mapError .validation
  let hashed ← service.hashing around password
  return (email, hashed)

def changePasswordEnding (email password : String) (view : View) : Ending Unit :=
  .given (service.newPassword around email password) view fun (email, hashed) =>
    view.unit (replacing email hashed view.tables) (fun _ => ()) fun user cache =>
      cache.store user.toPublic

def getUserByEmailEnding (email : String) (view : View) : Ending PublicUser :=
  .given ((normalizeEmail email).mapError .validation) view fun email =>
    view.lookUp (.email email) (view.tables.userWithEmail? email)

end Service

/-- How a call ends on what it can see of a session. -/
def Call.ending (service : Service) (around : Surroundings) (view : View) : Call → Ending Answer
  | signup email name password =>
    (service.signupEnding around email name password view).map fun _ => .done
  | signin email password => (service.signinEnding email password view).map .user
  | resendSignupToken email =>
    (service.resendSignupTokenEnding around email view).map fun _ => .done
  | validateSignupToken token => (Service.validateSignupTokenEnding around token view).map .user
  | resetPassword email => (service.resetPasswordEnding around email view).map fun _ => .done
  | resetPasswordToken token =>
    Ending.map (fun _ => .done) (view.tables.resetGate token around.now, view)
  | changePasswordWithToken token password =>
    (service.changePasswordWithTokenEnding around token password view).map .user
  | changePassword email password =>
    (service.changePasswordEnding around email password view).map fun _ => .done
  | getUser id => (view.lookUp (.id id) (view.tables.userWithId? id)).map .user
  | getUserByEmail email => (Service.getUserByEmailEnding email view).map .user
  | remember user => (.ok .done, { view with cache := view.cache.store user })
  | purgeExpiredTokens =>
    (view.unit (Service.purging around.now view.tables) id fun _ => id).map .count

/-! ### Procedures and their endings -/

namespace Procedure

variable {α β : Type} {view : View}

/-- The procedure ends so on every session that shows the view. -/
def Ends (p : Procedure α) (view : View) (ending : Ending α) : Prop :=
  Carries Session.Shows p view ending.1 ending.2

theorem Ends.answering {p : Procedure α} {ending : Ending α} (hp : p.Ends view ending)
    (f : α → Answer) : (p.answering f).Ends view (ending.map f) := by
  obtain ⟨outcome, after⟩ := ending
  cases outcome with
  | error e => exact .bind_error hp _
  | ok a => exact .bind_ok hp (.pure (f a) after)

theorem Ends.within {p : Procedure α} {ending : Ending α} (hp : p.Ends view ending)
    (span : Log.Span) : (within span p).Ends view ending :=
  within_carries span hp

/-- A check that leaves the view as it is. -/
theorem Ends.check {p : Procedure α} {check : Except IdentityError α} {next : α → Procedure β}
    {rest : α → Ending β} (hp : Carries Session.Shows p view check view)
    (hnext : ∀ a, (next a).Ends view (rest a)) :
    (p >>= next).Ends view (.given check view rest) := by
  cases check with
  | error e => exact .bind_error hp next
  | ok a => exact .bind_ok hp (hnext a)

/-- The first of several checks. -/
theorem Ends.check_bind {γ : Type} {p : Procedure α} {check : Except IdentityError α}
    {more : α → Except IdentityError γ} {next : α → Procedure β} {rest : γ → Ending β}
    (hp : Carries Session.Shows p view check view)
    (hnext : ∀ a, (next a).Ends view (.given (more a) view rest)) :
    (p >>= next).Ends view (.given (check >>= more) view rest) := by
  cases check with
  | error e => exact .bind_error hp next
  | ok a => exact .bind_ok hp (hnext a)

/-- Once a check has passed, the rest decides. -/
theorem Ends.checked {γ : Type} {p : Procedure β} {a : γ} {rest : γ → Ending β}
    (hp : p.Ends view (rest a)) : p.Ends view (.given (pure a) view rest) :=
  hp

/-- A unit of work, then steps that refresh the cache and cannot fail. -/
theorem Ends.unit {p : Procedure α} {work : Work α} {next : α → Procedure β} {answer : α → β}
    {refresh : α → Cache → Cache} (hp : p.Does view.tables work)
    (hnext : ∀ a (after : View), (next a).Ends after
      (.ok (answer a), { after with cache := refresh a after.cache })) :
    (asUnit p >>= next).Ends view (view.unit work answer refresh) := by
  have hunit := hp.asUnit_carries
  unfold View.unit
  cases hresult : work.result with
  | error e =>
    have hanswer : work.answer = .error e := by simp [Work.answer, hresult, Except.map]
    have htables : work.tables view.tables = view.tables := by simp [Work.tables, hresult]
    rw [hanswer, htables] at hunit
    exact .bind_error hunit next
  | ok result =>
    obtain ⟨a, tables⟩ := result
    have hanswer : work.answer = .ok a := by simp [Work.answer, hresult, Except.map]
    have htables : work.tables view.tables = tables := by simp [Work.tables, hresult]
    rw [hanswer, htables] at hunit
    exact .bind_ok hunit (hnext a _)

end Procedure

namespace Service

open Procedure

variable (service : Service) (around : Surroundings)

theorem cacheRead_ends (user : User) (view : View) :
    (cacheRead user).Ends view (view.read user) := by
  intro s hs
  simp only [cacheRead, View.read, hs.cache]
  exact ⟨trivial, ⟨hs.tables, rfl, hs.postings⟩⟩

theorem signup_ends (email name password : String) (view : View) :
    (service.signup around email name password).Ends view
      (service.signupEnding around email name password view) := by
  refine .within ?_ _
  refine .check_bind (.ofExcept _ view) fun email => .check_bind (.ofExcept _ view) fun name => ?_
  refine .check_bind (.ofExcept _ view) fun _ => ?_
  refine .check_bind (.ofExcept _ view) fun hashed => ?_
  refine .checked (.unit (service.does_register around _ view.tables) fun _ after => ?_)
  refine .bind_ok (onCache_carries _ after) ?_
  exact report_carries _ _

theorem signin_ends (email password : String) (view : View) :
    (service.signin email password).Ends view (service.signinEnding email password view) := by
  refine .within (.check_bind (.ofExcept _ view) fun email => ?_) _
  refine .bind_ok (query_carries_ok (Query.onConnection_carries
    (Query.userByEmail_carries email view.tables))) ?_
  cases view.tables.userWithEmail? email with
  | none => exact .bind_error (.ofOption_none _ view) _
  | some user =>
    refine .bind_ok (.ofOption_some user view) ?_
    dsimp only
    by_cases hverified : user.isVerified
    · simp only [hverified, if_true]
      cases service.hasher.compare user.password.hash user.password.salt (utf8 password) with
      | ok _ =>
        refine .bind_ok (report_carries _ view) ?_
        exact cacheRead_ends user view
      | error e =>
        have hmismatch : signin.mismatch.Ends view (.error .invalidCredentials, view) :=
          .bind_ok (report_carries _ view) (.fail _ view)
        cases e with
        | passwordNotMatch => exact hmismatch
        | invalidPassword => exact hmismatch
        | invalidHash => exact .fail _ view
        | invalidSalt => exact .fail _ view
        | params message => exact .fail _ view
    · simp only [hverified]
      exact .bind_error (.fail _ view) _

theorem resendSignupToken_ends (email : String) (view : View) :
    (service.resendSignupToken around email).Ends view
      (service.resendSignupTokenEnding around email view) := by
  refine .within ?_ _
  refine .check (.ofExcept _ view) fun email => ?_
  refine .unit (service.does_reissueSignup around email view.tables) fun _ after => ?_
  exact report_carries _ after

theorem validateSignupToken_ends (value : String) (view : View) :
    (validateSignupToken around value).Ends view (validateSignupTokenEnding around value view) := by
  refine .within ?_ _
  unfold validateSignupTokenEnding
  by_cases hvalue : value = ""
  · simp only [hvalue, if_true]
    exact .bind_error (.fail _ view) _
  · simp only [hvalue, if_false]
    refine .unit (does_verify around value view.tables) fun user after => ?_
    refine .bind_ok (onCache_carries _ after) ?_
    exact .bind_ok (report_carries _ _) (.pure _ _)

theorem resetPassword_ends (email : String) (view : View) :
    (service.resetPassword around email).Ends view
      (service.resetPasswordEnding around email view) := by
  refine .within ?_ _
  refine .check (.ofExcept _ view) fun email => ?_
  refine .unit (service.does_issueReset around email view.tables) fun _ after => ?_
  exact report_carries _ after

theorem resetPasswordToken_ends (value : String) (now : Instant) (view : View) :
    (resetPasswordToken now value).Ends view (view.tables.resetGate value now, view) := by
  refine .within ?_ _
  unfold Tables.resetGate
  by_cases hvalue : value = ""
  · simp only [hvalue, if_true]
    exact .bind_error (.fail _ view) _
  · simp only [hvalue, if_false]
    refine .bind_ok (query_carries_ok (Query.connect_carries view.tables)) ?_
    refine .bind_ok (query_carries_ok (Ledger.peek_carries .passwordReset now value _)) ?_
    cases view.tables.liveToken? value .passwordReset now with
    | none => exact .bind_error (.ofOption_none _ view) _
    | some token =>
      refine .bind_ok (.ofOption_some token view) ?_
      refine .bind_ok (query_carries_ok (Query.userByEmail_carries token.email view.tables)) ?_
      dsimp only
      cases view.tables.userWithEmail? token.email with
      | none => exact .bind_error (.ofOption_none _ view) _
      | some user => exact .bind_ok (.ofOption_some user view) (.pure () view)

theorem changePasswordWithToken_ends (value password : String) (view : View) :
    (service.changePasswordWithToken around value password).Ends view
      (service.changePasswordWithTokenEnding around value password view) := by
  refine .within ?_ _
  refine .check_bind (.ofExcept _ view) fun _ => ?_
  refine .check_bind (resetPasswordToken_ends value around.now view) fun _ => ?_
  refine .check (.ofExcept _ view) fun hashed => ?_
  refine .unit (does_replacePasswordWithToken around.later value hashed view.tables)
    fun user after => ?_
  refine .bind_ok (onCache_carries _ after) ?_
  exact .bind_ok (report_carries _ _) (.pure _ _)

theorem changePassword_ends (email password : String) (view : View) :
    (service.changePassword around email password).Ends view
      (service.changePasswordEnding around email password view) := by
  refine .within ?_ _
  refine .check_bind (.ofExcept _ view) fun email => ?_
  refine .check_bind (.ofExcept _ view) fun _ => .check_bind (.ofExcept _ view) fun hashed => ?_
  refine .checked (.unit (does_replacePassword email hashed view.tables) fun user after => ?_)
  refine .bind_ok (onCache_carries _ after) ?_
  exact report_carries _ _

/-- A look-up ends with the entry of the cache, and without one with what the tables have. -/
theorem lookUp_ends (key : IdentityKey) {read : Query (Option User)} {found : Option User}
    {view : View} (hread : Carries Desk.Holds read view.tables (.ok found) view.tables) :
    (lookUp key read).Ends view (view.lookUp key found) := by
  intro s hs
  have hquery := query_carries_ok (Query.onConnection_carries hread)
  unfold lookUp View.lookUp
  rw [Step.bind_apply, Step.get_apply]
  dsimp only
  rw [hs.cache]
  cases view.cache.load key with
  | some user => exact ⟨rfl, hs⟩
  | none =>
    cases found with
    | none => exact Carries.bind_ok hquery (.bind_error (.ofOption_none _ view) _) s hs
    | some user =>
      exact Carries.bind_ok hquery
        (.bind_ok (.ofOption_some user view) (cacheRead_ends user view)) s hs

theorem getUserByEmail_ends (email : String) (view : View) :
    (getUserByEmail email).Ends view (getUserByEmailEnding email view) :=
  .check (.ofExcept _ view) fun email =>
    lookUp_ends (.email email) (Query.userByEmail_carries email view.tables)

theorem purgeExpiredTokens_ends (now : Instant) (view : View) :
    (purgeExpiredTokens now).Ends view
      (view.unit (purging now view.tables) id fun _ => id) := by
  refine .within ?_ _
  refine .unit (does_purge now view.tables) fun purged after => ?_
  exact .bind_ok (report_carries _ after) (.pure _ _)

end Service

/-- On every session that shows a view of well-formed tables, a call ends as described. -/
theorem Call.perform_ends (service : Service) (around : Surroundings) (call : Call) (view : View) :
    (call.perform service around).Ends view (call.ending service around view) := by
  cases call with
  | signup email name password => exact (service.signup_ends around _ _ _ view).answering _
  | signin email password => exact (service.signin_ends _ _ view).answering _
  | resendSignupToken email => exact (service.resendSignupToken_ends around _ view).answering _
  | validateSignupToken token => exact (Service.validateSignupToken_ends around _ view).answering _
  | resetPassword email => exact (service.resetPassword_ends around _ view).answering _
  | resetPasswordToken token => exact (Service.resetPasswordToken_ends _ _ view).answering _
  | changePasswordWithToken token password =>
    exact (service.changePasswordWithToken_ends around _ _ view).answering _
  | changePassword email password => exact (service.changePassword_ends around _ _ view).answering _
  | getUser id =>
    exact (Service.lookUp_ends _ (Query.userById_carries id view.tables)).answering _
  | getUserByEmail email => exact (Service.getUserByEmail_ends email view).answering _
  | remember user => exact Carries.bind_ok (Procedure.onCache_carries _ view) (.pure _ _)
  | purgeExpiredTokens => exact (Service.purgeExpiredTokens_ends _ view).answering _

end IdentityLifecycle
