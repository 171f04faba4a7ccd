import IdentityLifecycle.Proofs.Disclosure
import IdentityLifecycle.Proofs.Mailing
import IdentityLifecycle.Proofs.Redemption
import IdentityLifecycle.Proofs.Tidy

/-!
# What calls can fail with

On a reachable database, with an id and a token value that are new, every error has a cause that its
caller can know of: what was submitted, who is registered, which tokens are live, or the mailer. The
branches for hashes, rows and owners that would be amiss are never taken. What is left is an engine
that does not settle a unit of work.
-/

namespace IdentityLifecycle

/-- The errors that a call may answer. -/
def Call.mayFailWith : Call → IdentityError → Bool
  | signup .., .validation _ | signup .., .emailInUse | signup .., .mail _ => true
  | signin .., .invalidCredentials | signin .., .userNotVerified => true
  | resendSignupToken _, .validation _ | resendSignupToken _, .userNotVerified => true
  | resendSignupToken _, .userAlreadyVerified | resendSignupToken _, .mail _ => true
  | validateSignupToken _, .invalidToken => true
  | resetPassword _, .validation _ | resetPassword _, .emailNotFound => true
  | resetPassword _, .userNotVerified | resetPassword _, .mail _ => true
  | resetPasswordToken _, .invalidToken => true
  | changePasswordWithToken .., .validation _ | changePasswordWithToken .., .invalidToken => true
  | changePassword .., .validation _ | changePassword .., .emailNotFound => true
  | getUser _, .userNotFound => true
  | getUserByEmail _, .validation _ | getUserByEmail _, .userNotFound => true
  | _, _ => false

def Call.Rejects (cause : ValidationError) : Call → Prop
  | signup email name password => normalizeEmail email = .error cause ∨
      validateName name = .error cause ∨ validatePassword password = .error cause
  | resendSignupToken email | resetPassword email | getUserByEmail email =>
    normalizeEmail email = .error cause
  | changePasswordWithToken _ password => validatePassword password = .error cause
  | changePassword email password =>
    normalizeEmail email = .error cause ∨ validatePassword password = .error cause
  | _ => False

def Tables.Dead (tables : Tables) (value : String) (type : TokenType) (now : Instant) : Prop :=
  value = "" ∨ tables.liveToken? value type now = none

/-- Why a call fails, and with what. -/
inductive Failure (service : Service) (around : Surroundings) (view : View) :
    Call → IdentityError → Prop
  | rejected {call : Call} {cause : ValidationError} (hrejects : call.Rejects cause) :
      Failure service around view call (.validation cause)
  | refused {call : Call} {type : TokenType} {email normal name : String} {cause : MailError}
      (hcall : call.mails? = some (type, email)) (hnormal : normalizeEmail email = .ok normal)
      (hrefuse : around.mailer (.forToken service.site type normal name
        (service.ledger.generateValue around.token)) = .error cause) :
      Failure service around view call (.mail cause)
  | taken {email name password : String} {user : User}
      (huser : view.tables.registered? email = some user) :
      Failure service around view (.signup email name password) .emailInUse
  | stranger {email password : String} (hnone : view.tables.registered? email = none) :
      Failure service around view (.signin email password) .invalidCredentials
  | mismatch {email password : String} {user : User}
      (huser : view.tables.registered? email = some user) (hverified : user.isVerified = true)
      (hwrong : ¬service.hasher.Opens user.password (utf8 password)) :
      Failure service around view (.signin email password) .invalidCredentials
  | unconfirmed {call : Call} {email : String} {user : User}
      (hcall : (∃ password, call = .signin email password) ∨ call = .resetPassword email)
      (huser : view.tables.registered? email = some user) (hverified : user.isVerified = false) :
      Failure service around view call .userNotVerified
  | unsolicited {email : String} (hnone : view.tables.registered? email = none) :
      Failure service around view (.resendSignupToken email) .userNotVerified
  | confirmed {email : String} {user : User} (huser : view.tables.registered? email = some user)
      (hverified : user.isVerified = true) :
      Failure service around view (.resendSignupToken email) .userAlreadyVerified
  | unregistered {call : Call} {email : String}
      (hcall : call = .resetPassword email ∨ ∃ password, call = .changePassword email password)
      (hnone : view.tables.registered? email = none) :
      Failure service around view call .emailNotFound
  | dead {call : Call} {value : String} {type : TokenType} {now : Instant}
      (hcall : call.Presents value type) (hnow : now ∈ around.readings type)
      (hdead : view.tables.Dead value type now) :
      Failure service around view call .invalidToken
  | unknownId {id : String} (hmiss : view.cache.load (.id id) = none)
      (hnone : view.tables.userWithId? id = none) :
      Failure service around view (.getUser id) .userNotFound
  | unknownEmail {email normal : String} (hnormal : normalizeEmail email = .ok normal)
      (hmiss : view.cache.load (.email normal) = none)
      (hnone : view.tables.userWithEmail? normal = none) :
      Failure service around view (.getUserByEmail email) .userNotFound

namespace Failure

variable {service : Service} {around : Surroundings} {view : View} {call : Call}
  {e : IdentityError}

theorem mayFailWith (h : Failure service around view call e) : call.mayFailWith e = true := by
  cases h with
  | rejected hrejects => cases call <;> first | rfl | cases hrejects
  | refused hcall hnormal hrefuse => cases call <;> first | rfl | cases hcall
  | taken huser => rfl
  | stranger hnone => rfl
  | mismatch huser hverified hwrong => rfl
  | unconfirmed hcall huser hverified => rcases hcall with ⟨password, rfl⟩ | rfl <;> rfl
  | unsolicited hnone => rfl
  | confirmed huser hverified => rfl
  | unregistered hcall hnone => rcases hcall with rfl | ⟨password, rfl⟩ <;> rfl
  | dead hcall hnow hdead =>
    cases hcall with
    | redeem hcall => cases hcall <;> rfl
    | check => rfl
  | unknownId hmiss hnone => rfl
  | unknownEmail hnormal hmiss hnone => rfl

end Failure

/-! ### Errors of checks and units -/

namespace Ending

variable {α β : Type} {view : View} {P : IdentityError → Prop}

def Fails (ending : Ending α) (P : IdentityError → Prop) : Prop := ∀ e, ending.1 = .error e → P e

theorem Fails.map {ending : Ending α} (h : ending.Fails P) (f : α → β) :
    (ending.map f).Fails P := by
  obtain ⟨outcome, after⟩ := ending
  intro e he
  cases outcome with
  | error cause =>
    cases he
    exact h _ rfl
  | ok a => cases he

theorem Fails.given {checks : Except IdentityError α} {next : α → Ending β}
    (hchecks : ∀ e, checks = .error e → P e) (hnext : ∀ a, checks = .ok a → (next a).Fails P) :
    (Ending.given checks view next).Fails P := by
  cases checks with
  | error e =>
    intro e' he
    cases he
    exact hchecks e rfl
  | ok a => exact hnext a rfl

/-- A unit of work fails as its work does. -/
theorem Fails.unit {work : Work α} {answer : α → β} {refresh : α → Cache → Cache}
    (hwork : ∀ e, work.result = .error e → P e) : (view.unit work answer refresh).Fails P := by
  unfold View.unit
  cases hresult : work.result with
  | error e =>
    intro e' he
    cases he
    exact hwork e hresult
  | ok result =>
    intro e he
    cases he

end Ending

/-! ### Why each call fails -/

namespace Service

variable {service : Service} {around : Surroundings} {view : View} {tables : Tables}
  {email name password value : String} {e : IdentityError}

structure SaltsInRange (service : Service) : Prop where
  min : Hasher.minSaltLength ≤ service.hasher.saltLength
  max : service.hasher.saltLength ≤ Hasher.maxInputLength

/-- A valid password can be hashed, for the salt that is drawn has the right length. -/
theorem SaltsInRange.hashing_ne_error (hsalts : service.SaltsInRange)
    (hpassword : validatePassword password = .ok ()) (e : IdentityError) :
    service.hashing around password ≠ .error e := by
  obtain ⟨hashed, hok⟩ := (hashing_succeeds_iff hpassword).mpr ⟨hsalts.min, hsalts.max⟩
  rw [hok]
  exact nofun

/-- A new token has room, so it is only the mailer that can fail. -/
theorem mailing_eq_error {type : TokenType}
    (hfresh : ∀ token ∈ tables.tokens, token.value ≠ service.ledger.generateValue around.token)
    (herror : (service.mailing around type email name tables).result = .error e) :
    ∃ cause, around.mailer (.forToken service.site type email name
      (service.ledger.generateValue around.token)) = .error cause ∧ e = .mail cause := by
  have hroom := hasRoomFor_of_fresh hfresh type email
  cases hmail : around.mailer (.forToken service.site type email name
      (service.tokenFor around type email).value) with
  | ok entries =>
    rw [mailing_of_room hroom hmail] at herror
    cases herror
  | error cause =>
    refine ⟨cause, hmail, ?_⟩
    unfold mailing at herror
    dsimp only at herror
    rw [if_pos hroom, hmail] at herror
    cases herror
    rfl

theorem signup_fails (hfresh : around.Fresh service view.tables)
    (hsalts : service.SaltsInRange) :
    (service.signupEnding around email name password view).Fails
      (Failure service around view (.signup email name password)) := by
  refine .given (fun e he => ?_) fun user hnew => .unit fun e he => ?_
  · simp only [newUser, bind_eq_error, mapError_eq_error, mapError_eq_ok] at he
    obtain ⟨cause, hcause, rfl⟩ | ⟨normal, -, ⟨cause, hcause, rfl⟩ | ⟨valid, -,
      ⟨cause, hcause, rfl⟩ | ⟨⟨⟩, hpassword, herror | ⟨hashed, -, herror⟩⟩⟩⟩ := he
    · exact .rejected (.inl hcause)
    · exact .rejected (.inr (.inl hcause))
    · exact .rejected (.inr (.inr hcause))
    · exact absurd herror (hsalts.hashing_ne_error hpassword e)
    · cases herror
  · obtain ⟨hnormal, -, -, -, hid, -⟩ := newUser_eq_ok.mp hnew
    cases huser : view.tables.userWithEmail? user.email with
    | some other =>
      rw [service.registering_of_taken around (.inl (by simp [huser]))] at he
      cases he
      exact .taken ((Tables.registered?_of_ok hnormal).trans huser)
    | none =>
      -- the id is new, so nothing but the mailer is left to fail
      rw [service.registering_of_free around huser (hid ▸ hfresh.userId)] at he
      have hvalue : ∀ token ∈ (view.tables.addUser user).tokens, _ := hfresh.value
      obtain ⟨cause, hrefuse, rfl⟩ := mailing_eq_error hvalue he
      exact .refused rfl hnormal hrefuse

theorem signin_fails (hhashed : view.tables.Hashed) :
    (service.signinEnding email password view).Fails
      (Failure service around view (.signin email password)) := by
  refine .given (fun e he => ?_) fun user _ e he => by cases he
  cases huser : view.tables.registered? email with
  | none =>
    rw [authenticate_of_unregistered huser] at he
    cases he
    exact .stranger huser
  | some user =>
    cases hverified : user.isVerified with
    | false =>
      rw [authenticate_of_unverified huser hverified] at he
      cases he
      exact .unconfirmed (.inl ⟨password, rfl⟩) huser hverified
    | true =>
      obtain ⟨normal, hnormal, hfound⟩ := Tables.registered?_eq_some.mp huser
      have hstored := hhashed user (Tables.of_userWithEmail?_eq_some hfound).1
      have hwrong : ¬service.hasher.Opens user.password (utf8 password) := by
        intro hopens
        have hcompare := (Hasher.compare_eq_ok_iff_opens hstored).mpr hopens
        have hok := authenticate_eq_ok.mpr ⟨normal, hnormal, hfound, hverified, hcompare⟩
        rw [hok] at he
        cases he
      rw [authenticate_of_wrong huser hverified hstored hwrong] at he
      cases he
      exact .mismatch huser hverified hwrong

theorem resendSignupToken_fails (hfresh : around.Fresh service view.tables) :
    (service.resendSignupTokenEnding around email view).Fails
      (Failure service around view (.resendSignupToken email)) := by
  refine .given (fun e he => ?_) fun normal hnormal => .unit fun e he => ?_
  · obtain ⟨cause, hcause, rfl⟩ := mapError_eq_error.mp he
    exact .rejected hcause
  · rw [mapError_eq_ok] at hnormal
    have hregistered := view.tables.registered?_of_ok hnormal
    unfold reissuing at he
    cases huser : view.tables.userWithEmail? normal with
    | none =>
      rw [huser] at he
      cases he
      exact .unsolicited (hregistered.trans huser)
    | some user =>
      rw [huser] at he
      dsimp only at he
      split at he
      · next hverified =>
        cases he
        exact .confirmed (hregistered.trans huser) hverified
      · obtain ⟨cause, hrefuse, rfl⟩ := mailing_eq_error hfresh.value he
        exact .refused rfl hnormal hrefuse

theorem resetPassword_fails (hfresh : around.Fresh service view.tables) :
    (service.resetPasswordEnding around email view).Fails
      (Failure service around view (.resetPassword email)) := by
  refine .given (fun e he => ?_) fun normal hnormal => .unit fun e he => ?_
  · obtain ⟨cause, hcause, rfl⟩ := mapError_eq_error.mp he
    exact .rejected hcause
  · rw [mapError_eq_ok] at hnormal
    have hregistered := view.tables.registered?_of_ok hnormal
    unfold issuingReset at he
    cases huser : view.tables.userWithEmail? normal with
    | none =>
      rw [huser] at he
      cases he
      exact .unregistered (.inl rfl) (hregistered.trans huser)
    | some user =>
      rw [huser] at he
      dsimp only at he
      split at he
      · obtain ⟨cause, hrefuse, rfl⟩ := mailing_eq_error hfresh.value he
        exact .refused rfl hnormal hrefuse
      · next hverified =>
        cases he
        exact .unconfirmed (.inr rfl) (hregistered.trans huser) (by simpa using hverified)

/-- Every token has an owner, so redeeming one fails only if it is not live. -/
theorem redeeming_eq_error {type : TokenType} {now : Instant} {change : User → User}
    {orphaned : IdentityError} (htidy : tables.Tidy)
    (hchange : ∀ user, (change user).email = user.email)
    (herror : (redeeming value type now change orphaned tables).result = .error e) :
    e = .invalidToken ∧ tables.liveToken? value type now = none := by
  cases hlive : tables.liveToken? value type now with
  | none =>
    rw [redeeming_of_none change orphaned hlive] at herror
    cases herror
    exact ⟨rfl, rfl⟩
  | some token =>
    obtain ⟨user, huser⟩ := htidy.owner (Tables.of_liveToken?_eq_some hlive).1
    rw [redeeming_of_owner hchange orphaned hlive huser] at herror
    cases herror

/-- In tidy tables every token has an owner, so the gate is shut to dead tokens only. -/
theorem resetGate_eq_error {now : Instant} (htidy : tables.Tidy)
    (herror : tables.resetGate value now = .error e) :
    e = .invalidToken ∧ tables.Dead value .passwordReset now := by
  by_cases hvalue : value = ""
  · rw [Tables.resetGate, if_pos hvalue] at herror
    cases herror
    exact ⟨rfl, .inl hvalue⟩
  · cases hlive : tables.liveToken? value .passwordReset now with
    | none =>
      rw [Tables.resetGate_of_none hlive] at herror
      cases herror
      exact ⟨rfl, .inr hlive⟩
    | some token =>
      obtain ⟨user, huser⟩ := htidy.owner (Tables.of_liveToken?_eq_some hlive).1
      rw [Tables.resetGate_of_some hvalue hlive huser] at herror
      cases herror

theorem validateSignupToken_fails (htidy : view.tables.Tidy) :
    (validateSignupTokenEnding around value view).Fails
      (Failure service around view (.validateSignupToken value)) := by
  have hdead (hdead : view.tables.Dead value .signup around.now) :
      Failure service around view (.validateSignupToken value) .invalidToken :=
    .dead (.redeem .confirm) (List.mem_singleton_self _) hdead
  unfold validateSignupTokenEnding
  by_cases hvalue : value = ""
  · rw [if_pos hvalue]
    intro e he
    cases he
    exact hdead (.inl hvalue)
  · rw [if_neg hvalue]
    refine .unit fun e he => ?_
    obtain ⟨rfl, hnone⟩ := redeeming_eq_error htidy (by simp) he
    exact hdead (.inr hnone)

theorem changePasswordWithToken_fails (htidy : view.tables.Tidy)
    (hsalts : service.SaltsInRange) :
    (service.changePasswordWithTokenEnding around value password view).Fails
      (Failure service around view (.changePasswordWithToken value password)) := by
  have hdead (hpassword : validatePassword password = .ok ()) {now : Instant}
      (hnow : now ∈ around.readings .passwordReset)
      (hdead : view.tables.Dead value .passwordReset now) :
      Failure service around view (.changePasswordWithToken value password) .invalidToken :=
    .dead (.redeem (.recover hpassword)) hnow hdead
  refine .given (fun e he => ?_) fun hashed hnew => .unit fun e he => ?_
  · simp only [newPasswordWithToken, bind_eq_error, mapError_eq_error, mapError_eq_ok] at he
    obtain ⟨cause, hcause, rfl⟩ | ⟨⟨⟩, hpassword, herror | ⟨⟨⟩, -, herror⟩⟩ := he
    · exact .rejected hcause
    · obtain ⟨rfl, hgate⟩ := resetGate_eq_error htidy herror
      exact hdead hpassword (by simp [Surroundings.readings]) hgate
    · exact absurd herror (hsalts.hashing_ne_error hpassword e)
  · obtain ⟨hpassword, -, -⟩ := newPasswordWithToken_eq_ok.mp hnew
    obtain ⟨rfl, hnone⟩ :=
      redeeming_eq_error htidy (fun user => user.withPassword_email hashed) he
    exact hdead hpassword (by simp [Surroundings.readings]) (.inr hnone)

theorem changePassword_fails (hsalts : service.SaltsInRange) :
    (service.changePasswordEnding around email password view).Fails
      (Failure service around view (.changePassword email password)) := by
  refine .given (fun e he => ?_) fun checked hnew => .unit fun e he => ?_
  · simp only [newPassword, bind_eq_error, mapError_eq_error, mapError_eq_ok] at he
    obtain ⟨cause, hcause, rfl⟩ | ⟨normal, -, ⟨cause, hcause, rfl⟩ | ⟨⟨⟩, hpassword,
      herror | ⟨hashed, -, herror⟩⟩⟩ := he
    · exact .rejected (.inl hcause)
    · exact .rejected (.inr hcause)
    · exact absurd herror (hsalts.hashing_ne_error hpassword e)
    · cases herror
  · obtain ⟨hnormal, -, -⟩ := newPassword_eq_ok.mp hnew
    cases huser : view.tables.userWithEmail? checked.1 with
    | none =>
      rw [replacing_of_none checked.2 huser] at he
      cases he
      refine .unregistered (.inr ⟨password, rfl⟩) ?_
      exact (Tables.registered?_of_ok hnormal).trans huser
    | some user =>
      rw [replacing_of_user checked.2 huser] at he
      cases he

end Service

/-- A look-up fails only where both the cache and the tables know nobody. -/
theorem View.lookUp_fails {view : View} {key : IdentityKey} {found : Option User}
    {P : IdentityError → Prop}
    (hmiss : view.cache.load key = none → found = none → P .userNotFound) :
    (view.lookUp key found).Fails P := by
  intro e he
  unfold lookUp at he
  cases hload : view.cache.load key with
  | some seen =>
    rw [hload] at he
    cases he
  | none =>
    rw [hload] at he
    cases found with
    | none =>
      cases he
      exact hmiss hload rfl
    | some user => cases he

/-- On tidy tables with hashed passwords, whatever a call fails with has a cause. -/
theorem Call.ending_fails {service : Service} {around : Surroundings} (call : Call) {view : View}
    (htidy : view.tables.Tidy) (hhashed : view.tables.Hashed)
    (hfresh : around.Fresh service view.tables)
    (hsalts : service.SaltsInRange) :
    (call.ending service around view).Fails (Failure service around view call) := by
  cases call with
  | signup email name password => exact (Service.signup_fails hfresh hsalts).map _
  | signin email password => exact (Service.signin_fails hhashed).map _
  | resendSignupToken email => exact (Service.resendSignupToken_fails hfresh).map _
  | validateSignupToken token => exact (Service.validateSignupToken_fails htidy).map _
  | resetPassword email => exact (Service.resetPassword_fails hfresh).map _
  | resetPasswordToken token =>
    refine .map (fun e he => ?_) _
    obtain ⟨rfl, hdead⟩ := Service.resetGate_eq_error htidy he
    exact .dead .check (List.mem_cons_self) hdead
  | changePasswordWithToken token password =>
    exact (Service.changePasswordWithToken_fails htidy hsalts).map _
  | changePassword email password => exact (Service.changePassword_fails hsalts).map _
  | getUser id => exact (View.lookUp_fails fun hmiss hnone => .unknownId hmiss hnone).map _
  | getUserByEmail email =>
    refine .map (.given (fun e he => ?_) fun normal hnormal => ?_) _
    · obtain ⟨cause, hcause, rfl⟩ := mapError_eq_error.mp he
      exact .rejected hcause
    · exact View.lookUp_fails (.unknownEmail (mapError_eq_ok.mp hnormal))
  | remember user =>
    intro e he
    cases he
  | purgeExpiredTokens =>
    intro e he
    cases he

/-- Whatever services with checked hashers have done to a database that was empty at first, and with
salts whose length the key derivation takes, a call fails only with an error that it may answer, and
for a cause; or because the engine fails to commit its unit of work, or to roll back one that has
failed for such a cause. -/
theorem fails_within_envelope (service : Service) {s : Session} (hs : s.Reachable)
    (settling : Settling) (request : Request)
    (hfresh : request.around.Fresh service s.desk.store.tables)
    (hmin : Hasher.minSaltLength ≤ service.hasher.saltLength)
    (hmax : service.hasher.saltLength ≤ Hasher.maxInputLength) (e : IdentityError)
    (herror : (service.serve request (s.settledBy settling)).1.answer = .error e) :
    (Failure service request.around s.view request.call e ∧ request.call.mayFailWith e = true) ∨
      (∃ cause, settling.commit = some cause ∧ e = .store (.commit cause)) ∨
      ∃ first cause, settling.rollback = some cause ∧
        Failure service request.around s.view request.call first ∧
        request.call.mayFailWith first = true ∧
        e = .store (.rollback first.message cause) := by
  have hfails (first : IdentityError)
      (hplain : (request.call.perform service request.around s).1 = .error first) :
      Failure service request.around s.view request.call first ∧
        request.call.mayFailWith first = true := by
    rw [(request.call.perform_ends service request.around s.view s hs.shows).1] at hplain
    have hfailure := request.call.ending_fails hs.tidy hs.hashed hfresh ⟨hmin, hmax⟩ first hplain
    exact ⟨hfailure, hfailure.mayFailWith⟩
  cases service.serve_settles request hs.shows settling with
  | alike hended hcommit => exact .inl (hfails e ((congrArg Prod.fst hended).symm.trans herror))
  | @uncommitted a cause hcommit hplain hended hpostings =>
    cases hended.symm.trans herror
    exact .inr (.inl ⟨cause, hcommit, rfl⟩)
  | @unrolled first cause hrollback hplain hended hpostings =>
    cases hended.symm.trans herror
    obtain ⟨hfailure, hmay⟩ := hfails first hplain
    exact .inr (.inr ⟨first, cause, hrollback, hfailure, hmay, rfl⟩)

/-- Someone who has joined signs up again. -/
theorem fails_of_joined_signup :
    let s := (Service.small.run (.fresh .unbounded) Request.joining).2
    let signup : Request := .at 3 (.signup "A@b" "n" "q")
    let again := { signup with around := { signup.around with userId := "v" } }
    s.Reachable ∧ (Service.small.serve again (s.settledBy {})).1.answer = .error .emailInUse ∧
      Failure .small again.around s.view again.call .emailInUse ∧
      again.call.mayFailWith .emailInUse = true := by
  intro s signup again
  have hs : s.Reachable := Service.run_reachable Service.small_checked .unbounded Request.joining
  have hstart : s.desk.store.tables.userWithId? again.around.userId = none ∧
      (∀ token ∈ s.desk.store.tables.tokens,
        token.value ≠ Service.small.ledger.generateValue again.around.token) ∧
      Hasher.minSaltLength ≤ Service.small.hasher.saltLength ∧
      Service.small.hasher.saltLength ≤ Hasher.maxInputLength ∧
      (Service.small.serve again (s.settledBy {})).1.answer = .error .emailInUse := by
    decide +kernel
  obtain ⟨hid, hvalue, hmin, hmax, herror⟩ := hstart
  rcases fails_within_envelope .small hs {} again ⟨hid, hvalue⟩ hmin hmax _ herror with
    hfailure | ⟨cause, hcommit, -⟩ | ⟨first, cause, hrollback, -⟩
  · exact ⟨hs, herror, hfailure⟩
  · cases hcommit
  · cases hrollback

/-- Salts of more than 4 GiB are refused when a password is to be hashed, and a purge that is not
committed fails though it has deleted what it should. -/
theorem fails_past_envelope :
    let longSalted : Service := { Service.small with hasher.settings.saltLength := 0x100000000 }
    let signup : Request := .at 1 (.signup "a@b" "n" "p")
    let purge : Request := .at 1 .purgeExpiredTokens
    let full : DatabaseError := .rejected 13 "database or disk is full"
    let failing := (Session.fresh .unbounded).settledBy { commit := some full }
    (longSalted.hasher.Checked ∧ Hasher.minSaltLength ≤ longSalted.hasher.saltLength ∧
      (longSalted.serve signup (.fresh .unbounded)).1.answer = .error (.hash .invalidSalt) ∧
      signup.call.mayFailWith (.hash .invalidSalt) = false) ∧
    (Service.small.serve purge failing).1.answer = .error (.store (.commit full)) ∧
      purge.call.mayFailWith (.store (.commit full)) = false := by
  intro longSalted signup purge full failing
  have hchecked : longSalted.hasher.Checked :=
    ⟨longSalted.hasher.settings, by decide +kernel⟩
  exact ⟨⟨hchecked, by decide +kernel⟩, by decide +kernel⟩

end IdentityLifecycle
