import IdentityLifecycle.Proofs.Credentials
import IdentityLifecycle.Proofs.Reachable

/-!
# What callers learn of accounts

A caller who does not know the password cannot tell a confirmed account from an unknown email by
signing in. An account that is not confirmed shows itself, though, since `Service.signin` asks for
the confirmation before it looks at the password. Asking for a mail does not tell an account from an
unknown email either, but for a confirmation mail once the account is confirmed.
-/

namespace IdentityLifecycle

/-- The user who is registered with an email address, however that is spelled. -/
def Tables.registered? (tables : Tables) (email : String) : Option User :=
  (normalizeEmail email).toOption.bind tables.userWithEmail?

/-- What is shown to the user who has asked to recover an account. -/
def recoveryText (outcome : Except IdentityError Unit) : String :=
  match outcome with
  | .ok () => neutralRecoveryMessage
  | .error e => e.kind.recoveryMessage

variable {service : Service} {around : Surroundings} {s : Session} {tables : Tables}
  {email password normal : String} {user : User}

theorem Tables.registered?_eq_some :
    tables.registered? email = some user ↔
      ∃ account,
        normalizeEmail email = .ok account ∧ tables.userWithEmail? account = some user := by
  unfold registered?
  cases normalizeEmail email with
  | error e => simp [Except.toOption]
  | ok account => simp [Except.toOption]

theorem Tables.registered?_of_ok (hnormal : normalizeEmail email = .ok normal) :
    tables.registered? email = tables.userWithEmail? normal := by
  rw [registered?, hnormal]
  rfl

/-! ### Signing in -/

namespace Service

/-- No password signs in with an email that nobody has. -/
theorem authenticate_of_unregistered (hnone : tables.registered? email = none) :
    service.authenticate email password tables = .error .invalidCredentials := by
  unfold authenticate
  cases hnormal : normalizeEmail email with
  | error e => rfl
  | ok account =>
    rw [Tables.registered?_of_ok hnormal] at hnone
    simp only [Except.mapError, bind, Except.bind, hnone]

theorem authenticate_of_unverified (huser : tables.registered? email = some user)
    (hunverified : user.isVerified = false) :
    service.authenticate email password tables = .error .userNotVerified := by
  obtain ⟨account, hnormal, huser⟩ := Tables.registered?_eq_some.mp huser
  unfold authenticate
  simp only [hnormal, Except.mapError, bind, Except.bind, huser, hunverified]
  rfl

/-- A wrong password is answered as if nobody had the email. -/
theorem authenticate_of_wrong (huser : tables.registered? email = some user)
    (hverified : user.isVerified = true) (hstored : Hasher.Stored user.password)
    (hwrong : ¬service.hasher.Opens user.password (utf8 password)) :
    service.authenticate email password tables = .error .invalidCredentials := by
  obtain ⟨account, hnormal, huser⟩ := Tables.registered?_eq_some.mp huser
  unfold authenticate
  simp only [hnormal, Except.mapError, bind, Except.bind, huser, hverified, if_true]
  -- An empty password is refused as such, any other as no match; callers see no difference.
  rcases Hasher.compare_of_not_opens hstored hwrong with hrefused | hrefused
  · rw [hrefused]
  · rw [hrefused]

end Service

theorem Session.Shows.signin_error {view : View} {e : IdentityError} (hs : s.Shows view)
    (herror : service.authenticate email password view.tables = .error e) :
    (service.signin email password s).1 = .error e := by
  have hanswer := (service.signin_ends email password view s hs).1
  rw [hanswer, Service.signinEnding, herror]
  rfl

/-- In every reachable session, whoever signs in with a wrong password learns no more of a confirmed
account than of an unknown email. Of an account that is not confirmed the answer says just that, so
the answers agree exactly if the account is confirmed. -/
theorem signin_hides_registration (service : Service) {s : Session} (hs : s.Reachable)
    {email other password : String} {user : User}
    (huser : s.desk.store.tables.registered? email = some user)
    (hother : s.desk.store.tables.registered? other = none)
    (hwrong : ¬service.hasher.Opens user.password (utf8 password)) :
    (service.signin other password s).1 = .error .invalidCredentials ∧
      (service.signin email password s).1 =
        .error (if user.isVerified then .invalidCredentials else .userNotVerified) ∧
      ((service.signin email password s).1 = (service.signin other password s).1 ↔
        user.isVerified = true) := by
  have hunknown : (service.signin other password s).1 = .error .invalidCredentials :=
    hs.shows.signin_error (Service.authenticate_of_unregistered hother)
  have hknown : (service.signin email password s).1 =
      .error (if user.isVerified then .invalidCredentials else .userNotVerified) := by
    cases hverified : user.isVerified with
    | false => exact hs.shows.signin_error (Service.authenticate_of_unverified huser hverified)
    | true =>
      obtain ⟨_, -, hmem⟩ := Tables.registered?_eq_some.mp huser
      have hstored := hs.hashed user (Tables.of_userWithEmail?_eq_some hmem).1
      exact hs.shows.signin_error (Service.authenticate_of_wrong huser hverified hstored hwrong)
  refine ⟨hunknown, hknown, ?_⟩
  rw [hknown, hunknown]
  cases user.isVerified <;> simp

/-- A confirmed account answers the empty password as an unknown email does. -/
theorem signin_hides_joined :
    let s := (Service.small.run (.fresh .unbounded) Request.joining).2
    ∃ user, s.desk.store.tables.registered? "a@b" = some user ∧
      s.desk.store.tables.registered? "c@d" = none ∧
      ¬Service.small.hasher.Opens user.password (utf8 "") ∧ user.isVerified = true ∧
      (Service.small.signin "c@d" "" s).1 = .error .invalidCredentials ∧
      (Service.small.signin "a@b" "" s).1 = (Service.small.signin "c@d" "" s).1 := by
  intro s
  have hs : s.Reachable := Service.run_reachable Service.small_checked .unbounded Request.joining
  have htables :
      (s.desk.store.tables.registered? "a@b").any (·.isVerified) = true ∧
        s.desk.store.tables.registered? "c@d" = none := by
    decide +kernel
  obtain ⟨huser, hother⟩ := htables
  obtain ⟨user, huser, hverified⟩ := (Option.any_eq_true _ _).mp huser
  have hwrong : ¬Service.small.hasher.Opens user.password (utf8 "") :=
    Service.small.hasher.not_opens_nil user.password
  have hhides := signin_hides_registration .small hs huser hother hwrong
  exact ⟨user, huser, hother, hwrong, hverified, hhides.1, hhides.2.2.mpr hverified⟩

/-- An account that is not confirmed answers the empty password in another way. -/
theorem signin_tells_unconfirmed :
    let s := (Service.small.run (.fresh .unbounded) [.at 1 (.signup "a@b" "n" "p")]).2
    s.Reachable ∧
      (∃ user, s.desk.store.tables.registered? "a@b" = some user ∧
        ¬Service.small.hasher.Opens user.password (utf8 "")) ∧
      s.desk.store.tables.registered? "c@d" = none ∧
      (Service.small.signin "c@d" "" s).1 = .error .invalidCredentials ∧
      (Service.small.signin "a@b" "" s).1 = .error .userNotVerified := by
  intro s
  have hs : s.Reachable := Service.run_reachable Service.small_checked .unbounded _
  have hanswers : (s.desk.store.tables.registered? "a@b").isSome = true ∧
      s.desk.store.tables.registered? "c@d" = none ∧
      (Service.small.signin "c@d" "" s).1 = .error .invalidCredentials ∧
      (Service.small.signin "a@b" "" s).1 = .error .userNotVerified := by
    decide +kernel
  obtain ⟨huser, hanswers⟩ := hanswers
  obtain ⟨user, huser⟩ := Option.isSome_iff_exists.mp huser
  exact ⟨hs, ⟨user, huser, Service.small.hasher.not_opens_nil user.password⟩, hanswers⟩

/-! ### Asking for mails -/

namespace Service

theorem mailing_of_accepted {type : TokenType} {name : String}
    (hroom : tables.HasRoomFor (service.tokenFor around type normal))
    (haccepts : ∀ mail, ∃ entries, around.mailer mail = .ok entries) :
    (service.mailing around type normal name tables).answer = .ok () := by
  obtain ⟨entries, haccept⟩ := haccepts
    (Mail.forToken service.site type normal name (service.tokenFor around type normal).value)
  rw [mailing_of_room hroom haccept]
  rfl

/-- On an email that is one, the answer is that of the unit of work. -/
theorem resetPassword_answer {view : View} (hs : s.Shows view)
    (hnormal : normalizeEmail email = .ok normal) :
    (service.resetPassword around email s).1 =
      (service.issuingReset around normal view.tables).answer := by
  have hanswer := (service.resetPassword_ends around email view s hs).1
  rw [hanswer, resetPasswordEnding, hnormal]
  simp only [Except.mapError, Ending.given, View.unit, Work.answer]
  cases (service.issuingReset around normal view.tables).result <;> rfl

theorem resendSignupToken_answer {view : View} (hs : s.Shows view)
    (hnormal : normalizeEmail email = .ok normal) :
    (service.resendSignupToken around email s).1 =
      (service.reissuing around normal view.tables).answer := by
  have hanswer := (service.resendSignupToken_ends around email view s hs).1
  rw [hanswer, resendSignupTokenEnding, hnormal]
  simp only [Except.mapError, Ending.given, View.unit, Work.answer]
  cases (service.reissuing around normal view.tables).result <;> rfl

/-- The two requests are answered alike whoever is unknown. -/
theorem recoveryText_of_unknown (service : Service) (around : Surroundings)
    (hnone : tables.userWithEmail? normal = none) :
    recoveryText (service.issuingReset around normal tables).answer = neutralRecoveryMessage ∧
      recoveryText (service.reissuing around normal tables).answer = neutralRecoveryMessage := by
  simp only [issuingReset, reissuing, hnone]
  exact ⟨rfl, rfl⟩

theorem hasRoomFor_of_fresh
    (hfresh : ∀ token ∈ tables.tokens, token.value ≠ service.ledger.generateValue around.token)
    (type : TokenType) (email : String) :
    tables.HasRoomFor (service.tokenFor around type email) :=
  fun token htoken hvalue => absurd hvalue (hfresh token htoken)

/-- What is shown where the email is known: the neutral text, but for an account that is confirmed
already. -/
theorem recoveryText_of_known (hknown : tables.userWithEmail? normal = some user)
    (haccepts : ∀ mail, ∃ entries, around.mailer mail = .ok entries)
    (hfresh : ∀ token ∈ tables.tokens, token.value ≠ service.ledger.generateValue around.token) :
    recoveryText (service.issuingReset around normal tables).answer = neutralRecoveryMessage ∧
      recoveryText (service.reissuing around normal tables).answer =
        if user.isVerified then ErrorKind.userAlreadyVerified.publicMessage
        else neutralRecoveryMessage := by
  have hroom := fun type => hasRoomFor_of_fresh hfresh type normal
  cases hverified : user.isVerified with
  | false =>
    simp only [issuingReset, reissuing, hknown, hverified]
    exact ⟨rfl, congrArg recoveryText (mailing_of_accepted (hroom .signup) haccepts)⟩
  | true =>
    simp only [issuingReset, reissuing, hknown, hverified, if_true]
    exact ⟨congrArg recoveryText (mailing_of_accepted (hroom .passwordReset) haccepts), rfl⟩

end Service

/-- Of two reachable sessions, the email is unknown in the first and registered in the second, with
a mailer that accepts and a fresh token value. Asking for a password reset shows the same text in
both; so does asking for a confirmation mail, but for an account that is confirmed already. -/
theorem recovery_hides_registration (service : Service) {s₁ s₂ : Session} (hs₁ : s₁.Reachable)
    (hs₂ : s₂.Reachable) (around₁ around₂ : Surroundings) {email normal : String} {user : User}
    (hnormal : normalizeEmail email = .ok normal)
    (hunknown : s₁.desk.store.tables.userWithEmail? normal = none)
    (hknown : s₂.desk.store.tables.userWithEmail? normal = some user)
    (haccepts : ∀ mail, ∃ entries, around₂.mailer mail = .ok entries)
    (hfresh : ∀ token ∈ s₂.desk.store.tables.tokens,
      token.value ≠ service.ledger.generateValue around₂.token) :
    recoveryText (service.resetPassword around₁ email s₁).1 =
        recoveryText (service.resetPassword around₂ email s₂).1 ∧
      (user.isVerified = false →
        recoveryText (service.resendSignupToken around₁ email s₁).1 =
          recoveryText (service.resendSignupToken around₂ email s₂).1) ∧
      (user.isVerified = true →
        recoveryText (service.resendSignupToken around₂ email s₂).1 =
          ErrorKind.userAlreadyVerified.publicMessage) := by
  obtain ⟨hreset₁, hresend₁⟩ := service.recoveryText_of_unknown around₁ hunknown
  obtain ⟨hreset₂, hresend₂⟩ := Service.recoveryText_of_known hknown haccepts hfresh
  rw [Service.resetPassword_answer hs₁.shows hnormal,
    Service.resetPassword_answer hs₂.shows hnormal,
    Service.resendSignupToken_answer hs₁.shows hnormal,
    Service.resendSignupToken_answer hs₂.shows hnormal]
  refine ⟨hreset₁.trans hreset₂.symm, ?_, ?_⟩
  · intro hunverified
    rw [hunverified] at hresend₂
    exact hresend₁.trans hresend₂.symm
  · intro hverified
    rw [hverified] at hresend₂
    exact hresend₂

def Request.crowding : List Request :=
  let newcomer : Request := .at 3 (.signup "c@d" "n" "p")
  { newcomer with around := { newcomer.around with userId := "v" } } :: joining

theorem recovery_hides_joined :
    let around := (Request.at 3 .purgeExpiredTokens).around
    let s₁ := Session.fresh .unbounded
    let s₂ := (Service.small.run (.fresh .unbounded) Request.joining).2
    ∃ user, s₂.desk.store.tables.userWithEmail? "a@b" = some user ∧
      recoveryText (Service.small.resetPassword around "A@b" s₁).1 =
        recoveryText (Service.small.resetPassword around "A@b" s₂).1 ∧
      (user.isVerified = false →
        recoveryText (Service.small.resendSignupToken around "A@b" s₁).1 =
          recoveryText (Service.small.resendSignupToken around "A@b" s₂).1) ∧
      (user.isVerified = true →
        recoveryText (Service.small.resendSignupToken around "A@b" s₂).1 =
          ErrorKind.userAlreadyVerified.publicMessage) := by
  intro around s₁ s₂
  have hs₁ : s₁.Reachable := .fresh .unbounded
  have hs₂ : s₂.Reachable := Service.run_reachable Service.small_checked .unbounded Request.joining
  have htables : normalizeEmail "A@b" = .ok "a@b" ∧
      s₁.desk.store.tables.userWithEmail? "a@b" = none ∧
      (s₂.desk.store.tables.userWithEmail? "a@b").isSome = true ∧
      ∀ token ∈ s₂.desk.store.tables.tokens,
        token.value ≠ Service.small.ledger.generateValue around.token := by
    decide +kernel
  obtain ⟨hnormal, hunknown, hknown, hfresh⟩ := htables
  obtain ⟨user, hknown⟩ := Option.isSome_iff_exists.mp hknown
  have haccepts : ∀ mail, ∃ entries, around.mailer mail = .ok entries := fun mail => ⟨[], rfl⟩
  exact ⟨user, hknown, recovery_hides_registration .small hs₁ hs₂ around around hnormal hunknown
    hknown haccepts hfresh⟩

/-- Asking for a confirmation mail tells a confirmed account from an unknown email. Asking for a
password reset does so if the value that is drawn for the token is another's. -/
theorem recovery_tells_confirmed :
    let around := (Request.at 4 .purgeExpiredTokens).around
    let unknown := Session.fresh .unbounded
    let joined := (Service.small.run (.fresh .unbounded) Request.joining).2
    let crowded := (Service.small.run (.fresh .unbounded) Request.crowding).2
    (unknown.Reachable ∧ unknown.desk.store.tables.userWithEmail? "a@b" = none) ∧
      (joined.Reachable ∧ (joined.desk.store.tables.userWithEmail? "a@b").isSome = true) ∧
      (crowded.Reachable ∧ (crowded.desk.store.tables.userWithEmail? "a@b").isSome = true) ∧
      normalizeEmail "a@b" = .ok "a@b" ∧ (∀ mail, around.mailer mail = .ok []) ∧
      recoveryText (Service.small.resendSignupToken around "a@b" unknown).1 ≠
        recoveryText (Service.small.resendSignupToken around "a@b" joined).1 ∧
      recoveryText (Service.small.resetPassword around "a@b" unknown).1 ≠
        recoveryText (Service.small.resetPassword around "a@b" crowded).1 := by
  intro around unknown joined crowded
  have hreachable := Service.run_reachable Service.small_checked .unbounded
  have htexts : unknown.desk.store.tables.userWithEmail? "a@b" = none ∧
      (joined.desk.store.tables.userWithEmail? "a@b").isSome = true ∧
      (crowded.desk.store.tables.userWithEmail? "a@b").isSome = true ∧
      normalizeEmail "a@b" = .ok "a@b" ∧
      recoveryText (Service.small.resendSignupToken around "a@b" unknown).1 ≠
        recoveryText (Service.small.resendSignupToken around "a@b" joined).1 ∧
      recoveryText (Service.small.resetPassword around "a@b" unknown).1 ≠
        recoveryText (Service.small.resetPassword around "a@b" crowded).1 := by
    decide +kernel
  obtain ⟨hunknown, hjoined, hcrowded, hnormal, hresend, hreset⟩ := htexts
  exact ⟨⟨.fresh .unbounded, hunknown⟩, ⟨hreachable Request.joining, hjoined⟩,
    ⟨hreachable Request.crowding, hcrowded⟩, hnormal, fun _ => rfl, hresend, hreset⟩

end IdentityLifecycle
