import IdentityLifecycle.Proofs.Ending

/-!
# What a call does to the tables

A call that fails leaves the tables as they are. One that succeeds has one of a few effects, each
listed here with all that the service has checked before it.
-/

namespace IdentityLifecycle

namespace Call

def asking (type : TokenType) (email : String) : Call :=
  match type with
  | .signup => .resendSignupToken email
  | .passwordReset => .resetPassword email

def ReadsOnly : Call → Prop
  | signin .. | resetPasswordToken .. | getUser .. | getUserByEmail .. | remember .. => True
  | _ => False

end Call

def TokenType.suits (type : TokenType) (user : User) : Bool :=
  match type with
  | .signup => !user.isVerified
  | .passwordReset => user.isVerified

/-- What a call that succeeds does to the tables before it: its answer, the mails it has handed
over, and the tables after it. -/
inductive Effect (service : Service) (around : Surroundings) (before : Tables) :
    Call → Answer → List Posting → Tables → Prop
  | read {call : Call} {answer : Answer} (hcall : call.ReadsOnly) :
      Effect service around before call answer [] before
  | registered {email name password : String} {user : User}
      (hnew : service.newUser around email name password = .ok user)
      (hemail : before.userWithEmail? user.email = none)
      (hid : before.userWithId? user.id = none)
      (hroom : before.HasRoomFor (service.tokenFor around .signup user.email)) :
      Effect service around before (.signup email name password) .done
        [⟨.forToken service.site .signup user.email user.name
          (service.ledger.generateValue around.token), true⟩]
        ((before.addUser user).replaceToken (service.tokenFor around .signup user.email))
  | issued {email normal : String} {type : TokenType} {user : User}
      (hnormal : normalizeEmail email = .ok normal)
      (huser : before.userWithEmail? normal = some user) (hsuits : type.suits user = true)
      (hroom : before.HasRoomFor (service.tokenFor around type normal)) :
      Effect service around before (.asking type email) .done
        [⟨.forToken service.site type normal user.name
          (service.ledger.generateValue around.token), true⟩]
        (before.replaceToken (service.tokenFor around type normal))
  | confirmed {value : String} {token : Token} {user : User} (hvalue : value ≠ "")
      (htoken : before.liveToken? value .signup around.now = some token)
      (huser : before.userWithEmail? token.email = some user) :
      Effect service around before (.validateSignupToken value)
        (.user (user.stamp around.now).toPublic) []
        ((before.dropTokens (·.value = value)).changeUser token.email (·.stamp around.now))
  | recovered {value password : String} {hashed : HashedPassword} {token : Token} {user : User}
      (hnew : service.newPasswordWithToken around value password before = .ok hashed)
      (htoken : before.liveToken? value .passwordReset around.later = some token)
      (huser : before.userWithEmail? token.email = some user) :
      Effect service around before (.changePasswordWithToken value password)
        (.user (user.withPassword hashed).toPublic) []
        ((before.dropTokens (·.value = value)).changeUser token.email (·.withPassword hashed))
  | changed {email normal password : String} {hashed : HashedPassword} {user : User}
      (hnew : service.newPassword around email password = .ok (normal, hashed))
      (huser : before.userWithEmail? normal = some user) :
      Effect service around before (.changePassword email password) .done []
        ((before.changeUser normal (·.withPassword hashed)).dropTokens
          (·.isFor normal .passwordReset))
  | purged {n : Nat} :
      Effect service around before .purgeExpiredTokens (.count n) []
        (before.dropTokens fun token => !token.isLive around.now)

/-! ### What has been checked -/

namespace Service

variable {service : Service} {around : Surroundings}

theorem newUser_eq_ok {email name password : String} {user : User} :
    service.newUser around email name password = .ok user ↔
      normalizeEmail email = .ok user.email ∧ validateName name = .ok user.name ∧
        validatePassword password = .ok () ∧ service.hashing around password = .ok user.password ∧
        user.id = around.userId ∧ user.verifiedAt = 0 := by
  simp only [newUser, bind_eq_ok, mapError_eq_ok, pure, Except.pure, Except.ok.injEq]
  constructor
  · rintro ⟨normal, hnormal, valid, hvalid, ⟨⟩, hpassword, hashed, hhashed, rfl⟩
    exact ⟨hnormal, hvalid, hpassword, hhashed, rfl, rfl⟩
  · rintro ⟨hnormal, hvalid, hpassword, hhashed, hid, hverified⟩
    refine ⟨_, hnormal, _, hvalid, (), hpassword, _, hhashed, ?_⟩
    rw [User.register, ← hid, ← hverified]

theorem newPassword_eq_ok {email normal password : String} {hashed : HashedPassword} :
    service.newPassword around email password = .ok (normal, hashed) ↔
      normalizeEmail email = .ok normal ∧ validatePassword password = .ok () ∧
        service.hashing around password = .ok hashed := by
  simp only [newPassword, bind_eq_ok, mapError_eq_ok, pure, Except.pure, Except.ok.injEq]
  constructor
  · rintro ⟨_, hnormal, ⟨⟩, hpassword, _, hhashed, ⟨⟩⟩
    exact ⟨hnormal, hpassword, hhashed⟩
  · rintro ⟨hnormal, hpassword, hhashed⟩
    exact ⟨normal, hnormal, (), hpassword, hashed, hhashed, rfl⟩

theorem newPasswordWithToken_eq_ok {value password : String} {hashed : HashedPassword}
    {tables : Tables} :
    service.newPasswordWithToken around value password tables = .ok hashed ↔
      validatePassword password = .ok () ∧ tables.resetGate value around.now = .ok () ∧
        service.hashing around password = .ok hashed := by
  simp only [newPasswordWithToken, bind_eq_ok, mapError_eq_ok]
  constructor
  · rintro ⟨⟨⟩, hpassword, ⟨⟩, hgate, hhashed⟩
    exact ⟨hpassword, hgate, hhashed⟩
  · rintro ⟨hpassword, hgate, hhashed⟩
    exact ⟨(), hpassword, (), hgate, hhashed⟩

end Service

/-! ### Looking users up after a change -/

namespace Tables

variable {tables : Tables}

@[simp] theorem userWithEmail?_dropTokens (drop : Token → Bool) (email : String) :
    (tables.dropTokens drop).userWithEmail? email = tables.userWithEmail? email := rfl

@[simp] theorem userWithEmail?_replaceToken (token : Token) (email : String) :
    (tables.replaceToken token).userWithEmail? email = tables.userWithEmail? email := rfl

theorem userWithEmail?_addUser_self {user : User}
    (hfree : tables.userWithEmail? user.email = none) :
    (tables.addUser user).userWithEmail? user.email = some user := by
  unfold userWithEmail? addUser at *
  rw [List.find?_append, hfree]
  simp

theorem userWithEmail?_addUser_of_ne {user : User} {email : String} (hne : user.email ≠ email) :
    (tables.addUser user).userWithEmail? email = tables.userWithEmail? email := by
  unfold userWithEmail? addUser
  rw [List.find?_append]
  simp [hne]

theorem userWithEmail?_changeUser {change : User → User}
    (hchange : ∀ user, (change user).email = user.email) (email other : String) :
    (tables.changeUser email change).userWithEmail? other =
      (tables.userWithEmail? other).map fun user => if other = email then change user else user := by
  have hkey : ∀ user : User, (if user.email = email then change user else user).email =
      user.email := by
    intro user
    split
    · exact hchange user
    · rfl
  unfold userWithEmail? changeUser
  rw [List.find?_map]
  simp only [Function.comp_def, hkey]
  cases hfound : tables.users.find? (·.email = other) with
  | none => rfl
  | some user =>
    have hother : user.email = other := by simpa using List.find?_some hfound
    simp [hother]

/-- Whoever is changed is found as changed, for the email stays. -/
theorem userWithEmail?_changeUser_self {change : User → User}
    (hchange : ∀ user, (change user).email = user.email) (email : String) :
    (tables.changeUser email change).userWithEmail? email =
      (tables.userWithEmail? email).map change := by
  rw [userWithEmail?_changeUser hchange]
  simp

theorem userWithEmail?_changeUser_of_ne {change : User → User}
    (hchange : ∀ user, (change user).email = user.email) {email other : String}
    (hne : other ≠ email) :
    (tables.changeUser email change).userWithEmail? other = tables.userWithEmail? other := by
  rw [userWithEmail?_changeUser hchange]
  simp [hne]

end Tables

/-! ### Units of work that succeed -/

namespace Service

variable {service : Service} {around : Surroundings} {before after : Tables}

theorem mailing_of_room {type : TokenType} {email name : String} {entries : List Log.Entry}
    (hroom : before.HasRoomFor (service.tokenFor around type email))
    (haccept : around.mailer (.forToken service.site type email name
      (service.ledger.generateValue around.token)) = .ok entries) :
    service.mailing around type email name before = {
      result := .ok ((), before.replaceToken (service.tokenFor around type email))
      postings := [⟨.forToken service.site type email name
        (service.ledger.generateValue around.token), true⟩] } := by
  have haccept' : around.mailer (.forToken service.site type email name
      (service.tokenFor around type email).value) = .ok entries := haccept
  simp only [mailing, hroom, if_true, haccept']
  rfl

/-- What has happened if a token could be issued and mailed. -/
theorem mailing_ok {type : TokenType} {email name : String} {a : Unit}
    (hok : (service.mailing around type email name before).result = .ok (a, after)) :
    before.HasRoomFor (service.tokenFor around type email) ∧
      after = before.replaceToken (service.tokenFor around type email) ∧
      (service.mailing around type email name before).postings =
        [⟨.forToken service.site type email name (service.ledger.generateValue around.token),
          true⟩] := by
  unfold mailing at hok ⊢
  by_cases hroom : before.HasRoomFor (service.tokenFor around type email)
  · simp only [hroom, if_true] at hok ⊢
    split at hok
    · cases hok
      exact ⟨trivial, rfl, rfl⟩
    · cases hok
  · rw [if_neg hroom] at hok
    cases hok

theorem reissuing_ok {email : String} {a : Unit}
    (hok : (service.reissuing around email before).result = .ok (a, after)) :
    ∃ user, before.userWithEmail? email = some user ∧ TokenType.signup.suits user = true ∧
      service.reissuing around email before =
        service.mailing around .signup email user.name before := by
  unfold reissuing at hok ⊢
  cases huser : before.userWithEmail? email with
  | none =>
    rw [huser] at hok
    cases hok
  | some user =>
    rw [huser] at hok
    by_cases hverified : user.isVerified = true
    · simp only [hverified, if_true] at hok
      cases hok
    · exact ⟨user, rfl, by simpa [TokenType.suits] using hverified, if_neg hverified⟩

theorem issuingReset_ok {email : String} {a : Unit}
    (hok : (service.issuingReset around email before).result = .ok (a, after)) :
    ∃ user, before.userWithEmail? email = some user ∧ TokenType.passwordReset.suits user = true ∧
      service.issuingReset around email before =
        service.mailing around .passwordReset email user.name before := by
  unfold issuingReset at hok ⊢
  cases huser : before.userWithEmail? email with
  | none =>
    rw [huser] at hok
    cases hok
  | some user =>
    rw [huser] at hok
    by_cases hverified : user.isVerified = true
    · exact ⟨user, rfl, hverified, if_pos hverified⟩
    · simp only [hverified] at hok
      cases hok

section Redeeming

variable {value : String} {type : TokenType} {now : Instant} {change : User → User} {token : Token}

theorem redeeming_of_none (change : User → User) (orphaned : IdentityError)
    (hdead : before.liveToken? value type now = none) :
    redeeming value type now change orphaned before = .fail .invalidToken := by
  rw [redeeming, hdead]

theorem redeeming_of_orphan (hchange : ∀ user, (change user).email = user.email)
    (orphaned : IdentityError) (hlive : before.liveToken? value type now = some token)
    (hnone : before.userWithEmail? token.email = none) :
    redeeming value type now change orphaned before = .fail orphaned := by
  rw [redeeming, hlive]
  simp only [Tables.userWithEmail?_changeUser_self hchange, Tables.userWithEmail?_dropTokens, hnone,
    Option.map_none]

theorem redeeming_of_owner {user : User} (hchange : ∀ user, (change user).email = user.email)
    (orphaned : IdentityError) (hlive : before.liveToken? value type now = some token)
    (huser : before.userWithEmail? token.email = some user) :
    redeeming value type now change orphaned before =
      .done (change user)
        ((before.dropTokens (·.value = value)).changeUser token.email change) := by
  obtain ⟨-, hvalue, -, -⟩ := Tables.of_liveToken?_eq_some hlive
  rw [redeeming, hlive]
  simp only [Tables.userWithEmail?_changeUser_self hchange, Tables.userWithEmail?_dropTokens, huser,
    Option.map_some, hvalue]

/-- What has happened if a token could be redeemed. -/
theorem redeeming_ok {orphaned : IdentityError} {changed : User}
    (hchange : ∀ user, (change user).email = user.email)
    (hok : (redeeming value type now change orphaned before).result = .ok (changed, after)) :
    ∃ token user, before.liveToken? value type now = some token ∧
      before.userWithEmail? token.email = some user ∧ changed = change user ∧
      after = (before.dropTokens (·.value = value)).changeUser token.email change ∧
      (redeeming value type now change orphaned before).postings = [] := by
  cases htoken : before.liveToken? value type now with
  | none =>
    rw [redeeming_of_none change orphaned htoken] at hok
    cases hok
  | some token =>
    cases huser : before.userWithEmail? token.email with
    | none =>
      rw [redeeming_of_orphan hchange orphaned htoken huser] at hok
      cases hok
    | some user =>
      rw [redeeming_of_owner hchange orphaned htoken huser] at hok ⊢
      cases hok
      exact ⟨token, user, rfl, huser, rfl, rfl, rfl⟩

end Redeeming

theorem replacing_of_none {email : String} (hashed : HashedPassword)
    (hnone : before.userWithEmail? email = none) :
    replacing email hashed before = .fail .emailNotFound := by
  unfold replacing
  simp only [Tables.userWithEmail?_changeUser_self (fun user => user.withPassword_email hashed),
    hnone, Option.map_none]

theorem replacing_of_user {email : String} {user : User} (hashed : HashedPassword)
    (huser : before.userWithEmail? email = some user) :
    replacing email hashed before =
      .done (user.withPassword hashed)
        ((before.changeUser email (·.withPassword hashed)).dropTokens
          (·.isFor email .passwordReset)) := by
  unfold replacing
  simp only [Tables.userWithEmail?_changeUser_self (fun user => user.withPassword_email hashed),
    huser, Option.map_some]

/-- What has happened if a password could be replaced. -/
theorem replacing_ok {email : String} {hashed : HashedPassword} {changed : User}
    (hok : (replacing email hashed before).result = .ok (changed, after)) :
    ∃ user, before.userWithEmail? email = some user ∧ changed = user.withPassword hashed ∧
      after = (before.changeUser email (·.withPassword hashed)).dropTokens
        (·.isFor email .passwordReset) ∧
      (replacing email hashed before).postings = [] := by
  cases huser : before.userWithEmail? email with
  | none =>
    rw [replacing_of_none hashed huser] at hok
    cases hok
  | some user =>
    rw [replacing_of_user hashed huser] at hok ⊢
    cases hok
    exact ⟨user, rfl, rfl, rfl, rfl⟩

end Service

/-! ### Endings with an effect -/

namespace Ending

variable {α β : Type} {view : View}

structure Has (ending : Ending α) (view : View) (effect : α → List Posting → Tables → Prop) :
    Prop where
  failed : ∀ e, ending.1 = .error e → ending.2.tables = view.tables
  done : ∀ a, ending.1 = .ok a →
    ∃ mails, ending.2.postings = view.postings ++ mails ∧ effect a mails ending.2.tables

theorem Has.map {ending : Ending α} {f : α → β} {effect : β → List Posting → Tables → Prop}
    (h : ending.Has view fun a => effect (f a)) : (ending.map f).Has view effect := by
  obtain ⟨outcome, after⟩ := ending
  constructor
  · intro e he
    cases outcome with
    | error e' => exact h.failed e' rfl
    | ok a => cases he
  · intro b hb
    cases outcome with
    | error e' => cases hb
    | ok a =>
      cases hb
      exact h.done a rfl

theorem Has.given {checks : Except IdentityError α} {next : α → Ending β}
    {effect : β → List Posting → Tables → Prop}
    (hnext : ∀ a, checks = .ok a → (next a).Has view effect) :
    (Ending.given checks view next).Has view effect := by
  cases checks with
  | error e => exact ⟨fun _ _ => rfl, fun _ ha => by cases ha⟩
  | ok a => exact hnext a rfl

/-- A call that is one unit of work has the effect of the unit. -/
theorem Has.unit {work : Work α} {answer : α → β} {refresh : α → Cache → Cache}
    {effect : β → List Posting → Tables → Prop}
    (hwork : ∀ a after, work.result = .ok (a, after) → effect (answer a) work.postings after) :
    (view.unit work answer refresh).Has view effect := by
  unfold View.unit
  cases hresult : work.result with
  | error e => exact ⟨fun _ _ => rfl, fun _ ha => by cases ha⟩
  | ok result =>
    constructor
    · intro e he
      cases he
    · intro b hb
      cases hb
      exact ⟨work.postings, rfl, hwork _ _ hresult⟩

/-- An ending that changes nothing but the cache. -/
theorem Has.cached {ending : Ending α} {effect : α → List Posting → Tables → Prop}
    (htables : ending.2.tables = view.tables) (hpostings : ending.2.postings = view.postings)
    (heffect : ∀ a, effect a [] view.tables) : ending.Has view effect := by
  refine ⟨fun _ _ => htables, fun a _ => ⟨[], ?_, ?_⟩⟩
  · rw [hpostings, List.append_nil]
  · rw [htables]
    exact heffect a

end Ending

theorem View.read_tables (view : View) (user : User) :
    (view.read user).2.tables = view.tables ∧ (view.read user).2.postings = view.postings :=
  ⟨rfl, rfl⟩

theorem View.lookUp_tables (view : View) (key : IdentityKey) (found : Option User) :
    (view.lookUp key found).2.tables = view.tables ∧
      (view.lookUp key found).2.postings = view.postings := by
  unfold lookUp
  split
  · exact ⟨rfl, rfl⟩
  · split
    · exact ⟨rfl, rfl⟩
    · exact view.read_tables _

namespace Service

variable (service : Service) (around : Surroundings)

theorem signup_effect (email name password : String) (view : View) :
    (service.signupEnding around email name password view).Has view fun _ =>
      Effect service around view.tables (.signup email name password) .done := by
  refine .given fun user hnew => .unit fun _ after hok => ?_
  by_cases htaken :
      view.tables.userWithEmail? user.email ≠ none ∨ view.tables.userWithId? user.id ≠ none
  · rw [service.registering_of_taken around htaken] at hok
    cases hok
  · simp only [ne_eq, not_or, Decidable.not_not] at htaken
    obtain ⟨hemail, hid⟩ := htaken
    rw [service.registering_of_free around hemail hid] at hok ⊢
    obtain ⟨hroom, rfl, hpostings⟩ := mailing_ok hok
    rw [hpostings]
    exact .registered hnew hemail hid hroom

theorem resendSignupToken_effect (email : String) (view : View) :
    (service.resendSignupTokenEnding around email view).Has view fun _ =>
      Effect service around view.tables (.resendSignupToken email) .done := by
  refine .given fun normal hnormal => .unit fun _ after hok => ?_
  obtain ⟨user, huser, hsuits, hwork⟩ := reissuing_ok hok
  rw [hwork] at hok ⊢
  obtain ⟨hroom, rfl, hpostings⟩ := mailing_ok hok
  rw [hpostings]
  exact Effect.issued (mapError_eq_ok.mp hnormal) huser hsuits hroom

theorem resetPassword_effect (email : String) (view : View) :
    (service.resetPasswordEnding around email view).Has view fun _ =>
      Effect service around view.tables (.resetPassword email) .done := by
  refine .given fun normal hnormal => .unit fun _ after hok => ?_
  obtain ⟨user, huser, hsuits, hwork⟩ := issuingReset_ok hok
  rw [hwork] at hok ⊢
  obtain ⟨hroom, rfl, hpostings⟩ := mailing_ok hok
  rw [hpostings]
  exact Effect.issued (mapError_eq_ok.mp hnormal) huser hsuits hroom

theorem validateSignupToken_effect (value : String) (view : View) :
    (validateSignupTokenEnding around value view).Has view fun user =>
      Effect service around view.tables (.validateSignupToken value) (.user user) := by
  unfold validateSignupTokenEnding
  by_cases hvalue : value = ""
  · rw [if_pos hvalue]
    exact ⟨fun _ _ => rfl, fun _ ha => by cases ha⟩
  · rw [if_neg hvalue]
    refine .unit fun changed after hok => ?_
    obtain ⟨token, user, htoken, huser, rfl, rfl, hpostings⟩ := redeeming_ok (by simp) hok
    rw [hpostings]
    exact .confirmed hvalue htoken huser

theorem changePasswordWithToken_effect (value password : String) (view : View) :
    (service.changePasswordWithTokenEnding around value password view).Has view fun user =>
      Effect service around view.tables (.changePasswordWithToken value password)
        (.user user) := by
  refine .given fun hashed hnew => .unit fun changed after hok => ?_
  obtain ⟨token, user, htoken, huser, rfl, rfl, hpostings⟩ :=
    redeeming_ok (fun user => user.withPassword_email hashed) hok
  rw [hpostings]
  exact .recovered hnew htoken huser

theorem changePassword_effect (email password : String) (view : View) :
    (service.changePasswordEnding around email password view).Has view fun _ =>
      Effect service around view.tables (.changePassword email password) .done := by
  refine .given fun (normal, hashed) hnew => .unit fun changed after hok => ?_
  obtain ⟨user, huser, -, rfl, hpostings⟩ := replacing_ok hok
  rw [hpostings]
  exact .changed hnew huser

end Service

/-- A call that fails leaves the tables, and one that succeeds has one of the listed effects. -/
theorem Call.ending_effect (service : Service) (around : Surroundings) (call : Call) (view : View) :
    (call.ending service around view).Has view (Effect service around view.tables call) := by
  cases call with
  | signup email name password => exact (service.signup_effect around email name password view).map
  | signin email password =>
    refine .map (.given fun user _ => ?_)
    obtain ⟨htables, hpostings⟩ := view.read_tables user
    exact .cached htables hpostings fun _ => .read trivial
  | resendSignupToken email => exact (service.resendSignupToken_effect around email view).map
  | validateSignupToken token =>
    exact (service.validateSignupToken_effect around token view).map
  | resetPassword email => exact (service.resetPassword_effect around email view).map
  | resetPasswordToken token => exact .map (.cached rfl rfl fun _ => .read trivial)
  | changePasswordWithToken token password =>
    exact (service.changePasswordWithToken_effect around token password view).map
  | changePassword email password =>
    exact (service.changePassword_effect around email password view).map
  | getUser id =>
    obtain ⟨htables, hpostings⟩ := view.lookUp_tables (.id id) (view.tables.userWithId? id)
    exact .map (.cached htables hpostings fun _ => .read trivial)
  | getUserByEmail email =>
    refine .map (.given fun normal _ => ?_)
    obtain ⟨htables, hpostings⟩ :=
      view.lookUp_tables (.email normal) (view.tables.userWithEmail? normal)
    exact .cached htables hpostings fun _ => .read trivial
  | remember user => exact .cached rfl rfl fun _ => .read trivial
  | purgeExpiredTokens => exact .map (.unit fun n after hok => by cases hok; exact .purged)

/-- The tables that a call leaves are the same or come from one of its effects. -/
theorem Call.ending_tables (service : Service) (around : Surroundings) (call : Call) (view : View) :
    (call.ending service around view).2.tables = view.tables ∨
      ∃ answer mails, Effect service around view.tables call answer mails
        (call.ending service around view).2.tables := by
  have heffect := call.ending_effect service around view
  cases hanswer : (call.ending service around view).1 with
  | error e => exact .inl (heffect.failed e hanswer)
  | ok answer =>
    obtain ⟨mails, -, heffect⟩ := heffect.done answer hanswer
    exact .inr ⟨answer, mails, heffect⟩

end IdentityLifecycle
