import IdentityLifecycle.Proofs.Tidy

/-!
# What remains of a request and of the tables without their secrets

Secrets are the passwords, with what is derived from them, and the values of tokens. What is left
once they are blanked changes on its own: a call leaves public rows that its public part and its
answer determine.
-/

namespace IdentityLifecycle

/-! ### Blanked values -/

def User.masked (user : User) : User := { user with password := ⟨[], []⟩ }

def Token.masked (token : Token) : Token := { token with value := "" }

def Tables.masked (tables : Tables) : Tables where
  users := tables.users.map User.masked
  tokens := tables.tokens.map Token.masked

def Call.masked : Call → Call
  | signup email name _ => signup email name ""
  | signin email _ => signin email ""
  | validateSignupToken _ => validateSignupToken ""
  | resetPasswordToken _ => resetPasswordToken ""
  | changePasswordWithToken _ _ => changePasswordWithToken "" ""
  | changePassword email _ => changePassword email ""
  | call => call

/-- Without the random bytes that salts and token values are made from. -/
def Surroundings.masked (around : Surroundings) : Surroundings :=
  { around with salt := fun _ => 0, token := fun _ => 0 }

def Request.masked (request : Request) : Request :=
  ⟨request.call.masked, request.around.masked⟩

@[simp] theorem User.masked_email (user : User) : user.masked.email = user.email := rfl

theorem User.masked_stamp (user : User) (now : Instant) :
    (user.stamp now).masked = user.masked.stamp now := by
  by_cases h : user.verifiedAt = 0
  · simp [stamp, masked, h]
  · simp [stamp, masked, h]

@[simp] theorem Token.masked_isFor (token : Token) (email : String) (type : TokenType) :
    token.masked.isFor email type = token.isFor email type := rfl

/-! ### Public rows -/

namespace Tables

variable (tables : Tables)

theorem masked_userWithEmail? (email : String) :
    tables.masked.userWithEmail? email = (tables.userWithEmail? email).map User.masked := by
  unfold userWithEmail? masked
  rw [List.find?_map]
  rfl

theorem masked_countP {p : Token → Bool} (hp : ∀ token, p token.masked = p token) :
    tables.masked.tokens.countP p = tables.tokens.countP p := by
  unfold masked
  rw [List.countP_map, Function.comp_def]
  simp only [hp]

theorem masked_addUser (user : User) :
    (tables.addUser user).masked = tables.masked.addUser user.masked := by
  simp [masked, addUser]

theorem masked_dropTokens (drop : Token → Bool) (hdrop : ∀ token, drop token.masked = drop token) :
    (tables.dropTokens drop).masked = tables.masked.dropTokens drop := by
  simp only [masked, dropTokens, List.filter_map, Function.comp_def, hdrop]

theorem masked_replaceToken (new : Token) :
    (tables.replaceToken new).masked = tables.masked.replaceToken new.masked := by
  simp only [masked, replaceToken, addToken, dropTokens, List.map_append, List.filter_map,
    Function.comp_def, Token.masked_isFor]
  rfl

theorem masked_changeUser (email : String) {change : User → User} (change' : User → User)
    (hchange : ∀ user, (change user).masked = change' user.masked) :
    (tables.changeUser email change).masked = tables.masked.changeUser email change' := by
  simp only [masked, changeUser, List.map_map, Function.comp_def, User.masked_email, ← hchange,
    apply_ite User.masked]

theorem masked_withPassword (email : String) (hashed : HashedPassword) :
    (tables.changeUser email (·.withPassword hashed)).masked = tables.masked := by
  have hsame : ∀ user : User, (user.withPassword hashed).masked = id user.masked := fun _ => rfl
  rw [tables.masked_changeUser email id hsame, changeUser]
  simp

variable {tables}

/-- Among tidy tokens a value stands for its slot. -/
theorem Tidy.dropTokens_value (h : tables.Tidy) {token : Token} (htoken : token ∈ tables.tokens) :
    tables.dropTokens (·.value = token.value) =
      tables.dropTokens (·.isFor token.email token.type) := by
  unfold Tables.dropTokens
  congr 1
  refine List.filter_congr fun other hother => congrArg Bool.not ?_
  rw [Bool.eq_iff_iff, decide_eq_true_eq, Token.isFor_iff]
  constructor
  · intro hvalue
    rw [h.value_unique hother htoken hvalue]
    exact ⟨rfl, rfl⟩
  · rintro ⟨hemail, htype⟩
    rw [h.slot_unique hother htoken hemail htype]

end Tables

/-! ### How public rows change -/

def Service.blankToken (service : Service) (now : Instant) (type : TokenType) (email : String) :
    Token :=
  { value := "", type, email, expiresAt := now.after (service.ledger.lifetime type) }

theorem Service.masked_tokenFor (service : Service) (around : Surroundings) (type : TokenType)
    (email : String) :
    (service.tokenFor around type email).masked = service.blankToken around.now type email := rfl

/-- The public rows that a call leaves, by its public part and its answer. -/
def Call.leaves (service : Service) (around : Surroundings) (rows : Tables) :
    Call → Except IdentityError Answer → Tables
  | _, .error _ => rows
  | signup email name _, .ok _ =>
    match normalizeEmail email, validateName name with
    | .ok email, .ok name =>
      (rows.addUser (User.register around.userId email name ⟨[], []⟩)).replaceToken
        (service.blankToken around.now .signup email)
    | _, _ => rows
  | resendSignupToken email, .ok _ => issues .signup email
  | resetPassword email, .ok _ => issues .passwordReset email
  | validateSignupToken _, .ok (.user user) =>
    (rows.dropTokens (·.isFor user.email .signup)).changeUser user.email (·.stamp around.now)
  | changePasswordWithToken _ _, .ok (.user user) =>
    rows.dropTokens (·.isFor user.email .passwordReset)
  | changePassword email _, .ok _ =>
    match normalizeEmail email with
    | .ok email => rows.dropTokens (·.isFor email .passwordReset)
    | .error _ => rows
  | purgeExpiredTokens, .ok _ => rows.dropTokens fun token => !token.isLive around.now
  | _, .ok _ => rows
where
  issues (type : TokenType) (email : String) : Tables :=
    match normalizeEmail email with
    | .ok email => rows.replaceToken (service.blankToken around.now type email)
    | .error _ => rows

namespace Call

variable (service : Service) (around : Surroundings) (rows : Tables)

/-- The public rows that a call leaves do not depend on what is masked. -/
theorem leaves_masked (call : Call) (answer : Except IdentityError Answer) :
    call.masked.leaves service around.masked rows answer =
      call.leaves service around rows answer := by
  rcases answer with e | (_ | user | n)
  all_goals cases call <;> simp only [masked, Surroundings.masked, leaves, leaves.issues]

theorem leaves_error (call : Call) (e : IdentityError) :
    call.leaves service around rows (.error e) = rows := by
  cases call <;> rfl

theorem leaves_of_readsOnly {call : Call} (hcall : call.ReadsOnly) (answer : Answer) :
    call.leaves service around rows (.ok answer) = rows := by
  cases call with
  | signin email password => rfl
  | resetPasswordToken value => rfl
  | getUser id => rfl
  | getUserByEmail email => rfl
  | remember user => rfl
  | _ => cases hcall

end Call

/-- What a call that succeeds leaves of public rows depends on public rows and its answer only. -/
theorem Effect.masked {service : Service} {around : Surroundings} {before after : Tables}
    {call : Call} {answer : Answer} {mails : List Posting}
    (heffect : Effect service around before call answer mails after) (h : before.Tidy) :
    after.masked = call.leaves service around before.masked (.ok answer) := by
  cases heffect with
  | read hcall => exact (Call.leaves_of_readsOnly service around _ hcall _).symm
  | @registered email name password user hnew hemail hid hroom =>
    obtain ⟨hnormal, hvalid, -, -, hid, hverified⟩ := Service.newUser_eq_ok.mp hnew
    have huser : user.masked = User.register around.userId user.email user.name ⟨[], []⟩ := by
      simp [User.masked, User.register, ← hid, ← hverified]
    rw [Tables.masked_replaceToken, Tables.masked_addUser, huser, service.masked_tokenFor]
    simp only [Call.leaves, hnormal, hvalid]
  | @issued email normal type user hnormal huser hsuits hroom =>
    rw [Tables.masked_replaceToken, service.masked_tokenFor]
    cases type with
    | signup => simp only [Call.asking, Call.leaves, Call.leaves.issues, hnormal]
    | passwordReset => simp only [Call.asking, Call.leaves, Call.leaves.issues, hnormal]
  | @confirmed value token user hvalue htoken huser =>
    obtain ⟨hmem, rfl, htype, -⟩ := Tables.of_liveToken?_eq_some htoken
    obtain ⟨-, hemail⟩ := Tables.of_userWithEmail?_eq_some huser
    rw [Tables.masked_changeUser _ _ (·.stamp around.now) (fun user => user.masked_stamp _),
      h.dropTokens_value hmem, Tables.masked_dropTokens _ _ (fun _ => rfl), htype, ← hemail]
    simp only [Call.leaves, User.toPublic, User.stamp_email]
  | @recovered value password hashed token user hnew htoken huser =>
    obtain ⟨hmem, rfl, htype, -⟩ := Tables.of_liveToken?_eq_some htoken
    obtain ⟨-, hemail⟩ := Tables.of_userWithEmail?_eq_some huser
    rw [Tables.masked_withPassword, h.dropTokens_value hmem,
      Tables.masked_dropTokens _ _ (fun _ => rfl), htype, ← hemail]
    rfl
  | @changed email normal password hashed user hnew huser =>
    obtain ⟨hnormal, -, -⟩ := Service.newPassword_eq_ok.mp hnew
    rw [Tables.masked_dropTokens _ _ (fun _ => rfl), Tables.masked_withPassword]
    simp only [Call.leaves, hnormal]
  | purged => exact Tables.masked_dropTokens _ _ fun _ => rfl

/-- So does what any call leaves. -/
theorem Call.ending_masked (service : Service) (around : Surroundings) (call : Call) {view : View}
    (h : view.tables.Tidy) :
    (call.ending service around view).2.tables.masked =
      call.leaves service around view.tables.masked (call.ending service around view).1 := by
  have heffect := call.ending_effect service around view
  cases hanswer : (call.ending service around view).1 with
  | error e => rw [heffect.failed e hanswer, call.leaves_error]
  | ok answer =>
    obtain ⟨mails, -, heffect⟩ := heffect.done answer hanswer
    exact heffect.masked h

end IdentityLifecycle
