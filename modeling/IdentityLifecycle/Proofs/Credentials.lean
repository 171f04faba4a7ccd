import IdentityLifecycle.Proofs.Hashing
import IdentityLifecycle.Proofs.Sound

/-!
# Which password signs in

The events of a run say which passwords sign in to an account: those with the same key as the
password that the account was last given, once the account has been confirmed.
-/

namespace IdentityLifecycle

def Call.password? : Call → Option String
  | signup _ _ password => some password
  | changePasswordWithToken _ password => some password
  | changePassword _ password => some password
  | _ => none

namespace Event

def Registers (event : Event) (account : String) : Prop :=
  event.account? = some account ∧
    ∃ email name password, event.request.call = .signup email name password

def Confirms (event : Event) (account : String) : Prop :=
  event.account? = some account ∧ ∃ token, event.request.call = .validateSignupToken token

def credential? (event : Event) (account : String) : Option (String × ByteSource) :=
  if event.account? = some account then
    event.request.call.password?.map fun password => (password, event.request.around.salt)
  else none

end Event

/-- The password that an account was last given. -/
def lastCredential? (events : List Event) (account : String) : Option (String × ByteSource) :=
  events.findSome? (·.credential? account)

def Service.keyOf (service : Service) (password : String) (random : ByteSource) :
    Except HashError Bytes :=
  service.hasher.derive (utf8 password) (random.take service.hasher.saltLength)

/-- By these events, the password signs in to the account. -/
structure Admits (service : Service) (events : List Event) (account password : String) : Prop where
  registered : ∃ event ∈ events, event.Registers account
  confirmed : ∃ event ∈ events, event.Confirms account
  nonempty : password ≠ ""
  sameKey : ∃ given random, lastCredential? events account = some (given, random) ∧
    service.keyOf password random = service.keyOf given random

/-- What the events say of an account is true of the stored user. -/
structure Mirrors (service : Service) (events : List Event) (account : String)
    (stored : Option User) : Prop where
  registered : (∃ event ∈ events, event.Registers account) ↔ ∃ user, stored = some user
  confirmed : (∃ event ∈ events, event.Confirms account) ↔
    ∃ user, stored = some user ∧ user.isVerified = true
  credential : ∀ user, stored = some user → ∃ given random,
    lastCredential? events account = some (given, random) ∧
      service.hasher.generateHash (utf8 given) none random = .ok user.password

variable {service : Service} {around : Surroundings} {before after : Tables} {events : List Event}
  {account : String}

/-! ### Events that leave an account as it is -/

structure Event.Passes (event : Event) (account : String) : Prop where
  registers : ¬event.Registers account
  confirms : ¬event.Confirms account
  credential : event.credential? account = none

theorem Event.passes_of_ne {event : Event} (hother : event.account? ≠ some account) :
    event.Passes account :=
  ⟨fun h => hother h.1, fun h => hother h.1, if_neg hother⟩

theorem Event.passes_of_call {event : Event} (hpassword : event.request.call.password? = none)
    (hcall : ∀ token, event.request.call ≠ .validateSignupToken token) : event.Passes account := by
  refine ⟨?_, ?_, ?_⟩
  · rintro ⟨-, email, name, password, hsignup⟩
    rw [hsignup] at hpassword
    cases hpassword
  · rintro ⟨-, token, hvalidate⟩
    exact hcall token hvalidate
  · rw [credential?, hpassword]
    exact ite_self none

theorem lastCredential?_cons (event : Event) (events : List Event) (account : String) :
    lastCredential? (event :: events) account =
      (event.credential? account).or (lastCredential? events account) := by
  unfold lastCredential?
  rw [List.findSome?_cons]
  cases event.credential? account <;> rfl

/-- An event that has nothing to do with the account leaves its password. -/
theorem lastCredential?_of_passes {event : Event} (hpasses : event.Passes account) :
    lastCredential? (event :: events) account = lastCredential? events account := by
  rw [lastCredential?_cons, hpasses.credential]
  rfl

theorem admits_cons_of_passes {event : Event} {password : String} (hpasses : event.Passes account) :
    Admits service (event :: events) account password ↔ Admits service events account password := by
  constructor
  · intro h
    have hregistered := (List.exists_mem_cons_iff _ _ _).mp h.registered
    have hconfirmed := (List.exists_mem_cons_iff _ _ _).mp h.confirmed
    have hkey := h.sameKey
    rw [lastCredential?_of_passes hpasses] at hkey
    exact ⟨hregistered.resolve_left hpasses.registers, hconfirmed.resolve_left hpasses.confirms,
      h.nonempty, hkey⟩
  · intro h
    have hkey := h.sameKey
    rw [← lastCredential?_of_passes hpasses] at hkey
    exact ⟨(List.exists_mem_cons_iff _ _ _).mpr (.inr h.registered),
      (List.exists_mem_cons_iff _ _ _).mpr (.inr h.confirmed), h.nonempty, hkey⟩

theorem Mirrors.cons_of_passes {event : Event} {stored : Option User}
    (h : Mirrors service events account stored) (hpasses : event.Passes account) :
    Mirrors service (event :: events) account stored := by
  refine ⟨?_, ?_, ?_⟩
  · rw [List.exists_mem_cons_iff, or_iff_right hpasses.registers]
    exact h.registered
  · rw [List.exists_mem_cons_iff, or_iff_right hpasses.confirms]
    exact h.confirmed
  · rw [lastCredential?_of_passes hpasses]
    exact h.credential

/-! ### No effect breaks the likeness -/

theorem mirrors_nil (service : Service) (account : String) : Mirrors service [] account none where
  registered := by simp
  confirmed := by simp
  credential := by simp

theorem Service.hashing_eq_ok {given : String} {hashed : HashedPassword} :
    service.hashing around given = .ok hashed ↔
      service.hasher.generateHash (utf8 given) none around.salt = .ok hashed :=
  mapError_eq_ok

/-- The first event about an account registers it. -/
theorem Mirrors.cons_of_registers {event : Event} {given : String} {user : User}
    (h : Mirrors service events account none) (hregisters : event.Registers account)
    (hgiven : event.request.call.password? = some given) (hunverified : user.isVerified = false)
    (hhashed : service.hashing event.request.around given = .ok user.password) :
    Mirrors service (event :: events) account (some user) := by
  obtain ⟨haccount, email, name, password, hcall⟩ := hregisters
  have hconfirms : ¬event.Confirms account := by
    rintro ⟨-, token, hvalidate⟩
    rw [hcall] at hvalidate
    cases hvalidate
  have hearlier : ¬∃ earlier ∈ events, earlier.Confirms account := by
    intro hconfirmed
    obtain ⟨_, hnone, -⟩ := h.confirmed.mp hconfirmed
    cases hnone
  refine ⟨?_, ?_, ?_⟩
  · have hfirst : ∃ other ∈ event :: events, other.Registers account :=
      ⟨event, List.mem_cons_self, haccount, email, name, password, hcall⟩
    exact iff_of_true hfirst ⟨user, rfl⟩
  · rw [List.exists_mem_cons_iff, or_iff_right hconfirms]
    refine iff_of_false hearlier ?_
    rintro ⟨_, ⟨⟩, hverified⟩
    rw [hunverified] at hverified
    cases hverified
  · rintro _ ⟨⟩
    refine ⟨given, event.request.around.salt, ?_, Service.hashing_eq_ok.mp hhashed⟩
    rw [lastCredential?_cons, Event.credential?, if_pos haccount, hgiven]
    rfl

theorem Mirrors.cons_of_confirms {event : Event} {user : User} {now : Instant} (hnow : 0 < now)
    (hnonneg : 0 ≤ user.verifiedAt) (h : Mirrors service events account (some user))
    (hconfirms : event.Confirms account) :
    Mirrors service (event :: events) account (some (user.stamp now)) := by
  obtain ⟨haccount, token, hcall⟩ := hconfirms
  have hregisters : ¬event.Registers account := by
    rintro ⟨-, email, name, password, hsignup⟩
    rw [hcall] at hsignup
    cases hsignup
  have hverified := User.stamp_isVerified hnow hnonneg
  refine ⟨?_, ?_, ?_⟩
  · rw [List.exists_mem_cons_iff, or_iff_right hregisters, h.registered]
    simp
  · have hfirst : ∃ other ∈ event :: events, other.Confirms account :=
      ⟨event, List.mem_cons_self, haccount, token, hcall⟩
    exact iff_of_true hfirst ⟨_, rfl, hverified⟩
  · rintro _ ⟨⟩
    rw [lastCredential?_cons, Event.credential?, if_pos haccount, hcall, User.stamp_password]
    exact h.credential user rfl

/-- After an event that gives the account a password, that is the one to sign in with. -/
theorem Mirrors.cons_of_given {event : Event} {given : String} {user : User}
    {hashed : HashedPassword} (h : Mirrors service events account (some user))
    (haccount : event.account? = some account)
    (hgiven : event.request.call.password? = some given) (hregisters : ¬event.Registers account)
    (hconfirms : ¬event.Confirms account)
    (hhashed : service.hashing event.request.around given = .ok hashed) :
    Mirrors service (event :: events) account (some (user.withPassword hashed)) := by
  refine ⟨?_, ?_, ?_⟩
  · rw [List.exists_mem_cons_iff, or_iff_right hregisters, h.registered]
    simp
  · rw [List.exists_mem_cons_iff, or_iff_right hconfirms, h.confirmed]
    simp [User.isVerified, User.withPassword]
  · rintro _ ⟨⟩
    refine ⟨given, event.request.around.salt, ?_, Service.hashing_eq_ok.mp hhashed⟩
    rw [lastCredential?_cons, Event.credential?, if_pos haccount, hgiven]
    rfl

/-- An event about one account, whose user it changes. -/
theorem Mirrors.cons_of_change {event : Event} {tables : Tables} {changed : String} {user : User}
    {change : User → User} (h : Mirrors service events account (tables.userWithEmail? account))
    (hkeep : ∀ user, (change user).email = user.email) (haccount : event.account? = some changed)
    (huser : tables.userWithEmail? changed = some user)
    (hchange : Mirrors service events changed (some user) →
      Mirrors service (event :: events) changed (some (change user))) :
    Mirrors service (event :: events) account
      ((tables.changeUser changed change).userWithEmail? account) := by
  by_cases hsame : account = changed
  · subst hsame
    rw [huser] at h
    rw [Tables.userWithEmail?_changeUser_self hkeep, huser]
    exact hchange h
  · rw [Tables.userWithEmail?_changeUser_of_ne hkeep hsame]
    refine h.cons_of_passes (Event.passes_of_ne ?_)
    exact fun hother => hsame (Option.some.inj (hother.symm.trans haccount))

/-- Step of the simulation: after a call that has succeeded, the events still say what is stored. -/
theorem Effect.mirrors {call : Call} {answer : Answer} {mails : List Posting}
    (heffect : Effect service around before call answer mails after) (hsound : before.Sound)
    (hnow : 0 < around.now)
    (h : Mirrors service events account (before.userWithEmail? account)) :
    Mirrors service (⟨⟨call, around⟩, .ok answer, mails⟩ :: events) account
      (after.userWithEmail? account) := by
  cases heffect with
  | read hcall =>
    refine h.cons_of_passes (Event.passes_of_call ?_ ?_)
    · cases call <;> first | rfl | cases hcall
    · rintro token ⟨⟩
      cases hcall
  | @registered email name password user hnew hemail hid hroom =>
    obtain ⟨hnormal, -, -, hhashed, -, hverified⟩ := Service.newUser_eq_ok.mp hnew
    have haccount : (normalizeEmail email).toOption = some user.email :=
      congrArg Except.toOption hnormal
    have hunverified : user.isVerified = false := by
      rw [User.isVerified, hverified]
      rfl
    rw [Tables.userWithEmail?_replaceToken]
    by_cases hsame : user.email = account
    · subst hsame
      rw [hemail] at h
      rw [Tables.userWithEmail?_addUser_self hemail]
      exact h.cons_of_registers ⟨haccount, email, name, password, rfl⟩ rfl hunverified hhashed
    · rw [Tables.userWithEmail?_addUser_of_ne hsame]
      refine h.cons_of_passes (Event.passes_of_ne ?_)
      exact fun hother => hsame (Option.some.inj (haccount.symm.trans hother))
  | @issued email normal type user hnormal huser hsuits hroom =>
    rw [Tables.userWithEmail?_replaceToken]
    refine h.cons_of_passes (Event.passes_of_call ?_ ?_)
    · cases type <;> rfl
    · intro token hcall
      cases type <;> cases hcall
  | @confirmed value token user hvalue htoken huser =>
    obtain ⟨hmem, hemail⟩ := Tables.of_userWithEmail?_eq_some huser
    have hnonneg := hsound.verified_nonneg user hmem
    have haccount : some (user.stamp around.now).email = some token.email := by
      rw [User.stamp_email, hemail]
    have hkeep := fun user : User => user.stamp_email around.now
    refine Mirrors.cons_of_change h hkeep haccount huser fun htarget => ?_
    exact htarget.cons_of_confirms hnow hnonneg ⟨haccount, value, rfl⟩
  | @recovered value password hashed token user hnew htoken huser =>
    obtain ⟨-, -, hhashed⟩ := Service.newPasswordWithToken_eq_ok.mp hnew
    obtain ⟨-, hemail⟩ := Tables.of_userWithEmail?_eq_some huser
    have haccount : some user.email = some token.email := congrArg some hemail
    have hkeep := fun user : User => user.withPassword_email hashed
    refine Mirrors.cons_of_change h hkeep haccount huser fun htarget => ?_
    refine htarget.cons_of_given haccount rfl ?_ ?_ hhashed
    · rintro ⟨_, _, _, _, ⟨⟩⟩
    · rintro ⟨_, _, ⟨⟩⟩
  | @changed email normal password hashed user hnew huser =>
    obtain ⟨hnormal, -, hhashed⟩ := Service.newPassword_eq_ok.mp hnew
    have haccount : (normalizeEmail email).toOption = some normal :=
      congrArg Except.toOption hnormal
    have hkeep := fun user : User => user.withPassword_email hashed
    rw [Tables.userWithEmail?_dropTokens]
    refine Mirrors.cons_of_change h hkeep haccount huser fun htarget => ?_
    refine htarget.cons_of_given haccount rfl ?_ ?_ hhashed
    · rintro ⟨_, _, _, _, ⟨⟩⟩
    · rintro ⟨_, _, ⟨⟩⟩
  | purged =>
    rw [Tables.userWithEmail?_dropTokens]
    refine h.cons_of_passes (Event.passes_of_call rfl ?_)
    rintro token ⟨⟩

/-- The events of a chronicle are true of the users it leads to. -/
theorem Chronicle.mirrors {tables : Tables} (hchronicle : Chronicle service {} events tables)
    (hclock : ∀ event ∈ events, 0 < event.request.around.now) (account : String) :
    Mirrors service events account (tables.userWithEmail? account) := by
  induction hchronicle with
  | start => exact mirrors_nil service account
  | failed hearlier ih =>
    have hbefore := ih fun event hevent => hclock event (.tail _ hevent)
    refine hbefore.cons_of_passes (Event.passes_of_ne ?_)
    rw [Event.account?_of_error rfl]
    exact (Option.some_ne_none account).symm
  | @done events before after request answer mails hearlier heffect ih =>
    have hearly : ∀ event ∈ events, 0 < event.request.around.now :=
      fun event hevent => hclock event (.tail _ hevent)
    -- confirming keeps a time that is already set, so it matters that no stored time is negative
    have hsound := hearlier.sound Tables.sound_empty hearly
    have hnow := hclock _ List.mem_cons_self
    exact heffect.mirrors hsound hnow (ih hearly)

/-! ### Signing in -/

/-- Whom an email and a password belong to. -/
theorem Service.authenticate_eq_ok {email password : String} {tables : Tables} {user : User} :
    service.authenticate email password tables = .ok user ↔
      ∃ account, normalizeEmail email = .ok account ∧ tables.userWithEmail? account = some user ∧
        user.isVerified = true ∧
        service.hasher.compare user.password.hash user.password.salt (utf8 password) = .ok () := by
  unfold authenticate
  rw [bind_eq_ok]
  refine exists_congr fun account => ?_
  rw [mapError_eq_ok]
  refine and_congr_right fun _ => ?_
  cases tables.userWithEmail? account with
  | none => simp
  | some stored =>
    dsimp only
    constructor
    · intro hok
      split at hok
      · next hverified =>
        split at hok
        · next hcompare =>
          cases hok
          exact ⟨rfl, hverified, hcompare⟩
        · cases hok
        · cases hok
        · cases hok
      · cases hok
    · rintro ⟨⟨⟩, hverified, hcompare⟩
      rw [if_pos hverified, hcompare]

def Session.SignsIn (s : Session) (service : Service) (email password : String) : Prop :=
  ∃ user, (service.signin email password s).1 = .ok user

/-- Signing in succeeds just if the tables have a verified user with the email and the password. -/
theorem Session.Shows.signsIn_iff {s : Session} {view : View} (hs : s.Shows view)
    (email password : String) :
    s.SignsIn service email password ↔
      ∃ user, service.authenticate email password view.tables = .ok user := by
  have hanswer := (service.signin_ends email password view s hs).1
  unfold SignsIn
  rw [hanswer, Service.signinEnding]
  cases service.authenticate email password view.tables with
  | error e => simp [Ending.given]
  | ok user => simp [Ending.given, View.read]

/-- If the events are true of the stored users, just the passwords that they admit sign in. -/
theorem Mirrors.authenticate {settings : HasherSettings} {tables : Tables}
    (hmirrors : ∀ account, Mirrors service events account (tables.userWithEmail? account))
    (hhasher : Hasher.ofSettings settings = .ok service.hasher) (email password : String) :
    (∃ user, service.authenticate email password tables = .ok user) ↔
      ∃ account, normalizeEmail email = .ok account ∧ Admits service events account password := by
  constructor
  · rintro ⟨user, hok⟩
    obtain ⟨account, hnormal, huser, hverified, hcompare⟩ := Service.authenticate_eq_ok.mp hok
    have h := hmirrors account
    rw [huser] at h
    obtain ⟨given, random, hlast, hhashed⟩ := h.credential user rfl
    obtain ⟨hne, hkey⟩ := (Hasher.compare_eq_ok hhasher hhashed).mp hcompare
    obtain ⟨-, hsalt, -⟩ := Hasher.generateHash_eq_ok.mp hhashed
    rw [hsalt] at hkey
    exact ⟨account, hnormal, h.registered.mpr ⟨user, rfl⟩, h.confirmed.mpr ⟨user, rfl, hverified⟩,
      fun hempty => hne (utf8_eq_nil.mpr hempty), given, random, hlast, hkey⟩
  · rintro ⟨account, hnormal, hadmits⟩
    have h := hmirrors account
    obtain ⟨user, huser, hverified⟩ := h.confirmed.mp hadmits.confirmed
    obtain ⟨given, random, hlast, hhashed⟩ := h.credential user huser
    obtain ⟨given', random', hlast', hkey⟩ := hadmits.sameKey
    rw [hlast] at hlast'
    cases hlast'
    obtain ⟨-, hsalt, -⟩ := Hasher.generateHash_eq_ok.mp hhashed
    have hne : utf8 password ≠ [] := fun hnil => hadmits.nonempty (utf8_eq_nil.mp hnil)
    have hcompare := (Hasher.compare_eq_ok hhasher hhashed).mpr ⟨hne, hsalt ▸ hkey⟩
    exact ⟨user, Service.authenticate_eq_ok.mpr ⟨account, hnormal, huser, hverified, hcompare⟩⟩

theorem Service.signsIn_run_iff {settings : HasherSettings}
    (hhasher : Hasher.ofSettings settings = .ok service.hasher) (cache : Cache)
    {requests : List Request} (hclock : ∀ request ∈ requests, 0 < request.around.now)
    (email password : String) :
    (service.run (.fresh cache) requests).2.SignsIn service email password ↔
      ∃ account, normalizeEmail email = .ok account ∧
        Admits service (service.run (.fresh cache) requests).1 account password := by
  obtain ⟨view, hshows, hchronicle⟩ := service.run_fresh_chronicle cache requests
  have hmirrors := hchronicle.mirrors (service.forall_run_events hclock)
  rw [hshows.signsIn_iff]
  exact Mirrors.authenticate hmirrors hhasher email password

/-- After any run, a password signs in just if the events admit it. A call that fails, or that is
about another account, makes no difference to that. -/
theorem signsIn_iff_admits (service : Service) (settings : HasherSettings)
    (hhasher : Hasher.ofSettings settings = .ok service.hasher) (cache : Cache)
    (requests : List Request) (hclock : ∀ request ∈ requests, 0 < request.around.now)
    (email password : String) :
    let events := (service.run (.fresh cache) requests).1
    let s := (service.run (.fresh cache) requests).2
    (s.SignsIn service email password ↔
      ∃ account, normalizeEmail email = .ok account ∧ Admits service events account password) ∧
    ∀ request : Request, 0 < request.around.now →
      ((∃ e, (service.serve request s).1.answer = .error e) ∨
        ∀ account, normalizeEmail email = .ok account →
          (service.serve request s).1.account? ≠ some account) →
      ((service.serve request s).2.SignsIn service email password ↔
        s.SignsIn service email password) := by
  intro events s
  refine ⟨service.signsIn_run_iff hhasher cache hclock email password, ?_⟩
  intro request hnow hother
  have hclock' : ∀ other ∈ request :: requests, 0 < other.around.now :=
    List.forall_mem_cons.mpr ⟨hnow, hclock⟩
  have hafter := service.signsIn_run_iff hhasher cache hclock' email password
  rw [Service.run_cons] at hafter
  rw [hafter, service.signsIn_run_iff hhasher cache hclock email password]
  refine exists_congr fun account => and_congr_right fun hnormal => ?_
  apply admits_cons_of_passes
  apply Event.passes_of_ne
  rcases hother with ⟨e, herror⟩ | hother
  · rw [Event.account?_of_error herror]
    exact (Option.some_ne_none account).symm
  · exact hother account hnormal

/-- Whoever has signed up and confirmed the address signs in with the password. -/
theorem signsIn_of_joining :
    let s := (Service.small.run (.fresh .unbounded) Request.joining).2
    Hasher.ofSettings Service.small.hasher.settings = .ok Service.small.hasher ∧
      (∀ request ∈ Request.joining, 0 < request.around.now) ∧ s.SignsIn .small "a@b" "p" := by
  intro s
  have hhasher : Hasher.ofSettings Service.small.hasher.settings = .ok Service.small.hasher := by
    decide +kernel
  have hclock : ∀ request ∈ Request.joining, 0 < request.around.now := by
    simp [Request.joining, Request.at]
  let signup := (Service.small.serve (.at 1 (.signup "a@b" "n" "p")) (.fresh .unbounded)).1
  let confirm := (Service.small.serve (.at 2 (.validateSignupToken "AA"))
    (Service.small.serve (.at 1 (.signup "a@b" "n" "p")) (.fresh .unbounded)).2).1
  have hevents : (Service.small.run (.fresh .unbounded) Request.joining).1 = [confirm, signup] := rfl
  have hsignup : signup.account? = some "a@b" := by decide +kernel
  have hconfirm : confirm.account? = some "a@b" := by decide +kernel
  have hlast : lastCredential? [confirm, signup] "a@b" = some ("p", fun _ => 0) := by
    rw [lastCredential?_cons, lastCredential?_cons, Event.credential?, Event.credential?,
      if_pos hsignup, if_pos hconfirm]
    rfl
  have hadmits : Admits .small [confirm, signup] "a@b" "p" := by
    refine ⟨⟨signup, by simp, hsignup, _, _, _, rfl⟩, ⟨confirm, by simp, hconfirm, _, rfl⟩, ?_, ?_⟩
    · decide
    · exact ⟨"p", _, hlast, rfl⟩
  have hiff := signsIn_iff_admits .small _ hhasher .unbounded Request.joining hclock "a@b" "p"
  exact ⟨hhasher, hclock, hiff.1.mpr ⟨"a@b", by decide +kernel, hevents ▸ hadmits⟩⟩

end IdentityLifecycle
