import IdentityLifecycle.Proofs.Canonical
import IdentityLifecycle.Proofs.Chronicle
import Mathlib.Data.List.Nodup

/-!
# Soundness of the tables

Emails and ids tell users apart, spellings are canonical, and every token belongs to a user in the
state of verification that the token is for. No call breaks this, in whatever order calls come.
-/

namespace IdentityLifecycle

/-- The state of verification in which a user can have a token of a type. -/
def TokenType.Suits : TokenType → Instant → Prop
  | signup, verifiedAt => verifiedAt = 0
  | passwordReset, verifiedAt => 0 < verifiedAt

structure Tables.Sound (tables : Tables) : Prop where
  ids_nodup : (tables.users.map (·.id)).Nodup
  emails_nodup : (tables.users.map (·.email)).Nodup
  emails_normal : ∀ user ∈ tables.users, normalizeEmail user.email = .ok user.email
  names_valid : ∀ user ∈ tables.users, validateName user.name = .ok user.name
  verified_nonneg : ∀ user ∈ tables.users, 0 ≤ user.verifiedAt
  slots_nodup : (tables.tokens.map fun token => (token.email, token.type)).Nodup
  owned : ∀ token ∈ tables.tokens,
    ∃ user ∈ tables.users, user.email = token.email ∧ token.type.Suits user.verifiedAt

theorem TokenType.suits_iff {type : TokenType} {user : User} (hnonneg : 0 ≤ user.verifiedAt) :
    type.suits user = true ↔ type.Suits user.verifiedAt := by
  cases type with
  | signup =>
    rw [Int64.le_iff_toInt_le] at hnonneg
    simp only [suits, Suits, User.isVerified, Bool.not_eq_true', decide_eq_false_iff_not,
      Int64.lt_iff_toInt_lt, ← Int64.toInt_inj]
    omega
  | passwordReset => simp [suits, Suits, User.isVerified]

theorem User.stamp_verifiedAt_of_pos {user : User} (hpos : 0 < user.verifiedAt) (now : Instant) :
    (user.stamp now).verifiedAt = user.verifiedAt := by
  have hne : user.verifiedAt ≠ 0 := by
    rintro hzero
    rw [hzero] at hpos
    exact absurd hpos (by decide)
  rw [stamp, if_neg hne]

theorem User.stamp_verifiedAt_nonneg {user : User} {now : Instant} (hnow : 0 < now)
    (hnonneg : 0 ≤ user.verifiedAt) : 0 ≤ (user.stamp now).verifiedAt := by
  unfold stamp
  split
  · exact Int64.le_of_lt hnow
  · exact hnonneg

theorem User.stamp_isVerified {user : User} {now : Instant} (hnow : 0 < now)
    (hnonneg : 0 ≤ user.verifiedAt) : (user.stamp now).isVerified = true := by
  unfold stamp
  by_cases hzero : user.verifiedAt = 0
  · rw [if_pos hzero]
    exact decide_eq_true hnow
  · rw [if_neg hzero]
    rw [← Int64.toInt_inj] at hzero
    rw [Int64.le_iff_toInt_le] at hnonneg
    simp only [isVerified, decide_eq_true_eq, Int64.lt_iff_toInt_lt]
    omega

namespace Tables

variable {tables : Tables}

theorem sound_empty : Sound {} where
  ids_nodup := List.nodup_nil
  emails_nodup := List.nodup_nil
  emails_normal := by simp
  names_valid := by simp
  verified_nonneg := by simp
  slots_nodup := List.nodup_nil
  owned := by simp

theorem mem_changeUser {email : String} {change : User → User} {user : User} :
    user ∈ (tables.changeUser email change).users ↔
      ∃ old ∈ tables.users, user = if old.email = email then change old else old := by
  simp only [changeUser, List.mem_map, eq_comm]

/-- A column that a change keeps is the same afterwards. -/
theorem map_changeUser {α : Type} {change : User → User} (column : User → α)
    (hkeep : ∀ user, column (change user) = column user) (email : String) :
    (tables.changeUser email change).users.map column = tables.users.map column := by
  rw [changeUser, List.map_map]
  apply List.map_congr_left
  intro user _
  rw [Function.comp_apply]
  split
  · exact hkeep user
  · rfl

theorem forall_addUser {p : User → Prop} {user : User} (hold : ∀ other ∈ tables.users, p other)
    (hnew : p user) : ∀ other ∈ (tables.addUser user).users, p other := by
  rw [addUser_users]
  intro other hother
  rcases List.mem_append.mp hother with hother | hother
  · exact hold other hother
  · rw [List.mem_singleton.mp hother]
    exact hnew

namespace Sound

/-- Tokens may be dropped. -/
theorem dropTokens (hsound : tables.Sound) (drop : Token → Bool) :
    (tables.dropTokens drop).Sound where
  __ := hsound
  slots_nodup := by
    have hsub : ((tables.dropTokens drop).tokens).Sublist tables.tokens := List.filter_sublist
    exact hsound.slots_nodup.sublist (hsub.map _)
  owned := by
    intro token htoken
    exact hsound.owned token (mem_dropTokens.mp htoken).1

/-- A user with new keys may be added. -/
theorem addUser (hsound : tables.Sound) {user : User}
    (hemail : tables.userWithEmail? user.email = none) (hid : tables.userWithId? user.id = none)
    (hnormal : normalizeEmail user.email = .ok user.email)
    (hvalid : validateName user.name = .ok user.name) (hnonneg : 0 ≤ user.verifiedAt) :
    (tables.addUser user).Sound := by
  have hemails : ∀ other ∈ tables.users, other.email ≠ user.email := by
    simpa [userWithEmail?] using hemail
  have hids : ∀ other ∈ tables.users, other.id ≠ user.id := by
    simpa [userWithId?] using hid
  refine ⟨?_, ?_, ?_, ?_, ?_, hsound.slots_nodup, ?_⟩
  · rw [addUser_users, List.map_append, List.nodup_append]
    refine ⟨hsound.ids_nodup, List.nodup_singleton _, ?_⟩
    simpa using hids
  · rw [addUser_users, List.map_append, List.nodup_append]
    refine ⟨hsound.emails_nodup, List.nodup_singleton _, ?_⟩
    simpa using hemails
  · exact forall_addUser hsound.emails_normal hnormal
  · exact forall_addUser hsound.names_valid hvalid
  · exact forall_addUser hsound.verified_nonneg hnonneg
  · intro token htoken
    obtain ⟨owner, howner, hsuits⟩ := hsound.owned token htoken
    exact ⟨owner, List.mem_append_left _ howner, hsuits⟩

/-- A new token for a user whom it suits takes the place of the old ones of its slot. -/
theorem replaceToken (hsound : tables.Sound) {new : Token}
    (howner : ∃ user ∈ tables.users, user.email = new.email ∧ new.type.Suits user.verifiedAt) :
    (tables.replaceToken new).Sound where
  ids_nodup := hsound.ids_nodup
  emails_nodup := hsound.emails_nodup
  emails_normal := hsound.emails_normal
  names_valid := hsound.names_valid
  verified_nonneg := hsound.verified_nonneg
  slots_nodup := by
    have hrest := (hsound.dropTokens (·.isFor new.email new.type)).slots_nodup
    rw [Tables.replaceToken, addToken, List.map_append, List.nodup_append]
    refine ⟨hrest, List.nodup_singleton _, ?_⟩
    intro slot hslot other hother
    obtain ⟨token, htoken, rfl⟩ := List.mem_map.mp hslot
    rw [List.map_singleton, List.mem_singleton] at hother
    rw [hother]
    have hfor := (mem_dropTokens.mp htoken).2
    simpa [Token.isFor] using hfor
  owned := by
    intro token htoken
    rcases mem_replaceToken.mp htoken with ⟨htoken, -⟩ | rfl
    · exact hsound.owned token htoken
    · exact howner

/-- A change that keeps who a user is, and whatever the tokens of the user need. -/
theorem changeUser (hsound : tables.Sound) {email : String} {change : User → User}
    (hid : ∀ user, (change user).id = user.id) (hemail : ∀ user, (change user).email = user.email)
    (hname : ∀ user, (change user).name = user.name)
    (hnonneg : ∀ user, 0 ≤ user.verifiedAt → 0 ≤ (change user).verifiedAt)
    (hsuits : ∀ token ∈ tables.tokens, token.email = email → ∀ user,
      token.type.Suits user.verifiedAt → token.type.Suits (change user).verifiedAt) :
    (tables.changeUser email change).Sound := by
  refine ⟨?_, ?_, ?_, ?_, ?_, hsound.slots_nodup, ?_⟩
  · rw [map_changeUser _ hid]
    exact hsound.ids_nodup
  · rw [map_changeUser _ hemail]
    exact hsound.emails_nodup
  · intro user huser
    obtain ⟨old, hold, rfl⟩ := mem_changeUser.mp huser
    have hsame : (if old.email = email then change old else old).email = old.email := by
      split
      · exact hemail old
      · rfl
    rw [hsame]
    exact hsound.emails_normal old hold
  · intro user huser
    obtain ⟨old, hold, rfl⟩ := mem_changeUser.mp huser
    have hsame : (if old.email = email then change old else old).name = old.name := by
      split
      · exact hname old
      · rfl
    rw [hsame]
    exact hsound.names_valid old hold
  · intro user huser
    obtain ⟨old, hold, rfl⟩ := mem_changeUser.mp huser
    have hold := hsound.verified_nonneg old hold
    split
    · exact hnonneg old hold
    · exact hold
  · intro token htoken
    obtain ⟨owner, howner, howns, hsuit⟩ := hsound.owned token htoken
    by_cases hchanged : owner.email = email
    · refine ⟨change owner, mem_changeUser.mpr ⟨owner, howner, (if_pos hchanged).symm⟩, ?_, ?_⟩
      · rw [hemail, howns]
      · exact hsuits token htoken (howns ▸ hchanged) owner hsuit
    · exact ⟨owner, mem_changeUser.mpr ⟨owner, howner, (if_neg hchanged).symm⟩, howns, hsuit⟩

theorem withPassword (hsound : tables.Sound) (email : String) (hashed : HashedPassword) :
    (tables.changeUser email (·.withPassword hashed)).Sound := by
  refine hsound.changeUser ?_ ?_ ?_ ?_ ?_
  · exact fun _ => rfl
  · exact fun _ => rfl
  · exact fun _ => rfl
  · exact fun _ hnonneg => hnonneg
  · exact fun _ _ _ _ hsuits => hsuits

/-- There is one token at most in a slot. -/
theorem token_unique (hsound : tables.Sound) {a b : Token} (ha : a ∈ tables.tokens)
    (hb : b ∈ tables.tokens) (hemail : a.email = b.email) (htype : a.type = b.type) : a = b :=
  List.inj_on_of_nodup_map hsound.slots_nodup ha hb (Prod.ext hemail htype)

end Sound

end Tables

/-! ### No effect breaks soundness -/

/-- Step of the invariant: a call that succeeds at a positive instant keeps the tables sound. -/
theorem Effect.sound {service : Service} {around : Surroundings} {before after : Tables}
    {call : Call} {answer : Answer} {mails : List Posting}
    (heffect : Effect service around before call answer mails after) (hsound : before.Sound)
    (hnow : 0 < around.now) : after.Sound := by
  cases heffect with
  | read hcall => exact hsound
  | @registered email name password user hnew hemail hid hroom =>
    obtain ⟨hnormal, hvalid, -, -, -, hunverified⟩ := Service.newUser_eq_ok.mp hnew
    have hadded := hsound.addUser hemail hid (normalizeEmail_idempotent hnormal)
      (validateName_idempotent hvalid) (hunverified ▸ Int64.le_refl 0)
    exact hadded.replaceToken ⟨user, by simp, rfl, hunverified⟩
  | @issued email normal type user hnormal huser hsuits hroom =>
    obtain ⟨hmem, hemail⟩ := Tables.of_userWithEmail?_eq_some huser
    have hsuits := (TokenType.suits_iff (hsound.verified_nonneg user hmem)).mp hsuits
    exact hsound.replaceToken ⟨user, hmem, hemail, hsuits⟩
  | @confirmed value token user hvalue htoken huser =>
    obtain ⟨hmem, hval, htype, -⟩ := Tables.of_liveToken?_eq_some htoken
    refine (hsound.dropTokens _).changeUser (by simp) (by simp) (by simp) ?_ ?_
    · intro user hnonneg
      exact User.stamp_verifiedAt_nonneg hnow hnonneg
    · -- the one signup token of the account is used up, so the others need what they have
      intro other hother hemail user hsuits
      obtain ⟨hother, hkept⟩ := Tables.mem_dropTokens.mp hother
      cases hkind : other.type with
      | signup =>
        obtain rfl := hsound.token_unique hother hmem hemail (hkind.trans htype.symm)
        simp [hval] at hkept
      | passwordReset =>
        rw [hkind] at hsuits
        rw [User.stamp_verifiedAt_of_pos hsuits]
        exact hsuits
  | recovered => exact (hsound.dropTokens _).withPassword _ _
  | changed => exact (hsound.withPassword _ _).dropTokens _
  | purged => exact hsound.dropTokens _

/-- By induction on the chronicle, so do all events of a run. -/
theorem Chronicle.sound {service : Service} {start tables : Tables} {events : List Event}
    (hchronicle : Chronicle service start events tables) (hstart : start.Sound)
    (hclock : ∀ event ∈ events, 0 < event.request.around.now) : tables.Sound := by
  induction hchronicle with
  | start => exact hstart
  | failed hearlier ih => exact ih fun event hevent => hclock event (.tail _ hevent)
  | done hearlier heffect ih =>
    have hbefore := ih fun event hevent => hclock event (.tail _ hevent)
    have hnow := hclock _ List.mem_cons_self
    exact heffect.sound hbefore hnow

/-- Whatever calls are made on an empty database, and in whatever order, its tables are sound. -/
theorem sound_of_run (service : Service) (cache : Cache) (requests : List Request)
    (hclock : ∀ request ∈ requests, 0 < request.around.now) :
    ∃ tables, (service.run (.fresh cache) requests).2.desk.store.Holds tables ∧ tables.Sound := by
  obtain ⟨after, hshows, hchronicle⟩ := service.run_fresh_chronicle cache requests
  have hsound := hchronicle.sound Tables.sound_empty (service.forall_run_events hclock)
  exact ⟨after.tables, hshows.tables, hsound⟩

theorem sound_of_joining :
    let s := (Service.small.run (.fresh .unbounded) Request.joining).2
    (∀ request ∈ Request.joining, 0 < request.around.now) ∧
      s.desk.store.database.users.map List.length = some 1 ∧
      ∃ tables, s.desk.store.Holds tables ∧ tables.Sound := by
  have hclock : ∀ request ∈ Request.joining, 0 < request.around.now := by
    simp [Request.joining, Request.at]
  refine ⟨hclock, ?_, sound_of_run .small .unbounded Request.joining hclock⟩
  decide +kernel

end IdentityLifecycle
