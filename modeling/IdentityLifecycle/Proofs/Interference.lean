import IdentityLifecycle.Proofs.Account
import IdentityLifecycle.Proofs.Filing
import IdentityLifecycle.Proofs.Sweep

/-!
# Calls on different accounts

Two calls that are about different accounts do not interfere: each answers and mails the same
whether the other comes before or after it, and in both orders the same rows are left.
-/

namespace IdentityLifecycle

variable {service : Service} {around : Surroundings} {call : Call} {account : String}

/-! ### A call on views that agree -/

structure View.Agree (account : String) (left right : View) : Prop where
  tables : left.tables.Agree account right.tables
  cache : ∀ user, left.tables.userWithEmail? account = some user →
    left.cache.load (.id user.id) = right.cache.load (.id user.id)

structure Ending.Agree {α : Type} (account : String) (left right : View) (a b : Ending α) :
    Prop where
  answer : a.1 = b.1
  tables : a.2.tables.Agree account b.2.tables
  postings : a.2.postings.drop left.postings.length = b.2.postings.drop right.postings.length

namespace Ending.Agree

variable {α β : Type} {left right : View}

theorem map {a b : Ending α} (h : Ending.Agree account left right a b) (f : α → β) :
    Ending.Agree account left right (a.map f) (b.map f) where
  answer := congrArg (Except.map f) h.answer
  tables := h.tables
  postings := h.postings

/-- Endings that leave the rows and hand over nothing. -/
theorem still (h : left.tables.Agree account right.tables)
    {outcome outcome' : Except IdentityError α} (hsame : outcome = outcome')
    (cache cache' : Cache) :
    Ending.Agree account left right (outcome, { left with cache })
      (outcome', { right with cache := cache' }) where
  answer := hsame
  tables := h
  postings := by simp

theorem given {checks : Except IdentityError α} {next next' : α → Ending β}
    (h : left.tables.Agree account right.tables)
    (hnext : ∀ a, checks = .ok a → Ending.Agree account left right (next a) (next' a)) :
    Ending.Agree account left right (.given checks left next) (.given checks right next') := by
  cases checks with
  | error e => exact .still h rfl _ _
  | ok a => exact hnext a rfl

theorem unit {work work' : Work α} {answer : α → β} {refresh : α → Cache → Cache}
    (h : left.tables.Agree account right.tables) (hwork : work.Agree account work') :
    Ending.Agree account left right (left.unit work answer refresh)
      (right.unit work' answer refresh) := by
  cases hwork with
  | failed e postings => exact ⟨rfl, h, List.drop_left.trans List.drop_left.symm⟩
  | done a postings htables => exact ⟨rfl, htables, List.drop_left.trans List.drop_left.symm⟩

end Ending.Agree

/-- Whom an email and a password belong to does not depend on other accounts. -/
theorem Service.authenticate_agree {email password : String} {left right : Tables}
    (h : left.Agree account right)
    (hwithin : ∀ normal, normalizeEmail email = .ok normal → normal = account) :
    service.authenticate email password left = service.authenticate email password right := by
  unfold authenticate
  cases hnormal : normalizeEmail email with
  | error cause => rfl
  | ok normal =>
    obtain rfl := hwithin normal hnormal
    simp only [Except.mapError, bind, Except.bind, h.userWithEmail?]

theorem View.read_answer (view : View) (user : User) :
    (view.read user).1 = .ok ((view.cache.load (.id user.id)).getD user.toPublic) := by
  unfold read
  cases hload : view.cache.load (.id user.id) with
  | some found => rw [Cache.storeIfAbsent_of_some hload]; rfl
  | none => rw [Cache.storeIfAbsent_of_none hload]; rfl

/-- On views that agree on its account, a call has endings that agree. -/
theorem Call.ending_agree {left right : View} (h : left.Agree account right)
    (hcall : call.Personal) (hleft : call.Within left.tables account)
    (hright : call.Within right.tables account) (hfresh : around.Fresh service left.tables)
    (hfresh' : around.Fresh service right.tables) :
    Ending.Agree account left right (call.ending service around left)
      (call.ending service around right) := by
  cases call with
  | signup email name password =>
    refine .map (.given h.tables fun user hnew => .unit h.tables ?_) _
    obtain ⟨hnormal, -, -, -, hid, -⟩ := Service.newUser_eq_ok.mp hnew
    obtain rfl := hleft.email_eq rfl hnormal
    exact Service.registering_agree hfresh hfresh' h.tables hid
  | signin email password =>
    have hsame : service.authenticate email password left.tables =
        service.authenticate email password right.tables :=
      Service.authenticate_agree h.tables fun normal => hleft.email_eq rfl
    simp only [Call.ending, Service.signinEnding, ← hsame]
    refine .map (.given h.tables fun user hok => ⟨?_, h.tables, by simp [View.read]⟩) _
    obtain ⟨normal, hnormal, huser, -⟩ := Service.authenticate_eq_ok.mp hok
    obtain rfl := hleft.email_eq rfl hnormal
    rw [View.read_answer, View.read_answer, h.cache user huser]
  | resendSignupToken email =>
    refine .map (.given h.tables fun normal hnormal => .unit h.tables ?_) _
    obtain rfl := hleft.email_eq rfl (mapError_eq_ok.mp hnormal)
    exact Service.reissuing_agree hfresh hfresh' h.tables
  | validateSignupToken value =>
    refine .map ?_ _
    unfold Service.validateSignupTokenEnding
    split
    · exact .still h.tables rfl _ _
    · exact .unit h.tables (Service.redeeming_agree h.tables _ _ _ (by simp)
        (hleft.token_email rfl) (hright.token_email rfl))
  | resetPassword email =>
    refine .map (.given h.tables fun normal hnormal => .unit h.tables ?_) _
    obtain rfl := hleft.email_eq rfl (mapError_eq_ok.mp hnormal)
    exact Service.issuingReset_agree hfresh hfresh' h.tables
  | resetPasswordToken value =>
    exact .map (.still h.tables (Service.resetGate_agree h.tables _ (hleft.token_email rfl)
      (hright.token_email rfl)) _ _) _
  | changePasswordWithToken value password =>
    have hgate := Service.resetGate_agree h.tables around.now (hleft.token_email rfl)
      (hright.token_email rfl)
    have hsame : service.newPasswordWithToken around value password left.tables =
        service.newPasswordWithToken around value password right.tables := by
      simp only [Service.newPasswordWithToken, hgate]
    simp only [Call.ending, Service.changePasswordWithTokenEnding, hsame]
    refine .map (.given h.tables fun hashed _ => .unit h.tables ?_) _
    exact Service.redeeming_agree h.tables _ _ _ (fun user => user.withPassword_email hashed)
      (hleft.token_email rfl) (hright.token_email rfl)
  | changePassword email password =>
    refine .map (.given h.tables fun checked hnew => .unit h.tables ?_) _
    obtain ⟨hnormal, -, -⟩ := Service.newPassword_eq_ok.mp hnew
    obtain rfl := hleft.email_eq rfl hnormal
    exact Service.replacing_agree h.tables checked.2
  | _ => exact absurd hcall (by simp [Personal, email?, presented?])

/-! ### What a call leaves to other accounts -/

theorem Call.email?_asking (type : TokenType) (email : String) :
    (Call.asking type email).email? = some email := by
  cases type <;> rfl

/-- The tokens with the value that a call presents are of its own account. -/
theorem Call.Within.agree_dropTokens {tables : Tables} {other value : String}
    (hwithin : call.Within tables account) (hvalue : call.presented? = some value)
    (hother : other ≠ account) : (tables.dropTokens (·.value = value)).Agree other tables := by
  refine .dropTokens_of_ne fun token htoken hemail => ?_
  rw [decide_eq_false_iff_not]
  intro hsame
  exact hother (hemail.symm.trans (hwithin.token_email hvalue token htoken hsame))

/-- Rows of other accounts stay. -/
theorem Effect.agree {before after : Tables} {answer : Answer} {mails : List Posting}
    {other : String} (heffect : Effect service around before call answer mails after)
    (hcall : call.Personal) (hwithin : call.Within before account) (hother : other ≠ account) :
    after.Agree other before := by
  cases heffect with
  | read => exact .refl other before
  | @registered email name password user hnew hemail hid hroom =>
    obtain ⟨hnormal, -⟩ := Service.newUser_eq_ok.mp hnew
    obtain rfl := hwithin.email_eq rfl hnormal
    exact (Tables.Agree.replaceToken_of_ne hother.symm).trans (.addUser_of_ne hother.symm)
  | issued hnormal huser hsuits hroom =>
    obtain rfl := hwithin.email_eq (Call.email?_asking _ _) hnormal
    exact .replaceToken_of_ne hother.symm
  | confirmed hvalue htoken huser =>
    obtain ⟨hmem, hsame, -, -⟩ := Tables.of_liveToken?_eq_some htoken
    obtain rfl := hwithin.token_email rfl _ hmem hsame
    exact (Tables.Agree.changeUser_of_ne (by simp) hother.symm).trans
      (hwithin.agree_dropTokens rfl hother)
  | @recovered value password hashed token user hnew htoken huser =>
    obtain ⟨hmem, hsame, -, -⟩ := Tables.of_liveToken?_eq_some htoken
    obtain rfl := hwithin.token_email rfl _ hmem hsame
    exact (Tables.Agree.changeUser_of_ne (fun user => user.withPassword_email hashed)
      hother.symm).trans (hwithin.agree_dropTokens rfl hother)
  | @changed email normal password hashed user hnew huser =>
    obtain ⟨hnormal, -⟩ := Service.newPassword_eq_ok.mp hnew
    obtain rfl := hwithin.email_eq rfl hnormal
    refine .trans (.dropTokens_of_ne fun token _ hemail => ?_)
      (.changeUser_of_ne (fun user => user.withPassword_email hashed) hother.symm)
    simp [Token.isFor, hemail, hother]
  | purged => exact absurd hcall (by simp [Call.Personal, Call.email?, Call.presented?])

/-- A call leaves the rows of every other account as they are. -/
theorem Call.ending_agree_of_ne {view : View} {other : String} (hcall : call.Personal)
    (hwithin : call.Within view.tables account) (hother : other ≠ account) :
    (call.ending service around view).2.tables.Agree other view.tables := by
  obtain hsame | ⟨answer, mails, heffect⟩ := call.ending_tables service around view
  · rw [hsame]
    exact .refl other view.tables
  · exact heffect.agree hcall hwithin hother

/-! ### What a call leaves in the cache -/

namespace Cache

variable {cache : Cache}

/-- The cache gives up no entry. -/
def Lasting (cache : Cache) : Prop := ∀ changes entries key, cache.evict changes entries key = true

theorem Lasting.insert (h : cache.Lasting) (key : IdentityKey) (user : PublicUser) :
    (cache.insert key user).Lasting := h

/-- A new entry takes the place of none but its own. -/
theorem Lasting.load_insert (h : cache.Lasting) {key other : IdentityKey} (hne : other ≠ key)
    (user : PublicUser) : (cache.insert key user).load other = cache.load other := by
  rw [Cache.load_insert, h, if_pos rfl, if_neg hne]

theorem Lasting.storeIfAbsent (h : cache.Lasting) (key : IdentityKey) (user : PublicUser) :
    (cache.storeIfAbsent key user).2.Lasting := by
  cases hload : cache.load key with
  | some found =>
    rw [storeIfAbsent_of_some hload]
    exact h
  | none =>
    rw [storeIfAbsent_of_none hload]
    exact h.insert key user

theorem Lasting.load_storeIfAbsent (h : cache.Lasting) {key other : IdentityKey}
    (hne : other ≠ key) (user : PublicUser) :
    (cache.storeIfAbsent key user).2.load other = cache.load other := by
  cases hload : cache.load key with
  | some found => rw [storeIfAbsent_of_some hload]
  | none =>
    rw [storeIfAbsent_of_none hload]
    exact h.load_insert hne user

theorem Lasting.load_store (h : cache.Lasting) {user : PublicUser} {id : String}
    (hne : user.id ≠ id) : (cache.store user).load (.id id) = cache.load (.id id) := by
  have hid : IdentityKey.id id ≠ .id user.id := fun heq => hne (IdentityKey.id.inj heq).symm
  have hemail : IdentityKey.id id ≠ .email user.email := fun heq => IdentityKey.noConfusion heq
  rw [store, (h.insert _ _).load_insert hemail, h.load_insert hid]

end Cache

theorem View.load_read {view : View} (h : view.cache.Lasting) {user : User} {id : String}
    (hne : user.id ≠ id) : (view.read user).2.cache.load (.id id) = view.cache.load (.id id) := by
  have hid : IdentityKey.id id ≠ .id user.id := fun heq => hne (IdentityKey.id.inj heq).symm
  have hemail : IdentityKey.id id ≠ .email user.email := fun heq => IdentityKey.noConfusion heq
  have hfirst := h.load_storeIfAbsent hid user.toPublic
  exact ((h.storeIfAbsent _ user.toPublic).load_storeIfAbsent hemail _).trans hfirst

/-- Whatever a call files, a cache that gives up no entry stays so. -/
theorem Filing.lasting {view : View} {after : Tables} {cache : Cache}
    (hfiling : Filing view call after cache) (h : view.cache.Lasting) : cache.Lasting := by
  cases hfiling with
  | kept => exact h
  | stored huser => exact (h.insert _ _).insert _ _
  | @read user huser => exact (h.storeIfAbsent (.id user.id) user.toPublic).storeIfAbsent _ _
  | remembered hcall => exact (h.insert _ _).insert _ _

theorem Service.run_lasting {cache : Cache} (h : cache.Lasting) (hchecked : service.hasher.Checked)
    (requests : List Request) : (service.run (.fresh cache) requests).2.cache.Lasting := by
  induction requests with
  | nil => exact h
  | cons request earlier ih =>
    have hs := (service.run_reachable hchecked cache earlier).shows
    have hfiled := request.call.ending_files service request.around
      (service.run (.fresh cache) earlier).2.view
    rw [run_cons, (service.serve_shows request hs).cache]
    exact hfiled.lasting ih

def Ending.Spares {α : Type} (ending : Ending α) (view : View) (id : String) : Prop :=
  ending.2.cache.load (.id id) = view.cache.load (.id id)

namespace Ending.Spares

variable {α β : Type} {view : View} {id : String}

theorem map {ending : Ending α} (h : ending.Spares view id) (f : α → β) :
    (ending.map f).Spares view id := h

theorem given {checks : Except IdentityError α} {next : α → Ending β}
    (hnext : ∀ a, checks = .ok a → (next a).Spares view id) :
    (Ending.given checks view next).Spares view id := by
  cases checks with
  | error e => rfl
  | ok a => exact hnext a rfl

theorem unit {work : Work α} {answer : α → β} {refresh : α → Cache → Cache}
    (hrefresh : ∀ a after, work.result = .ok (a, after) →
      (refresh a view.cache).load (.id id) = view.cache.load (.id id)) :
    (view.unit work answer refresh).Spares view id := by
  unfold View.unit
  cases hresult : work.result with
  | error e => rfl
  | ok result => exact hrefresh result.1 result.2 hresult

end Ending.Spares

theorem Tables.Tidy.id_ne {tables : Tables} (h : tables.Tidy) {a b : User} (ha : a ∈ tables.users)
    (hb : b ∈ tables.users) (hne : a.email ≠ b.email) : a.id ≠ b.id :=
  fun hid => hne (congrArg User.email (List.inj_on_of_nodup_map h.ids_nodup ha hb hid))

/-- What the cache has under the ids of other users stays. -/
theorem Call.ending_spares {view : View} {user : User} (hcall : call.Personal)
    (hwithin : call.Within view.tables account) (hfresh : around.Fresh service view.tables)
    (htidy : view.tables.Tidy) (hlasting : view.cache.Lasting) (huser : user ∈ view.tables.users)
    (hother : user.email ≠ account) :
    (call.ending service around view).Spares view user.id := by
  -- a user who is filed is of the account, and so has another id
  have hids (filed : User) (hfiled : view.tables.userWithEmail? account = some filed) :
      filed.id ≠ user.id := by
    obtain ⟨hmem, rfl⟩ := Tables.of_userWithEmail?_eq_some hfiled
    exact htidy.id_ne hmem huser hother.symm
  cases call with
  | signup email name password =>
    refine .map (.given fun new hnew => .unit fun _ after hok => ?_) _
    obtain ⟨-, -, -, -, hid, -⟩ := Service.newUser_eq_ok.mp hnew
    have hne : new.id ≠ user.id := hid ▸ (hfresh.id_ne huser).symm
    exact hlasting.load_store hne
  | signin email password =>
    refine .map (.given fun found hok => ?_) _
    obtain ⟨normal, hnormal, hfound, -⟩ := Service.authenticate_eq_ok.mp hok
    obtain rfl := hwithin.email_eq rfl hnormal
    exact View.load_read hlasting (hids found hfound)
  | resendSignupToken email => exact .map (.given fun _ _ => .unit fun _ _ _ => rfl) _
  | validateSignupToken value =>
    refine .map ?_ _
    unfold Service.validateSignupTokenEnding
    split
    · rfl
    · refine .unit fun changed after hok => hlasting.load_store ?_
      obtain ⟨token, found, htoken, hfound, rfl, -⟩ := Service.redeeming_ok (by simp) hok
      obtain ⟨hmem, hvalue, -, -⟩ := Tables.of_liveToken?_eq_some htoken
      obtain rfl := hwithin.token_email rfl token hmem hvalue
      have hne := hids found hfound
      rwa [← User.stamp_id found around.now] at hne
  | resetPassword email => exact .map (.given fun _ _ => .unit fun _ _ _ => rfl) _
  | resetPasswordToken value => rfl
  | changePasswordWithToken value password =>
    refine .map (.given fun hashed _ => .unit fun changed after hok => hlasting.load_store ?_) _
    obtain ⟨token, found, htoken, hfound, rfl, -⟩ :=
      Service.redeeming_ok (fun user => user.withPassword_email hashed) hok
    obtain ⟨hmem, hvalue, -, -⟩ := Tables.of_liveToken?_eq_some htoken
    obtain rfl := hwithin.token_email rfl token hmem hvalue
    exact hids found hfound
  | changePassword email password =>
    refine .map (.given fun checked hnew => .unit fun changed after hok => ?_) _
    obtain ⟨hnormal, -, -⟩ := Service.newPassword_eq_ok.mp hnew
    obtain rfl := hwithin.email_eq rfl hnormal
    obtain ⟨found, hfound, rfl, -, -⟩ := Service.replacing_ok hok
    exact hlasting.load_store (hids found hfound)
  | _ => exact absurd hcall (by simp [Personal, email?, presented?])

/-! ### What a call adds -/

/-- Ids never change; at most the one that was drawn comes along. -/
theorem Effect.ids {before after : Tables} {answer : Answer} {mails : List Posting}
    (heffect : Effect service around before call answer mails after) :
    after.users.map (·.id) = before.users.map (·.id) ∨
      after.users.map (·.id) = before.users.map (·.id) ++ [around.userId] := by
  cases heffect with
  | read hcall => exact .inl rfl
  | registered hnew hemail hid hroom =>
    obtain ⟨-, -, -, -, hid, -⟩ := Service.newUser_eq_ok.mp hnew
    exact .inr (hid ▸ List.map_append)
  | issued hnormal huser hsuits hroom => exact .inl rfl
  | confirmed hvalue htoken huser => exact .inl (Tables.map_changeUser _ (by simp) _)
  | recovered hnew htoken huser =>
    refine .inl (Tables.map_changeUser _ ?_ _)
    exact fun _ => rfl
  | changed hnew huser =>
    refine .inl (Tables.map_changeUser _ ?_ _)
    exact fun _ => rfl
  | purged => exact .inl rfl

/-- What was drawn stays new after a call that has drawn otherwise. -/
theorem Call.ending_keeps_fresh {view : View} {other : Surroundings}
    (hfresh : other.Fresh service view.tables) (hid : other.userId ≠ around.userId)
    (hvalue : service.ledger.generateValue other.token ≠
      service.ledger.generateValue around.token) :
    other.Fresh service (call.ending service around view).2.tables := by
  obtain hsame | ⟨answer, mails, heffect⟩ := call.ending_tables service around view
  · rwa [hsame]
  · have hbefore : other.userId ∉ view.tables.users.map (·.id) := by
      simpa using fun user huser => hfresh.id_ne huser
    constructor
    · have hafter : other.userId ∉ (call.ending service around view).2.tables.users.map (·.id) := by
        rcases heffect.ids with hsame | hadded
        · rwa [hsame]
        · simp [hadded, hbefore, hid]
      simpa [Tables.userWithId?] using hafter
    · intro token htoken
      rcases heffect.mem_tokens htoken with hold | ⟨-, hnew⟩
      · exact hfresh.value token hold
      · exact hnew ▸ hvalue.symm

/-- A call stays within its account after one that has not drawn the value that it presents. -/
theorem Call.Within.ending {other : Call} {view : View} (hwithin : other.Within view.tables account)
    (hunseen : other.presented? ≠ some (service.ledger.generateValue around.token)) :
    other.Within (call.ending service around view).2.tables account := by
  rintro named (hemail | ⟨value, hvalue, token, htoken, hsame, rfl⟩)
  · exact hwithin named (.inl hemail)
  · have hold : token ∈ view.tables.tokens := by
      obtain hkept | ⟨answer, mails, heffect⟩ := call.ending_tables service around view
      · rwa [hkept] at htoken
      · -- a token that is not among the old ones has the value that was drawn
        refine (heffect.mem_tokens htoken).resolve_right fun hnew => hunseen ?_
        rw [hvalue, ← hsame, hnew.2]
    exact hwithin _ (.inr ⟨value, hvalue, token, hold, hsame, rfl⟩)

/-! ### Two requests -/

/-- The requests draw an id and a token value each, and neither presents what the other draws. -/
structure Service.DrawApart (service : Service) (a b : Request) : Prop where
  ids : a.around.userId ≠ b.around.userId
  values : service.ledger.generateValue a.around.token ≠ service.ledger.generateValue b.around.token
  unseen : a.call.presented? ≠ some (service.ledger.generateValue b.around.token)
  unseen' : b.call.presented? ≠ some (service.ledger.generateValue a.around.token)

theorem Service.DrawApart.symm {a b : Request} (h : service.DrawApart a b) :
    service.DrawApart b a :=
  ⟨h.ids.symm, h.values.symm, h.unseen', h.unseen⟩

structure Request.For (request : Request) (service : Service) (tables : Tables) (account : String) :
    Prop where
  personal : request.call.Personal
  within : request.call.Within tables account
  fresh : request.around.Fresh service tables

def View.after (view : View) (service : Service) (request : Request) : View :=
  (request.call.ending service request.around view).2

/-- Two requests on behalf of different accounts, on a cache that gives up no entry. -/
structure View.Parted (view : View) (service : Service) (a b : Request) (x y : String) : Prop where
  tidy : view.tables.Tidy
  lasting : view.cache.Lasting
  first : a.For service view.tables x
  second : b.For service view.tables y
  ne : x ≠ y
  drawn : service.DrawApart a b

namespace View.Parted

variable {view : View} {a b : Request} {x y : String}

theorem symm (h : view.Parted service a b x y) : view.Parted service b a y x where
  tidy := h.tidy
  lasting := h.lasting
  first := h.second
  second := h.first
  ne := h.ne.symm
  drawn := h.drawn.symm

/-- What the second request leaves is the same for the first one. -/
theorem agree (h : view.Parted service a b x y) : (view.after service b).Agree x view := by
  have htables : (view.after service b).tables.Agree x view.tables :=
    Call.ending_agree_of_ne h.second.personal h.second.within h.ne
  refine ⟨htables, fun user huser => ?_⟩
  rw [htables.userWithEmail?] at huser
  obtain ⟨hmem, hemail⟩ := Tables.of_userWithEmail?_eq_some huser
  exact Call.ending_spares h.second.personal h.second.within h.second.fresh h.tidy h.lasting hmem
    (hemail ▸ h.ne)

theorem first_after (h : view.Parted service a b x y) :
    a.For service (view.after service b).tables x where
  personal := h.first.personal
  within := h.first.within.ending h.drawn.unseen
  fresh := Call.ending_keeps_fresh h.first.fresh h.drawn.ids h.drawn.values

/-- The first request ends the same whether the second came before it or not. -/
theorem ending_agree (h : view.Parted service a b x y) :
    Ending.Agree x (view.after service b) view
      (a.call.ending service a.around (view.after service b))
      (a.call.ending service a.around view) :=
  Call.ending_agree h.agree h.first.personal h.first_after.within h.first.within
    h.first_after.fresh h.first.fresh

/-- Whatever the first request leaves for any account but that of the second, it leaves in both
orders. -/
theorem tables_agree (h : view.Parted service a b x y) {account : String} (hne : account ≠ y) :
    ((view.after service b).after service a).tables.Agree account
      ((view.after service a).after service b).tables := by
  have hlast : ((view.after service a).after service b).tables.Agree account
      (view.after service a).tables :=
    Call.ending_agree_of_ne h.second.personal h.symm.first_after.within hne
  refine .trans ?_ hlast.symm
  -- the second request comes last in one order only, and leaves the account alone in both
  by_cases hown : account = x
  · exact hown ▸ h.ending_agree.tables
  · have hafter : ((view.after service b).after service a).tables.Agree account
        (view.after service b).tables :=
      Call.ending_agree_of_ne h.first.personal h.first_after.within hown
    have hbefore : (view.after service a).tables.Agree account view.tables :=
      Call.ending_agree_of_ne h.first.personal h.first.within hown
    have hsecond : (view.after service b).tables.Agree account view.tables :=
      Call.ending_agree_of_ne h.second.personal h.second.within hne
    exact (hafter.trans hsecond).trans hbefore.symm

theorem perm (h : view.Parted service a b x y) :
    let ab := (view.after service a).after service b
    let ba := (view.after service b).after service a
    ba.tables.users.Perm ab.tables.users ∧ ba.tables.tokens.Perm ab.tables.tokens := by
  refine Tables.perm_of_agree fun account => ?_
  by_cases hne : account = y
  · exact (h.symm.tables_agree (hne ▸ h.ne.symm)).symm
  · exact h.tables_agree hne

end View.Parted

/-! ### Whose call it is -/

namespace Call

variable {tables : Tables} {first second : Call}

theorem Addresses.within (htidy : tables.Tidy) (h : call.Addresses tables account) :
    call.Within tables account :=
  fun _ hother => hother.unique htidy h

theorem exists_within (htidy : tables.Tidy) (call : Call) :
    ∃ account, call.Within tables account := by
  by_cases hcall : ∃ account, call.Addresses tables account
  · obtain ⟨account, haccount⟩ := hcall
    exact ⟨account, haccount.within htidy⟩
  · exact ⟨"", fun other hother => absurd ⟨other, hother⟩ hcall⟩

/-- Calls that are about no common account can be given one each, also if they are about none. -/
theorem exists_within_of_apart (htidy : tables.Tidy)
    (hapart : ∀ account, first.Addresses tables account → ¬second.Addresses tables account) :
    ∃ x y, first.Within tables x ∧ second.Within tables y ∧ x ≠ y := by
  have htexts : Nontrivial String := ⟨"", "a", by decide⟩
  by_cases hfirst : ∃ x, first.Addresses tables x
  · obtain ⟨x, hx⟩ := hfirst
    by_cases hsecond : ∃ y, second.Addresses tables y
    · obtain ⟨y, hy⟩ := hsecond
      exact ⟨x, y, hx.within htidy, hy.within htidy, fun heq => hapart x hx (heq ▸ hy)⟩
    · -- a call that is about no account is given any other
      obtain ⟨y, hne⟩ := exists_ne x
      exact ⟨x, y, hx.within htidy, fun other hother => absurd ⟨other, hother⟩ hsecond, hne.symm⟩
  · obtain ⟨y, hy⟩ := second.exists_within htidy
    obtain ⟨x, hne⟩ := exists_ne y
    exact ⟨x, y, fun other hother => absurd ⟨other, hother⟩ hfirst, hy, hne⟩

end Call

/-! ### Two requests on a session -/

/-- The databases of the sessions have the same rows of users and of tokens, in some order. -/
structure Session.SameRows (s t : Session) : Prop where
  users : ∃ rows rows', s.desk.store.database.users = some rows ∧
    t.desk.store.database.users = some rows' ∧ rows.Perm rows'
  tokens : ∃ rows rows', s.desk.store.database.tokens = some rows ∧
    t.desk.store.database.tokens = some rows' ∧ rows.Perm rows'

/-- A request is answered alike before and after one on behalf of another account. -/
theorem View.Parted.serve_event {s : Session} {view : View} {a b : Request} {x y : String}
    (h : view.Parted service a b x y) (hs : s.Shows view) :
    (service.serve a (service.serve b s).2).1 = (service.serve a s).1 := by
  have hafter : (service.serve b s).2.Shows (view.after service b) := service.serve_shows b hs
  rw [service.serve_event a hafter, service.serve_event a hs, h.ending_agree.answer,
    h.ending_agree.postings]

/-- In either order, the two requests leave the same rows. -/
theorem View.Parted.sameRows {s : Session} {view : View} {a b : Request} {x y : String}
    (h : view.Parted service a b x y) (hs : s.Shows view) :
    (service.serve b (service.serve a s).2).2.SameRows
      (service.serve a (service.serve b s).2).2 := by
  have hab := service.serve_shows b (service.serve_shows a hs)
  have hba := service.serve_shows a (service.serve_shows b hs)
  obtain ⟨husers, htokens⟩ := h.perm
  exact ⟨⟨_, _, hab.tables.users, hba.tables.users, husers.symm.map _⟩,
    ⟨_, _, hab.tables.tokens, hba.tables.tokens, htokens.symm.map _⟩⟩

/-- On a reachable session whose cache gives up no entry, two calls that are about different
accounts, each with an id and a token value that are new and not the other's, come to the same in
both orders: each has its answer and its mails, and the same rows are left. -/
theorem different_accounts_commute (service : Service) {s : Session} (hs : s.Reachable)
    (hlasting : s.cache.Lasting) (a b : Request) (ha : a.call.Personal) (hb : b.call.Personal)
    (hapart : ∀ account, a.call.Addresses s.desk.store.tables account →
      ¬b.call.Addresses s.desk.store.tables account)
    (hfresh : a.around.Fresh service s.desk.store.tables)
    (hfresh' : b.around.Fresh service s.desk.store.tables) (hdrawn : service.DrawApart a b) :
    (service.serve a (service.serve b s).2).1 = (service.serve a s).1 ∧
      (service.serve b (service.serve a s).2).1 = (service.serve b s).1 ∧
      (service.serve b (service.serve a s).2).2.SameRows
        (service.serve a (service.serve b s).2).2 := by
  obtain ⟨x, y, hx, hy, hne⟩ := Call.exists_within_of_apart hs.tidy hapart
  have hparted : s.view.Parted service a b x y :=
    ⟨hs.tidy, hlasting, ⟨ha, hx, hfresh⟩, ⟨hb, hy, hfresh'⟩, hne, hdrawn⟩
  exact ⟨hparted.serve_event hs.shows, hparted.symm.serve_event hs.shows,
    hparted.sameRows hs.shows⟩

def Request.drawing (request : Request) (userId : String) (byte : UInt8) : Request :=
  { request with around := { request.around with userId, token := fun _ => byte } }

/-- One user confirms her address, another asks to have his password reset. -/
theorem confirming_commutes_with_reset :
    let s := (Service.small.run (.fresh .unbounded) Request.crowding).2
    let a := (Request.at 4 (.validateSignupToken "AA")).drawing "w" 4
    let b := (Request.at 5 (.resetPassword "A@b")).drawing "x" 8
    s.Reachable ∧ s.cache.Lasting ∧ a.call.Addresses s.desk.store.tables "c@d" ∧
      b.call.Addresses s.desk.store.tables "a@b" ∧
      (Service.small.serve a s).1.answer = .ok (.user ⟨"v", "n", "c@d"⟩) ∧
      (Service.small.serve b s).1.answer = .ok .done ∧
      (Service.small.serve a (Service.small.serve b s).2).1 = (Service.small.serve a s).1 ∧
      (Service.small.serve b (Service.small.serve a s).2).1 = (Service.small.serve b s).1 ∧
      (Service.small.serve b (Service.small.serve a s).2).2.SameRows
        (Service.small.serve a (Service.small.serve b s).2).2 := by
  intro s a b
  have hs : s.Reachable := Service.run_reachable Service.small_checked .unbounded Request.crowding
  have hlasting : s.cache.Lasting :=
    Service.run_lasting (fun _ _ _ => rfl) Service.small_checked Request.crowding
  have hstart : (s.desk.store.tables.tokens.map fun token => (token.value, token.email)) =
        [("AA", "c@d")] ∧
      normalizeEmail "A@b" = .ok "a@b" ∧
      s.desk.store.tables.userWithId? "w" = none ∧ s.desk.store.tables.userWithId? "x" = none ∧
      (Service.small.serve a s).1.answer = .ok (.user ⟨"v", "n", "c@d"⟩) ∧
      (Service.small.serve b s).1.answer = .ok .done := by
    decide +kernel
  obtain ⟨htokens, hnormal, hw, hx, hconfirm, hreset⟩ := hstart
  obtain ⟨token, htoken, hcolumns⟩ := List.map_eq_singleton_iff.mp htokens
  obtain ⟨hvalue, hemail⟩ := Prod.mk.inj hcolumns
  have ha : a.call.Addresses s.desk.store.tables "c@d" :=
    .inr ⟨"AA", rfl, token, by simp [htoken], hvalue, hemail⟩
  have hb : b.call.Addresses s.desk.store.tables "a@b" := .inl ⟨"A@b", rfl, hnormal⟩
  have hapart : ∀ account, a.call.Addresses s.desk.store.tables account →
      ¬b.call.Addresses s.desk.store.tables account := by
    intro account hfirst hsecond
    have hsame := (hfirst.unique hs.tidy ha).symm.trans (hsecond.unique hs.tidy hb)
    exact absurd hsame (by decide)
  have hnew {random : ByteSource} (hne : "AA" ≠ Service.small.ledger.generateValue random) :
      ∀ token ∈ s.desk.store.tables.tokens,
        token.value ≠ Service.small.ledger.generateValue random := by
    rwa [htoken, List.forall_mem_singleton, hvalue]
  have hvalues : "AA" ≠ Service.small.ledger.generateValue a.around.token ∧
      "AA" ≠ Service.small.ledger.generateValue b.around.token ∧
      Service.small.ledger.generateValue a.around.token ≠
        Service.small.ledger.generateValue b.around.token := by
    decide +kernel
  obtain ⟨hfour, height, hdistinct⟩ := hvalues
  have hdrawn : Service.small.DrawApart a b :=
    ⟨by decide, hdistinct, fun heq => height (Option.some.inj heq),
      fun heq => Option.some_ne_none _ heq.symm⟩
  exact ⟨hs, hlasting, ha, hb, hconfirm, hreset, different_accounts_commute .small hs hlasting a b
    (.inr rfl) (.inl rfl) hapart ⟨hw, hnew hfour⟩ ⟨hx, hnew height⟩ hdrawn⟩

end IdentityLifecycle
