import IdentityLifecycle.Proofs.Transparency

/-!
# What a change leaves in the cache

An operation that adds or changes a user files the user under both keys when its unit of work is
done, whatever entries were there. The cache is then exactly that from before with the user filed,
and the user is the one whom the tables now have.
-/

namespace IdentityLifecycle

/-! ### Operations that refresh the cache -/

namespace Procedure

variable {α β : Type} {acts : Database → User → Prop}

/-- If the part succeeds, it has acted on a user whom the tables have then, and has filed just that
user. -/
def Refreshes (acts : Database → User → Prop) (p : Procedure α) : Prop :=
  ∀ s a after, p s = (.ok a, after) →
    ∃ user, acts s.desk.store.database user ∧ after.desk.store.database.Has user ∧
      after.cache = s.cache.store user.toPublic

/-- What changes nothing may come first. -/
theorem Refreshes.first {p : Procedure α} {next : α → Procedure β} (hp : Quiet p)
    (hnext : ∀ a, Refreshes acts (next a)) : Refreshes acts (p >>= next) := by
  intro s b after hok
  obtain ⟨a, t, hfirst, hrest⟩ := Step.bind_eq_ok.mp hok
  have hsame := hp.same s
  rw [hfirst] at hsame
  have hrefreshed := hnext a t b after hrest
  rwa [hsame.store, hsame.cache] at hrefreshed

theorem Refreshes.validated {outcome : Except ValidationError α} {next : α → Procedure β}
    (hnext : ∀ a, outcome = .ok a → Refreshes acts (next a)) :
    Refreshes acts (validate outcome >>= next) := by
  cases outcome with
  | error e =>
    intro s b after hok
    cases hok
  | ok a => exact hnext a rfl

theorem Refreshes.guard {c : Prop} [Decidable c] {e : IdentityError} {next : Unit → Procedure α}
    (hnext : Refreshes acts (next ())) :
    Refreshes acts (if c then .fail e >>= next else next ()) := by
  split
  · intro s a after hok
    cases hok
  · exact hnext

theorem Refreshes.within {p : Procedure α} (hp : Refreshes acts p) (span : Log.Span) :
    Refreshes acts (within span p) := by
  intro s a after hok
  have hanswer : (p (s.inSpan span)).1 = .ok a :=
    congrArg Prod.fst hok
  obtain ⟨user, hacts, hhas, hcache⟩ := hp _ a _ (Prod.ext hanswer rfl)
  obtain rfl : _ = after := congrArg Prod.snd hok
  exact ⟨user, hacts, hhas, hcache⟩

theorem Refreshes.answering {p : Procedure α} (hp : Refreshes acts p) (f : α → Answer) :
    Refreshes acts (p.answering f) := by
  intro s b after hok
  obtain ⟨a, t, hrun, hrest⟩ := Step.bind_eq_ok.mp hok
  cases hrest
  exact hp s a after hrun

/-- A unit of work, after which the user whom it leaves is filed. -/
theorem Refreshes.filing {p : Procedure α} {next : α → Procedure β} (seen : α → User)
    (hplain : Plain p)
    (hleaves : ∀ db, Ensures (·.database = db) p fun a store =>
      acts db (seen a) ∧ store.database.Has (seen a))
    (hnext : ∀ a, Quiet (next a)) :
    Refreshes acts (do
      let a ← asUnit p
      onCache (·.store (seen a).toPublic)
      next a) := by
  intro s b after hok
  obtain ⟨a, t, hunit, hrest⟩ := Step.bind_eq_ok.mp hok
  obtain ⟨⟨⟩, u, hfiled, hlast⟩ := Step.bind_eq_ok.mp hrest
  cases hfiled
  obtain ⟨left, -, hrun, hleft⟩ := asUnit_eq_ok hunit
  have hdone := hleaves s.desk.store.database s.inUnit rfl a (by rw [hrun])
  rw [hrun] at hdone
  have hcache := hplain.asUnit.cache_eq s
  rw [hunit] at hcache
  have hsame := (hnext a).same { t with cache := t.cache.store (seen a).toPublic }
  have hlast : next a { t with cache := t.cache.store (seen a).toPublic } = (.ok b, after) := hlast
  rw [hlast] at hsame
  refine ⟨seen a, hdone.1, ?_, ?_⟩
  · rw [hsame.store, hleft]
    exact hdone.2
  · rw [hsame.cache]
    exact congrArg (·.store (seen a).toPublic) hcache

end Procedure

namespace Service

open Procedure

variable (service : Service) (around : Surroundings)

theorem refreshes_signup (email name password : String) :
    Refreshes (fun _ user => normalizeEmail email = .ok user.email)
      (service.signup around email name password) := by
  refine .within (.validated fun normal hnormal => .first (Quiet.validate _) fun name => ?_) _
  refine .first (Quiet.validate _) fun _ => ?_
  refine .first (service.quiet_hashPassword around password) fun hashed => ?_
  refine .filing (fun _ => User.register around.userId normal name hashed)
    (service.plain_register around _) (fun db s _ a hok => ?_) fun _ => .report _
  have hhas := service.ensures_register around _ s True.intro a hok
  exact ⟨hnormal, hhas⟩

theorem refreshes_validateSignupToken (value : String) :
    Refreshes
      (fun db user => ∃ token, db.token? value .signup around.now = .ok (some token) ∧
        token.email = user.email)
      (validateSignupToken around value) :=
  .within (.guard <| .filing id (plain_verify around value)
    (fun db => ensures_verify around db value) fun _ => .bind (.report _) fun _ => .pure _) _

theorem refreshes_changePasswordWithToken (value password : String) :
    Refreshes
      (fun db user => ∃ token, db.token? value .passwordReset around.later = .ok (some token) ∧
        token.email = user.email)
      (service.changePasswordWithToken around value password) := by
  refine .within (.first (Quiet.validate _) fun _ => ?_) _
  refine .first (quiet_resetPasswordToken around.now value) fun _ => ?_
  refine .first (service.quiet_hashPassword around password) fun hashed => ?_
  exact .filing id (plain_replacePasswordWithToken around.later value hashed)
    (fun db => ensures_replacePasswordWithToken db around.later value hashed)
    fun _ => .bind (.report _) fun _ => .pure _

theorem refreshes_changePassword (email password : String) :
    Refreshes (fun _ user => normalizeEmail email = .ok user.email)
      (service.changePassword around email password) := by
  refine .within (.validated fun normal hnormal => .first (Quiet.validate _) fun _ => ?_) _
  refine .first (service.quiet_hashPassword around password) fun hashed => ?_
  refine .filing id (plain_replacePassword normal hashed) (fun db s _ user hok => ?_)
    fun _ => .report _
  obtain ⟨rfl, hhas⟩ := ensures_replacePassword normal hashed s True.intro user hok
  exact ⟨hnormal, hhas⟩

end Service

namespace Call

def changesUser : Call → Bool
  | signup .. | validateSignupToken _ | changePasswordWithToken .. | changePassword .. => true
  | _ => false

/-- The call acts on the user with the email: it is given that one in some spelling, or a token for
it. -/
def ActsOn (around : Surroundings) (db : Database) (email : String) : Call → Prop
  | signup given _ _ | changePassword given _ => normalizeEmail given = .ok email
  | validateSignupToken value =>
    ∃ token, db.token? value .signup around.now = .ok (some token) ∧ token.email = email
  | changePasswordWithToken value _ =>
    ∃ token, db.token? value .passwordReset around.later = .ok (some token) ∧ token.email = email
  | _ => False

/-- Every call that changes a user refreshes the cache. -/
theorem refreshes_perform (service : Service) (around : Surroundings) {call : Call}
    (hcall : call.changesUser = true) :
    Procedure.Refreshes (fun db user => call.ActsOn around db user.email)
      (call.perform service around) := by
  cases call with
  | signup email name password =>
    exact (service.refreshes_signup around email name password).answering _
  | validateSignupToken value =>
    exact (Service.refreshes_validateSignupToken around value).answering _
  | changePasswordWithToken value password =>
    exact (service.refreshes_changePasswordWithToken around value password).answering _
  | changePassword email password =>
    exact (service.refreshes_changePassword around email password).answering _
  | _ => cases hcall

end Call

/-! ### What is found afterwards -/

/-- The entries under both keys of the user are about the user, the other entries are as they were,
and the user is found by the id, and by the email as far as that is kept as spelled. -/
structure Session.Refreshed (before after : Session) (user : PublicUser) : Prop where
  id : after.cache.load (.id user.id) = some user
  email : after.cache.load (.email user.email) = some user
  others : ∀ key, key ≠ .id user.id → key ≠ .email user.email →
    after.cache.load key = before.cache.load key
  getUser : Service.getUser user.id after = (.ok user, after)
  getUserByEmail : ∀ spelling, normalizeEmail spelling = .ok user.email →
    Service.getUserByEmail spelling after = (.ok user, after)

/-- An email is looked for as it is kept. -/
theorem Service.getUserByEmail_of_ok {spelling normal : String}
    (hnormal : normalizeEmail spelling = .ok normal) (s : Session) :
    getUserByEmail spelling s = lookUp (.email normal) (Query.userByEmail normal) s := by
  have hvalid : Procedure.validate (normalizeEmail spelling) s = (.ok normal, s) := by
    rw [hnormal]
    rfl
  rw [getUserByEmail, Step.bind_of_ok hvalid]

/-- With room for them, entries that were filed are found. -/
theorem Session.refreshed_of_store {before after : Session} {user : PublicUser}
    (hroom : before.cache.HasRoom user) (hcache : after.cache = before.cache.store user) :
    before.Refreshed after user := by
  have hload := Cache.load_store_of_room hroom
  rw [← hcache] at hload
  have hid : after.cache.load (.id user.id) = some user := by
    rw [hload, if_pos (.inr rfl)]
  have hemail : after.cache.load (.email user.email) = some user := by
    rw [hload, if_pos (.inl rfl)]
  refine ⟨hid, hemail, ?_, ?_, ?_⟩
  · intro key hother hother'
    rw [hload, if_neg (not_or.mpr ⟨hother', hother⟩)]
  · exact Service.lookUp_of_some hid _
  · intro spelling hspelling
    rw [Service.getUserByEmail_of_ok hspelling]
    exact Service.lookUp_of_some hemail _

/-- Whatever the tables and the cache hold, a call that succeeds in adding or changing a user has
acted on one whom the tables have afterwards. If there is room, the entries under both keys of that
user are replaced, all other entries stay, and look-ups find the user, by the email in every
spelling that is kept as the email of the user. -/
theorem refreshed_by_change (service : Service) (around : Surroundings) {call : Call}
    (hcall : call.changesUser = true) {s after : Session} {answer : Answer}
    (hok : call.perform service around s = (.ok answer, after)) :
    ∃ user : User, call.ActsOn around s.desk.store.database user.email ∧
      Query.userByEmail user.email after.desk = (.ok (some user), after.desk) ∧
      (s.cache.HasRoom user.toPublic → s.Refreshed after user.toPublic) := by
  obtain ⟨user, hacts, hhas, hcache⟩ :=
    Call.refreshes_perform service around hcall s answer after hok
  exact ⟨user, hacts, Query.userByEmail_of_has hhas, fun hroom =>
    Session.refreshed_of_store hroom hcache⟩

def Session.outdated : Session :=
  { Service.ofStamp (.integer 0) with
    cache := { Cache.ofCapacity 5 with
      entries := [(.id "u", ⟨"u", "old", "old@b"⟩), (.email "a@b", ⟨"w", "w", "a@b"⟩),
        (.id "w", ⟨"w", "w", "a@b"⟩)] } }

theorem refreshed_by_confirming :
    let around := (Request.at 5 .purgeExpiredTokens).around
    let run := (Call.validateSignupToken "s").perform .small around .outdated
    (Call.validateSignupToken "s").changesUser = true ∧ run.1 = .ok (.user ⟨"u", "n", "a@b"⟩) ∧
      Session.outdated.Refreshed run.2 ⟨"u", "n", "a@b"⟩ := by
  intro around run
  have hcall : (Call.validateSignupToken "s").changesUser = true := rfl
  have hanswer : run.1 = .ok (.user ⟨"u", "n", "a@b"⟩) := by decide +kernel
  have hok : (Call.validateSignupToken "s").perform .small around .outdated = (.ok _, run.2) :=
    Prod.ext hanswer rfl
  have hstored : (Query.userByEmail "a@b" run.2.desk).1 =
      .ok (some ⟨"u", "a@b", "n", ⟨[1], [2]⟩, 5⟩) := by decide +kernel
  obtain ⟨user, ⟨token, htoken, hemail⟩, hfound, hrefreshed⟩ :=
    refreshed_by_change .small around hcall hok
  obtain rfl : ⟨"s", .signup, "a@b", 9⟩ = token := Option.some.inj (Except.ok.inj htoken)
  rw [← hemail] at hfound
  rw [hfound] at hstored
  cases hstored
  refine ⟨rfl, hanswer, hrefreshed ?_⟩
  exact Cache.hasRoom_of_length (Cache.keeps_of_keepOldest rfl) (by decide) _

/-- A row written by others can have an email that is not kept as spelled. Its user is filed under
that email, and is not found by it. -/
theorem not_found_as_spelled_in_row :
    let user : PublicUser := ⟨"u", "n", "A@b"⟩
    let s : Session := {
      desk.store.database := {
        users := some [⟨.text "u", .text "A@b", .text "n", ⟨[1], [2]⟩, .integer 0⟩]
        tokens := some [⟨.text "s", "SIGNUP", .text "A@b", .integer 9⟩] }
      cache := .unbounded }
    let run := (Call.validateSignupToken "s").perform .small
      (Request.at 5 .purgeExpiredTokens).around s
    s.cache.HasRoom user ∧ run.1 = .ok (.user user) ∧
      run.2.cache.load (.email user.email) = some user ∧
      (Service.getUserByEmail user.email run.2).1 = .error .userNotFound := by
  refine ⟨⟨_, fun _ _ _ _ _ => rfl, Nat.le_refl _⟩, ?_⟩
  decide +kernel

end IdentityLifecycle
