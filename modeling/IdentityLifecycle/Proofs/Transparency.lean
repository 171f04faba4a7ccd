import IdentityLifecycle.Proofs.Alike
import IdentityLifecycle.Proofs.Canonical
import IdentityLifecycle.Proofs.Sound
import IdentityLifecycle.Proofs.StoredUsers

/-!
# The cache makes no difference

A service whose cache was empty at first is compared with one that has no cache. Every entry is
about a user whom the tables know, so that what it answers is what the tables answer. Most parts of
an operation have nothing to do with the cache; the others touch it only with users just read.
-/

namespace IdentityLifecycle

namespace Service

open Procedure

/-- The entry under the id of a user is what the tables tell of the user. -/
theorem storeIfAbsent_id {s t : Session} (hst : s.Alike t) {user : User}
    (huser : t.desk.store.Knows user.toPublic) :
    (s.cache.storeIfAbsent (.id user.id) user.toPublic).1 = user.toPublic := by
  cases hload : s.cache.load (.id user.id) with
  | none => rw [Cache.storeIfAbsent_of_none hload]
  | some found =>
    -- What is found may have been filed long ago, but it is known still and has the same id.
    rw [Cache.storeIfAbsent_of_some hload]
    obtain ⟨hnames, hfound⟩ := hst.coherent _ _ hload
    exact hst.keyed.eq_of_id huser.2 hfound.2 hnames

theorem transparent_cacheRead (user : User) :
    Transparent (·.Knows user.toPublic) (cacheRead user) := by
  intro s t hst huser
  have hid : (IdentityKey.id user.id).Names user.toPublic := rfl
  have hemail : (IdentityKey.email user.email).Names user.toPublic := rfl
  have hcached := storeIfAbsent_id hst huser
  obtain ⟨hplain, habsent⟩ := hst.absent.storeIfAbsent (.id user.id) user.toPublic
  simp only [cacheRead, hcached, hplain]
  refine ⟨trivial, hst.desk, hst.postings, hst.keyed, ?_, (habsent.storeIfAbsent _ _).2⟩
  exact (hst.coherent.storeIfAbsent hid huser).storeIfAbsent hemail huser

/-- Whoever is read on a connection can be looked up. -/
theorem ensures_onConnection {P : Store → Prop} {read : Query (Option User)}
    {key : IdentityKey} (hfinds : Query.Finds read key) :
    Ensures P (query read.onConnection) fun found store =>
      ∀ user, found = some user → store.Knows user.toPublic := by
  refine .query fun desk _ found hok => ?_
  rintro user rfl
  rw [hfinds.readsOnly.onConnection desk]
  cases hclosed : desk.store.closed with
  | true =>
    obtain ⟨e, herror⟩ := Query.onConnection_of_closed (q := read) hclosed
    rw [herror] at hok
    cases hok
  | false =>
    rw [Query.onConnection_of_open hclosed] at hok
    exact ⟨hclosed, hfinds.known desk user hok⟩

/-- A look-up that reads through finds the same user as the tables have. -/
theorem transparent_readThrough {read : Query (Option User)} {key : IdentityKey}
    (hfinds : Query.Finds read key) (P : Store → Prop) : Transparent P (readThrough read) := by
  refine .plain_bind (.query hfinds.readsOnly.onConnection.evolves) (ensures_onConnection hfinds)
    fun found => ?_
  exact .plain_bind (.ofOption _ found) .ofOption fun user => transparent_cacheRead user

/-- Without a cache, a known user is read from the tables. -/
theorem readThrough_of_knows {read : Query (Option User)} {key : IdentityKey} {seen : PublicUser}
    (hfinds : Query.Finds read key) {t : Session} (hkeyed : t.desk.store.database.Keyed)
    (habsent : t.cache.Absent) (hseen : t.desk.store.Knows seen) (hnames : key.Names seen) :
    ∃ cache : Cache, cache.Absent ∧ readThrough read t = (.ok seen, t.withCache cache) := by
  obtain ⟨user, hread, rfl⟩ := hfinds.found t.desk seen hkeyed hseen.2 hnames
  have hquery : query read.onConnection t = (.ok (some user), t) := by
    unfold query
    rw [Query.onConnection_of_open hseen.1, hread]
  obtain ⟨hplain, hleft⟩ := habsent.storeIfAbsent (.id user.id) user.toPublic
  refine ⟨_, (hleft.storeIfAbsent (.email user.email) user.toPublic).2, ?_⟩
  unfold readThrough
  rw [Step.bind_apply, hquery]
  change cacheRead user t = _
  simp only [cacheRead, hplain]
  rfl

/-- An entry answers what the tables would. -/
theorem transparent_lookUp {read : Query (Option User)} {key : IdentityKey}
    (hfinds : Query.Finds read key) (P : Store → Prop) : Transparent P (lookUp key read) := by
  intro s t hst hstore
  rw [lookUp_of_none (hst.absent.load key)]
  cases hload : s.cache.load key with
  | none =>
    rw [lookUp_of_none hload]
    exact transparent_readThrough hfinds P s t hst hstore
  | some seen =>
    -- That the store is open is part of `hseen`: on a closed one the entry would answer while
    -- the read fails.
    obtain ⟨hnames, hseen⟩ := hst.coherent key seen hload
    obtain ⟨cache, habsent, hplain⟩ :=
      readThrough_of_knows hfinds hst.keyed hst.absent hseen hnames
    rw [lookUp_of_some hload, hplain]
    exact ⟨rfl, hst.desk, hst.postings, hst.keyed, hst.coherent, habsent⟩

/-! ### Units of work -/

variable (service : Service) (around : Surroundings)

theorem plain_mailSignupToken (email name : String) :
    Plain (service.mailSignupToken around email name) :=
  .bind (.query (Query.evolves_issue _ _ _ _ _)) fun _ => .send _ _

theorem plain_register (user : User) : Plain (service.register around user) :=
  .bind (.query (Query.readsOnly_userByEmail _).evolves) fun _ => .guard <|
    .bind (.recover (.query (Query.evolves_createUser user)) _) fun _ =>
      service.plain_mailSignupToken around user.email user.name

theorem plain_reissueSignup (email : String) : Plain (service.reissueSignup around email) :=
  .bind (.query (Query.readsOnly_userByEmail _).evolves) fun _ => .bind (.ofOption _ _) fun user =>
    .guard (service.plain_mailSignupToken around email user.name)

theorem plain_issueReset (email : String) : Plain (service.issueReset around email) :=
  .bind (.query (Query.readsOnly_userByEmail _).evolves) fun _ => .bind (.ofOption _ _) fun _ =>
    .guard <| .bind (.query (Query.evolves_issue _ _ _ _ _)) fun _ => .send _ _

theorem plain_verify (value : String) : Plain (verify around value) :=
  .bind (.query (Query.evolves_consume _ _ _)) fun _ => .bind (.ofOption _ _) fun _ =>
    .bind (.query (Query.evolves_updateUser _ _ (UserRow.keeps_stamp _))) fun _ => .ofOption _ _

theorem plain_replacePasswordWithToken (now : Instant) (value : String) (hashed : HashedPassword) :
    Plain (replacePasswordWithToken now value hashed) :=
  .bind (.query (Query.evolves_consume _ _ _)) fun _ => .bind (.ofOption _ _) fun _ =>
    .bind (.query (Query.evolves_updateUser _ _ (UserRow.keeps_password _))) fun _ =>
      .ofOption _ _

theorem plain_replacePassword (email : String) (hashed : HashedPassword) :
    Plain (replacePassword email hashed) :=
  .bind (.query (Query.evolves_updateUser _ _ (UserRow.keeps_password _))) fun _ =>
    .bind (.ofOption _ _) fun _ => .bind (.query (Query.evolves_deleteTokens _ _)) fun _ => .pure _

/-! ### The operations -/

theorem plain_validate {α : Type} (outcome : Except ValidationError α) :
    Plain (validate outcome) := .ofExcept _

theorem plain_hashPassword (password : String) : Plain (service.hashPassword around password) :=
  .ofExcept _

theorem plain_resetPasswordToken (now : Instant) (token : String) :
    Plain (resetPasswordToken now token) := by
  refine .within (.guard <| .bind (.query Query.readsOnly_connect.evolves) fun _ => ?_) _
  refine .bind (.query (Query.readsOnly_peek _ _ _).evolves) fun _ => ?_
  refine .bind (.ofOption _ _) fun _ => ?_
  exact .bind (.query (Query.readsOnly_userByEmail _).evolves) fun _ =>
    .bind (.ofOption _ _) fun _ => .pure ()

/-- A unit of work, after which the user whom it leaves is filed. -/
theorem transparent_filing {α β : Type} {p : Procedure α} {next : α → Procedure β}
    (seen : α → User) (hp : Plain p)
    (hhas : Ensures (fun _ => True) p fun a store => store.database.Has (seen a))
    (hnext : ∀ a, Plain (next a)) :
    Transparent (fun _ => True) (do
      let a ← asUnit p
      onCache (·.store (seen a).toPublic)
      next a) :=
  .plain_bind hp.asUnit (hhas.mono fun _ _ h => h.knows).asUnit fun a =>
    .bind (transparent_store (seen a).toPublic) (.trivial _ _) fun _ => (hnext a).transparent

theorem transparent_signup (email name password : String) :
    Transparent (fun _ => True) (service.signup around email name password) := by
  refine .within (.first (plain_validate _) fun email => .first (plain_validate _) fun name => ?_) _
  refine .first (plain_validate _) fun _ => ?_
  refine .first (service.plain_hashPassword around password) fun hashed => ?_
  exact transparent_filing (fun _ => User.register around.userId email name hashed)
    (service.plain_register around _) (service.ensures_register around _) fun _ => .report _

theorem transparent_signin (email password : String) :
    Transparent (fun _ => True) (service.signin email password) := by
  have hmismatch : Plain signin.mismatch := .bind (.report _) fun _ => .fail _
  refine .within (.checked fun normal hnormal => ?_) _
  have hfinds := Query.finds_userByEmail (normalizeEmail_ne_empty (mapError_eq_ok.mp hnormal))
  refine .plain_bind (.query (Query.readsOnly_userByEmail normal).onConnection.evolves)
    (ensures_onConnection hfinds) fun found => ?_
  refine .plain_bind (.ofOption _ found) .ofOption fun user => .guard ?_
  dsimp only
  split
  · refine .plain_bind (.report _) ?_ fun _ => transparent_cacheRead user
    exact (Plain.report _).ensures fun _ _ hevolves => hevolves.storeKnows
  · exact hmismatch.transparent
  · exact hmismatch.transparent
  · exact (Plain.fail _).transparent

theorem transparent_resendSignupToken (email : String) :
    Transparent (fun _ => True) (service.resendSignupToken around email) := by
  refine Plain.transparent (.within (.bind (plain_validate _) fun email => ?_) _)
  exact .bind (service.plain_reissueSignup around email).asUnit fun _ => .report _

theorem transparent_validateSignupToken (token : String) :
    Transparent (fun _ => True) (validateSignupToken around token) :=
  .within (.guard <| transparent_filing id (plain_verify around token)
    (.of_database fun db => (ensures_verify around db token).mono fun _ _ h => h.2)
    fun _ => .bind (.report _) fun _ => .pure _) _

theorem transparent_resetPassword (email : String) :
    Transparent (fun _ => True) (service.resetPassword around email) := by
  refine Plain.transparent (.within (.bind (plain_validate _) fun email => ?_) _)
  exact .bind (service.plain_issueReset around email).asUnit fun _ => .report _

theorem transparent_changePasswordWithToken (token password : String) :
    Transparent (fun _ => True) (service.changePasswordWithToken around token password) := by
  refine .within (.first (plain_validate _) fun _ => ?_) _
  refine .first (plain_resetPasswordToken around.now token) fun _ => ?_
  refine .first (service.plain_hashPassword around password) fun hashed => ?_
  refine transparent_filing id (plain_replacePasswordWithToken around.later token hashed)
    (.of_database fun db => ?_) fun _ => .bind (.report _) fun _ => .pure _
  exact (ensures_replacePasswordWithToken db around.later token hashed).mono fun _ _ h => h.2

theorem transparent_changePassword (email password : String) :
    Transparent (fun _ => True) (service.changePassword around email password) := by
  refine .within (.first (plain_validate _) fun email => .first (plain_validate _) fun _ => ?_) _
  refine .first (service.plain_hashPassword around password) fun hashed => ?_
  exact transparent_filing id (plain_replacePassword email hashed)
    ((ensures_replacePassword email hashed).mono fun _ _ h => h.2) fun _ => .report _

theorem transparent_getUserByEmail (email : String) :
    Transparent (fun _ => True) (getUserByEmail email) := by
  unfold getUserByEmail validate
  refine .checked fun normal hnormal => ?_
  have hne := normalizeEmail_ne_empty (mapError_eq_ok.mp hnormal)
  exact transparent_lookUp (Query.finds_userByEmail hne) _

theorem transparent_purgeExpiredTokens (now : Instant) :
    Transparent (fun _ => True) (purgeExpiredTokens now) := by
  refine Plain.transparent (.within ?_ _)
  exact .bind (Plain.asUnit (.query (Query.evolves_deleteTokens _ _))) fun _ =>
    .bind (.report _) fun _ => .pure _

end Service

theorem Procedure.Transparent.answering {α : Type} {p : Procedure α} {P : Store → Prop}
    (hp : Transparent P p) (f : α → Answer) : Transparent P (p.answering f) :=
  .bind hp (.trivial _ _) fun a => (Plain.pure (f a)).transparent

/-- Every call but one that files a user from outside ends alike with a cache and without. -/
theorem Call.transparent_perform (service : Service) (around : Surroundings) {call : Call}
    (hcall : ∀ user, call ≠ .remember user) :
    (call.perform service around).Transparent fun _ => True := by
  cases call with
  | signup email name password => exact (service.transparent_signup around _ _ _).answering _
  | signin email password => exact (service.transparent_signin _ _).answering _
  | resendSignupToken email => exact (service.transparent_resendSignupToken around _).answering _
  | validateSignupToken token =>
    exact (Service.transparent_validateSignupToken around _).answering _
  | resetPassword email => exact (service.transparent_resetPassword around _).answering _
  | resetPasswordToken token =>
    exact (Service.plain_resetPasswordToken _ _).transparent.answering _
  | changePasswordWithToken token password =>
    exact (service.transparent_changePasswordWithToken around _ _).answering _
  | changePassword email password =>
    exact (service.transparent_changePassword around _ _).answering _
  | getUser id =>
    exact (Service.transparent_lookUp (Query.finds_userById id) _).answering _
  | getUserByEmail email => exact (Service.transparent_getUserByEmail email).answering _
  | remember user => exact absurd rfl (hcall user)
  | purgeExpiredTokens => exact (Service.transparent_purgeExpiredTokens _).answering _

/-! ### Whole runs -/

theorem Tables.Sound.keyed {store : Store} {tables : Tables} (hsound : tables.Sound)
    (h : store.Holds tables) : store.database.Keyed := by
  intro rows hrows
  obtain rfl : rows = tables.users.map User.row := Option.some.inj (hrows.symm.trans h.users)
  have htext : Function.Injective Cell.text := fun _ _ hsame => Cell.text.inj hsame
  refine ⟨?_, ?_, ?_⟩
  · intro row hrow
    obtain ⟨user, -, rfl⟩ := List.mem_map.mp hrow
    exact Cell.noConfusion
  · have hids := hsound.ids_nodup.map htext
    rw [List.map_map] at hids ⊢
    exact hids
  · have hemails := hsound.emails_nodup.map htext
    rw [List.map_map] at hemails ⊢
    exact hemails

namespace Session.Alike

variable {s t : Session}

theorem keeping (hst : s.Alike t) (keep : IdentityKey → Bool) :
    (s.withCache (s.cache.keeping keep)).Alike t :=
  ⟨hst.desk, hst.postings, hst.keyed, hst.coherent.keeping keep, hst.absent⟩

theorem serve (hst : s.Alike t) (service : Service) {request : Request}
    (hcall : ∀ user, request.call ≠ .remember user) :
    (service.serve request s).1 = (service.serve request t).1 ∧
      (service.serve request s).2.Alike (service.serve request t).2 := by
  obtain ⟨hanswer, halike⟩ :=
    request.call.transparent_perform service request.around hcall s t hst True.intro
  refine ⟨?_, halike⟩
  have hpostings := halike.postings
  unfold Service.serve
  dsimp only
  rw [hanswer, hpostings, hst.postings]

end Session.Alike

namespace Service

/-- A run whose cache also loses entries between the requests: before each it keeps the entries of
those keys alone that `keeps` tells, given how many requests there have been. What is lost in the
middle of a call is up to the cache, which gives up what it likes whenever an entry is made. -/
def runLosing (service : Service) (keeps : Nat → IdentityKey → Bool) (start : Session) :
    List Request → List Event × Session
  | [] => (([] : List Event), start)
  | request :: earlier =>
    let (events, s) := runLosing service keeps start earlier
    let (event, after) :=
      service.serve request (s.withCache (s.cache.keeping (keeps earlier.length)))
    (event :: events, after)

/-- By induction on the requests, a run goes as it would without a cache. -/
theorem run_alike (service : Service) (keeps : Nat → IdentityKey → Bool) {s t : Session}
    (hst : s.Alike t) {requests : List Request}
    (hcalls : ∀ request ∈ requests, ∀ user, request.call ≠ .remember user) :
    (service.runLosing keeps s requests).1 = (service.run t requests).1 ∧
      (service.runLosing keeps s requests).2.Alike (service.run t requests).2 := by
  -- The latest request comes first, so that the tail is the run before it.
  induction requests with
  | nil => exact ⟨rfl, hst⟩
  | cons request earlier ih =>
    obtain ⟨hcall, hearlier⟩ := List.forall_mem_cons.mp hcalls
    obtain ⟨hevents, halike⟩ := ih hearlier
    obtain ⟨hevent, hafter⟩ := (halike.keeping (keeps earlier.length)).serve service hcall
    exact ⟨congrArg₂ List.cons hevent hevents, hafter⟩

end Service

/-- A service starts with an empty cache on any database whose users have distinct ids and distinct
emails, and the cache gives up entries as it likes. Unless users are filed from outside, it answers
all calls, hands over all mails and leaves all tables as if it had no cache. -/
theorem runs_as_without_cache (service : Service) (start : Session)
    (hcold : start.cache.entries = []) (hkeyed : start.desk.store.database.Keyed)
    (keeps : Nat → IdentityKey → Bool) (requests : List Request)
    (hcalls : ∀ request ∈ requests, ∀ user, request.call ≠ .remember user) :
    let cached := service.runLosing keeps start requests
    let plain := service.run (start.withCache .absent) requests
    cached.1 = plain.1 ∧ cached.2.desk = plain.2.desk ∧ cached.2.postings = plain.2.postings := by
  have halike : start.Alike (start.withCache .absent) :=
    ⟨rfl, rfl, hkeyed, .of_empty hcold, Cache.absent_absent⟩
  obtain ⟨hevents, hafter⟩ := service.run_alike keeps halike hcalls
  exact ⟨hevents, hafter.desk, hafter.postings⟩

/-- Someone is looked up three times, through a cache with room for one entry that is lost once. -/
theorem joined_runs_as_without_cache :
    let joined := (Service.small.run (.fresh .unbounded) Request.joining).2
    let start := joined.withCache (.ofCapacity 1)
    let requests : List Request :=
      [.at 5 (.getUserByEmail "A@b"), .at 4 (.getUser "u"), .at 3 (.getUser "u")]
    let keeps : Nat → IdentityKey → Bool := fun before _ => before ≠ 1
    start.cache.entries = [] ∧ start.desk.store.database.Keyed ∧
      (∀ request ∈ requests, ∀ user, request.call ≠ .remember user) ∧
      (Service.small.runLosing keeps start requests).2.cache.entryCount = 1 ∧
      let cached := Service.small.runLosing keeps start requests
      let plain := Service.small.run (start.withCache .absent) requests
      cached.1 = plain.1 ∧ cached.2.desk = plain.2.desk ∧ cached.2.postings = plain.2.postings := by
  intro joined start requests keeps
  have hkeyed : start.desk.store.database.Keyed := by
    obtain ⟨view, hshows, hchronicle⟩ :=
      Service.small.run_fresh_chronicle .unbounded Request.joining
    have hclock : ∀ request ∈ Request.joining, 0 < request.around.now := by
      simp [Request.joining, Request.at]
    have hsound := hchronicle.sound Tables.sound_empty (Service.small.forall_run_events hclock)
    exact hsound.keyed hshows.tables
  have hcalls : ∀ request ∈ requests, ∀ user, request.call ≠ .remember user := by
    simp [requests, Request.at]
  have hcount : (Service.small.runLosing keeps start requests).2.cache.entryCount = 1 := by
    decide +kernel
  exact ⟨rfl, hkeyed, hcalls, hcount,
    runs_as_without_cache .small start rfl hkeyed keeps requests hcalls⟩

end IdentityLifecycle
