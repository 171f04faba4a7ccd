import IdentityLifecycle.Proofs.CacheEntries
import IdentityLifecycle.Proofs.Reachable

/-!
# What stands under a key

The cache is filled from the tables, and by callers who remember users of their own making. An
entry under an id always has this id. An entry under an email has this email, unless a remembered
user has lent it: one with the id of the user whose email it is. A look-up in the tables keeps the
entry under the id if there is one, and files it under the email that the tables have.
-/

namespace IdentityLifecycle

/-! ### Who the users are -/

namespace Tables

variable {tables before after : Tables}

def publics (tables : Tables) : List PublicUser := tables.users.map User.toPublic

theorem mem_publics {user : User} (huser : user ∈ tables.users) : user.toPublic ∈ tables.publics :=
  List.mem_map_of_mem huser

/-- A change that callers do not see leaves the users as callers see them. -/
theorem publics_changeUser {change : User → User}
    (hchange : ∀ user, (change user).toPublic = user.toPublic) (email : String) :
    (tables.changeUser email change).publics = tables.publics :=
  map_changeUser User.toPublic hchange email

theorem publics_withPassword (tables : Tables) (email : String) (hashed : HashedPassword) :
    (tables.changeUser email (·.withPassword hashed)).publics = tables.publics := by
  apply publics_changeUser
  intro user
  rfl

def Identified (tables : Tables) : Prop := (tables.publics.map (·.id)).Nodup

theorem Identified.eq_of_id (h : tables.Identified) {a b : PublicUser} (ha : a ∈ tables.publics)
    (hb : b ∈ tables.publics) (hid : a.id = b.id) : a = b :=
  List.inj_on_of_nodup_map h ha hb hid

/-- All users are still there as callers saw them, and at most one came along, with an id of its
own. -/
inductive Grows (before after : Tables) : Prop
  | same (hsame : after.publics = before.publics)
  | added (seen : PublicUser) (hadded : after.publics = before.publics ++ [seen])
      (hfree : seen.id ∉ before.publics.map (·.id))

theorem Grows.subset (h : before.Grows after) : before.publics ⊆ after.publics := by
  cases h with
  | same hsame => exact hsame ▸ List.Subset.refl _
  | added seen hadded hfree => exact hadded ▸ List.subset_append_left _ _

theorem Grows.identified (h : before.Grows after) (hbefore : before.Identified) :
    after.Identified := by
  unfold Identified at *
  cases h with
  | same hsame => rwa [hsame]
  | added seen hadded hfree =>
    rw [hadded, List.map_append, List.nodup_append]
    refine ⟨hbefore, List.nodup_singleton _, ?_⟩
    intro id hid new hnew heq
    rw [List.map_singleton, List.mem_singleton] at hnew
    rw [heq, hnew] at hid
    exact hfree hid

end Tables

/-- Nobody is ever deleted, and callers see of a user what they always saw. -/
theorem Effect.grows {service : Service} {around : Surroundings} {before after : Tables}
    {call : Call} {answer : Answer} {mails : List Posting}
    (heffect : Effect service around before call answer mails after) : before.Grows after := by
  cases heffect with
  | read hcall => exact .same rfl
  | @registered email name password user hnew hemail hid hroom =>
    refine .added user.toPublic List.map_append ?_
    simpa [Tables.publics, Tables.userWithId?, User.toPublic] using hid
  | issued hnormal huser hsuits hroom => exact .same rfl
  | confirmed hvalue htoken huser =>
    exact .same (Tables.publics_changeUser (fun user => by simp [User.toPublic]) _)
  | recovered hnew htoken huser => exact .same (Tables.publics_withPassword _ _ _)
  | changed hnew huser => exact .same (Tables.publics_withPassword _ _ _)
  | purged => exact .same rfl

/-- A call, too, that has failed lets the users grow, for then it has changed nothing. -/
theorem Call.ending_grows (service : Service) (around : Surroundings) (call : Call) (view : View) :
    view.tables.Grows (call.ending service around view).2.tables := by
  obtain hsame | ⟨answer, mails, heffect⟩ := call.ending_tables service around view
  · exact .same (congrArg Tables.publics hsame)
  · exact heffect.grows

theorem Session.Reachable.identified {s : Session} (hs : s.Reachable) :
    s.view.tables.Identified := by
  induction hs with
  | fresh cache =>
    rw [(Session.fresh_shows cache).view_eq]
    exact List.nodup_nil
  | @served s service hs hchecked request ih =>
    rw [(service.serve_shows request hs.shows).view_eq]
    exact (request.call.ending_grows service request.around s.view).identified ih
  | cached hs cache ih => exact ih

/-! ### What a call files -/

/-- What a call leaves in the cache, given the tables after it: nothing new, a user from the tables
under both keys, a user from the tables whom the cache may know already, or the user whom it was
told to remember. -/
inductive Filing (view : View) (call : Call) (after : Tables) : Cache → Prop
  | kept : Filing view call after view.cache
  | stored {user : User} (huser : user ∈ after.users) :
      Filing view call after (view.cache.store user.toPublic)
  | read {user : User} (huser : user ∈ view.tables.users) :
      Filing view call after (view.read user).2.cache
  | remembered {seen : PublicUser} (hcall : call = .remember seen) :
      Filing view call after (view.cache.store seen)

namespace Ending

variable {α β : Type} {view : View} {call : Call}

def Files (ending : Ending α) (view : View) (call : Call) : Prop :=
  Filing view call ending.2.tables ending.2.cache

theorem Files.map {ending : Ending α} (h : ending.Files view call) (f : α → β) :
    (ending.map f).Files view call := h

theorem Files.given {checks : Except IdentityError α} {next : α → Ending β}
    (hnext : ∀ a, checks = .ok a → (next a).Files view call) :
    (Ending.given checks view next).Files view call := by
  cases checks with
  | error e => exact .kept
  | ok a => exact hnext a rfl

theorem Files.unit {work : Work α} {answer : α → β} {refresh : α → Cache → Cache}
    (hrefresh : ∀ a after, work.result = .ok (a, after) →
      Filing view call after (refresh a view.cache)) :
    (view.unit work answer refresh).Files view call := by
  unfold View.unit
  cases hresult : work.result with
  | error e => exact .kept
  | ok result => exact hrefresh result.1 result.2 hresult

theorem Files.lookUp {key : IdentityKey} {found : Option User}
    (hfound : ∀ user, found = some user → user ∈ view.tables.users) :
    (view.lookUp key found).Files view call := by
  unfold View.lookUp
  cases view.cache.load key with
  | some seen => exact .kept
  | none =>
    cases found with
    | none => exact .kept
    | some user => exact .read (hfound user rfl)

end Ending

namespace Service

variable {service : Service} {around : Surroundings} {before after : Tables}

theorem mem_of_registering {user : User} {a : Unit}
    (hok : (service.registering around user before).result = .ok (a, after)) :
    user ∈ after.users := by
  unfold registering at hok
  split at hok
  · cases hok
  · obtain ⟨-, rfl, -⟩ := mailing_ok hok
    exact List.mem_append_right _ List.mem_cons_self

theorem mem_of_redeeming {value : String} {type : TokenType} {now : Instant} {change : User → User}
    {orphaned : IdentityError} {changed : User}
    (hok : (redeeming value type now change orphaned before).result = .ok (changed, after)) :
    changed ∈ after.users := by
  unfold redeeming at hok
  dsimp only at hok
  split at hok
  · cases hok
  · split at hok
    · cases hok
    · next hfound =>
      cases hok
      exact (Tables.of_userWithEmail?_eq_some hfound).1

theorem mem_of_replacing {email : String} {hashed : HashedPassword} {changed : User}
    (hok : (replacing email hashed before).result = .ok (changed, after)) :
    changed ∈ after.users := by
  unfold replacing at hok
  dsimp only at hok
  split at hok
  · cases hok
  · next hfound =>
    cases hok
    exact (Tables.of_userWithEmail?_eq_some hfound).1

theorem mem_of_authenticate {email password : String} {user : User}
    (hok : service.authenticate email password before = .ok user) : user ∈ before.users := by
  obtain ⟨normal, -, hok⟩ := bind_eq_ok.mp hok
  cases hfound : before.userWithEmail? normal with
  | none => simp [hfound] at hok
  | some found =>
    simp only [hfound] at hok
    split at hok
    · split at hok <;> cases hok
      exact (Tables.of_userWithEmail?_eq_some hfound).1
    · cases hok

end Service

theorem Call.ending_files (service : Service) (around : Surroundings) (call : Call) (view : View) :
    (call.ending service around view).Files view call := by
  cases call with
  | signup email name password =>
    refine .map (.given fun user _ => .unit fun _ after hok => ?_) _
    exact .stored (Service.mem_of_registering hok)
  | signin email password =>
    exact .map (.given fun user hok => .read (Service.mem_of_authenticate hok)) _
  | resendSignupToken email => exact .map (.given fun _ _ => .unit fun _ _ _ => .kept) _
  | validateSignupToken token =>
    refine .map ?_ _
    unfold Service.validateSignupTokenEnding
    split
    · exact .kept
    · exact .unit fun user after hok => .stored (Service.mem_of_redeeming hok)
  | resetPassword email => exact .map (.given fun _ _ => .unit fun _ _ _ => .kept) _
  | resetPasswordToken token => exact .kept
  | changePasswordWithToken token password =>
    refine .map (.given fun hashed _ => .unit fun user after hok => ?_) _
    exact .stored (Service.mem_of_redeeming hok)
  | changePassword email password =>
    refine .map (.given fun (normal, hashed) _ => .unit fun user after hok => ?_) _
    exact .stored (Service.mem_of_replacing hok)
  | getUser id =>
    exact .map (.lookUp fun user hfound => (Tables.of_userWithId?_eq_some hfound).1) _
  | getUserByEmail email =>
    refine .map (.given fun normal _ => .lookUp fun user hfound => ?_) _
    exact (Tables.of_userWithEmail?_eq_some hfound).1
  | remember user => exact .remembered rfl
  | purgeExpiredTokens => exact .map (.unit fun _ _ _ => .kept) _

/-! ### What may stand under a key -/

/-- A user who may stand under a key. A remembered one may stand under the email of the user whose
id it has. -/
inductive Fits (tables : Tables) (remembered : PublicUser → Prop) : IdentityKey → PublicUser → Prop
  | own {key : IdentityKey} {user : PublicUser} (hnames : key.Names user)
      (hknown : user ∈ tables.publics ∨ remembered user) : Fits tables remembered key user
  | lent {owner user : PublicUser} (howner : owner ∈ tables.publics) (hid : user.id = owner.id)
      (hremembered : remembered user) : Fits tables remembered (.email owner.email) user

namespace Fits

variable {tables after : Tables} {remembered remembered' : PublicUser → Prop} {key : IdentityKey}
  {id email : String} {user seen : PublicUser}

theorem mono (h : Fits tables remembered key user) (htables : tables.publics ⊆ after.publics)
    (hremembered : ∀ user, remembered user → remembered' user) :
    Fits after remembered' key user := by
  cases h with
  | own hnames hknown => exact .own hnames (hknown.imp (@htables user) (hremembered user))
  | lent howner hid hlent => exact .lent (htables howner) hid (hremembered user hlent)

theorem of_id (h : Fits tables remembered (.id id) user) :
    user.id = id ∧ (user ∈ tables.publics ∨ remembered user) := by
  cases h with
  | own hnames hknown => exact ⟨hnames, hknown⟩

theorem of_email (h : Fits tables remembered (.email email) user) :
    user.email = email ∨
      remembered user ∧ ∃ owner ∈ tables.publics, owner.email = email ∧ owner.id = user.id := by
  cases h with
  | own hnames hknown => exact .inl hnames
  | lent howner hid hlent => exact .inr ⟨hlent, _, howner, rfl, hid.symm⟩

/-- Whoever stands under the id of a user of the tables may stand under the user's email. -/
theorem email_of_id (h : Fits tables remembered (.id seen.id) user) (htables : tables.Identified)
    (hseen : seen ∈ tables.publics) : Fits tables remembered (.email seen.email) user := by
  obtain ⟨hid, hknown⟩ := h.of_id
  rcases hknown with hmem | hremembered
  · -- ids are distinct, so it is the user whose email this is
    obtain rfl := htables.eq_of_id hmem hseen hid
    exact .own rfl (.inl hmem)
  · exact .lent hseen hid hremembered

end Fits

section Filed

variable {view : View} {remembered : PublicUser → Prop} {key : IdentityKey}

theorem Cache.Each.read (h : view.cache.Each (Fits view.tables remembered))
    (htables : view.tables.Identified) {user : User} (huser : user ∈ view.tables.users) :
    ∃ found, (view.read user).1 = .ok found ∧ Fits view.tables remembered (.id user.id) found ∧
      Fits view.tables remembered (.email user.email) found ∧
      (view.read user).2.cache.Each (Fits view.tables remembered) := by
  have hmem := Tables.mem_publics huser
  have hseen : Fits view.tables remembered (.id user.id) user.toPublic := .own rfl (.inl hmem)
  -- what is found under the id, old or new, is filed under the email as well
  obtain ⟨hid, hcache⟩ := h.storeIfAbsent hseen
  have hemail : Fits view.tables remembered (.email user.email) _ := hid.email_of_id htables hmem
  exact ⟨_, rfl, hid, hemail, (hcache.storeIfAbsent hemail).2⟩

theorem Cache.Each.lookUp (h : view.cache.Each (Fits view.tables remembered))
    (htables : view.tables.Identified) {found : Option User}
    (hfound : ∀ user, found = some user → user ∈ view.tables.users ∧ key.Names user.toPublic)
    {seen : PublicUser} (hok : (view.lookUp key found).1 = .ok seen) :
    Fits view.tables remembered key seen := by
  unfold View.lookUp at hok
  cases hload : view.cache.load key with
  | some entry =>
    rw [hload] at hok
    cases hok
    exact h key seen hload
  | none =>
    rw [hload] at hok
    cases found with
    | none => cases hok
    | some user =>
      obtain ⟨huser, hnames⟩ := hfound user rfl
      obtain ⟨entry, hread, hid, hemail, -⟩ := h.read htables huser
      obtain rfl : entry = seen := Except.ok.inj (hread.symm.trans hok)
      cases key with
      | id text =>
        obtain rfl : user.id = text := hnames
        exact hid
      | email text =>
        obtain rfl : user.email = text := hnames
        exact hemail

/-- Step of the invariant: whatever a call files fits, and what fitted before still does. -/
theorem Filing.each {call : Call} {after : Tables} {cache : Cache} {remembered' : PublicUser → Prop}
    (hfiling : Filing view call after cache) (htables : view.tables.Identified)
    (hgrows : view.tables.Grows after) (h : view.cache.Each (Fits view.tables remembered))
    (hremembered : ∀ user, remembered user ∨ call = .remember user → remembered' user) :
    cache.Each (Fits after remembered') := by
  have hmono : ∀ key user, Fits view.tables remembered key user → Fits after remembered' key user :=
    fun key user hfits => hfits.mono hgrows.subset fun user hold => hremembered user (.inl hold)
  cases hfiling with
  | kept => exact h.mono hmono
  | stored huser =>
    have hmem := Tables.mem_publics huser
    exact (h.mono hmono).store (.own rfl (.inl hmem)) (.own rfl (.inl hmem))
  | read huser =>
    obtain ⟨-, -, -, -, hcache⟩ := h.read htables huser
    exact hcache.mono hmono
  | @remembered seen hcall =>
    have hnew := hremembered seen (.inr hcall)
    exact (h.mono hmono).store (.own rfl (.inr hnew)) (.own rfl (.inr hnew))

end Filed

/-! ### Runs from an empty cache -/

def Remembers (requests : List Request) (user : PublicUser) : Prop :=
  ∃ request ∈ requests, request.call = .remember user

/-- After any run, every entry fits in the place where it is filed. -/
theorem Service.run_fits (service : Service) {start : Session} {view : View}
    (hstart : start.Shows view) (hcold : view.cache.entries = [])
    (hidentified : view.tables.Identified) (requests : List Request) :
    ∃ after, (service.run start requests).2.Shows after ∧ after.tables.Identified ∧
      after.cache.Each (Fits after.tables (Remembers requests)) := by
  induction requests with
  | nil => exact ⟨view, hstart, hidentified, .of_empty hcold⟩
  | cons request earlier ih =>
    obtain ⟨before, hshows, hbefore, heach⟩ := ih
    have hfiles := request.call.ending_files service request.around before
    have hgrows := request.call.ending_grows service request.around before
    refine ⟨_, service.serve_shows request hshows, hgrows.identified hbefore, ?_⟩
    refine hfiles.each hbefore hgrows heach fun user hremembered => ?_
    rcases hremembered with ⟨old, hold, hcall⟩ | hcall
    · exact ⟨old, .tail _ hold, hcall⟩
    · exact ⟨request, .head _, hcall⟩

/-- A service starts with an empty cache on a database that others have left, and makes any calls.
Whoever is found under an id, or is looked up by it, has this id. Whoever is found under an email
has it, unless the user was remembered and has the id of the user to whom the email belongs. -/
theorem filed_under_own_keys (service : Service) (start : Session) (hstart : start.Reachable)
    (hcold : start.cache.entries = []) (requests : List Request) :
    let after := (service.run start requests).2
    let lent (email : String) (user : PublicUser) : Prop :=
      Remembers requests user ∧
        ∃ owner ∈ after.desk.store.tables.publics, owner.email = email ∧ owner.id = user.id
    (∀ id user, after.cache.load (.id id) = some user → user.id = id) ∧
    (∀ email user, after.cache.load (.email email) = some user →
      user.email = email ∨ lent email user) ∧
    (∀ id user, (Service.getUser id after).1 = .ok user → user.id = id) ∧
    ∀ email user, (Service.getUserByEmail email after).1 = .ok user →
      ∃ normal, normalizeEmail email = .ok normal ∧ (user.email = normal ∨ lent normal user) := by
  intro after lent
  obtain ⟨view, hshows, hidentified, heach⟩ :=
    service.run_fits hstart.shows hcold hstart.identified requests
  have hcache : after.cache = view.cache := hshows.cache
  have htables : after.desk.store.tables = view.tables := hshows.tables.tables_eq
  have hlent : ∀ email user, Fits view.tables (Remembers requests) (.email email) user →
      user.email = email ∨ lent email user := by
    intro email user hfits
    rw [← htables] at hfits
    exact hfits.of_email
  refine ⟨?_, ?_, ?_, ?_⟩
  · intro id user hload
    rw [hcache] at hload
    exact (heach _ user hload).of_id.1
  · intro email user hload
    rw [hcache] at hload
    exact hlent email user (heach _ user hload)
  · intro id user hok
    have hends := Service.lookUp_ends (.id id) (Query.userById_carries id view.tables)
    rw [Service.getUser, (hends after hshows).1] at hok
    refine (heach.lookUp hidentified (fun owner hfound => ?_) hok).of_id.1
    exact Tables.of_userWithId?_eq_some hfound
  · intro email user hok
    rw [(Service.getUserByEmail_ends email view after hshows).1] at hok
    unfold Service.getUserByEmailEnding at hok
    cases hnormal : normalizeEmail email with
    | error e =>
      rw [hnormal] at hok
      cases hok
    | ok normal =>
      rw [hnormal] at hok
      have hfiled := heach.lookUp hidentified (fun owner hfound => ?_) hok
      · exact ⟨normal, rfl, hlent normal user hfiled⟩
      · exact Tables.of_userWithEmail?_eq_some hfound

/-- Someone signs up, and another service remembers the id with another email before it looks the
user up: the remembered user is answered for the email that the tables have. -/
theorem entry_lent_to_signed_up :
    let signed := (Service.small.run (.fresh .unbounded) [.at 1 (.signup "a@b" "n" "p")]).2
    let start := { signed with cache := .unbounded }
    let stale : PublicUser := { id := "u", name := "n", email := "c@d" }
    let requests : List Request := [.at 3 (.getUserByEmail "a@b"), .at 2 (.remember stale)]
    let after := (Service.small.run start requests).2
    start.Reachable ∧ start.cache.entries = [] ∧
      ¬(∀ email user, after.cache.load (.email email) = some user → user.email = email) ∧
      ¬∀ email normal user, normalizeEmail email = .ok normal →
        (Service.getUserByEmail email after).1 = .ok user → user.email = normal := by
  intro signed start stale requests after
  have hreachable : start.Reachable :=
    .cached (Service.run_reachable Service.small_checked .unbounded _) .unbounded
  have hfound : after.cache.load (.email "a@b") = some stale ∧ normalizeEmail "a@b" = .ok "a@b" ∧
      (Service.getUserByEmail "a@b" after).1 = .ok stale := by
    decide +kernel
  obtain ⟨hload, hnormal, hanswer⟩ := hfound
  have hne : stale.email ≠ "a@b" := by decide
  exact ⟨hreachable, rfl, fun h => hne (h _ _ hload), fun h => hne (h _ _ _ hnormal hanswer)⟩

theorem joined_filed_under_own_keys :
    let joined := (Service.small.run (.fresh .unbounded) Request.joining).2
    let start := { joined with cache := .unbounded }
    let requests : List Request := [.at 5 (.getUserByEmail "A@b"), .at 4 (.getUser "u")]
    let after := (Service.small.run start requests).2
    start.Reachable ∧ start.cache.entries = [] ∧ after.cache.entryCount = 2 ∧
      (∀ id user, after.cache.load (.id id) = some user → user.id = id) ∧
      ∀ id user, (Service.getUser id after).1 = .ok user → user.id = id := by
  intro joined start requests after
  have hreachable : start.Reachable :=
    .cached (Service.run_reachable Service.small_checked .unbounded _) .unbounded
  have hcount : after.cache.entryCount = 2 := by decide +kernel
  obtain ⟨hids, -, hanswers, -⟩ := filed_under_own_keys .small start hreachable rfl requests
  exact ⟨hreachable, rfl, hcount, hids, hanswers⟩

end IdentityLifecycle
