import IdentityLifecycle.Proofs.Orderly

/-!
# What a call that fails leaves

What an operation does before it fails falls into three parts: checks and look-ups, which change
nothing but the log; one unit of work, whose changes are rolled back; and, once the unit has been
committed, steps that cannot fail. A mail is handed over at the end of a unit, so that a unit fails
after it because the mail was refused, or because the unit was not committed. Then the tables are as
they were, and the mail is on its way.
-/

namespace IdentityLifecycle

structure Session.Same (before after : Session) : Prop where
  store : after.desk.store = before.desk.store
  cache : after.cache = before.cache
  postings : after.postings = before.postings

def Session.NoneAccepted (before after : Session) : Prop :=
  ∃ refused : List Mail,
    after.postings = before.postings ++ refused.map ({ mail := ·, accepted := false })

def Session.Mailed (before after : Session) (mails : Bool) : Prop :=
  ∃ accepted : List Mail, accepted.length = mails.toNat ∧
    after.postings = before.postings ++ accepted.map ({ mail := ·, accepted := true })

/-- The store with all its tables and the cache are as they were, and no mail was accepted. -/
structure Session.Untouched (before after : Session) : Prop where
  store : after.desk.store = before.desk.store
  cache : after.cache = before.cache
  postings : before.NoneAccepted after

/-- What a failure leaves. The mail of a unit that was not committed stays accepted. -/
structure Session.LeftBy (before after : Session) (mails : Bool) (e : IdentityError) : Prop where
  store : after.desk.store = before.desk.store
  cache : after.cache = before.cache
  refused : e.isUncommitted = false → before.NoneAccepted after
  mailed : e.isUncommitted = true → before.Mailed after mails

namespace Session

variable {s t u : Session}

theorem Same.refl (s : Session) : s.Same s := ⟨rfl, rfl, rfl⟩

theorem Same.trans (hst : s.Same t) (htu : t.Same u) : s.Same u :=
  ⟨htu.store.trans hst.store, htu.cache.trans hst.cache, htu.postings.trans hst.postings⟩

theorem NoneAccepted.of_eq (h : t.postings = s.postings) : s.NoneAccepted t :=
  ⟨[], by simpa using h⟩

theorem NoneAccepted.of_eq_left (h : t.postings = s.postings) (htu : t.NoneAccepted u) :
    s.NoneAccepted u := by
  obtain ⟨refused, hrefused⟩ := htu
  exact ⟨refused, by rw [hrefused, h]⟩

theorem Mailed.of_eq (h : t.postings = s.postings) : s.Mailed t false :=
  ⟨[], rfl, by simpa using h⟩

theorem Mailed.of_eq_left {mails : Bool} (h : t.postings = s.postings) (htu : t.Mailed u mails) :
    s.Mailed u mails := by
  obtain ⟨accepted, hlength, haccepted⟩ := htu
  exact ⟨accepted, hlength, by rw [haccepted, h]⟩

theorem Mailed.one (h : s.Mailed t true) :
    ∃ mail, t.postings = s.postings ++ [{ mail, accepted := true }] := by
  obtain ⟨accepted, hlength, haccepted⟩ := h
  obtain ⟨mail, rfl⟩ := List.length_eq_one_iff.mp hlength
  exact ⟨mail, haccepted⟩

variable {mails : Bool} {e : IdentityError}

theorem Same.leftBy (h : s.Same t) (he : e.isUncommitted = false) : s.LeftBy t mails e where
  store := h.store
  cache := h.cache
  refused _ := .of_eq h.postings
  mailed hmails := absurd (he.symm.trans hmails) Bool.false_ne_true

theorem Same.trans_leftBy (hst : s.Same t) (htu : t.LeftBy u mails e) : s.LeftBy u mails e where
  store := htu.store.trans hst.store
  cache := htu.cache.trans hst.cache
  refused he := .of_eq_left hst.postings (htu.refused he)
  mailed he := .of_eq_left hst.postings (htu.mailed he)

/-- A failure of any other kind leaves no trace at all. -/
theorem LeftBy.untouched (h : s.LeftBy t mails e) (he : e.isUncommitted = false) :
    s.Untouched t :=
  ⟨h.store, h.cache, h.refused he⟩

end Session

/-! ### Statements that only read -/

namespace Query

def ReadsOnly {α : Type} (q : Query α) : Prop := ∀ desk, (q desk).2.store = desk.store

variable {α β : Type}

theorem ReadsOnly.pure (a : α) : ReadsOnly (pure a : Query α) := fun _ => rfl

theorem ReadsOnly.ofExcept (outcome : Except StoreError α) :
    ReadsOnly (.ofExcept outcome) := fun _ => rfl

theorem ReadsOnly.bind {q : Query α} {next : α → Query β} (hq : ReadsOnly q)
    (hnext : ∀ a, ReadsOnly (next a)) : ReadsOnly (q >>= next) := by
  intro desk
  have hstore := hq desk
  rw [Step.bind_apply]
  generalize q desk = result at hstore ⊢
  obtain ⟨e | a, after⟩ := result
  · exact hstore
  · exact (hnext a after).trans hstore

theorem readsOnly_report (entry : Log.Entry) : ReadsOnly (report entry) := fun _ => rfl

theorem readsOnly_connect : ReadsOnly connect := by
  intro desk
  unfold connect
  split <;> rfl

theorem readsOnly_usersFor (context : String) : ReadsOnly (usersFor context) := by
  intro desk
  unfold usersFor
  split <;> rfl

theorem readsOnly_tokensFor (context : String) : ReadsOnly (tokensFor context) := by
  intro desk
  unfold tokensFor
  split <;> rfl

theorem readsOnly_decodeUser (row : Option UserRow) : ReadsOnly (decodeUser row) := by
  cases row with
  | none => exact .pure none
  | some row => exact .ofExcept _

theorem readsOnly_decodeToken (row : Option TokenRow) : ReadsOnly (decodeToken row) := by
  cases row with
  | none => exact .pure none
  | some row => exact .ofExcept _

theorem readsOnly_userByEmail (email : String) : ReadsOnly (userByEmail email) :=
  (readsOnly_usersFor _).bind fun _ => readsOnly_decodeUser _

theorem readsOnly_userById (id : String) : ReadsOnly (userById id) :=
  (readsOnly_usersFor _).bind fun _ => readsOnly_decodeUser _

theorem readsOnly_peek (value : String) (type : TokenType) (now : Instant) :
    ReadsOnly (Ledger.peek value type now) :=
  ((readsOnly_tokensFor _).bind fun _ => readsOnly_decodeToken _).bind fun _ => .pure _

theorem ReadsOnly.onConnection {q : Query α} (hq : ReadsOnly q) : ReadsOnly q.onConnection :=
  readsOnly_connect.bind fun _ => hq

end Query

/-! ### Parts of an operation -/

namespace Procedure

variable {α β : Type} {mails : Bool}

/-- The part changes nothing but the log. -/
structure Quiet (p : Procedure α) : Prop where
  same : ∀ s : Session, s.Same (p s).2
  orderly : p.Orderly

structure Infallible (p : Procedure α) : Prop where
  succeeds : ∀ s, ∃ a, (p s).1 = .ok a
  same : ∀ s, (p s).2.desk.store = s.desk.store ∧ (p s).2.postings = s.postings
  orderly : p.Orderly

structure Tabular (p : Procedure α) : Prop where
  same : ∀ s, (p s).2.cache = s.cache ∧ (p s).2.postings = s.postings
  orderly : p.Orderly

/-- The part leaves the cache alone. If it fails no mail was accepted, and if it succeeds one was
where the part is to mail one. -/
structure Contained (mails : Bool) (p : Procedure α) : Prop where
  cache : ∀ s, (p s).2.cache = s.cache
  refused : ∀ s e, (p s).1 = .error e → s.NoneAccepted (p s).2
  mailed : ∀ s a, (p s).1 = .ok a → s.Mailed (p s).2 mails
  orderly : p.Orderly

/-- How what a part ends in where everything is settled compares with what it ends in where the
engine reports `settling`. -/
inductive Settles (settling : Settling) (mails : Bool)
    (plain ended : Except IdentityError α × Session) : Prop
  | alike (hended : ended = (plain.1, plain.2.settledBy settling))
      (hcommit : mails = true → ∀ a, plain.1 = .ok a → settling.commit = none)
  | uncommitted {a : α} {cause : DatabaseError} (hcommit : settling.commit = some cause)
      (hplain : plain.1 = .ok a) (hended : ended.1 = .error (.store (.commit cause)))
      (hpostings : ended.2.postings = plain.2.postings)
  | unrolled {e : IdentityError} {cause : DatabaseError}
      (hrollback : settling.rollback = some cause)
      (hplain : plain.1 = .error e) (hended : ended.1 = .error (.store (.rollback e.message cause)))
      (hpostings : ended.2.postings = plain.2.postings)

theorem Settles.postings {settling : Settling} {plain ended : Except IdentityError α × Session}
    (h : Settles settling mails plain ended) : ended.2.postings = plain.2.postings := by
  cases h with
  | alike hended hcommit =>
    rw [hended]
    rfl
  | uncommitted hcommit hplain hended hpostings => exact hpostings
  | unrolled hrollback hplain hended hpostings => exact hpostings

/-- Whoever fails, fails also where the engine does not settle units. -/
theorem Settles.error {settling : Settling} {plain ended : Except IdentityError α × Session}
    (h : Settles settling mails plain ended) {e : IdentityError} (hplain : plain.1 = .error e) :
    ∃ e', ended.1 = .error e' := by
  cases h with
  | alike hended hcommit => exact ⟨e, by rw [hended, hplain]⟩
  | uncommitted hcommit hok hended hpostings => exact ⟨_, hended⟩
  | unrolled hrollback herror hended hpostings => exact ⟨_, hended⟩

structure Settled (s : Session) : Prop where
  engine : s.desk.store.settling = {}
  unreferred : s.desk.store.database.referring = []

/-- If the part fails, it leaves no trace but the mail of a unit that was not committed. It fails so
only if the engine does not settle the unit. -/
structure Transactional (mails : Bool) (p : Procedure α) : Prop where
  left : ∀ s e, (p s).1 = .error e → s.LeftBy (p s).2 mails e
  commits : ∀ s, Settled s → ∀ e, (p s).1 = .error e → e.isUncommitted = false
  settles : ∀ s settling, Settled s → Settles settling mails (p s) (p (s.settledBy settling))

/-- Whether everything is settled does not depend on the log. -/
theorem Settled.of_same {s t : Session} (hs : Settled s) (hsame : s.Same t) : Settled t :=
  ⟨hsame.store ▸ hs.engine, hsame.store ▸ hs.unreferred⟩

/-! Parts that change nothing. -/

theorem Quiet.pure (a : α) : Quiet (pure a : Procedure α) := ⟨Session.Same.refl, .pure a⟩

theorem Quiet.fail {e : IdentityError} (he : e.isUncommitted = false) :
    Quiet (.fail e : Procedure α) :=
  ⟨Session.Same.refl, .fail he⟩

theorem Quiet.validate (outcome : Except ValidationError α) : Quiet (validate outcome) :=
  ⟨Session.Same.refl, orderly_validate outcome⟩

theorem Quiet.hashing (outcome : Except HashError α) : Quiet (hashing outcome) :=
  ⟨Session.Same.refl, orderly_hashing outcome⟩

theorem Quiet.ofOption {e : IdentityError} (he : e.isUncommitted = false) (value : Option α) :
    Quiet (.ofOption e value) := by
  cases value with
  | none => exact .fail he
  | some a => exact .pure a

theorem Quiet.query {q : Query α} (hq : q.ReadsOnly) (horderly : q.Orderly) :
    Quiet (query q) where
  same := by
    intro s
    have hstore := hq s.desk
    unfold Procedure.query
    generalize q s.desk = result at hstore ⊢
    obtain ⟨e | a, desk⟩ := result
    · exact ⟨hstore, rfl, rfl⟩
    · exact ⟨hstore, rfl, rfl⟩
  orderly := orderly_query horderly

theorem Quiet.report (entry : Log.Entry) : Quiet (report entry) :=
  .query (Query.readsOnly_report entry) (Query.orderly_report entry)

theorem Quiet.bind {p : Procedure α} {next : α → Procedure β} (hp : Quiet p)
    (hnext : ∀ a, Quiet (next a)) : Quiet (p >>= next) where
  same := by
    intro s
    have hsame := hp.same s
    rw [Step.bind_apply]
    generalize p s = result at hsame ⊢
    obtain ⟨e | a, t⟩ := result
    · exact hsame
    · exact hsame.trans ((hnext a).same t)
  orderly := hp.orderly.bind fun a => (hnext a).orderly

theorem Quiet.guard {c : Prop} [Decidable c] {e : IdentityError} {next : Unit → Procedure α}
    (he : e.isUncommitted = false) (hnext : Quiet (next ())) :
    Quiet (if c then .fail e >>= next else next ()) := by
  split
  · exact .bind (.fail he) fun _ => hnext
  · exact hnext

theorem Quiet.within {p : Procedure α} (hp : Quiet p) (span : Log.Span) :
    Quiet (within span p) where
  same s :=
    have hsame := hp.same (s.inSpan span)
    ⟨hsame.store, hsame.cache, hsame.postings⟩
  orderly := orderly_within hp.orderly span

/-! Parts that cannot fail. -/

theorem Infallible.pure (a : α) : Infallible (pure a : Procedure α) :=
  ⟨fun _ => ⟨a, rfl⟩, fun _ => ⟨rfl, rfl⟩, .pure a⟩

theorem Infallible.onCache (change : Cache → Cache) : Infallible (onCache change) :=
  ⟨fun _ => ⟨(), rfl⟩, fun _ => ⟨rfl, rfl⟩, orderly_onCache change⟩

theorem Infallible.report (entry : Log.Entry) : Infallible (report entry) :=
  ⟨fun _ => ⟨(), rfl⟩, fun _ => ⟨rfl, rfl⟩, orderly_report entry⟩

theorem Infallible.cacheRead (user : User) : Infallible (Service.cacheRead user) :=
  ⟨fun _ => ⟨_, rfl⟩, fun _ => ⟨rfl, rfl⟩, orderly_cacheRead user⟩

theorem Infallible.bind {p : Procedure α} {next : α → Procedure β} (hp : Infallible p)
    (hnext : ∀ a, Infallible (next a)) : Infallible (p >>= next) where
  succeeds s := by
    obtain ⟨a, ha⟩ := hp.succeeds s
    rw [Step.bind_apply]
    generalize p s = result at ha ⊢
    obtain ⟨outcome, t⟩ := result
    obtain rfl : outcome = .ok a := ha
    exact (hnext a).succeeds t
  same s := by
    have hsame := hp.same s
    rw [Step.bind_apply]
    generalize p s = result at hsame ⊢
    obtain ⟨e | a, t⟩ := result
    · exact hsame
    · have hlater := (hnext a).same t
      exact ⟨hlater.1.trans hsame.1, hlater.2.trans hsame.2⟩
  orderly := hp.orderly.bind fun a => (hnext a).orderly

/-! Parts of a unit of work. -/

theorem Tabular.query {q : Query α} (hq : q.Orderly) : Tabular (query q) where
  same := by
    intro s
    unfold Procedure.query
    rcases q s.desk with ⟨e | a, desk⟩
    · exact ⟨rfl, rfl⟩
    · exact ⟨rfl, rfl⟩
  orderly := orderly_query hq

theorem Tabular.recover {p : Procedure α} {handle : IdentityError → Except IdentityError α}
    (hp : Tabular p) (hhandle : ∀ e e', e.isUncommitted = false → handle e = .error e' →
      e'.isUncommitted = false) : Tabular (p.recover handle) where
  same := by
    intro s
    have hsame := hp.same s
    unfold Step.recover
    generalize p s = result at hsame ⊢
    obtain ⟨e | a, t⟩ := result
    · exact hsame
    · exact hsame
  orderly := hp.orderly.recover hhandle

/-- What changes nothing works on the tables and the log only. -/
theorem Quiet.tabular {p : Procedure α} (hp : Quiet p) : Tabular p :=
  ⟨fun s => ⟨(hp.same s).cache, (hp.same s).postings⟩, hp.orderly⟩

/-- What works on the tables and the log mails nothing. -/
theorem Tabular.contained {p : Procedure α} (hp : Tabular p) : Contained false p where
  cache s := (hp.same s).1
  refused s _ _ := .of_eq (hp.same s).2
  mailed s _ _ := .of_eq (hp.same s).2
  orderly := hp.orderly

theorem Contained.send (mailer : Mailer) (mail : Mail) : Contained true (send mailer mail) where
  cache s := by
    unfold Procedure.send
    cases mailer mail <;> rfl
  refused s e := by
    unfold Procedure.send
    cases mailer mail with
    | error cause => exact fun _ => ⟨[mail], rfl⟩
    | ok entries => rintro ⟨⟩
  mailed s a := by
    unfold Procedure.send
    cases mailer mail with
    | error cause => rintro ⟨⟩
    | ok entries => exact fun _ => ⟨[mail], rfl, rfl⟩
  orderly := orderly_send mailer mail

/-- A part that hands over no mail leaves it to the rest whether one was accepted. -/
theorem Contained.bind {p : Procedure α} {next : α → Procedure β} (hp : Tabular p)
    (hnext : ∀ a, Contained mails (next a)) : Contained mails (p >>= next) where
  cache s := by
    have hsame := hp.same s
    rw [Step.bind_apply]
    generalize p s = result at hsame ⊢
    obtain ⟨e | a, t⟩ := result
    · exact hsame.1
    · exact ((hnext a).cache t).trans hsame.1
  refused s e := by
    have hsame := hp.same s
    rw [Step.bind_apply]
    generalize p s = result at hsame ⊢
    obtain ⟨e' | a, t⟩ := result
    · exact fun _ => .of_eq hsame.2
    · exact fun herror => .of_eq_left hsame.2 ((hnext a).refused t e herror)
  mailed s b := by
    have hsame := hp.same s
    rw [Step.bind_apply]
    generalize p s = result at hsame ⊢
    obtain ⟨e' | a, t⟩ := result
    · rintro ⟨⟩
    · exact fun hok => .of_eq_left hsame.2 ((hnext a).mailed t b hok)
  orderly := hp.orderly.bind fun a => (hnext a).orderly

theorem Contained.guard {c : Prop} [Decidable c] {e : IdentityError} {next : Unit → Procedure α}
    (he : e.isUncommitted = false) (hnext : Contained mails (next ())) :
    Contained mails (if c then .fail e >>= next else next ()) := by
  split
  · exact .bind (Quiet.fail he).tabular fun _ => hnext
  · exact hnext

/-! Whole operations. -/

/-- Where nothing is changed, there is nothing to take back. -/
theorem Quiet.transactional {p : Procedure α} (hp : Quiet p) : Transactional false p where
  left s e herror := (hp.same s).leftBy (hp.orderly.fails s e herror)
  commits s _ := hp.orderly.fails s
  settles s settling _ := .alike (hp.orderly.settled s settling) fun hmails => nomatch hmails

theorem Infallible.transactional {p : Procedure α} (hp : Infallible p) : Transactional false p where
  left s e herror := by
    obtain ⟨a, ha⟩ := hp.succeeds s
    cases ha.symm.trans herror
  commits s _ := hp.orderly.fails s
  settles s settling _ := .alike (hp.orderly.settled s settling) fun hmails => nomatch hmails

/-- Checks may precede what is transactional. -/
theorem Transactional.quiet_bind {p : Procedure α} {next : α → Procedure β} (hp : Quiet p)
    (hnext : ∀ a, Transactional mails (next a)) : Transactional mails (p >>= next) where
  left s e := by
    have hsame := hp.same s
    have hfails := hp.orderly.fails s
    rw [Step.bind_apply]
    generalize p s = result at hsame hfails ⊢
    obtain ⟨cause | a, t⟩ := result
    · rintro ⟨⟩
      exact hsame.leftBy (hfails e rfl)
    · exact fun herror => hsame.trans_leftBy ((hnext a).left t e herror)
  commits s hs e := by
    have hsame := hp.same s
    have hfails := hp.orderly.fails s e
    rw [Step.bind_apply]
    generalize p s = result at hsame hfails ⊢
    obtain ⟨cause | a, t⟩ := result
    · rintro ⟨⟩
      exact hfails rfl
    · exact (hnext a).commits t (hs.of_same hsame) e
  settles s settling hs := by
    have hsame := hp.same s
    rw [Step.bind_apply, Step.bind_apply, hp.orderly.settled]
    generalize p s = result at hsame ⊢
    obtain ⟨cause | a, t⟩ := result
    · exact .alike rfl fun _ _ hok => nomatch hok
    · exact (hnext a).settles t settling (hs.of_same hsame)

/-- What never fails may follow what is transactional. -/
theorem Transactional.bind_infallible {p : Procedure α} {next : α → Procedure β}
    (hp : Transactional mails p) (hnext : ∀ a, Infallible (next a)) :
    Transactional mails (p >>= next) where
  left s e := by
    have hfail := hp.left s
    rw [Step.bind_apply]
    generalize p s = result at hfail ⊢
    obtain ⟨cause | a, t⟩ := result
    · rintro ⟨⟩
      exact hfail e rfl
    · intro herror
      obtain ⟨b, hb⟩ := (hnext a).succeeds t
      cases hb.symm.trans herror
  commits s hs e := by
    have hfirst := hp.commits s hs e
    rw [Step.bind_apply]
    generalize p s = result at hfirst ⊢
    obtain ⟨cause | a, t⟩ := result
    · rintro ⟨⟩
      exact hfirst rfl
    · exact (hnext a).orderly.fails t e
  settles s settling hs := by
    have hfirst := hp.settles s settling hs
    rw [Step.bind_apply, Step.bind_apply]
    generalize p s = plain at hfirst ⊢
    generalize p (s.settledBy settling) = ended at hfirst ⊢
    obtain ⟨outcome, t⟩ := plain
    obtain ⟨outcome', t'⟩ := ended
    cases hfirst with
    | alike hended hcommit =>
      cases hended
      cases outcome with
      | error e => exact .alike rfl fun _ _ hok => nomatch hok
      | ok a =>
        exact .alike ((hnext a).orderly.settled t settling) fun hmails _ _ => hcommit hmails a rfl
    | @uncommitted a cause hcommit hplain hended hpostings =>
      obtain rfl : outcome = .ok a := hplain
      obtain rfl : outcome' = .error (.store (.commit cause)) := hended
      obtain ⟨b, hb⟩ := (hnext a).succeeds t
      exact .uncommitted hcommit hb rfl (hpostings.trans ((hnext a).same t).2.symm)
    | @unrolled e cause hrollback hplain hended hpostings =>
      obtain rfl : outcome = .error e := hplain
      obtain rfl : outcome' = .error (.store (.rollback e.message cause)) := hended
      exact .unrolled hrollback rfl rfl hpostings

theorem Transactional.guard {c : Prop} [Decidable c] {e : IdentityError}
    {next : Unit → Procedure α} (he : e.isUncommitted = false)
    (hnext : Transactional mails (next ())) :
    Transactional mails (if c then .fail e >>= next else next ()) := by
  split
  · exact .quiet_bind (.fail he) fun _ => hnext
  · exact hnext

theorem Transactional.within {p : Procedure α} (hp : Transactional mails p) (span : Log.Span) :
    Transactional mails (within span p) where
  left s e herror :=
    have hleft := hp.left (s.inSpan span) e herror
    ⟨hleft.store, hleft.cache, hleft.refused, hleft.mailed⟩
  commits s hs := hp.commits (s.inSpan span) ⟨hs.1, hs.2⟩
  settles s settling hs := by
    have hinside := hp.settles (s.inSpan span) settling ⟨hs.1, hs.2⟩
    cases hinside with
    | alike hended hcommit =>
      exact .alike (within_of_apply (s := s.settledBy settling) hended) hcommit
    | uncommitted hcommit hplain hended hpostings =>
      exact .uncommitted hcommit hplain hended hpostings
    | unrolled hrollback hplain hended hpostings =>
      exact .unrolled hrollback hplain hended hpostings

/-- A unit that fails or is not committed is rolled back, whatever it did to the tables before. -/
theorem Contained.leftBy_asUnit {p : Procedure α} (hp : Contained mails p) (s : Session)
    (e : IdentityError) (herror : (asUnit p s).1 = .error e) : s.LeftBy (asUnit p s).2 mails e := by
  rcases asUnit_cases p s with ⟨refusal, hrefusal, hunit⟩ |
    ⟨cause, e', t, log, hrun, hkept, hunit⟩ | ⟨a, t, cause, hrun, -, hunit⟩ | ⟨a, t, -, -, hunit⟩
  · rw [hunit] at herror ⊢
    cases herror
    exact (Session.Same.refl s).leftBy hrefusal
  · have hcache := hp.cache s.inUnit
    have hrefused := hp.refused s.inUnit cause
    have hfails := hp.orderly.fails s.inUnit cause
    rw [hrun] at hcache hrefused hfails
    rw [hunit] at herror ⊢
    cases herror
    have he : e.isUncommitted = false := hkept (hfails rfl)
    exact ⟨rfl, hcache, fun _ => hrefused rfl, fun hmails => absurd (he.symm.trans hmails)
      Bool.false_ne_true⟩
  · have hcache := hp.cache s.inUnit
    have hmailed := hp.mailed s.inUnit a
    rw [hrun] at hcache hmailed
    rw [hunit] at herror ⊢
    cases herror
    exact ⟨rfl, hcache, fun hplain => absurd hplain.symm Bool.false_ne_true, fun _ => hmailed rfl⟩
  · rw [hunit] at herror
    exact nomatch herror

/-- Where everything is settled, a unit of work fails for its own reasons only. -/
theorem commits_asUnit {p : Procedure α} (hp : p.Orderly) (s : Session) (hs : Settled s)
    (e : IdentityError) (herror : (asUnit p s).1 = .error e) : e.isUncommitted = false := by
  have hkeeps := hp.keeps s.inUnit
  rcases asUnit_cases p s with ⟨refusal, hrefusal, hunit⟩ |
    ⟨cause, e', t, log, hrun, hkept, hunit⟩ | ⟨a, t, cause, hrun, hcommit, hunit⟩ |
    ⟨a, t, -, -, hunit⟩
  · rw [hunit] at herror
    cases herror
    exact hrefusal
  · have hfails := hp.fails s.inUnit cause
    rw [hrun] at hfails
    rw [hunit] at herror
    cases herror
    exact hkept (hfails rfl)
  · rw [hrun] at hkeeps
    rw [Store.settlingOf_of_unreferred _ (hkeeps.trans hs.unreferred), hs.engine] at hcommit
    cases hcommit
  · rw [hunit] at herror
    cases herror

/-- The same unit is run, and then settled as the engine reports. -/
theorem settles_asUnit {p : Procedure α} (hp : p.Orderly) (s : Session) (settling : Settling)
    (hs : Settled s) : Settles settling mails (asUnit p s) (asUnit p (s.settledBy settling)) := by
  cases hclosed : s.desk.store.closed with
  | true =>
    rw [asUnit_of_closed p hclosed, asUnit_of_closed p (s := s.settledBy settling) hclosed]
    exact .alike rfl fun _ _ hok => nomatch hok
  | false =>
    cases hlocked : s.desk.store.locked with
    | true =>
      rw [asUnit_of_locked p hclosed hlocked,
        asUnit_of_locked p (s := s.settledBy settling) hclosed hlocked]
      exact .alike rfl fun _ _ hok => nomatch hok
    | false =>
      have hkeeps := hp.keeps s.inUnit
      rcases hrun : p s.inUnit with ⟨outcome, t⟩
      rw [hrun] at hkeeps
      have hrun' : p (s.settledBy settling).inUnit = (outcome, t) := hrun
      have hleft : t.desk.store.database.referring = [] := hkeeps.trans hs.unreferred
      cases outcome with
      | ok a =>
        have hplain : (s.desk.store.settlingOf t.desk.store.database).commit = none := by
          rw [Store.settlingOf_of_unreferred _ hleft, hs.engine]
        have hengine : ((s.settledBy settling).desk.store.settlingOf
            t.desk.store.database).commit = settling.commit := by
          rw [Store.settlingOf_of_unreferred _ hleft]
          rfl
        rw [asUnit_of_ok hclosed hlocked hrun hplain]
        cases hcommit : settling.commit with
        | none =>
          rw [asUnit_of_ok (s := s.settledBy settling) hclosed hlocked hrun'
            (hengine.trans hcommit)]
          exact .alike rfl fun _ _ _ => hcommit
        | some cause =>
          rw [asUnit_of_uncommitted (s := s.settledBy settling) hclosed hlocked hrun'
            (hengine.trans hcommit)]
          exact .uncommitted hcommit rfl rfl rfl
      | error e =>
        rw [asUnit_of_error hclosed hlocked hrun (by rw [hs.engine])]
        cases hrollback : settling.rollback with
        | none =>
          rw [asUnit_of_error (s := s.settledBy settling) hclosed hlocked hrun' hrollback]
          exact .alike rfl fun _ _ hok => nomatch hok
        | some cause =>
          obtain ⟨log, hunit⟩ := asUnit_of_unrolled (s := s.settledBy settling) hclosed hlocked
            hrun' hrollback
          rw [hunit]
          exact .unrolled hrollback rfl rfl rfl

/-- A unit of work around what is contained is transactional: its tables go, and with them all but
the mail. -/
theorem Contained.asUnit {p : Procedure α} (hp : Contained mails p) :
    Transactional mails (asUnit p) :=
  ⟨hp.leftBy_asUnit, commits_asUnit hp.orderly, settles_asUnit hp.orderly⟩

end Procedure

/-! ### The operations -/

/-- The type of the token that the call mails, and the address as the caller spelled it. -/
def Call.mails? : Call → Option (TokenType × String)
  | signup email _ _ => some (.signup, email)
  | resendSignupToken email => some (.signup, email)
  | resetPassword email => some (.passwordReset, email)
  | _ => none

namespace Service

open Procedure

variable (service : Service) (around : Surroundings)

theorem contained_mailSignupToken (email name : String) :
    Contained true (service.mailSignupToken around email name) :=
  .bind (.query (Query.orderly_issue _ _ _ _ _)) fun _ => .send _ _

theorem contained_register (user : User) : Contained true (service.register around user) := by
  refine .bind (.query (Query.orderly_userByEmail _)) fun _ => .guard rfl ?_
  refine .bind (.recover (.query (Query.orderly_createUser user)) ?_) fun _ =>
    service.contained_mailSignupToken around user.email user.name
  intro e e' he hhandle
  split at hhandle <;> cases hhandle
  · rfl
  · exact he

theorem contained_reissueSignup (email : String) :
    Contained true (service.reissueSignup around email) :=
  .bind (.query (Query.orderly_userByEmail _)) fun _ =>
    .bind (Quiet.ofOption rfl _).tabular fun user =>
      .guard rfl (service.contained_mailSignupToken around email user.name)

theorem contained_issueReset (email : String) :
    Contained true (service.issueReset around email) :=
  .bind (.query (Query.orderly_userByEmail _)) fun _ =>
    .bind (Quiet.ofOption rfl _).tabular fun _ =>
      .guard rfl <| .bind (.query (Query.orderly_issue _ _ _ _ _)) fun _ => .send _ _

theorem contained_verify (value : String) : Contained false (verify around value) :=
  .bind (.query (Query.orderly_consume _ _ _)) fun _ =>
    .bind (Quiet.ofOption rfl _).tabular fun _ =>
      .bind (.query (Query.orderly_updateUser _ _ _)) fun _ =>
        (Quiet.ofOption rfl _).tabular.contained

theorem contained_replacePasswordWithToken (now : Instant) (value : String)
    (hashed : HashedPassword) : Contained false (replacePasswordWithToken now value hashed) :=
  .bind (.query (Query.orderly_consume _ _ _)) fun _ =>
    .bind (Quiet.ofOption rfl _).tabular fun _ =>
      .bind (.query (Query.orderly_updateUser _ _ _)) fun _ =>
        (Quiet.ofOption rfl _).tabular.contained

theorem contained_replacePassword (email : String) (hashed : HashedPassword) :
    Contained false (replacePassword email hashed) :=
  .bind (.query (Query.orderly_updateUser _ _ _)) fun _ =>
    .bind (Quiet.ofOption rfl _).tabular fun _ =>
      .bind (.query (Query.orderly_deleteTokens _ _)) fun _ =>
        (Quiet.pure _).tabular.contained

theorem quiet_hashPassword (password : String) : Quiet (service.hashPassword around password) :=
  .hashing _

theorem quiet_resetPasswordToken (now : Instant) (token : String) :
    Quiet (resetPasswordToken now token) := by
  refine .within (.guard rfl <|
    .bind (.query Query.readsOnly_connect Query.orderly_connect) fun _ => ?_) _
  refine .bind (.query (Query.readsOnly_peek _ _ _) (Query.orderly_peek _ _ _)) fun _ => ?_
  refine .bind (.ofOption rfl _) fun _ => ?_
  refine .bind (.query (Query.readsOnly_userByEmail _) (Query.orderly_userByEmail _))
    fun _ => ?_
  exact .bind (.ofOption rfl _) fun _ => .pure ()

theorem transactional_signup (email name password : String) :
    Transactional true (service.signup around email name password) := by
  refine .within ?_ _
  refine .quiet_bind (.validate _) fun email => .quiet_bind (.validate _) fun name => ?_
  refine .quiet_bind (.validate _) fun _ => ?_
  refine .quiet_bind (service.quiet_hashPassword around password) fun hashed => ?_
  refine .bind_infallible (service.contained_register around _).asUnit fun _ => ?_
  exact .bind (.onCache _) fun _ => .report _

theorem transactional_signin (email password : String) :
    Transactional false (service.signin email password) := by
  have hmismatch : Transactional false signin.mismatch :=
    (Quiet.bind (.report _) fun _ => .fail rfl).transactional
  have hemail : Quiet (.ofExcept ((normalizeEmail email).mapError
      fun _ => IdentityError.invalidCredentials)) := by
    refine ⟨Session.Same.refl, .ofExcept fun e herror => ?_⟩
    obtain ⟨cause, -, rfl⟩ := mapError_eq_error.mp herror
    rfl
  refine .within (.quiet_bind hemail fun email => ?_) _
  refine .quiet_bind (.query (Query.readsOnly_userByEmail email).onConnection
    (Query.orderly_onConnection (Query.orderly_userByEmail email))) fun found => ?_
  refine .quiet_bind (.ofOption rfl found) fun user => .guard rfl ?_
  dsimp only
  split
  · exact .quiet_bind (.report _) fun _ => (Infallible.cacheRead user).transactional
  · exact hmismatch
  · exact hmismatch
  · exact (Quiet.fail rfl).transactional

theorem transactional_resendSignupToken (email : String) :
    Transactional true (service.resendSignupToken around email) := by
  refine .within (.quiet_bind (.validate _) fun email => ?_) _
  exact .bind_infallible (service.contained_reissueSignup around email).asUnit fun _ => .report _

/-- The last steps of an operation that has changed a user. -/
theorem infallible_finish {α : Type} (user : User) (message : String) (answer : α) :
    Infallible (do
      onCache (·.store user.toPublic)
      say .info message [("user_id", .displayed user.id)]
      return answer) :=
  .bind (.onCache _) fun _ => .bind (.report _) fun _ => .pure answer

theorem transactional_validateSignupToken (token : String) :
    Transactional false (validateSignupToken around token) :=
  .within (.guard rfl <| .bind_infallible (contained_verify around token).asUnit
    fun user => infallible_finish user _ _) _

theorem transactional_resetPassword (email : String) :
    Transactional true (service.resetPassword around email) := by
  refine .within (.quiet_bind (.validate _) fun email => ?_) _
  exact .bind_infallible (service.contained_issueReset around email).asUnit fun _ => .report _

theorem transactional_changePasswordWithToken (token password : String) :
    Transactional false (service.changePasswordWithToken around token password) := by
  refine .within (.quiet_bind (.validate _) fun _ => ?_) _
  refine .quiet_bind (quiet_resetPasswordToken around.now token) fun _ => ?_
  refine .quiet_bind (service.quiet_hashPassword around password) fun hashed => ?_
  exact .bind_infallible (contained_replacePasswordWithToken around.later token hashed).asUnit
    fun user => infallible_finish user _ _

theorem transactional_changePassword (email password : String) :
    Transactional false (service.changePassword around email password) := by
  refine .within (.quiet_bind (.validate _) fun email => ?_) _
  refine .quiet_bind (.validate _) fun _ => ?_
  refine .quiet_bind (service.quiet_hashPassword around password) fun hashed => ?_
  refine .bind_infallible (contained_replacePassword email hashed).asUnit fun user => ?_
  exact .bind (.onCache _) fun _ => .report _

def readThrough (read : Query (Option User)) : Procedure PublicUser := do
  let user ← query read.onConnection
  cacheRead (← .ofOption .userNotFound user)

theorem lookUp_of_none {key : IdentityKey} {s : Session} (hnone : s.cache.load key = none)
    (read : Query (Option User)) : lookUp key read s = readThrough read s := by
  unfold lookUp
  rw [Step.bind_apply, Step.get_apply]
  dsimp only
  rw [hnone]
  rfl

theorem lookUp_of_some {key : IdentityKey} {s : Session} {seen : PublicUser}
    (hsome : s.cache.load key = some seen) (read : Query (Option User)) :
    lookUp key read s = (.ok seen, s) := by
  unfold lookUp
  rw [Step.bind_apply, Step.get_apply]
  dsimp only
  rw [hsome]
  rfl

theorem transactional_lookUp (key : IdentityKey) {read : Query (Option User)}
    (hread : read.ReadsOnly) (horderly : read.Orderly) : Transactional false (lookUp key read) := by
  have hthrough : Transactional false (readThrough read) :=
    .quiet_bind (.query hread.onConnection (Query.orderly_onConnection horderly)) fun found =>
      .quiet_bind (.ofOption rfl found) fun user => (Infallible.cacheRead user).transactional
  refine ⟨fun s e herror => ?_, fun s hs e herror => ?_, fun s settling hs => ?_⟩
  · cases hload : s.cache.load key with
    | some seen =>
      rw [lookUp_of_some hload] at herror
      cases herror
    | none =>
      rw [lookUp_of_none hload] at herror ⊢
      exact hthrough.left s e herror
  · cases hload : s.cache.load key with
    | some seen =>
      rw [lookUp_of_some hload] at herror
      cases herror
    | none =>
      rw [lookUp_of_none hload] at herror
      exact hthrough.commits s hs e herror
  · cases hload : s.cache.load key with
    | some seen =>
      rw [lookUp_of_some hload, lookUp_of_some (s := s.settledBy settling) hload]
      exact .alike rfl fun hmails => nomatch hmails
    | none =>
      rw [lookUp_of_none hload, lookUp_of_none (s := s.settledBy settling) hload]
      exact hthrough.settles s settling hs

theorem transactional_getUserByEmail (email : String) :
    Transactional false (getUserByEmail email) :=
  .quiet_bind (.validate _) fun email => transactional_lookUp (.email email)
    (Query.readsOnly_userByEmail email) (Query.orderly_userByEmail email)

theorem transactional_purgeExpiredTokens (now : Instant) :
    Transactional false (purgeExpiredTokens now) := by
  refine .within ?_ _
  refine .bind_infallible
    (Tabular.query (Query.orderly_deleteTokens _ _)).contained.asUnit fun purged => ?_
  exact .bind (.report _) fun _ => .pure purged

end Service

theorem Procedure.Transactional.answering {α : Type} {mails : Bool} {p : Procedure α}
    (hp : Transactional mails p) (f : α → Answer) : Transactional mails (p.answering f) :=
  hp.bind_infallible fun _ => .pure _

/-- All twelve calls are transactional. -/
theorem Call.transactional_perform (service : Service) (around : Surroundings) (call : Call) :
    (call.perform service around).Transactional call.mails?.isSome := by
  cases call with
  | signup email name password => exact (service.transactional_signup around _ _ _).answering _
  | signin email password => exact (service.transactional_signin _ _).answering _
  | resendSignupToken email => exact (service.transactional_resendSignupToken around _).answering _
  | validateSignupToken token =>
    exact (Service.transactional_validateSignupToken around _).answering _
  | resetPassword email => exact (service.transactional_resetPassword around _).answering _
  | resetPasswordToken token =>
    exact (Service.quiet_resetPasswordToken _ _).transactional.answering _
  | changePasswordWithToken token password =>
    exact (service.transactional_changePasswordWithToken around _ _).answering _
  | changePassword email password =>
    exact (service.transactional_changePassword around _ _).answering _
  | getUser id =>
    exact (Service.transactional_lookUp _ (Query.readsOnly_userById id)
      (Query.orderly_userById id)).answering _
  | getUserByEmail email => exact (Service.transactional_getUserByEmail email).answering _
  | remember user => exact (Procedure.Infallible.onCache _).transactional.answering _
  | purgeExpiredTokens => exact (Service.transactional_purgeExpiredTokens _).answering _

end IdentityLifecycle
