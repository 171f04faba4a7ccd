import IdentityLifecycle.Proofs.CacheEntries
import IdentityLifecycle.Proofs.KnownUsers
import IdentityLifecycle.Proofs.Settling

/-!
# Sessions that differ in the cache

One session has a cache whose entries are all true of the tables, the other has none. A part of an
operation either has nothing to do with the cache, and then need only change users as statements do,
or it is shown to end alike on both. What it files must be known by then, so the parts before it are
followed by what they ensure.
-/

namespace IdentityLifecycle

/-- Whoever callers see so can be looked up in the store. -/
def Store.Knows (store : Store) (seen : PublicUser) : Prop :=
  store.closed = false ∧ store.database.Knows seen

theorem Store.Evolves.storeKnows {before after : Store} (h : before.Evolves after)
    {seen : PublicUser} (hseen : before.Knows seen) : after.Knows seen :=
  ⟨h.closed.trans hseen.1, h.knows seen hseen.2⟩

/-- The sessions differ in the cache only: all entries of the first are true of the tables, and the
second has no cache. -/
structure Session.Alike (cached plain : Session) : Prop where
  desk : cached.desk = plain.desk
  postings : cached.postings = plain.postings
  keyed : plain.desk.store.database.Keyed
  coherent : cached.cache.Coherent plain.desk.store.Knows
  absent : plain.cache.Absent

def Session.withCache (s : Session) (cache : Cache) : Session := { s with cache }

theorem Session.Alike.eq_withCache {s t : Session} (hst : s.Alike t) :
    s = t.withCache s.cache := by
  obtain ⟨desk, cache, postings⟩ := s
  obtain rfl := hst.desk
  obtain rfl := hst.postings
  rfl

namespace Procedure

variable {α β : Type} {P : Store → Prop} {seen : PublicUser}

/-! ### Parts that have nothing to do with the cache -/

structure Plain (p : Procedure α) : Prop where
  cacheless : ∀ s cache, p (s.withCache cache) = ((p s).1, (p s).2.withCache cache)
  evolves : ∀ s : Session, s.desk.store.Evolves (p s).2.desk.store

theorem Plain.pure (a : α) : Plain (pure a : Procedure α) := ⟨fun _ _ => rfl, fun _ => .refl _⟩

theorem Plain.fail (e : IdentityError) : Plain (.fail e : Procedure α) :=
  ⟨fun _ _ => rfl, fun _ => .refl _⟩

theorem Plain.ofExcept (outcome : Except IdentityError α) : Plain (.ofExcept outcome) :=
  ⟨fun _ _ => rfl, fun _ => .refl _⟩

theorem Plain.ofOption (e : IdentityError) (value : Option α) : Plain (.ofOption e value) := by
  cases value with
  | none => exact .fail e
  | some a => exact .pure a

theorem Plain.query {q : Query α} (hq : q.Evolves) : Plain (query q) where
  cacheless := by
    intro s cache
    unfold Procedure.query Session.withCache
    dsimp only
    obtain ⟨e | a, desk⟩ := q s.desk <;> rfl
  evolves := by
    intro s
    have hdesk := hq s.desk
    unfold Procedure.query
    generalize q s.desk = result at hdesk ⊢
    obtain ⟨e | a, desk⟩ := result <;> exact hdesk

theorem Plain.report (entry : Log.Entry) : Plain (report entry) :=
  .query (Query.readsOnly_report entry).evolves

theorem Plain.send (mailer : Mailer) (mail : Mail) : Plain (send mailer mail) where
  cacheless := by
    intro s cache
    unfold Procedure.send
    cases mailer mail <;> rfl
  evolves := by
    intro s
    unfold Procedure.send
    cases mailer mail <;> exact .refl _

theorem Plain.bind {p : Procedure α} {next : α → Procedure β} (hp : Plain p)
    (hnext : ∀ a, Plain (next a)) : Plain (p >>= next) where
  cacheless := by
    intro s cache
    rw [Step.bind_apply, Step.bind_apply, hp.cacheless s cache]
    obtain ⟨e | a, t⟩ := p s
    · rfl
    · exact (hnext a).cacheless t cache
  evolves := by
    intro s
    have hfirst := hp.evolves s
    rw [Step.bind_apply]
    generalize p s = result at hfirst ⊢
    obtain ⟨e | a, t⟩ := result
    · exact hfirst
    · exact hfirst.trans ((hnext a).evolves t)

theorem Plain.recover {p : Procedure α} (hp : Plain p)
    (handle : IdentityError → Except IdentityError α) : Plain (p.recover handle) where
  cacheless := by
    intro s cache
    unfold Step.recover
    rw [hp.cacheless s cache]
    obtain ⟨e | a, t⟩ := p s <;> rfl
  evolves := by
    intro s
    have hstore := hp.evolves s
    unfold Step.recover
    generalize p s = result at hstore ⊢
    obtain ⟨e | a, t⟩ := result <;> exact hstore

theorem Plain.guard {c : Prop} [Decidable c] {e : IdentityError} {next : Unit → Procedure α}
    (hnext : Plain (next ())) : Plain (if c then .fail e >>= next else next ()) := by
  split
  · exact ⟨fun _ _ => rfl, fun _ => .refl _⟩
  · exact hnext

theorem Plain.within {p : Procedure α} (hp : Plain p) (span : Log.Span) :
    Plain (within span p) where
  cacheless s cache :=
    within_of_apply (s := s.withCache cache) (hp.cacheless (s.inSpan span) cache)
  evolves := fun s => hp.evolves (s.inSpan span)

/-- A unit of work leaves the store as its statements left theirs, or as it was. -/
theorem Plain.asUnit {p : Procedure α} (hp : Plain p) : Plain (asUnit p) where
  cacheless := by
    intro s cache
    change Procedure.asUnit p { s with cache } = _
    unfold Procedure.asUnit
    cases s.desk.store.begin with
    | error e => rfl
    | ok begun =>
      -- Beginning and settling are about the desk alone, so only what is inside matters.
      have hinner := hp.cacheless { s with desk.store := begun.1.store } cache
      unfold Session.withCache at hinner ⊢
      dsimp only at hinner ⊢
      rw [hinner]
  evolves := by
    intro s
    rcases asUnit_cases p s with ⟨e, -, hunit⟩ | ⟨cause, e, t, log, -, -, hunit⟩ |
      ⟨a, t, cause, -, -, hunit⟩ | ⟨a, t, -, hrun, hunit⟩
    · rw [hunit]
      exact .refl _
    · rw [hunit]
      exact .refl _
    · rw [hunit]
      exact .refl _
    · have hinner := hp.evolves s.inUnit
      rw [hrun] at hinner
      rw [hunit]
      exact ⟨rfl, hinner.keyed, hinner.knows⟩

/-- A plain part leaves the cache as it is. -/
theorem Plain.cache_eq {p : Procedure α} (hp : Plain p) (s : Session) : (p s).2.cache = s.cache :=
  congrArg (fun result : Except IdentityError α × Session => result.2.cache)
    (hp.cacheless s s.cache)

/-! ### What is known after a part -/

/-- If the part succeeds on a store with `P`, its answer and the store are as `Q` says. -/
def Ensures (P : Store → Prop) (p : Procedure α) (Q : α → Store → Prop) : Prop :=
  ∀ s, P s.desk.store → ∀ a, (p s).1 = .ok a → Q a (p s).2.desk.store

theorem Ensures.bind {p : Procedure α} {next : α → Procedure β} {Q : α → Store → Prop}
    {R : β → Store → Prop} (hp : Ensures P p Q) (hnext : ∀ a, Ensures (Q a) (next a) R) :
    Ensures P (p >>= next) R := by
  intro s hs b
  have hmiddle := hp s hs
  rw [Step.bind_apply]
  generalize p s = result at hmiddle ⊢
  obtain ⟨e | a, t⟩ := result
  · intro hb
    cases hb
  · exact hnext a t (hmiddle a rfl) b

theorem Ensures.mono {p : Procedure α} {Q R : α → Store → Prop} (hp : Ensures P p Q)
    (hQ : ∀ a store, Q a store → R a store) : Ensures P p R :=
  fun s hs a ha => hQ a _ (hp s hs a ha)

/-- What is ensured from each database is ensured from any. -/
theorem Ensures.of_database {p : Procedure α} {Q : α → Store → Prop}
    (hp : ∀ db, Ensures (·.database = db) p Q) : Ensures P p Q :=
  fun s _ => hp s.desk.store.database s rfl

theorem Ensures.trivial (P : Store → Prop) (p : Procedure α) : Ensures P p fun _ _ => True :=
  fun _ _ _ _ => True.intro

theorem Plain.ensures {p : Procedure α} (hp : Plain p)
    (hkeeps : ∀ before after : Store, before.Evolves after → P before → P after) :
    Ensures P p fun _ => P :=
  fun s hs _ _ => hkeeps _ _ (hp.evolves s) hs

theorem Ensures.ofOption {e : IdentityError} {found : Option α} {Q : α → Store → Prop} :
    Ensures (fun store => ∀ a, found = some a → Q a store) (.ofOption e found) Q := by
  intro s hs a ha
  cases found with
  | none => cases ha
  | some b =>
    cases ha
    exact hs a rfl

theorem Ensures.query {q : Query α} {Q : α → Store → Prop}
    (hq : ∀ desk : Desk, P desk.store → ∀ a, (q desk).1 = .ok a → Q a (q desk).2.store) :
    Ensures P (query q) Q := by
  intro s hs a
  have hdesk := hq s.desk hs a
  unfold Procedure.query
  generalize q s.desk = result at hdesk ⊢
  obtain ⟨e | b, desk⟩ := result
  · intro ha
    cases ha
  · intro ha
    cases ha
    exact hdesk rfl

theorem Ensures.recover {p : Procedure α} {handle : IdentityError → Except IdentityError α}
    {Q : α → Store → Prop} (hp : Ensures P p Q) (hhandle : ∀ e a, handle e ≠ .ok a) :
    Ensures P (p.recover handle) Q := by
  intro s hs a
  have hdone := hp s hs a
  unfold Step.recover
  generalize p s = result at hdone ⊢
  obtain ⟨e | b, t⟩ := result
  · exact fun ha => absurd ha (hhandle e a)
  · exact hdone

theorem Ensures.guard {c : Prop} [Decidable c] {e : IdentityError} {next : Unit → Procedure α}
    {Q : α → Store → Prop} (hnext : Ensures P (next ()) Q) :
    Ensures P (if c then .fail e >>= next else next ()) Q := by
  split
  · intro s _ a ha
    cases ha
  · exact hnext

/-- What a unit ensures of its own store is still there when the unit has been settled. -/
theorem Ensures.asUnit {p : Procedure α} {seen : α → PublicUser}
    (hp : Ensures (fun _ => True) p fun a store => store.database.Knows (seen a)) :
    Ensures (fun _ => True) (asUnit p) fun a store => store.Knows (seen a) := by
  intro s _ a hok
  generalize hunit : Procedure.asUnit p s = result at hok ⊢
  obtain ⟨outcome, t⟩ := result
  obtain rfl : outcome = .ok a := hok
  obtain ⟨left, hopen, hrun, rfl⟩ := asUnit_eq_ok hunit
  have hinner := hp s.inUnit True.intro a
  rw [hrun] at hinner
  exact ⟨hopen, hinner rfl⟩

/-! ### Parts that end alike -/

def Transparent (P : Store → Prop) (p : Procedure α) : Prop :=
  ∀ s t, s.Alike t → P t.desk.store → (p s).1 = (p t).1 ∧ (p s).2.Alike (p t).2

/-- What does not look at the cache goes alike whatever the cache holds. -/
theorem Plain.transparent {p : Procedure α} (hp : Plain p) : Transparent P p := by
  intro s t hst _
  -- The two sessions are one but for the cache, and the part runs alike with any cache.
  have hcached : p s = ((p t).1, (p t).2.withCache s.cache) := by
    calc
      p s = p (t.withCache s.cache) := congrArg p hst.eq_withCache
      _ = ((p t).1, (p t).2.withCache s.cache) := hp.cacheless t s.cache
  have hevolves := hp.evolves t
  rw [hcached]
  refine ⟨rfl, rfl, rfl, hevolves.keyed hst.keyed, ?_, ?_⟩
  · exact hst.coherent.mono fun _ hseen => hevolves.storeKnows hseen
  · rw [hp.cache_eq t]
    exact hst.absent

/-- Parts in a row are transparent, the second on what the first one ensures. -/
theorem Transparent.bind {p : Procedure α} {next : α → Procedure β} {Q : α → Store → Prop}
    (hp : Transparent P p) (hpost : Ensures P p Q) (hnext : ∀ a, Transparent (Q a) (next a)) :
    Transparent P (p >>= next) := by
  intro s t hst hstore
  obtain ⟨houtcome, halike⟩ := hp s t hst hstore
  have hknown := hpost t hstore
  rw [Step.bind_apply, Step.bind_apply]
  generalize p s = cached at houtcome halike ⊢
  generalize p t = plain at houtcome halike hknown ⊢
  obtain ⟨outcome, s'⟩ := cached
  obtain ⟨e | a, t'⟩ := plain
  · obtain rfl : outcome = .error e := houtcome
    exact ⟨rfl, halike⟩
  · obtain rfl : outcome = .ok a := houtcome
    exact hnext a s' t' halike (hknown a rfl)

/-- A part that has nothing to do with the cache, before others. -/
theorem Transparent.plain_bind {p : Procedure α} {next : α → Procedure β} {Q : α → Store → Prop}
    (hp : Plain p) (hpost : Ensures P p Q) (hnext : ∀ a, Transparent (Q a) (next a)) :
    Transparent P (p >>= next) :=
  .bind hp.transparent hpost hnext

theorem Transparent.first {p : Procedure α} {next : α → Procedure β} (hp : Plain p)
    (hnext : ∀ a, Transparent (fun _ => True) (next a)) : Transparent P (p >>= next) :=
  .plain_bind hp (.trivial P p) hnext

theorem Transparent.checked {outcome : Except IdentityError α} {next : α → Procedure β}
    (hnext : ∀ a, outcome = .ok a → Transparent P (next a)) :
    Transparent P (.ofExcept outcome >>= next) := by
  cases outcome with
  | error e => exact fun s t hst _ => ⟨rfl, hst⟩
  | ok a => exact hnext a rfl

theorem Transparent.guard {c : Prop} [Decidable c] {e : IdentityError} {next : Unit → Procedure α}
    (hnext : Transparent P (next ())) :
    Transparent P (if c then .fail e >>= next else next ()) := by
  split
  · exact fun s t hst _ => ⟨rfl, hst⟩
  · exact hnext

theorem Transparent.within {p : Procedure α} (hp : Transparent P p) (span : Log.Span) :
    Transparent P (within span p) := by
  intro s t hst hstore
  have hopened : (s.inSpan span).Alike (t.inSpan span) :=
    ⟨by rw [Session.inSpan, Session.inSpan, hst.desk], hst.postings, hst.keyed, hst.coherent,
      hst.absent⟩
  obtain ⟨houtcome, halike⟩ := hp _ _ hopened hstore
  have hspans : s.desk.log.spans = t.desk.log.spans := by rw [hst.desk]
  refine ⟨houtcome, ?_, halike.postings, halike.keyed, halike.coherent, halike.absent⟩
  exact congrArg₂ (fun (desk : Desk) spans => { desk with log.spans := spans }) halike.desk hspans

/-- Filing is transparent for a user who can be looked up then. -/
theorem transparent_store (seen : PublicUser) :
    Transparent (·.Knows seen) (onCache (·.store seen)) := fun _ _ hst hseen =>
  ⟨rfl, hst.desk, hst.postings, hst.keyed, hst.coherent.store hseen, hst.absent.store seen⟩

end Procedure

end IdentityLifecycle
