import IdentityLifecycle.Proofs.Transparency

/-!
# The log is only written

Nothing that the service does depends on what the log holds or on the spans that are open. Two
steps that differ in what they write end alike, on sessions that differ in the log.
-/

namespace IdentityLifecycle

namespace Step

variable {σ ε α β : Type} {R : σ → σ → Prop}

def Agree (R : σ → σ → Prop) (left right : Step σ ε α) : Prop :=
  ∀ s t, R s t → (left s).1 = (right t).1 ∧ R (left s).2 (right t).2

theorem Agree.pure (a : α) : Agree R (pure a : Step σ ε α) (pure a) :=
  fun _ _ hst => ⟨rfl, hst⟩

theorem Agree.fail (e : ε) : Agree R (fail e : Step σ ε α) (fail e) :=
  fun _ _ hst => ⟨rfl, hst⟩

theorem Agree.ofExcept (outcome : Except ε α) : Agree R (ofExcept outcome) (ofExcept outcome) :=
  fun _ _ hst => ⟨rfl, hst⟩

theorem Agree.ofOption (e : ε) (value : Option α) :
    Agree R (ofOption e value) (ofOption e value) := by
  cases value with
  | none => exact .fail e
  | some a => exact .pure a

/-- Steps in a row agree if they agree one by one. -/
theorem Agree.bind {left right : Step σ ε α} {next next' : α → Step σ ε β}
    (hfirst : Agree R left right) (hnext : ∀ a, Agree R (next a) (next' a)) :
    Agree R (left >>= next) (right >>= next') := by
  intro s t hst
  obtain ⟨houtcome, hafter⟩ := hfirst s t hst
  rw [bind_apply, bind_apply]
  generalize left s = ran at houtcome hafter ⊢
  generalize right t = ran' at houtcome hafter ⊢
  obtain ⟨outcome, s'⟩ := ran
  obtain ⟨outcome', t'⟩ := ran'
  obtain rfl : outcome = outcome' := houtcome
  cases outcome with
  | error e => exact ⟨rfl, hafter⟩
  | ok a => exact hnext a s' t' hafter

theorem Agree.recover {left right : Step σ ε α} (h : Agree R left right)
    (handle : ε → Except ε α) : Agree R (left.recover handle) (right.recover handle) := by
  intro s t hst
  obtain ⟨houtcome, hafter⟩ := h s t hst
  unfold Step.recover
  generalize left s = ran at houtcome hafter ⊢
  generalize right t = ran' at houtcome hafter ⊢
  obtain ⟨outcome, s'⟩ := ran
  obtain ⟨outcome', t'⟩ := ran'
  obtain rfl : outcome = outcome' := houtcome
  cases outcome with
  | error e => exact ⟨rfl, hafter⟩
  | ok a => exact ⟨rfl, hafter⟩

/-- A check that may end the step early. -/
theorem Agree.guard {c : Prop} [Decidable c] {e : ε} {next next' : Unit → Step σ ε α}
    (hnext : Agree R (next ()) (next' ())) :
    Agree R (if c then Step.fail e >>= next else next ())
      (if c then Step.fail e >>= next' else next' ()) := by
  by_cases hc : c
  · rw [if_pos hc, if_pos hc]
    exact fun _ _ hst => ⟨rfl, hst⟩
  · rw [if_neg hc, if_neg hc]
    exact hnext

end Step

open Step (Agree)

/-! ### Statements -/

namespace Query

variable {α β : Type}

def LogBlind (q : Query α) : Prop :=
  Agree (fun left right : Desk => left.store = right.store) q q

theorem logBlind_report (entry : Log.Entry) : LogBlind (report entry) :=
  fun _ _ hstore => ⟨rfl, hstore⟩

theorem logBlind_connect : LogBlind connect := by
  intro left right hstore
  unfold connect
  rw [hstore]
  split <;> exact ⟨rfl, hstore⟩

theorem logBlind_usersFor (context : String) : LogBlind (usersFor context) := by
  intro left right hstore
  unfold usersFor
  rw [hstore]
  split <;> exact ⟨rfl, hstore⟩

theorem logBlind_tokensFor (context : String) : LogBlind (tokensFor context) := by
  intro left right hstore
  unfold tokensFor
  rw [hstore]
  split <;> exact ⟨rfl, hstore⟩

theorem logBlind_writing (context : String) : LogBlind (writing context) := by
  intro left right hstore
  unfold writing
  rw [hstore]
  split <;> exact ⟨rfl, hstore⟩

theorem logBlind_setUsers (rows : List UserRow) : LogBlind (setUsers rows) := fun _ _ hstore =>
  ⟨rfl, congrArg (fun store : Store => { store with database.users := some rows }) hstore⟩

theorem logBlind_setTokens (rows : List TokenRow) : LogBlind (setTokens rows) := fun _ _ hstore =>
  ⟨rfl, congrArg (fun store : Store => { store with database.tokens := some rows }) hstore⟩

theorem logBlind_insert (context : String) (add : Database → Except DatabaseError Database) :
    LogBlind (insert context add) := by
  intro left right hstore
  unfold insert
  rw [hstore]
  split
  · exact ⟨rfl, rfl⟩
  · exact ⟨rfl, hstore⟩

theorem logBlind_decodeUser (row : Option UserRow) : LogBlind (decodeUser row) := by
  cases row with
  | none => exact .pure none
  | some row => exact .ofExcept _

theorem logBlind_userByEmail (email : String) : LogBlind (userByEmail email) :=
  .bind (logBlind_usersFor _) fun _ => logBlind_decodeUser _

theorem LogBlind.onConnection {q : Query α} (hq : q.LogBlind) : LogBlind q.onConnection :=
  .bind logBlind_connect fun _ => hq

theorem logBlind_createUser (user : User) : LogBlind (createUser user) :=
  .bind (logBlind_usersFor _) fun _ => .bind (logBlind_writing _) fun _ => logBlind_insert _ _

theorem logBlind_updateUser (context email : String) (change : UserRow → UserRow) :
    LogBlind (updateUser context email change) :=
  .bind (logBlind_usersFor _) fun _ => .bind (logBlind_writing _) fun _ =>
    .bind (logBlind_setUsers _) fun _ => logBlind_decodeUser _

theorem logBlind_createToken (token : Token) : LogBlind (createToken token) :=
  .bind (logBlind_tokensFor _) fun _ => .bind (logBlind_writing _) fun _ => logBlind_insert _ _

theorem logBlind_deleteTokens (context : String) (drop : TokenRow → Bool) :
    LogBlind (deleteTokens context drop) :=
  .bind (logBlind_tokensFor _) fun _ => .bind (logBlind_writing _) fun _ =>
    .bind (logBlind_setTokens _) fun _ => .pure _

theorem logBlind_issue (ledger : Ledger) (email : String) (type : TokenType) (now : Instant)
    (random : ByteSource) : LogBlind (ledger.issue email type now random) :=
  .bind (logBlind_deleteTokens _ _) fun _ => .bind (logBlind_createToken _) fun _ =>
    .bind (logBlind_report _) fun _ => .pure _

end Query

/-! ### Parts of operations -/

/-- The sessions have the same tables, cache and mails. -/
structure Session.SameButLog (left right : Session) : Prop where
  store : left.desk.store = right.desk.store
  cache : left.cache = right.cache
  postings : left.postings = right.postings

theorem Session.SameButLog.refl (s : Session) : s.SameButLog s := ⟨rfl, rfl, rfl⟩

namespace Procedure

variable {α β : Type}

abbrev SameButLog (left right : Procedure α) : Prop := Agree Session.SameButLog left right

theorem sameButLog_query {q : Query α} (hq : q.LogBlind) : SameButLog (query q) (query q) := by
  intro s t hst
  obtain ⟨houtcome, hstore⟩ := hq s.desk t.desk hst.store
  unfold query
  generalize q s.desk = ran at houtcome hstore ⊢
  generalize q t.desk = ran' at houtcome hstore ⊢
  obtain ⟨outcome, desk⟩ := ran
  obtain ⟨outcome', desk'⟩ := ran'
  obtain rfl : outcome = outcome' := houtcome
  cases outcome with
  | error e => exact ⟨rfl, hstore, hst.cache, hst.postings⟩
  | ok a => exact ⟨rfl, hstore, hst.cache, hst.postings⟩

theorem sameButLog_report (entry : Log.Entry) : SameButLog (report entry) (report entry) :=
  sameButLog_query (Query.logBlind_report entry)

theorem sameButLog_validate (outcome : Except ValidationError α) :
    SameButLog (validate outcome) (validate outcome) :=
  .ofExcept _

theorem sameButLog_onCache (change : Cache → Cache) :
    SameButLog (onCache change) (onCache change) :=
  fun _ _ hst => ⟨rfl, hst.store, congrArg change hst.cache, hst.postings⟩

theorem sameButLog_send (mailer : Mailer) (mail : Mail) :
    SameButLog (send mailer mail) (send mailer mail) := by
  intro s t hst
  unfold send
  rw [hst.postings]
  cases mailer mail with
  | error e => exact ⟨rfl, hst.store, hst.cache, rfl⟩
  | ok entries => exact ⟨rfl, hst.store, hst.cache, rfl⟩

/-- What is alike inside is alike in two different spans. -/
theorem sameButLog_within {left right : Procedure α} (h : SameButLog left right)
    (span span' : Log.Span) :
    SameButLog (within span left) (within span' right) := by
  intro s t hst
  have hinside : (s.inSpan span).SameButLog (t.inSpan span') :=
    ⟨hst.store, hst.cache, hst.postings⟩
  obtain ⟨houtcome, hafter⟩ := h _ _ hinside
  exact ⟨houtcome, hafter.store, hafter.cache, hafter.postings⟩

/-- Whether the log differs is nothing to a unit of work, nor to the engine that settles it. -/
theorem sameButLog_asUnit {left right : Procedure α} (h : SameButLog left right) :
    SameButLog (asUnit left) (asUnit right) := by
  intro s t hst
  unfold asUnit
  rw [hst.store]
  cases hbegin : t.desk.store.begin with
  | error e => exact ⟨rfl, hst⟩
  | ok begun =>
    obtain ⟨houtcome, hafter⟩ := h { s with desk.store := begun.1.store }
      { t with desk.store := begun.1.store } ⟨rfl, hst.cache, hst.postings⟩
    dsimp only
    rw [houtcome, hafter.store]
    exact ⟨rfl, rfl, hafter.cache, hafter.postings⟩

theorem sameButLog_cacheRead (user : User) :
    SameButLog (Service.cacheRead user) (Service.cacheRead user) := by
  intro s t hst
  unfold Service.cacheRead
  rw [hst.cache]
  exact ⟨rfl, hst.store, rfl, hst.postings⟩

theorem sameButLog_lookUp (key : IdentityKey) {read : Query (Option User)} (hread : read.LogBlind) :
    SameButLog (Service.lookUp key read) (Service.lookUp key read) := by
  have hthrough : SameButLog (Service.readThrough read) (Service.readThrough read) :=
    .bind (sameButLog_query hread.onConnection) fun _ =>
      .bind (.ofOption _ _) fun _ => sameButLog_cacheRead _
  intro s t hst
  have hload : s.cache.load key = t.cache.load key := by rw [hst.cache]
  cases hfound : t.cache.load key with
  | none =>
    rw [Service.lookUp_of_none (hload.trans hfound), Service.lookUp_of_none hfound]
    exact hthrough s t hst
  | some seen =>
    rw [Service.lookUp_of_some (hload.trans hfound), Service.lookUp_of_some hfound]
    exact ⟨rfl, hst⟩

end Procedure

end IdentityLifecycle
