import IdentityLifecycle.Proofs.Links
import IdentityLifecycle.Proofs.Reachable

/-!
# The sweep

Deleting the tokens that are no longer live cannot be noticed afterwards. Two tables that have the
same users and the same live tokens answer every call alike and stay so, as long as the clock does
not go back: look-ups see live tokens only, and a deletion takes from both sides alike. A dead row
could still be in the way of a new one with its value, so the values that are drawn must be new.
-/

namespace IdentityLifecycle

/-! ### Tables with the same live tokens -/

namespace Token

theorem isLive_iff {token : Token} {now : Instant} :
    token.isLive now = true ↔ now < token.expiresAt := decide_eq_true_iff

/-- A token that is live was so before. -/
theorem isLive_of_le {token : Token} {now later : Instant} (hle : now ≤ later)
    (hlive : token.isLive later = true) : token.isLive now = true :=
  isLive_iff.mpr (Int64.lt_of_le_of_lt hle (isLive_iff.mp hlive))

theorem not_isLive (token : Token) (now : Instant) :
    (!token.isLive now) = decide (token.expiresAt ≤ now) := by
  rw [isLive, ← decide_not]
  exact decide_eq_decide.mpr Int64.not_lt

end Token

namespace Tables

/-- The swept tables lack some of the tokens that were dead at an instant, and nothing else. -/
structure Swept (now : Instant) (plain swept : Tables) : Prop where
  users : swept.users = plain.users
  fewer : ∀ token ∈ swept.tokens, token ∈ plain.tokens
  live : swept.tokens.filter (·.isLive now) = plain.tokens.filter (·.isLive now)

namespace Swept

variable {now later : Instant} {plain swept : Tables}

theorem purged (now : Instant) (plain : Tables) :
    Swept now plain (plain.dropTokens fun token => !token.isLive now) where
  users := rfl
  fewer := fun _ htoken => (mem_dropTokens.mp htoken).1
  live := by simp [dropTokens]

theorem mono (h : Swept now plain swept) (hle : now ≤ later) : Swept later plain swept where
  users := h.users
  fewer := h.fewer
  live := by
    have hlive : ∀ token : Token,
        (token.isLive later && token.isLive now) = token.isLive later := by
      intro token
      cases hlater : token.isLive later with
      | false => rfl
      | true => rw [Token.isLive_of_le hle hlater, Bool.and_true]
    have hfilter := congrArg (List.filter (·.isLive later)) h.live
    simpa only [List.filter_filter, hlive] using hfilter

theorem userWithEmail? (h : Swept now plain swept) (email : String) :
    swept.userWithEmail? email = plain.userWithEmail? email :=
  congrArg (List.find? _) h.users

theorem userWithId? (h : Swept now plain swept) (id : String) :
    swept.userWithId? id = plain.userWithId? id :=
  congrArg (List.find? _) h.users

/-- Dead tokens are nothing to a look-up. -/
theorem liveToken?_filter (tables : Tables) (value : String) (type : TokenType) (now : Instant) :
    (tables.tokens.filter (·.isLive now)).find? (·.isLiveAs value type now) =
      tables.liveToken? value type now := by
  have hlive : ∀ token : Token, (token.isLive now = true ∧ token.isLiveAs value type now = true) ↔
      token.isLiveAs value type now = true := by
    intro token
    rw [Token.isLiveAs_iff, Token.isLive_iff]
    exact and_iff_right_of_imp fun h => h.2.2
  simp only [List.find?_filter, hlive, Bool.decide_eq_true]
  rfl

theorem liveToken? (h : Swept now plain swept) (value : String) (type : TokenType) :
    swept.liveToken? value type now = plain.liveToken? value type now := by
  calc
    swept.liveToken? value type now =
        (swept.tokens.filter (·.isLive now)).find? (·.isLiveAs value type now) :=
      (liveToken?_filter swept value type now).symm
    _ = (plain.tokens.filter (·.isLive now)).find? (·.isLiveAs value type now) := by rw [h.live]
    _ = plain.liveToken? value type now := liveToken?_filter plain value type now

theorem hasRoomFor {new : Token} (h : Swept now plain swept) (hroom : plain.HasRoomFor new) :
    swept.HasRoomFor new :=
  fun token htoken => hroom token (h.fewer token htoken)

theorem dropTokens (h : Swept now plain swept) (drop : Token → Bool) :
    Swept now (plain.dropTokens drop) (swept.dropTokens drop) where
  users := h.users
  fewer := by
    intro token htoken
    obtain ⟨hmem, hkept⟩ := mem_dropTokens.mp htoken
    exact mem_dropTokens.mpr ⟨h.fewer token hmem, hkept⟩
  live := by
    have hfilter := congrArg (List.filter fun token => !drop token) h.live
    simpa only [Tables.dropTokens, List.filter_filter, Bool.and_comm] using hfilter

theorem replaceToken (h : Swept now plain swept) (new : Token) :
    Swept now (plain.replaceToken new) (swept.replaceToken new) where
  users := h.users
  fewer := by
    intro token htoken
    rw [mem_replaceToken] at *
    exact htoken.imp_left fun hold => ⟨h.fewer token hold.1, hold.2⟩
  live := by
    have hrest := (h.dropTokens (·.isFor new.email new.type)).live
    simp only [Tables.replaceToken, addToken, List.filter_append, hrest]

theorem addUser (h : Swept now plain swept) (user : User) :
    Swept now (plain.addUser user) (swept.addUser user) where
  users := congrArg (· ++ [user]) h.users
  fewer := h.fewer
  live := h.live

theorem changeUser (h : Swept now plain swept) (email : String) (change : User → User) :
    Swept now (plain.changeUser email change) (swept.changeUser email change) where
  users := congrArg (List.map _) h.users
  fewer := h.fewer
  live := h.live

theorem resetGate (h : Swept now plain swept) (value : String) :
    swept.resetGate value now = plain.resetGate value now := by
  unfold Tables.resetGate
  rw [h.liveToken?]
  simp only [h.userWithEmail?]

end Swept

end Tables

/-! ### Units of work on both -/

def IdentityError.clash : IdentityError := .store (.conflict "failed to create the token")

inductive Work.Alike {α : Type} (now : Instant) : Work α → Work α → Prop
  | failed (e : IdentityError) (postings : List Posting) :
      Alike now { result := .error e, postings } { result := .error e, postings }
  | done {plain swept : Tables} (a : α) (postings : List Posting)
      (htables : plain.Swept now swept) :
      Alike now { result := .ok (a, plain), postings } { result := .ok (a, swept), postings }

namespace Service

variable {service : Service} {around : Surroundings} {now : Instant} {plain swept : Tables}

/-- Issuing a token does not show whether dead ones were swept, unless the value that is drawn is
one of theirs. -/
theorem mailing_alike (h : plain.Swept now swept) (type : TokenType) (email name : String)
    (hfree : (service.mailing around type email name plain).result = .error .clash →
      ∀ token ∈ plain.tokens, token.value ≠ service.ledger.generateValue around.token) :
    Work.Alike now (service.mailing around type email name plain)
      (service.mailing around type email name swept) := by
  by_cases hroom : plain.HasRoomFor (service.tokenFor around type email)
  · unfold mailing
    dsimp only
    rw [if_pos hroom, if_pos (h.hasRoomFor hroom)]
    cases around.mailer _ with
    | ok entries => exact .done () _ (h.replaceToken _)
    | error e => exact .failed _ _
  · -- a dead row that is still there may be in the way, but not of a value that is new
    have hclash : (service.mailing around type email name plain).result = .error .clash := by
      unfold mailing
      dsimp only
      rw [if_neg hroom]
      rfl
    refine absurd (fun token htoken hvalue => ?_) hroom
    exact absurd hvalue (hfree hclash token htoken)

theorem registering_alike (h : plain.Swept now swept) (user : User)
    (hfree : (service.registering around user plain).result = .error .clash →
      ∀ token ∈ plain.tokens, token.value ≠ service.ledger.generateValue around.token) :
    Work.Alike now (service.registering around user plain)
      (service.registering around user swept) := by
  unfold registering at *
  rw [h.userWithEmail?, h.userWithId?]
  split
  · exact .failed _ _
  · next hcond =>
    rw [if_neg hcond] at hfree
    exact mailing_alike (h.addUser user) _ _ _ hfree

theorem reissuing_alike (h : plain.Swept now swept) (email : String)
    (hfree : (service.reissuing around email plain).result = .error .clash →
      ∀ token ∈ plain.tokens, token.value ≠ service.ledger.generateValue around.token) :
    Work.Alike now (service.reissuing around email plain)
      (service.reissuing around email swept) := by
  unfold reissuing at *
  rw [h.userWithEmail?]
  cases huser : plain.userWithEmail? email with
  | none => exact .failed _ _
  | some user =>
    rw [huser] at hfree
    dsimp only at hfree ⊢
    split
    · exact .failed _ _
    · next hcond =>
      rw [if_neg hcond] at hfree
      exact mailing_alike h _ _ _ hfree

theorem issuingReset_alike (h : plain.Swept now swept) (email : String)
    (hfree : (service.issuingReset around email plain).result = .error .clash →
      ∀ token ∈ plain.tokens, token.value ≠ service.ledger.generateValue around.token) :
    Work.Alike now (service.issuingReset around email plain)
      (service.issuingReset around email swept) := by
  unfold issuingReset at *
  rw [h.userWithEmail?]
  cases huser : plain.userWithEmail? email with
  | none => exact .failed _ _
  | some user =>
    rw [huser] at hfree
    dsimp only at hfree ⊢
    split
    · next hcond =>
      rw [if_pos hcond] at hfree
      exact mailing_alike h _ _ _ hfree
    · exact .failed _ _

/-- Nor does redeeming one. -/
theorem redeeming_alike {later : Instant} (h : plain.Swept now swept) (hle : now ≤ later)
    (value : String) (type : TokenType) (change : User → User) (orphaned : IdentityError) :
    Work.Alike now (redeeming value type later change orphaned plain)
      (redeeming value type later change orphaned swept) := by
  unfold redeeming
  rw [(h.mono hle).liveToken?]
  cases plain.liveToken? value type later with
  | none => exact .failed _ _
  | some token =>
    have hafter := (h.dropTokens (·.value = token.value)).changeUser token.email change
    dsimp only
    rw [hafter.userWithEmail?]
    cases Tables.userWithEmail? _ token.email with
    | none => exact .failed _ _
    | some user => exact .done _ _ hafter

theorem replacing_alike (h : plain.Swept now swept) (email : String) (hashed : HashedPassword) :
    Work.Alike now (replacing email hashed plain) (replacing email hashed swept) := by
  have hchanged := h.changeUser email (·.withPassword hashed)
  unfold replacing
  dsimp only
  rw [hchanged.userWithEmail?]
  cases Tables.userWithEmail? _ email with
  | none => exact .failed _ _
  | some user => exact .done _ _ (hchanged.dropTokens _)

end Service

/-! ### Calls on both -/

structure View.Alike (now : Instant) (plain swept : View) : Prop where
  tables : plain.tables.Swept now swept.tables
  cache : swept.cache = plain.cache
  postings : swept.postings = plain.postings

structure Ending.Alike {α : Type} (now : Instant) (plain swept : Ending α) : Prop where
  answer : swept.1 = plain.1
  view : plain.2.Alike now swept.2

section Endings

variable {α β : Type} {now : Instant} {plain swept : View}

theorem Ending.Alike.map {a b : Ending α} (h : a.Alike now b) (f : α → β) :
    (a.map f).Alike now (b.map f) where
  answer := congrArg (Except.map f) h.answer
  view := h.view

/-- Checks that pass alike. What follows may count on the whole not to fail as it must not. -/
theorem Ending.Alike.given {checks : Except IdentityError α} {next next' : α → Ending β}
    {P : Prop} (h : plain.Alike now swept)
    (hfree : (Ending.given checks plain next).1 = .error .clash → P)
    (hnext : ∀ a, ((next a).1 = .error .clash → P) → (next a).Alike now (next' a)) :
    (Ending.given checks plain next).Alike now (Ending.given checks swept next') := by
  cases checks with
  | error e => exact ⟨rfl, h⟩
  | ok a => exact hnext a hfree

theorem View.Alike.unit {work work' : Work α} {answer : α → β} {refresh : α → Cache → Cache}
    (h : plain.Alike now swept) (hwork : work.Alike now work') :
    (plain.unit work answer refresh).Alike now (swept.unit work' answer refresh) := by
  cases hwork with
  | failed e postings => exact ⟨rfl, h.tables, h.cache, congrArg (· ++ postings) h.postings⟩
  | done a postings htables =>
    exact ⟨rfl, htables, congrArg (refresh a) h.cache, congrArg (· ++ postings) h.postings⟩

theorem View.unit_error {work : Work α} {e : IdentityError} (view : View) (answer : α → β)
    (refresh : α → Cache → Cache) (herror : work.result = .error e) :
    (view.unit work answer refresh).1 = .error e := by
  unfold View.unit
  rw [herror]

theorem View.Alike.read (h : plain.Alike now swept) (user : User) :
    (plain.read user).Alike now (swept.read user) := by
  unfold View.read
  rw [h.cache]
  exact ⟨rfl, h.tables, rfl, h.postings⟩

theorem View.Alike.lookUp (h : plain.Alike now swept) (key : IdentityKey) (found : Option User) :
    (plain.lookUp key found).Alike now (swept.lookUp key found) := by
  unfold View.lookUp
  rw [h.cache]
  cases plain.cache.load key with
  | some user => exact ⟨rfl, h⟩
  | none =>
    cases found with
    | none => exact ⟨rfl, h⟩
    | some user => exact h.read user

end Endings

/-- Nor does any call but the sweep itself. -/
theorem Call.ending_alike {service : Service} {around : Surroundings} {call : Call} {now : Instant}
    {plain swept : View} (h : plain.Alike now swept) (hcall : call ≠ .purgeExpiredTokens)
    (hnow : now ≤ around.now) (hlater : now ≤ around.later)
    (hfree : (call.ending service around plain).1 = .error .clash →
      ∀ token ∈ plain.tables.tokens, token.value ≠ service.ledger.generateValue around.token) :
    (call.ending service around plain).Alike now (call.ending service around swept) := by
  have hmap : ∀ {α : Type} (f : α → Answer) (ending : Ending α), ending.1 = .error .clash →
      (ending.map f).1 = .error .clash :=
    fun f ending herror => congrArg (Except.map f) herror
  cases call with
  | signup email name password =>
    refine .map (.given h (fun herror => hfree (hmap _ _ herror)) fun user hfree => ?_) _
    exact h.unit (Service.registering_alike h.tables user fun herror =>
      hfree (plain.unit_error _ _ herror))
  | signin email password =>
    have hsame : service.authenticate email password swept.tables =
        service.authenticate email password plain.tables := by
      simp only [Service.authenticate, h.tables.userWithEmail?]
    simp only [Call.ending, Service.signinEnding, hsame]
    exact .map (.given h (P := True) (fun _ => trivial) fun user _ => h.read user) _
  | resendSignupToken email =>
    refine .map (.given h (fun herror => hfree (hmap _ _ herror)) fun normal hfree => ?_) _
    exact h.unit (Service.reissuing_alike h.tables normal fun herror =>
      hfree (plain.unit_error _ _ herror))
  | validateSignupToken token =>
    refine .map ?_ _
    unfold Service.validateSignupTokenEnding
    split
    · exact ⟨rfl, h⟩
    · exact h.unit (Service.redeeming_alike h.tables hnow _ _ _ _)
  | resetPassword email =>
    refine .map (.given h (fun herror => hfree (hmap _ _ herror)) fun normal hfree => ?_) _
    exact h.unit (Service.issuingReset_alike h.tables normal fun herror =>
      hfree (plain.unit_error _ _ herror))
  | resetPasswordToken token =>
    exact .map ⟨(h.tables.mono hnow).resetGate token, h⟩ _
  | changePasswordWithToken token password =>
    have hsame : service.newPasswordWithToken around token password swept.tables =
        service.newPasswordWithToken around token password plain.tables := by
      simp only [Service.newPasswordWithToken, (h.tables.mono hnow).resetGate]
    simp only [Call.ending, Service.changePasswordWithTokenEnding, hsame]
    refine .map (.given h (P := True) (fun _ => trivial) fun hashed _ => ?_) _
    exact h.unit (Service.redeeming_alike h.tables hlater _ _ _ _)
  | changePassword email password =>
    refine .map (.given h (P := True) (fun _ => trivial) fun checked _ => ?_) _
    exact h.unit (Service.replacing_alike h.tables checked.1 checked.2)
  | getUser id =>
    simp only [Call.ending, h.tables.userWithId?]
    exact .map (h.lookUp _ _) _
  | getUserByEmail email =>
    refine .map (.given h (P := True) (fun _ => trivial) fun normal _ => ?_) _
    rw [h.tables.userWithEmail?]
    exact h.lookUp _ _
  | remember user =>
    exact ⟨rfl, h.tables, congrArg (·.store user) h.cache, h.postings⟩
  | purgeExpiredTokens => exact absurd rfl hcall

/-! ### Values that are drawn -/

def Event.Draws (event : Event) : Prop := event.postings ≠ [] ∨ event.answer = .error .clash

instance Event.decidableDraws (event : Event) : Decidable event.Draws :=
  inferInstanceAs (Decidable (_ ∨ _))

/-- The values that were drawn differ from each other, and from those of the tokens at the start. -/
structure Service.Unrepeated (service : Service) (stored : List Token) (events : List Event) :
    Prop where
  new : ∀ event ∈ events, event.Draws → ∀ token ∈ stored, token.value ≠ service.valueIn event
  distinct : events.Pairwise fun event earlier =>
    event.Draws → earlier.Draws → service.valueIn earlier ≠ service.valueIn event

section Runs

variable {service : Service} {around : Surroundings} {before after start : Tables}

theorem Service.Unrepeated.tail {stored : List Token} {event : Event} {events : List Event}
    (h : service.Unrepeated stored (event :: events)) : service.Unrepeated stored events where
  new := fun earlier hearlier => h.new earlier (.tail _ hearlier)
  distinct := (List.pairwise_cons.mp h.distinct).2

/-- Every token was there before, or its value was drawn in this call. -/
theorem Effect.mem_tokens {call : Call} {answer : Answer} {mails : List Posting} {token : Token}
    (heffect : Effect service around before call answer mails after)
    (htoken : token ∈ after.tokens) :
    token ∈ before.tokens ∨
      mails ≠ [] ∧ token.value = service.ledger.generateValue around.token := by
  cases heffect with
  | read hcall => exact .inl htoken
  | registered hnew hemail hid hroom =>
    rcases Tables.mem_replaceToken.mp htoken with ⟨hold, -⟩ | rfl
    · exact .inl hold
    · exact .inr ⟨List.cons_ne_nil _ _, rfl⟩
  | issued hnormal huser hsuits hroom =>
    rcases Tables.mem_replaceToken.mp htoken with ⟨hold, -⟩ | rfl
    · exact .inl hold
    · exact .inr ⟨List.cons_ne_nil _ _, rfl⟩
  | confirmed hvalue hlive huser => exact .inl (Tables.mem_dropTokens.mp htoken).1
  | recovered hnew hlive huser => exact .inl (Tables.mem_dropTokens.mp htoken).1
  | changed hnew huser => exact .inl (Tables.mem_dropTokens.mp htoken).1
  | purged => exact .inl (Tables.mem_dropTokens.mp htoken).1

/-- Every token was there at the start, or was drawn in some event. -/
theorem Chronicle.mem_tokens {events : List Event} {token : Token}
    (hchronicle : Chronicle service start events after) (htoken : token ∈ after.tokens) :
    token ∈ start.tokens ∨ ∃ event ∈ events, event.Draws ∧ token.value = service.valueIn event := by
  induction hchronicle with
  | start => exact .inl htoken
  | failed hearlier ih =>
    rcases ih htoken with hstart | ⟨event, hevent, hdrawn⟩
    · exact .inl hstart
    · exact .inr ⟨event, .tail _ hevent, hdrawn⟩
  | done hearlier heffect ih =>
    rcases heffect.mem_tokens htoken with hbefore | ⟨hmails, hvalue⟩
    · rcases ih hbefore with hstart | ⟨event, hevent, hdrawn⟩
      · exact .inl hstart
      · exact .inr ⟨event, .tail _ hevent, hdrawn⟩
    · exact .inr ⟨_, .head _, .inl hmails, hvalue⟩

/-- A value that is drawn and must not repeat is not in the way of its own row. -/
theorem Chronicle.value_ne {event : Event} {events : List Event}
    (hchronicle : Chronicle service start events after)
    (hdrawn : service.Unrepeated start.tokens (event :: events)) (hdraws : event.Draws) :
    ∀ token ∈ after.tokens, token.value ≠ service.valueIn event := by
  intro token htoken
  rcases hchronicle.mem_tokens htoken with hstart | ⟨earlier, hearlier, hdrew, hvalue⟩
  · exact hdrawn.new event (.head _) hdraws token hstart
  · rw [hvalue]
    exact (List.pairwise_cons.mp hdrawn.distinct).1 earlier hearlier hdraws hdrew

theorem Service.serve_event (request : Request) {s : Session} {view : View} (hs : s.Shows view) :
    (service.serve request s).1 = {
      request
      answer := (request.call.ending service request.around view).1
      postings := (request.call.ending service request.around view).2.postings.drop
        view.postings.length } := by
  rw [← service.serve_answer request hs, ← (service.serve_shows request hs).postings, ← hs.postings]
  rfl

/-- From views that differ in dead tokens only, a run has the same events, and leads to such views
again. -/
theorem Service.run_swept {s t : Session} {plain swept : View} {now : Instant}
    (h : plain.Alike now swept) (hs : s.Shows plain) (ht : t.Shows swept) (requests : List Request)
    (hcalls : ∀ request ∈ requests, request.call ≠ .purgeExpiredTokens)
    (hclock : ∀ request ∈ requests, now ≤ request.around.now ∧ now ≤ request.around.later)
    (hdrawn : service.Unrepeated plain.tables.tokens (service.run s requests).1) :
    (service.run t requests).1 = (service.run s requests).1 ∧
      ∃ plain' swept' : View, (service.run s requests).2.Shows plain' ∧
        (service.run t requests).2.Shows swept' ∧ plain'.Alike now swept' ∧
        Chronicle service plain.tables (service.run s requests).1 plain'.tables := by
  induction requests with
  | nil => exact ⟨rfl, plain, swept, hs, ht, h, .start⟩
  | cons request earlier ih =>
    obtain ⟨hcall, hcalls⟩ := List.forall_mem_cons.mp hcalls
    obtain ⟨⟨hnow, hlater⟩, hclock⟩ := List.forall_mem_cons.mp hclock
    simp only [run_cons] at hdrawn ⊢
    obtain ⟨hevents, before, before', hshows, hshows', halike, hchronicle⟩ :=
      ih hcalls hclock hdrawn.tail
    -- the chronicle tells where the stored values come from: the start, or an earlier draw
    have hfree : (request.call.ending service request.around before).1 = .error .clash →
        ∀ token ∈ before.tables.tokens,
          token.value ≠ service.ledger.generateValue request.around.token := by
      intro hclash
      rw [← service.serve_answer request hshows] at hclash
      exact hchronicle.value_ne hdrawn (.inr hclash)
    have hending := Call.ending_alike halike hcall hnow hlater hfree
    refine ⟨?_, _, _, service.serve_shows request hshows, service.serve_shows request hshows',
      hending.view, ?_⟩
    · rw [hevents, serve_event request hshows, serve_event request hshows', hending.answer,
        hending.view.postings, halike.postings]
    · obtain ⟨after, hafter, hlonger⟩ := service.serve_chronicle request hshows hchronicle
      rwa [← hafter.view_eq, (service.serve_shows request hshows).view_eq] at hlonger

/-- A sweep deletes just the tokens that have expired, and says how many; right after it there are
none to delete. Any calls that come later answer the same, mail the same, and leave the same users,
cache and live tokens as if there had been no sweep. -/
theorem sweep_unobservable (service : Service) (s : Session) (hs : s.Reachable)
    (around : Surroundings) (requests : List Request)
    (hcalls : ∀ request ∈ requests, request.call ≠ .purgeExpiredTokens)
    (hclock : ∀ request ∈ requests,
      around.now ≤ request.around.now ∧ around.now ≤ request.around.later)
    (hdrawn : service.Unrepeated s.desk.store.tables.tokens (service.run s requests).1) :
    let before := s.desk.store.tables
    let purge := service.serve ⟨.purgeExpiredTokens, around⟩ s
    let swept := purge.2.desk.store.tables
    let plainly := service.run s requests
    let afterwards := service.run purge.2 requests
    purge.1.answer = .ok (.count (before.tokens.countP (·.expiresAt ≤ around.now))) ∧
    purge.1.postings = [] ∧ purge.2.cache = s.cache ∧ swept.users = before.users ∧
    swept.tokens = before.tokens.filter (fun token => around.now < token.expiresAt) ∧
    (∀ again : Surroundings, again.now = around.now →
      (service.serve ⟨.purgeExpiredTokens, again⟩ purge.2).1.answer = .ok (.count 0)) ∧
    afterwards.1 = plainly.1 ∧ afterwards.2.cache = plainly.2.cache ∧
    afterwards.2.desk.store.tables.users = plainly.2.desk.store.tables.users ∧
    ∀ now, around.now ≤ now →
      afterwards.2.desk.store.tables.tokens.filter (·.isLive now) =
        plainly.2.desk.store.tables.tokens.filter (·.isLive now) := by
  intro before purge swept plainly afterwards
  have hshows := hs.shows
  have hpurge := service.serve_shows ⟨.purgeExpiredTokens, around⟩ hshows
  have hswept : swept = before.dropTokens fun token => !token.isLive around.now :=
    hpurge.tables.tables_eq
  have halike : s.view.Alike around.now
      (Call.purgeExpiredTokens.ending service around s.view).2 :=
    ⟨.purged around.now before, rfl, List.append_nil s.view.postings⟩
  obtain ⟨hevents, plain', swept', hplain, hafter, hboth, -⟩ :=
    Service.run_swept halike hshows hpurge requests hcalls hclock hdrawn
  refine ⟨?_, ?_, hpurge.cache, ?_, ?_, ?_, hevents, ?_, ?_, ?_⟩
  · rw [service.serve_answer _ hshows]
    simp only [← Token.not_isLive]
    rfl
  · rw [Service.serve_event _ hshows]
    simp [Call.ending, View.unit, Service.purging, Work.done, Ending.map]
  · rw [hswept]
    rfl
  · rw [hswept]
    simp only [Tables.dropTokens, Bool.not_not]
    rfl
  · intro again hagain
    rw [service.serve_answer _ hpurge]
    have hnone : swept.tokens.countP (fun token => !token.isLive again.now) = 0 := by
      rw [List.countP_eq_zero, hswept, hagain]
      intro token htoken
      simpa using (Tables.mem_dropTokens.mp htoken).2
    exact congrArg (fun n => Except.ok (Answer.count n)) (hpurge.tables.tables_eq ▸ hnone)
  · rw [hafter.cache, hplain.cache]
    exact hboth.cache
  · rw [hafter.tables.tables_eq, hplain.tables.tables_eq]
    exact hboth.tables.users
  · intro now hle
    rw [hafter.tables.tables_eq, hplain.tables.tables_eq]
    exact (hboth.tables.mono hle).live

end Runs

/-- The link of a signup has expired and is swept away, and then another one is asked for and
used. -/
theorem sweep_unobservable_of_expired_signup :
    let s := (Service.small.run (.fresh .unbounded) [.at 1 (.signup "a@b" "n" "p")]).2
    let around := (Request.at 43200001 .purgeExpiredTokens).around
    let resend : Request := .at 43200002 (.resendSignupToken "a@b")
    let requests : List Request := [.at 43200003 (.validateSignupToken "BA"),
      { resend with around := { resend.around with token := fun _ => 4 } },
      .at 43200002 (.validateSignupToken "AA")]
    let plainly := Service.small.run s requests
    let purge := Service.small.serve ⟨.purgeExpiredTokens, around⟩ s
    let afterwards := Service.small.run purge.2 requests
    (∀ request ∈ requests, request.call ≠ .purgeExpiredTokens) ∧
      (∀ request ∈ requests,
        around.now ≤ request.around.now ∧ around.now ≤ request.around.later) ∧
      Service.small.Unrepeated s.desk.store.tables.tokens plainly.1 ∧
      plainly.1.map (·.answer) = [.ok (.user { id := "u", email := "a@b", name := "n" }), .ok .done,
        .error .invalidToken] ∧
      purge.1.answer = .ok (.count 1) ∧ afterwards.1 = plainly.1 := by
  intro s around resend requests plainly purge afterwards
  have hs : s.Reachable := Service.run_reachable Service.small_checked .unbounded _
  have hcalls : ∀ request ∈ requests, request.call ≠ .purgeExpiredTokens := by
    simp [requests, resend, Request.at]
  have hclock : ∀ request ∈ requests,
      around.now ≤ request.around.now ∧ around.now ≤ request.around.later := by
    decide +kernel
  have hdrawn : Service.small.Unrepeated s.desk.store.tables.tokens plainly.1 := by
    constructor <;> decide +kernel
  have hanswers : plainly.1.map (·.answer) =
      [.ok (.user { id := "u", email := "a@b", name := "n" }), .ok .done, .error .invalidToken] ∧
      s.desk.store.tables.tokens.countP (·.expiresAt ≤ around.now) = 1 := by
    decide +kernel
  obtain ⟨hanswer, -, -, -, -, -, hevents, -⟩ :=
    sweep_unobservable .small s hs around requests hcalls hclock hdrawn
  exact ⟨hcalls, hclock, hdrawn, hanswers.1, hanswers.2 ▸ hanswer, hevents⟩

end IdentityLifecycle
