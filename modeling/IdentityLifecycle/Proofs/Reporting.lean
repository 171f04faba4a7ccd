import IdentityLifecycle.Proofs.Ending

/-!
# What calls report

Every call is described by the entries that it writes to the log, on tables of users and tokens and
for any mailer. An entry stands inside the spans that were open when it was written.
-/

namespace IdentityLifecycle

open Step (Carries)

/-! ### Entries at the end of a log -/

def Log.Entry.inside (span : Log.Span) (entry : Log.Entry) : Log.Entry :=
  { entry with spans := span :: entry.spans }

def Log.Entry.bare (entry : Log.Entry) : Log.Entry := { entry with spans := [] }

def Log.extend (log : Log) (entries : List Log.Entry) : Log :=
  { log with
    entries := log.entries ++ entries.map fun entry =>
      { entry with spans := log.spans ++ entry.spans } }

namespace Log

variable (log : Log) (entries entries' : List Log.Entry)

@[simp] theorem extend_nil : log.extend [] = log := by
  simp [extend]

/-- Entries can be appended in two parts. -/
theorem extend_append :
    log.extend (entries ++ entries') = (log.extend entries).extend entries' := by
  simp [extend]

theorem write_eq (entry : Log.Entry) : log.write entry = log.extend [entry.bare] := by
  simp [write, extend, Entry.bare]

theorem extend_singleton {entry : Entry} (hbare : entry.bare = entry) :
    log.extend [entry] = log.write entry := by
  rw [write_eq, hbare]

theorem foldl_write : entries.foldl write log = log.extend (entries.map (·.bare)) := by
  induction entries generalizing log with
  | nil => simp
  | cons entry entries ih =>
    rw [List.foldl_cons, ih, write_eq, ← extend_append]
    rfl

/-- What is written in a span, seen from outside. -/
theorem extend_inside (span : Span) :
    { ({ log with spans := log.spans ++ [span] } : Log).extend entries with spans := log.spans } =
      log.extend (entries.map (·.inside span)) := by
  simp [extend, Entry.inside]

end Log

/-! ### Steps that write to a log -/

namespace Step

variable {σ τ ε α β : Type} {R : σ → τ → Prop} {log : σ → Log}

/-- From every state that is related to `t`, the step appends the entries to the log. -/
def Logs (log : σ → Log) (R : σ → τ → Prop) (step : Step σ ε α) (t : τ)
    (entries : List Log.Entry) : Prop :=
  ∀ s, R s t → log (step s).2 = (log s).extend entries

namespace Logs

theorem pure (a : α) (t : τ) : Logs log R (pure a : Step σ ε α) t [] :=
  fun s _ => (log s).extend_nil.symm

theorem fail (e : ε) (t : τ) : Logs log R (fail e : Step σ ε α) t [] :=
  fun s _ => (log s).extend_nil.symm

theorem ofExcept (outcome : Except ε α) (t : τ) : Logs log R (ofExcept outcome) t [] :=
  fun s _ => (log s).extend_nil.symm

theorem ofOption (e : ε) (value : Option α) (t : τ) : Logs log R (ofOption e value) t [] := by
  cases value with
  | none => exact .fail e t
  | some a => exact .pure a t

/-- Parts in a row write what each of them writes. -/
theorem bind_ok {step : Step σ ε α} {next : α → Step σ ε β} {t t₁ : τ} {a : α}
    {entries entries' : List Log.Entry} (hstep : Carries R step t (.ok a) t₁)
    (hlog : Logs log R step t entries) (hnext : Logs log R (next a) t₁ entries') :
    Logs log R (step >>= next) t (entries ++ entries') := by
  intro s hs
  obtain ⟨hok, hs₁⟩ := hstep s hs
  have hwritten := hlog s hs
  rw [bind_apply, Log.extend_append, ← hwritten]
  generalize step s = result at hok hs₁ hwritten ⊢
  obtain ⟨_, s₁⟩ := result
  subst hok
  exact hnext s₁ hs₁

theorem silent_bind {step : Step σ ε α} {next : α → Step σ ε β} {t t₁ : τ} {a : α}
    {entries : List Log.Entry} (hstep : Carries R step t (.ok a) t₁)
    (hlog : Logs log R step t []) (hnext : Logs log R (next a) t₁ entries) :
    Logs log R (step >>= next) t entries :=
  .bind_ok hstep hlog hnext

theorem bind_error {step : Step σ ε α} {t t₁ : τ} {e : ε} {entries : List Log.Entry}
    (hstep : Carries R step t (.error e) t₁) (hlog : Logs log R step t entries)
    (next : α → Step σ ε β) : Logs log R (step >>= next) t entries := by
  intro s hs
  obtain ⟨herror, -⟩ := hstep s hs
  rw [bind_apply, ← hlog s hs]
  generalize step s = result at herror ⊢
  obtain ⟨_, s₁⟩ := result
  subst herror
  rfl

theorem recover {step : Step σ ε α} {t : τ} {entries : List Log.Entry}
    (hlog : Logs log R step t entries) (handle : ε → Except ε α) :
    Logs log R (step.recover handle) t entries := by
  intro s hs
  rw [← hlog s hs]
  unfold Step.recover
  rcases step s with ⟨e | a, s₁⟩ <;> rfl

end Logs

end Step

open Step (Logs)

/-! ### Statements -/

namespace Query

variable {α β : Type}

def Silent (q : Query α) : Prop := ∀ desk, (q desk).2.log = desk.log

theorem Silent.logs {q : Query α} (hq : q.Silent) (tables : Tables) :
    Logs Desk.log Desk.Holds q tables [] := by
  intro desk _
  rw [hq desk, Log.extend_nil]

theorem Silent.pure (a : α) : Silent (pure a : Query α) := fun _ => rfl

theorem Silent.bind {q : Query α} {next : α → Query β} (hq : q.Silent)
    (hnext : ∀ a, (next a).Silent) : (q >>= next).Silent := by
  intro desk
  have hfirst := hq desk
  rw [Step.bind_apply]
  generalize q desk = result at hfirst ⊢
  obtain ⟨e | a, middle⟩ := result
  · exact hfirst
  · exact (hnext a middle).trans hfirst

theorem silent_connect : Silent connect := by
  intro desk
  unfold connect
  split <;> rfl

theorem silent_usersFor (context : String) : Silent (usersFor context) := by
  intro desk
  unfold usersFor
  split <;> rfl

theorem silent_tokensFor (context : String) : Silent (tokensFor context) := by
  intro desk
  unfold tokensFor
  split <;> rfl

theorem silent_writing (context : String) : Silent (writing context) := by
  intro desk
  unfold writing
  split <;> rfl

theorem silent_insert (context : String) (add : Database → Except DatabaseError Database) :
    Silent (insert context add) := by
  intro desk
  unfold insert
  split <;> rfl

theorem silent_decodeUser (row : Option UserRow) : Silent (decodeUser row) := by
  cases row <;> exact fun _ => rfl

theorem silent_decodeToken (row : Option TokenRow) : Silent (decodeToken row) := by
  cases row <;> exact fun _ => rfl

theorem silent_userByEmail (email : String) : Silent (userByEmail email) :=
  .bind (silent_usersFor _) fun _ => silent_decodeUser _

theorem silent_userById (id : String) : Silent (userById id) :=
  .bind (silent_usersFor _) fun _ => silent_decodeUser _

theorem silent_onConnection {q : Query α} (hq : q.Silent) : Silent q.onConnection :=
  .bind silent_connect fun _ => hq

theorem silent_createUser (user : User) : Silent (createUser user) :=
  .bind (silent_usersFor _) fun _ => .bind (silent_writing _) fun _ => silent_insert _ _

theorem silent_updateUser (context email : String) (change : UserRow → UserRow) :
    Silent (updateUser context email change) :=
  .bind (silent_usersFor _) fun _ => .bind (silent_writing _) fun _ =>
    .bind (fun _ => rfl) fun _ => silent_decodeUser _

theorem silent_createToken (token : Token) : Silent (createToken token) :=
  .bind (silent_tokensFor _) fun _ => .bind (silent_writing _) fun _ => silent_insert _ _

theorem silent_deleteTokens (context : String) (drop : TokenRow → Bool) :
    Silent (deleteTokens context drop) :=
  .bind (silent_tokensFor _) fun _ => .bind (silent_writing _) fun _ =>
    .bind (fun _ => rfl) fun _ => .pure _

theorem silent_deleteToken (value : String) : Silent (deleteToken value) :=
  .bind (silent_deleteTokens _ _) fun _ => .pure _

theorem silent_peek (value : String) (type : TokenType) (now : Instant) :
    Silent (Ledger.peek value type now) :=
  .bind (.bind (silent_tokensFor _) fun _ => silent_decodeToken _) fun _ => .pure _

theorem report_logs (entry : Log.Entry) (tables : Tables) :
    Logs Desk.log Desk.Holds (report entry) tables [entry.bare] :=
  fun desk _ => desk.log.write_eq entry

end Query

/-! ### The ledger -/

namespace Ledger

def issuedEntry (email : String) (type : TokenType) (superseded : Nat) : Log.Entry where
  level := .debug
  source := .ledger
  message := "Issued token"
  fields := [("email", .text email), ("token_type", .displayed type.text),
    ("superseded", .integer superseded)]

def consumedEntry (token : Token) : Log.Entry where
  level := .debug
  source := .ledger
  message := "Consumed token"
  fields := [("email", .text token.email), ("token_type", .displayed token.type.text)]

variable (ledger : Ledger) (email : String) (type : TokenType) (now : Instant)
  (random : ByteSource) {tables : Tables}

/-- Issuing a token reports how many it has superseded. -/
theorem issue_logs (hfree : tables.HasRoomFor (ledger.newToken email type now random)) :
    Logs Desk.log Desk.Holds (ledger.issue email type now random) tables
      [issuedEntry email type (tables.tokens.countP (·.isFor email type))] := by
  have hdelete : Carries Desk.Holds (Query.deleteTokensFor email type) tables _ _ :=
    Query.deleteTokens_carries _ (fun token => token.isFor_row email type) tables
  refine .bind_ok hdelete ((Query.silent_deleteTokens _ _).logs _) ?_
  refine .bind_ok (Query.createToken_carries_ok hfree.value_ne)
    ((Query.silent_createToken _).logs _) ?_
  exact .bind_ok (Query.report_carries _ _) (Query.report_logs _ _) (.pure _ _)

theorem issue_logs_of_taken
    (htaken : ¬tables.HasRoomFor (ledger.newToken email type now random)) :
    Logs Desk.log Desk.Holds (ledger.issue email type now random) tables [] := by
  have hdelete : Carries Desk.Holds (Query.deleteTokensFor email type) tables _ _ :=
    Query.deleteTokens_carries _ (fun token => token.isFor_row email type) tables
  refine .bind_ok hdelete ((Query.silent_deleteTokens _ _).logs _) ?_
  exact .bind_error (Query.createToken_carries_error (Tables.exists_value_of_not_room htaken))
    ((Query.silent_createToken _).logs _) _

theorem consume_logs_none {value : String} (hnone : tables.liveToken? value type now = none) :
    Logs Desk.log Desk.Holds (consume value type now) tables [] := by
  refine .bind_ok (peek_carries type now value tables) ((Query.silent_peek _ _ _).logs _) ?_
  rw [hnone]
  exact .pure _ _

theorem consume_logs_some {value : String} {token : Token}
    (hsome : tables.liveToken? value type now = some token) :
    Logs Desk.log Desk.Holds (consume value type now) tables [consumedEntry token] := by
  refine .bind_ok (peek_carries type now value tables) ((Query.silent_peek _ _ _).logs _) ?_
  rw [hsome]
  have hdelete : Carries Desk.Holds (Query.deleteToken token.value) tables _ _ :=
    .bind_ok (Query.deleteTokens_carries _ (fun t => t.hasValue_row token.value) tables) (.pure _ _)
  refine .bind_ok hdelete ((Query.silent_deleteToken _).logs _) ?_
  have hsame : type = token.type := (Tables.of_liveToken?_eq_some hsome).2.2.1.symm
  subst hsame
  exact .bind_ok (Query.report_carries _ _) (Query.report_logs _ _) (.pure _ _)

end Ledger

/-! ### Procedures -/

def Session.log (s : Session) : Log := s.desk.log

namespace Procedure

variable {α : Type} {view : View} {entries : List Log.Entry}

theorem query_logs {q : Query α} (hq : Logs Desk.log Desk.Holds q view.tables entries) :
    Logs Session.log Session.Shows (query q) view entries := by
  intro s hs
  have hlog := hq s.desk hs.tables
  change (query q s).2.desk.log = _
  unfold query
  generalize q s.desk = result at hlog ⊢
  obtain ⟨e | a, desk⟩ := result <;> exact hlog

theorem silent_query {q : Query α} (hq : q.Silent) (view : View) :
    Logs Session.log Session.Shows (query q) view [] :=
  query_logs (hq.logs view.tables)

/-- After a silent statement whose failure stays one. -/
theorem recover_bind_error {β : Type} {q : Query α} {e : StoreError}
    {handle : IdentityError → Except IdentityError α} {left : Tables}
    (hq : Carries Desk.Holds q view.tables (.error e) left)
    (hhandle : ∃ e', handle (.store e) = .error e') (hsilent : q.Silent) (next : α → Procedure β) :
    Logs Session.log Session.Shows ((query q).recover handle >>= next) view [] := by
  obtain ⟨e', hhandle⟩ := hhandle
  have hrefused : Carries Session.Shows ((query q).recover handle) view (.error e')
      { view with tables := left } := by
    rw [← hhandle]
    exact .recover_error (query_carries_error hq) handle
  exact .bind_error hrefused (.recover (silent_query hsilent view) handle) next

theorem report_logs (entry : Log.Entry) (view : View) :
    Logs Session.log Session.Shows (report entry) view [entry.bare] :=
  query_logs (Query.report_logs entry view.tables)

theorem onCache_logs (change : Cache → Cache) (view : View) :
    Logs Session.log Session.Shows (onCache change) view [] :=
  fun s _ => s.log.extend_nil.symm

theorem send_logs_ok {mailer : Mailer} {mail : Mail} (haccept : mailer mail = .ok entries)
    (view : View) :
    Logs Session.log Session.Shows (send mailer mail) view (entries.map (·.bare)) := by
  intro s _
  simp only [send, haccept]
  exact Log.foldl_write _ _

theorem send_logs_error {mailer : Mailer} {mail : Mail} {e : MailError}
    (hrefuse : mailer mail = .error e) (view : View) :
    Logs Session.log Session.Shows (send mailer mail) view [] := by
  intro s _
  simp only [send, hrefuse]
  exact s.log.extend_nil.symm

/-- What is done inside a span is written inside it. -/
theorem within_logs {p : Procedure α} (span : Log.Span)
    (hp : Logs Session.log Session.Shows p view entries) :
    Logs Session.log Session.Shows (within span p) view (entries.map (·.inside span)) := by
  intro s hs
  have hlog := hp (s.inSpan span) ⟨hs.tables, hs.cache, hs.postings⟩
  calc
    (within span p s).2.log = { (p (s.inSpan span)).2.log with spans := s.log.spans } := rfl
    _ = { ({ s.log with spans := s.log.spans ++ [span] } : Log).extend entries with
          spans := s.log.spans } :=
      congrArg (fun log : Log => { log with spans := s.log.spans }) hlog
    _ = s.log.extend (entries.map (·.inside span)) := Log.extend_inside _ _ span

theorem silent_within {p : Procedure α} (span : Log.Span)
    (hp : Logs Session.log Session.Shows p view []) :
    Logs Session.log Session.Shows (within span p) view [] :=
  within_logs span hp

/-- A unit of work keeps what it has written, also when it is rolled back. -/
theorem asUnit_logs {p : Procedure α} (hp : Logs Session.log Session.Shows p view entries) :
    Logs Session.log Session.Shows (asUnit p) view entries := by
  intro s hs
  have hlog := hp s.inUnit hs.inUnit
  rcases hrun : p s.inUnit with ⟨outcome, t⟩
  rw [hrun] at hlog
  have hrollback : s.desk.store.settling.rollback = none := by rw [hs.tables.settling]
  exact (asUnit_log hs.tables.opened hs.tables.unlocked hrun hrollback).trans hlog

end Procedure

/-! ### Units of work -/

namespace Service

open Procedure

variable (service : Service) (around : Surroundings) {view : View}

def mailingLog (type : TokenType) (email name : String) (tables : Tables) : List Log.Entry :=
  let token := service.tokenFor around type email
  if tables.HasRoomFor token then
    Ledger.issuedEntry email type (tables.tokens.countP (·.isFor email type)) ::
      ((around.mailer (Mail.forToken service.site type email name token.value)).toOption.getD
        []).map (·.bare)
  else []

def registeringLog (user : User) (tables : Tables) : List Log.Entry :=
  if tables.userWithEmail? user.email ≠ none ∨ tables.userWithId? user.id ≠ none then []
  else service.mailingLog around .signup user.email user.name (tables.addUser user)

def reissuingLog (email : String) (tables : Tables) : List Log.Entry :=
  match tables.userWithEmail? email with
  | none => []
  | some user =>
    if user.isVerified then [] else service.mailingLog around .signup email user.name tables

def issuingResetLog (email : String) (tables : Tables) : List Log.Entry :=
  match tables.userWithEmail? email with
  | none => []
  | some user =>
    if user.isVerified then service.mailingLog around .passwordReset email user.name tables else []

def redeemingLog (value : String) (type : TokenType) (now : Instant) (tables : Tables) :
    List Log.Entry :=
  ((tables.liveToken? value type now).map Ledger.consumedEntry).toList

theorem mailing_logs (type : TokenType) (email name : String) (view : View) :
    Logs Session.log Session.Shows (do
        let token ← query (service.ledger.issue email type around.now around.token)
        send around.mailer (Mail.forToken service.site type email name token.value))
      view (service.mailingLog around type email name view.tables) := by
  unfold mailingLog
  by_cases hroom : view.tables.HasRoomFor (service.tokenFor around type email)
  · have hissue := Ledger.issue_carries_ok _ _ _ _ _ hroom
    have hlog := Ledger.issue_logs _ _ _ _ _ hroom
    simp only [if_pos hroom]
    cases hmail : around.mailer (Mail.forToken service.site type email name
        (service.tokenFor around type email).value) with
    | ok entries =>
      exact .bind_ok (query_carries_ok hissue) (query_logs hlog) (send_logs_ok hmail _)
    | error e =>
      exact .bind_ok (query_carries_ok hissue) (query_logs hlog) (send_logs_error hmail _)
  · simp only [if_neg hroom]
    exact .bind_error (query_carries_error (Ledger.issue_carries_error _ _ _ _ _ hroom))
      (query_logs (Ledger.issue_logs_of_taken _ _ _ _ _ hroom)) _

theorem registeringLog_of_taken {user : User} {tables : Tables}
    (htaken : tables.userWithEmail? user.email ≠ none ∨ tables.userWithId? user.id ≠ none) :
    service.registeringLog around user tables = [] :=
  if_pos htaken

theorem registeringLog_of_free {user : User} {tables : Tables}
    (hemail : tables.userWithEmail? user.email = none)
    (hid : tables.userWithId? user.id = none) :
    service.registeringLog around user tables =
      service.mailingLog around .signup user.email user.name (tables.addUser user) :=
  if_neg (by simp [hemail, hid])

theorem register_logs (user : User) (view : View) :
    Logs Session.log Session.Shows (service.register around user) view
      (service.registeringLog around user view.tables) := by
  refine .silent_bind (query_carries_ok (Query.userByEmail_carries user.email view.tables))
    (silent_query (Query.silent_userByEmail _) _) ?_
  cases hemail : view.tables.userWithEmail? user.email with
  | some other =>
    rw [service.registeringLog_of_taken around (.inl (by simp [hemail]))]
    exact .bind_error (.fail _ _) (.fail _ _) _
  | none =>
    cases hid : view.tables.userWithId? user.id with
    | some other =>
      have htaken : view.tables.userWithEmail? user.email ≠ none ∨
          view.tables.userWithId? user.id ≠ none := .inr (by simp [hid])
      rw [service.registeringLog_of_taken around htaken]
      refine recover_bind_error (Query.createUser_carries_error htaken) ?_
        (Query.silent_createUser _) _
      exact ⟨_, rfl⟩
    | none =>
      rw [service.registeringLog_of_free around hemail hid]
      refine .silent_bind (.recover_ok (query_carries_ok (Query.createUser_carries_ok hemail hid))
        _) (.recover (silent_query (Query.silent_createUser _) _) _) ?_
      exact service.mailing_logs around .signup user.email user.name _

theorem reissueSignup_logs (email : String) (view : View) :
    Logs Session.log Session.Shows (service.reissueSignup around email) view
      (service.reissuingLog around email view.tables) := by
  unfold reissuingLog
  refine .silent_bind (query_carries_ok (Query.userByEmail_carries email view.tables))
    (silent_query (Query.silent_userByEmail _) _) ?_
  cases view.tables.userWithEmail? email with
  | none => exact .bind_error (.fail _ _) (.fail _ _) _
  | some user =>
    refine .silent_bind (.ofOption_some user view) (.pure _ _) ?_
    by_cases hverified : user.isVerified
    · simp only [hverified, if_true]
      exact .bind_error (.fail _ _) (.fail _ _) _
    · simp only [hverified]
      exact service.mailing_logs around .signup email user.name view

theorem issueReset_logs (email : String) (view : View) :
    Logs Session.log Session.Shows (service.issueReset around email) view
      (service.issuingResetLog around email view.tables) := by
  unfold issuingResetLog
  refine .silent_bind (query_carries_ok (Query.userByEmail_carries email view.tables))
    (silent_query (Query.silent_userByEmail _) _) ?_
  cases view.tables.userWithEmail? email with
  | none => exact .bind_error (.fail _ _) (.fail _ _) _
  | some user =>
    refine .silent_bind (.ofOption_some user view) (.pure _ _) ?_
    by_cases hverified : user.isVerified
    · simp only [hverified, if_true]
      exact service.mailing_logs around .passwordReset email user.name view
    · simp only [hverified]
      exact .bind_error (.fail _ _) (.fail _ _) _

/-- Using a token up reports whose it was, whatever becomes of the owner. -/
theorem redeem_logs {value : String} {type : TokenType} {now : Instant}
    {update : String → Query (Option User)}
    (hupdate : ∀ email tables, ∃ found after,
      Carries Desk.Holds (update email) tables (.ok found) after)
    (hsilent : ∀ email, (update email).Silent) (orphaned : IdentityError) (view : View) :
    Logs Session.log Session.Shows (do
        let token ← query (Ledger.consume value type now)
        let token ← .ofOption .invalidToken token
        .ofOption orphaned (← query (update token.email)))
      view (redeemingLog value type now view.tables) := by
  unfold redeemingLog
  cases hfound : view.tables.liveToken? value type now with
  | none =>
    refine .silent_bind (query_carries_ok (Ledger.consume_carries_none type now hfound))
      (query_logs (Ledger.consume_logs_none type now hfound)) ?_
    exact .bind_error (.fail _ _) (.fail _ _) _
  | some token =>
    refine .bind_ok (query_carries_ok (Ledger.consume_carries_some type now hfound))
      (query_logs (Ledger.consume_logs_some type now hfound)) ?_
    refine .silent_bind (.ofOption_some token _) (.pure _ _) ?_
    obtain ⟨found, after, hupdated⟩ :=
      hupdate token.email (view.tables.dropTokens (·.value = token.value))
    refine .silent_bind (query_carries_ok hupdated)
      (silent_query (hsilent token.email) _) ?_
    exact .ofOption _ _ _

theorem verify_logs (value : String) (view : View) :
    Logs Session.log Session.Shows (verify around value) view
      (redeemingLog value .signup around.now view.tables) :=
  redeem_logs (fun email tables => ⟨_, _, Query.updateUser_carries _ email
    (fun user => user.stamp_row around.now) tables⟩)
    (fun email => Query.silent_updateUser _ email _) _ view

theorem replacePasswordWithToken_logs (now : Instant) (value : String) (hashed : HashedPassword)
    (view : View) :
    Logs Session.log Session.Shows (replacePasswordWithToken now value hashed) view
      (redeemingLog value .passwordReset now view.tables) :=
  redeem_logs (fun email tables => ⟨_, _, Query.updateUser_carries _ email
    (fun user => (rfl : _ = (user.withPassword hashed).row)) tables⟩)
    (fun email => Query.silent_updateUser _ email _) _ view

theorem replacePassword_logs (email : String) (hashed : HashedPassword) (view : View) :
    Logs Session.log Session.Shows (replacePassword email hashed) view [] := by
  have hupdate : Carries Desk.Holds (Query.updateUserPassword email hashed) view.tables _ _ :=
    Query.updateUser_carries _ email (fun user => (rfl : _ = (user.withPassword hashed).row))
      view.tables
  refine .silent_bind (query_carries_ok hupdate)
    (silent_query (Query.silent_updateUser _ email _) _) ?_
  cases Tables.userWithEmail? _ email with
  | none => exact .bind_error (.fail _ _) (.fail _ _) _
  | some user =>
    refine .silent_bind (.ofOption_some user _) (.pure _ _) ?_
    refine .silent_bind (query_carries_ok (Query.deleteTokens_carries _
      (fun token => token.isFor_row email .passwordReset) _))
      (silent_query (Query.silent_deleteTokens _ _) _) ?_
    exact .pure _ _

theorem purge_logs (now : Instant) (view : View) :
    Logs Session.log Session.Shows (query (Query.purgeExpiredTokens now)) view [] :=
  silent_query (Query.silent_deleteTokens _ _) view

end Service

/-! ### Calls -/

def Log.given {α : Type} (checks : Except IdentityError α) (next : α → List Log.Entry) :
    List Log.Entry :=
  match checks with
  | .error _ => []
  | .ok a => next a

@[simp] theorem Log.given_error {α : Type} (e : IdentityError) (next : α → List Log.Entry) :
    Log.given (.error e) next = [] := rfl

@[simp] theorem Log.given_ok {α : Type} (a : α) (next : α → List Log.Entry) :
    Log.given (.ok a) next = next a := rfl

theorem Log.given_nil {α : Type} (checks : Except IdentityError α) :
    Log.given checks (fun _ => []) = [] := by
  cases checks <;> rfl

namespace Procedure

variable {α β γ : Type} {view : View}

/-- A check that leaves the view as it is, and writes nothing. -/
theorem check_logs {p : Procedure α} {check : Except IdentityError α} {next : α → Procedure β}
    {entries : α → List Log.Entry} (hp : Carries Session.Shows p view check view)
    (hlog : Logs Session.log Session.Shows p view [])
    (hnext : ∀ a, Logs Session.log Session.Shows (next a) view (entries a)) :
    Logs Session.log Session.Shows (p >>= next) view (Log.given check entries) := by
  cases check with
  | error e => exact .bind_error hp hlog next
  | ok a => exact .silent_bind hp hlog (hnext a)

theorem check_bind_logs {p : Procedure α} {check : Except IdentityError α}
    {more : α → Except IdentityError γ} {next : α → Procedure β} {entries : γ → List Log.Entry}
    (hp : Carries Session.Shows p view check view)
    (hlog : Logs Session.log Session.Shows p view [])
    (hnext : ∀ a, Logs Session.log Session.Shows (next a) view (Log.given (more a) entries)) :
    Logs Session.log Session.Shows (p >>= next) view (Log.given (check >>= more) entries) := by
  cases check with
  | error e => exact .bind_error hp hlog next
  | ok a => exact .silent_bind hp hlog (hnext a)

/-- A unit of work, and what follows if it succeeds. -/
theorem unit_logs {p : Procedure α} {work : Work α} {next : α → Procedure β}
    {entries : List Log.Entry} {rest : α → List Log.Entry} (hp : p.Does view.tables work)
    (hlog : Logs Session.log Session.Shows p view entries)
    (hnext : ∀ a (after : View), Logs Session.log Session.Shows (next a) after (rest a)) :
    Logs Session.log Session.Shows (asUnit p >>= next) view
      (entries ++ Log.given work.answer rest) := by
  have hunit := hp.asUnit_carries
  cases hanswer : work.answer with
  | error e =>
    rw [hanswer] at hunit
    rw [Log.given_error, List.append_nil]
    exact .bind_error hunit (asUnit_logs hlog) next
  | ok a =>
    rw [hanswer] at hunit
    exact .bind_ok hunit (asUnit_logs hlog) (hnext a _)

end Procedure

namespace Service

open Procedure

variable (service : Service) (around : Surroundings) {view : View}

def said (level : Log.Level) (message : String) (fields : List (String × Log.Value) := []) :
    Log.Entry :=
  { level, source := .service, message, fields }

theorem say_logs (level : Log.Level) (message : String) (fields : List (String × Log.Value))
    (view : View) :
    Logs Session.log Session.Shows (say level message fields) view [said level message fields] :=
  report_logs _ view

def signupLog (email name password : String) (tables : Tables) : List Log.Entry :=
  Log.given (service.newUser around email name password) fun user =>
    service.registeringLog around user tables ++
      Log.given (service.registering around user tables).answer fun _ =>
        [said .info "User signed up" [("user_id", .displayed user.id)]]

def signinLog (email password : String) (tables : Tables) : List Log.Entry :=
  Log.given ((normalizeEmail email).mapError fun _ => .invalidCredentials) fun email =>
    match tables.userWithEmail? email with
    | none => []
    | some user =>
      if user.isVerified then
        match service.hasher.compare user.password.hash user.password.salt (utf8 password) with
        | .ok () => [said .info "User signed in" [("user_id", .displayed user.id)]]
        | .error .passwordNotMatch => [said .debug "Password mismatch"]
        | .error .invalidPassword => [said .debug "Password mismatch"]
        | .error _ => []
      else []

def resendSignupTokenLog (email : String) (tables : Tables) : List Log.Entry :=
  Log.given ((normalizeEmail email).mapError .validation) fun email =>
    service.reissuingLog around email tables ++
      Log.given (service.reissuing around email tables).answer fun _ =>
        [said .debug "Signup token resent"]

def validateSignupTokenLog (value : String) (tables : Tables) : List Log.Entry :=
  if value = "" then []
  else
    redeemingLog value .signup around.now tables ++
      Log.given (redeeming value .signup around.now (·.stamp around.now) .invalidToken
        tables).answer fun user =>
        [said .info "User verified" [("user_id", .displayed user.id)]]

def resetPasswordLog (email : String) (tables : Tables) : List Log.Entry :=
  Log.given ((normalizeEmail email).mapError .validation) fun email =>
    service.issuingResetLog around email tables ++
      Log.given (service.issuingReset around email tables).answer fun _ =>
        [said .debug "Password reset requested"]

def changePasswordWithTokenLog (value password : String) (tables : Tables) : List Log.Entry :=
  Log.given (service.newPasswordWithToken around value password tables) fun hashed =>
    redeemingLog value .passwordReset around.later tables ++
      Log.given (redeeming value .passwordReset around.later (·.withPassword hashed)
        .emailNotFound tables).answer fun user =>
        [said .info "Password changed with reset token" [("user_id", .displayed user.id)]]

def changePasswordLog (email password : String) (tables : Tables) : List Log.Entry :=
  Log.given (service.newPassword around email password) fun checked =>
    Log.given (replacing checked.1 checked.2 tables).answer fun user =>
      [said .info "Password changed" [("user_id", .displayed user.id)]]

def purgeExpiredTokensLog (now : Instant) (tables : Tables) : List Log.Entry :=
  Log.given (purging now tables).answer fun purged =>
    [said .info "Purged expired tokens" [("purged", .integer purged)]]

/-- All that a signup writes stands inside the span of its email. -/
theorem signup_logs (email name password : String) (view : View) :
    Logs Session.log Session.Shows (service.signup around email name password) view
      ((service.signupLog around email name password view.tables).map
        (·.inside (emailSpan "signup" email))) := by
  refine within_logs _ ?_
  refine check_bind_logs (.ofExcept _ view) (.ofExcept _ view) fun email => ?_
  refine check_bind_logs (.ofExcept _ view) (.ofExcept _ view) fun name => ?_
  refine check_bind_logs (.ofExcept _ view) (.ofExcept _ view) fun _ => ?_
  refine check_bind_logs (.ofExcept _ view) (.ofExcept _ view) fun hashed => ?_
  refine unit_logs (service.does_register around _ view.tables)
    (service.register_logs around _ view) fun _ after => ?_
  exact .silent_bind (onCache_carries _ after) (onCache_logs _ after) (say_logs _ _ _ _)

theorem cacheRead_logs (user : User) (view : View) :
    Logs Session.log Session.Shows (cacheRead user) view [] :=
  fun s _ => s.log.extend_nil.symm

theorem signin_logs (email password : String) (view : View) :
    Logs Session.log Session.Shows (service.signin email password) view
      ((service.signinLog email password view.tables).map
        (·.inside (emailSpan "signin" email))) := by
  refine within_logs _ (check_logs (.ofExcept _ view) (.ofExcept _ view) fun email => ?_)
  refine .silent_bind (query_carries_ok (Query.onConnection_carries
    (Query.userByEmail_carries email view.tables)))
    (silent_query (Query.silent_onConnection (Query.silent_userByEmail _)) _) ?_
  cases view.tables.userWithEmail? email with
  | none => exact .bind_error (.ofOption_none _ view) (.fail _ _) _
  | some user =>
    refine .silent_bind (.ofOption_some user view) (.pure _ _) ?_
    dsimp only
    by_cases hverified : user.isVerified
    · simp only [hverified, if_true]
      cases service.hasher.compare user.password.hash user.password.salt (utf8 password) with
      | ok _ =>
        exact .bind_ok (report_carries _ view) (say_logs _ _ _ _) (cacheRead_logs user view)
      | error e =>
        have hmismatch : Logs Session.log Session.Shows signin.mismatch view
            [said .debug "Password mismatch"] :=
          .bind_ok (report_carries _ view) (say_logs _ _ _ _) (.fail _ view)
        cases e with
        | passwordNotMatch => exact hmismatch
        | invalidPassword => exact hmismatch
        | invalidHash => exact .fail _ view
        | invalidSalt => exact .fail _ view
        | params message => exact .fail _ view
    · simp only [hverified]
      exact .bind_error (.fail _ view) (.fail _ view) _

theorem resendSignupToken_logs (email : String) (view : View) :
    Logs Session.log Session.Shows (service.resendSignupToken around email) view
      ((service.resendSignupTokenLog around email view.tables).map
        (·.inside (emailSpan "resend_signup_token" email))) := by
  refine within_logs _ (check_logs (.ofExcept _ view) (.ofExcept _ view) fun email => ?_)
  exact unit_logs (service.does_reissueSignup around email view.tables)
    (service.reissueSignup_logs around email view) fun _ after => say_logs _ _ _ after

theorem validateSignupToken_logs (value : String) (view : View) :
    Logs Session.log Session.Shows (validateSignupToken around value) view
      ((validateSignupTokenLog around value view.tables).map
        (·.inside { name := "validate_signup_token" })) := by
  refine within_logs _ ?_
  unfold validateSignupTokenLog
  by_cases hvalue : value = ""
  · simp only [hvalue, if_true]
    exact .bind_error (.fail _ view) (.fail _ view) _
  · simp only [hvalue, if_false]
    refine unit_logs (does_verify around value view.tables) (verify_logs around value view)
      fun user after => ?_
    refine .silent_bind (onCache_carries _ after) (onCache_logs _ after) ?_
    exact .bind_ok (report_carries _ _) (say_logs _ _ _ _) (.pure _ _)

theorem resetPassword_logs (email : String) (view : View) :
    Logs Session.log Session.Shows (service.resetPassword around email) view
      ((service.resetPasswordLog around email view.tables).map
        (·.inside (emailSpan "reset_password" email))) := by
  refine within_logs _ (check_logs (.ofExcept _ view) (.ofExcept _ view) fun email => ?_)
  exact unit_logs (service.does_issueReset around email view.tables)
    (service.issueReset_logs around email view) fun _ after => say_logs _ _ _ after

theorem resetPasswordToken_logs (value : String) (now : Instant) (view : View) :
    Logs Session.log Session.Shows (resetPasswordToken now value) view [] := by
  refine silent_within _ ?_
  by_cases hvalue : value = ""
  · simp only [hvalue, if_true]
    exact .bind_error (.fail _ view) (.fail _ view) _
  · simp only [hvalue, if_false]
    refine .silent_bind (query_carries_ok (Query.connect_carries view.tables))
      (silent_query Query.silent_connect _) ?_
    refine .silent_bind (query_carries_ok (Ledger.peek_carries .passwordReset now value _))
      (silent_query (Query.silent_peek _ _ _) _) ?_
    cases view.tables.liveToken? value .passwordReset now with
    | none => exact .bind_error (.ofOption_none _ view) (.fail _ _) _
    | some token =>
      refine .silent_bind (.ofOption_some token view) (.pure _ _) ?_
      refine .silent_bind (query_carries_ok (Query.userByEmail_carries token.email view.tables))
        (silent_query (Query.silent_userByEmail _) _) ?_
      cases Tables.userWithEmail? _ token.email with
      | none => exact .bind_error (.ofOption_none _ view) (.fail _ _) _
      | some user => exact .silent_bind (.ofOption_some user view) (.pure _ _) (.pure _ _)

theorem changePasswordWithToken_logs (value password : String) (view : View) :
    Logs Session.log Session.Shows (service.changePasswordWithToken around value password) view
      ((service.changePasswordWithTokenLog around value password view.tables).map
        (·.inside { name := "change_password_with_token" })) := by
  refine within_logs _ ?_
  refine check_bind_logs (.ofExcept _ view) (.ofExcept _ view) fun _ => ?_
  refine check_bind_logs (resetPasswordToken_ends value around.now view)
    (resetPasswordToken_logs value around.now view) fun _ => ?_
  refine check_logs (.ofExcept _ view) (.ofExcept _ view) fun hashed => ?_
  refine unit_logs (does_replacePasswordWithToken around.later value hashed view.tables)
    (replacePasswordWithToken_logs around.later value hashed view) fun user after => ?_
  refine .silent_bind (onCache_carries _ after) (onCache_logs _ after) ?_
  exact .bind_ok (report_carries _ _) (say_logs _ _ _ _) (.pure _ _)

theorem changePassword_logs (email password : String) (view : View) :
    Logs Session.log Session.Shows (service.changePassword around email password) view
      ((service.changePasswordLog around email password view.tables).map
        (·.inside (emailSpan "change_password" email))) := by
  refine within_logs _ ?_
  refine check_bind_logs (.ofExcept _ view) (.ofExcept _ view) fun email => ?_
  refine check_bind_logs (.ofExcept _ view) (.ofExcept _ view) fun _ => ?_
  refine check_bind_logs (.ofExcept _ view) (.ofExcept _ view) fun hashed => ?_
  refine unit_logs (does_replacePassword email hashed view.tables)
    (replacePassword_logs email hashed view) fun user after => ?_
  refine .silent_bind (onCache_carries _ after) (onCache_logs _ after) ?_
  exact say_logs _ _ _ _

theorem lookUp_logs (key : IdentityKey) {read : Query (Option User)} {found : Option User}
    {view : View} (hread : Carries Desk.Holds read view.tables (.ok found) view.tables)
    (hsilent : read.Silent) : Logs Session.log Session.Shows (lookUp key read) view [] := by
  intro s hs
  have hquery := query_carries_ok (Query.onConnection_carries hread)
  have hlog := silent_query (Query.silent_onConnection hsilent) view
  unfold lookUp
  rw [Step.bind_apply, Step.get_apply]
  dsimp only
  cases s.cache.load key with
  | some user => exact s.log.extend_nil.symm
  | none =>
    cases found with
    | none =>
      exact Logs.silent_bind hquery hlog
        (.bind_error (.ofOption_none _ view) (.fail _ view) _) s hs
    | some user =>
      exact Logs.silent_bind hquery hlog
        (.silent_bind (.ofOption_some user view) (.pure _ view) (cacheRead_logs user view)) s hs

theorem getUserByEmail_logs (email : String) (view : View) :
    Logs Session.log Session.Shows (getUserByEmail email) view [] := by
  rw [← Log.given_nil ((normalizeEmail email).mapError .validation)]
  exact check_logs (.ofExcept _ view) (.ofExcept _ view) fun email =>
    lookUp_logs (.email email) (Query.userByEmail_carries email view.tables)
      (Query.silent_userByEmail email)

theorem purgeExpiredTokens_logs (now : Instant) (view : View) :
    Logs Session.log Session.Shows (purgeExpiredTokens now) view
      ((purgeExpiredTokensLog now view.tables).map
        (·.inside { name := "purge_expired_tokens" })) := by
  refine within_logs _ ?_
  rw [← List.nil_append (purgeExpiredTokensLog now view.tables)]
  refine unit_logs (does_purge now view.tables) (purge_logs now view) fun purged after => ?_
  exact .bind_ok (report_carries _ after) (say_logs _ _ _ _) (.pure _ _)

end Service

/-- What a call reports, with the spans that it opens. -/
def Call.log (service : Service) (around : Surroundings) (tables : Tables) :
    Call → List Log.Entry
  | signup email name password => (service.signupLog around email name password tables).map
      (·.inside (Service.emailSpan "signup" email))
  | signin email password => (service.signinLog email password tables).map
      (·.inside (Service.emailSpan "signin" email))
  | resendSignupToken email => (service.resendSignupTokenLog around email tables).map
      (·.inside (Service.emailSpan "resend_signup_token" email))
  | validateSignupToken token => (Service.validateSignupTokenLog around token tables).map
      (·.inside { name := "validate_signup_token" })
  | resetPassword email => (service.resetPasswordLog around email tables).map
      (·.inside (Service.emailSpan "reset_password" email))
  | changePasswordWithToken token password =>
    (service.changePasswordWithTokenLog around token password tables).map
      (·.inside { name := "change_password_with_token" })
  | changePassword email password => (service.changePasswordLog around email password tables).map
      (·.inside (Service.emailSpan "change_password" email))
  | purgeExpiredTokens => (Service.purgeExpiredTokensLog around.now tables).map
      (·.inside { name := "purge_expired_tokens" })
  | resetPasswordToken _ | getUser _ | getUserByEmail _ | remember _ => []

theorem Procedure.answering_logs {α : Type} {p : Procedure α} {f : α → Answer} {view : View}
    {ending : Ending α} {entries : List Log.Entry} (hends : p.Ends view ending)
    (hlog : Logs Session.log Session.Shows p view entries) :
    Logs Session.log Session.Shows (p.answering f) view entries := by
  obtain ⟨outcome, after⟩ := ending
  cases outcome with
  | error e => exact .bind_error hends hlog _
  | ok a =>
    rw [← List.append_nil entries]
    exact .bind_ok hends hlog (.pure _ _)

/-- On every session that shows a view of well-formed tables, a call reports as described. -/
theorem Call.perform_logs (service : Service) (around : Surroundings) (call : Call) (view : View) :
    Logs Session.log Session.Shows (call.perform service around) view
      (call.log service around view.tables) := by
  cases call with
  | signup email name password =>
    exact Procedure.answering_logs (service.signup_ends around _ _ _ view)
      (service.signup_logs around _ _ _ view)
  | signin email password =>
    exact Procedure.answering_logs (service.signin_ends _ _ view) (service.signin_logs _ _ view)
  | resendSignupToken email =>
    exact Procedure.answering_logs (service.resendSignupToken_ends around _ view)
      (service.resendSignupToken_logs around _ view)
  | validateSignupToken token =>
    exact Procedure.answering_logs (Service.validateSignupToken_ends around _ view)
      (Service.validateSignupToken_logs around _ view)
  | resetPassword email =>
    exact Procedure.answering_logs (service.resetPassword_ends around _ view)
      (service.resetPassword_logs around _ view)
  | resetPasswordToken token =>
    exact Procedure.answering_logs (Service.resetPasswordToken_ends _ _ view)
      (Service.resetPasswordToken_logs _ _ view)
  | changePasswordWithToken token password =>
    exact Procedure.answering_logs (service.changePasswordWithToken_ends around _ _ view)
      (service.changePasswordWithToken_logs around _ _ view)
  | changePassword email password =>
    exact Procedure.answering_logs (service.changePassword_ends around _ _ view)
      (service.changePassword_logs around _ _ view)
  | getUser id =>
    exact Procedure.answering_logs
      (Service.lookUp_ends _ (Query.userById_carries id view.tables))
      (Service.lookUp_logs _ (Query.userById_carries id view.tables) (Query.silent_userById id))
  | getUserByEmail email =>
    exact Procedure.answering_logs (Service.getUserByEmail_ends email view)
      (Service.getUserByEmail_logs email view)
  | remember user =>
    exact .silent_bind (Procedure.onCache_carries _ view) (Procedure.onCache_logs _ view)
      (.pure _ _)
  | purgeExpiredTokens =>
    exact Procedure.answering_logs (Service.purgeExpiredTokens_ends _ view)
      (Service.purgeExpiredTokens_logs _ view)

end IdentityLifecycle
