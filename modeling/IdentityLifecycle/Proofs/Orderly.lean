import IdentityLifecycle.Proofs.Run

/-!
# What a unit of work leaves to its store

How a unit of work is begun, committed or rolled back is a matter of the store. No statement fails
as that may fail, nor does any other part of an operation; none of them makes a row refer to a
token; and what the engine will say when the unit is settled makes no difference to them.
-/

namespace IdentityLifecycle

def Store.settledBy (store : Store) (settling : Settling) : Store := { store with settling }

def Desk.settledBy (desk : Desk) (settling : Settling) : Desk :=
  { desk with store := desk.store.settledBy settling }

/-- The session, but for what the engine reports where a unit of work is to be settled. -/
def Session.settledBy (s : Session) (settling : Settling) : Session :=
  { s with desk := s.desk.settledBy settling }

namespace Step

variable {σ ε α β γ : Type} {P : ε → Prop} {kept : σ → γ} {under : σ → Settling → σ}

/-- Whatever the step fails with has a property, it leaves something as it is, and it goes alike
however units of work are settled. -/
structure Orderly (P : ε → Prop) (kept : σ → γ) (under : σ → Settling → σ) (step : Step σ ε α) :
    Prop where
  fails : ∀ s e, (step s).1 = .error e → P e
  keeps : ∀ s, kept (step s).2 = kept s
  settled : ∀ s settling, step (under s settling) = ((step s).1, under (step s).2 settling)

theorem Orderly.ofExcept {outcome : Except ε α} (houtcome : ∀ e, outcome = .error e → P e) :
    Orderly P kept under (ofExcept outcome) where
  fails _ := houtcome
  keeps _ := rfl
  settled _ _ := rfl

theorem Orderly.pure (a : α) : Orderly P kept under (pure a : Step σ ε α) :=
  .ofExcept fun _ herror => nomatch herror

theorem Orderly.fail {e : ε} (he : P e) : Orderly P kept under (fail e : Step σ ε α) where
  fails := by
    rintro s _ ⟨⟩
    exact he
  keeps _ := rfl
  settled _ _ := rfl

theorem Orderly.update {f : σ → σ} (hkeeps : ∀ s, kept (f s) = kept s)
    (hsettled : ∀ s settling, f (under s settling) = under (f s) settling) :
    Orderly P kept under (update f) where
  fails := by
    rintro s _ ⟨⟩
  keeps := hkeeps
  settled s settling := congrArg (Except.ok (), ·) (hsettled s settling)

/-- Steps in a row are orderly if each of them is. -/
theorem Orderly.bind {step : Step σ ε α} {next : α → Step σ ε β}
    (hstep : Orderly P kept under step) (hnext : ∀ a, Orderly P kept under (next a)) :
    Orderly P kept under (step >>= next) where
  fails s e := by
    have hfirst := hstep.fails s
    rw [bind_apply]
    generalize step s = result at hfirst ⊢
    obtain ⟨cause | a, t⟩ := result
    · rintro ⟨⟩
      exact hfirst e rfl
    · exact (hnext a).fails t e
  keeps s := by
    have hfirst := hstep.keeps s
    rw [bind_apply]
    generalize step s = result at hfirst ⊢
    obtain ⟨cause | a, t⟩ := result
    · exact hfirst
    · exact ((hnext a).keeps t).trans hfirst
  settled s settling := by
    rw [bind_apply, bind_apply, hstep.settled]
    obtain ⟨cause | a, t⟩ := step s
    · rfl
    · exact (hnext a).settled t settling

theorem Orderly.recover {step : Step σ ε α} {handle : ε → Except ε α}
    (hstep : Orderly P kept under step) (hhandle : ∀ e e', P e → handle e = .error e' → P e') :
    Orderly P kept under (step.recover handle) where
  fails s e := by
    have hfirst := hstep.fails s
    unfold Step.recover
    generalize step s = result at hfirst ⊢
    obtain ⟨cause | a, t⟩ := result
    · exact hhandle cause e (hfirst cause rfl)
    · rintro ⟨⟩
  keeps s := by
    have hfirst := hstep.keeps s
    unfold Step.recover
    generalize step s = result at hfirst ⊢
    obtain ⟨cause | a, t⟩ := result
    · exact hfirst
    · exact hfirst
  settled s settling := by
    unfold Step.recover
    rw [hstep.settled]
    obtain ⟨cause | a, t⟩ := step s
    · rfl
    · rfl

end Step

open Step (Orderly)

/-! ### Statements -/

namespace Query

variable {α : Type}

abbrev Orderly (q : Query α) : Prop :=
  Step.Orderly (·.isBookkeeping = false) (·.store.database.referring) Desk.settledBy q

theorem orderly_connect : Orderly connect := by
  refine ⟨fun desk e herror => ?_, fun desk => ?_, fun desk settling => ?_⟩
  · unfold connect at herror
    split at herror <;> cases herror
    rfl
  · unfold connect
    split <;> rfl
  · cases hclosed : desk.store.closed <;>
      simp [connect, Desk.settledBy, Store.settledBy, hclosed]

theorem orderly_usersFor (context : String) : Orderly (usersFor context) := by
  refine ⟨fun desk e herror => ?_, fun desk => ?_, fun desk settling => ?_⟩
  · unfold usersFor at herror
    split at herror <;> cases herror
    rfl
  · unfold usersFor
    split <;> rfl
  · cases husers : desk.store.database.users <;>
      simp [usersFor, Desk.settledBy, Store.settledBy, husers]

theorem orderly_tokensFor (context : String) : Orderly (tokensFor context) := by
  refine ⟨fun desk e herror => ?_, fun desk => ?_, fun desk settling => ?_⟩
  · unfold tokensFor at herror
    split at herror <;> cases herror
    rfl
  · unfold tokensFor
    split <;> rfl
  · cases htokens : desk.store.database.tokens <;>
      simp [tokensFor, Desk.settledBy, Store.settledBy, htokens]

theorem orderly_writing (context : String) : Orderly (writing context) := by
  refine ⟨fun desk e herror => ?_, fun desk => ?_, fun desk settling => ?_⟩
  · unfold writing at herror
    split at herror <;> cases herror
    rfl
  · unfold writing
    split <;> rfl
  · have hbarrier : (desk.settledBy settling).store.writeBarrier = desk.store.writeBarrier := rfl
    unfold writing
    rw [hbarrier]
    cases desk.store.writeBarrier <;> rfl

theorem orderly_insert (context : String) {add : Database → Except DatabaseError Database}
    (hadd : ∀ db db', add db = .ok db' → db'.referring = db.referring) :
    Orderly (insert context add) := by
  refine ⟨fun desk e herror => ?_, fun desk => ?_, fun desk settling => ?_⟩
  · unfold insert at herror
    split at herror
    · cases herror
    · cases herror
      split <;> rfl
  · unfold insert
    split
    · next hok => exact hadd _ _ hok
    · rfl
  · have hdatabase : (desk.settledBy settling).store.database = desk.store.database := rfl
    unfold insert
    rw [hdatabase]
    cases add desk.store.database <;> rfl

theorem orderly_setUsers (rows : List UserRow) : Orderly (setUsers rows) :=
  .update (fun _ => rfl) fun _ _ => rfl

theorem orderly_setTokens (rows : List TokenRow) : Orderly (setTokens rows) :=
  .update (fun _ => rfl) fun _ _ => rfl

theorem orderly_report (entry : Log.Entry) : Orderly (report entry) :=
  .update (fun _ => rfl) fun _ _ => rfl

theorem orderly_decodeUser (row : Option UserRow) : Orderly (decodeUser row) := by
  cases row with
  | none => exact .pure none
  | some row =>
    refine .ofExcept fun e herror => ?_
    cases hdecode : row.decode with
    | error cause =>
      rw [hdecode] at herror
      cases herror
      rfl
    | ok user =>
      rw [hdecode] at herror
      cases herror

/-- A row that cannot be read is at fault in a column, or has an unknown type. -/
theorem isBookkeeping_of_decode {row : TokenRow} {e : StoreError}
    (herror : row.decode = .error e) : e.isBookkeeping = false := by
  simp only [TokenRow.decode, bind_eq_error, mapError_eq_error] at herror
  obtain ⟨cause, -, rfl⟩ | ⟨value, -, ⟨cause, -, rfl⟩ | ⟨email, -, ⟨cause, -, rfl⟩ |
    ⟨expiresAt, -, ⟨detail, -, rfl⟩ | ⟨type, -, ⟨⟩⟩⟩⟩⟩ := herror <;> rfl

theorem orderly_decodeToken (row : Option TokenRow) : Orderly (decodeToken row) := by
  cases row with
  | none => exact .pure none
  | some row =>
    refine .ofExcept fun e herror => ?_
    cases hdecode : row.decode with
    | error cause =>
      rw [hdecode] at herror
      cases herror
      exact isBookkeeping_of_decode hdecode
    | ok token =>
      rw [hdecode] at herror
      cases herror

theorem orderly_onConnection {q : Query α} (hq : q.Orderly) : q.onConnection.Orderly :=
  orderly_connect.bind fun _ => hq

theorem orderly_userByEmail (email : String) : Orderly (userByEmail email) :=
  (orderly_usersFor _).bind fun _ => orderly_decodeUser _

theorem orderly_userById (id : String) : Orderly (userById id) :=
  (orderly_usersFor _).bind fun _ => orderly_decodeUser _

theorem orderly_createUser (user : User) : Orderly (createUser user) := by
  refine (orderly_usersFor _).bind fun _ => (orderly_writing _).bind fun _ =>
    orderly_insert _ fun db db' hok => ?_
  unfold Database.insertUser at hok
  split at hok
  · cases hok
  · split at hok <;> cases hok
    rfl

theorem orderly_updateUser (context email : String) (change : UserRow → UserRow) :
    Orderly (updateUser context email change) :=
  (orderly_usersFor _).bind fun _ => (orderly_writing _).bind fun _ =>
    (orderly_setUsers _).bind fun _ => orderly_decodeUser _

theorem orderly_createToken (token : Token) : Orderly (createToken token) := by
  refine (orderly_tokensFor _).bind fun _ => (orderly_writing _).bind fun _ =>
    orderly_insert _ fun db db' hok => ?_
  unfold Database.insertToken at hok
  split at hok
  · cases hok
  · split at hok <;> cases hok
    rfl

theorem orderly_deleteTokens (context : String) (drop : TokenRow → Bool) :
    Orderly (deleteTokens context drop) :=
  (orderly_tokensFor _).bind fun _ => (orderly_writing _).bind fun _ =>
    (orderly_setTokens _).bind fun _ => .pure _

theorem orderly_issue (ledger : Ledger) (email : String) (type : TokenType) (now : Instant)
    (random : ByteSource) : Orderly (ledger.issue email type now random) :=
  (orderly_deleteTokens _ _).bind fun _ => (orderly_createToken _).bind fun _ =>
    (orderly_report _).bind fun _ => .pure _

theorem orderly_peek (value : String) (type : TokenType) (now : Instant) :
    Orderly (Ledger.peek value type now) :=
  ((orderly_tokensFor _).bind fun _ => orderly_decodeToken _).bind fun _ => .pure _

theorem orderly_consume (value : String) (type : TokenType) (now : Instant) :
    Orderly (Ledger.consume value type now) := by
  refine (orderly_peek value type now).bind fun found => ?_
  cases found with
  | none => exact .pure none
  | some token =>
    refine .bind ((orderly_deleteTokens _ _).bind fun _ => .pure _) fun _ => ?_
    exact (orderly_report _).bind fun _ => .pure _

end Query

/-! ### Parts of operations -/

namespace Procedure

variable {α : Type}

abbrev Orderly (p : Procedure α) : Prop :=
  Step.Orderly (·.isUncommitted = false) (·.desk.store.database.referring) Session.settledBy p

theorem orderly_query {q : Query α} (hq : q.Orderly) : Orderly (query q) where
  fails s e := by
    have hfails := hq.fails s.desk
    unfold query
    generalize q s.desk = result at hfails ⊢
    obtain ⟨cause | a, desk⟩ := result
    · rintro ⟨⟩
      have hcause := hfails cause rfl
      cases cause <;> first | rfl | cases hcause
    · rintro ⟨⟩
  keeps s := by
    have hkeeps := hq.keeps s.desk
    unfold query
    generalize q s.desk = result at hkeeps ⊢
    obtain ⟨cause | a, desk⟩ := result
    · exact hkeeps
    · exact hkeeps
  settled s settling := by
    have hdesk : (s.settledBy settling).desk = s.desk.settledBy settling := rfl
    unfold query
    rw [hdesk, hq.settled]
    obtain ⟨cause | a, desk⟩ := q s.desk
    · rfl
    · rfl

theorem orderly_validate (outcome : Except ValidationError α) : Orderly (validate outcome) := by
  refine .ofExcept fun e herror => ?_
  obtain ⟨cause, -, rfl⟩ := mapError_eq_error.mp herror
  rfl

theorem orderly_hashing (outcome : Except HashError α) : Orderly (hashing outcome) := by
  refine .ofExcept fun e herror => ?_
  obtain ⟨cause, -, rfl⟩ := mapError_eq_error.mp herror
  rfl

theorem orderly_onCache (change : Cache → Cache) : Orderly (onCache change) :=
  .update (fun _ => rfl) fun _ _ => rfl

theorem orderly_report (entry : Log.Entry) : Orderly (report entry) :=
  orderly_query (Query.orderly_report entry)

theorem orderly_cacheRead (user : User) : Orderly (Service.cacheRead user) where
  fails := by
    rintro s _ ⟨⟩
  keeps _ := rfl
  settled _ _ := rfl

theorem orderly_send (mailer : Mailer) (mail : Mail) : Orderly (send mailer mail) where
  fails s e := by
    unfold send
    cases mailer mail <;> rintro ⟨⟩
    rfl
  keeps s := by
    unfold send
    cases mailer mail <;> rfl
  settled s settling := by
    unfold send
    cases mailer mail <;> rfl

theorem orderly_within {p : Procedure α} (hp : Orderly p) (span : Log.Span) :
    Orderly (within span p) where
  fails s := hp.fails (s.inSpan span)
  keeps s := hp.keeps (s.inSpan span)
  settled s settling :=
    within_of_apply (s := s.settledBy settling) (hp.settled (s.inSpan span) settling)

end Procedure

end IdentityLifecycle
