import IdentityLifecycle.Proofs.Holders
import IdentityLifecycle.Proofs.Statements

/-!
# Statements on rows, as values

What a statement makes of a database is a function of the statement alone. On any database it either
makes that change or leaves everything as it is, and how it ends tells which. On tables of users and
tokens the ending is a function too.
-/

namespace IdentityLifecycle

inductive RowStatement where
  | userByEmail (email : String)
  | userById (id : String)
  | createUser (user : User)
  | updateUserPassword (email : String) (password : HashedPassword)
  | setUserVerified (email : String) (now : Instant)
  | createToken (token : Token)
  | liveToken (value : String) (type : TokenType) (now : Instant)
  | deleteTokensFor (email : String) (type : TokenType)
  | deleteToken (value : String)
  | purgeExpiredTokens (now : Instant)
  | countUsers
  | countTokens (email : String) (type : TokenType)
  deriving DecidableEq, Repr

inductive Reply where
  | done
  | user (found : Option User)
  | token (found : Option Token)
  | deleted (any : Bool)
  | count (n : Nat)
  deriving DecidableEq, Repr

def Query.replying {α : Type} (f : α → Reply) (query : Query α) : Query Reply := do
  return f (← query)

def Query.on {α : Type} (query : Query α) (store : Store) : Except StoreError α × Store :=
  ((query { store }).1, (query { store }).2.store)

def DatabaseError.isMismatch : DatabaseError → Bool
  | mismatchedColumn _ _ _ => true
  | _ => false

def StoreError.isUnread : StoreError → Bool
  | query _ cause => cause.isMismatch
  | _ => false

/-- Whether a statement that ended so has made its change. One that is `late` answers a row that it
has changed, and has made the change even if that row cannot be read. -/
def Query.made {α : Type} (late : Bool) : Except StoreError α → Bool
  | .ok _ => true
  | .error e => late && e.isUnread

def Database.dropTokens (db : Database) (drop : TokenRow → Bool) : Database :=
  { db with tokens := db.tokens.map fun rows => rows.filter fun row => !drop row }

namespace RowStatement

def run : RowStatement → Query Reply
  | userByEmail email => (Query.userByEmail email).replying .user
  | userById id => (Query.userById id).replying .user
  | createUser user => (Query.createUser user).replying fun _ => .done
  | updateUserPassword email password =>
    (Query.updateUserPassword email password).replying .user
  | setUserVerified email now => (Query.setUserVerified email now).replying .user
  | createToken token => (Query.createToken token).replying fun _ => .done
  | liveToken value type now => (Query.liveToken value type now).replying .token
  | deleteTokensFor email type => (Query.deleteTokensFor email type).replying .count
  | deleteToken value => (Query.deleteToken value).replying .deleted
  | purgeExpiredTokens now => (Query.purgeExpiredTokens now).replying .count
  | countUsers => Query.countUsers.replying .count
  | countTokens email type => (Query.countTokens email type).replying .count

/-- What the statement makes of a database, where it makes its change. -/
def effect : RowStatement → Database → Database
  | createUser user, db => { db with users := db.users.map (· ++ [user.row]) }
  | updateUserPassword email password, db =>
    db.changeOwner email fun row => { row with password }
  | setUserVerified email now, db => db.changeOwner email (·.stamp now)
  | createToken token, db => { db with tokens := db.tokens.map (· ++ [token.row]) }
  | deleteTokensFor email type, db => db.dropTokens (·.isFor email type)
  | deleteToken value, db => db.dropTokens (·.hasValue value)
  | purgeExpiredTokens now, db => db.dropTokens (·.isExpired now)
  | userByEmail _, db => db
  | userById _, db => db
  | liveToken _ _ _, db => db
  | countUsers, db => db
  | countTokens _ _, db => db

def update? : RowStatement → Option (String × (UserRow → UserRow))
  | updateUserPassword email password => some (email, fun row => { row with password })
  | setUserVerified email now => some (email, (·.stamp now))
  | _ => none

def made (statement : RowStatement) (outcome : Except StoreError Reply) : Bool :=
  Query.made statement.update?.isSome outcome

def Unreadable (statement : RowStatement) (db : Database) : Prop :=
  ∃ email change, statement.update? = some (email, change) ∧
    ∃ rows, db.users = some rows ∧ ∃ row ∈ rows, row.email = .text email ∧
      ∃ cause, (change row).decode = .error cause

end RowStatement

/-! ### Rows that cannot be read -/

theorem forall_error_bind {ε α β : Type} {P : ε → Prop} {x : Except ε α} {f : α → Except ε β}
    (hx : ∀ e, x = .error e → P e) (hf : ∀ a e, f a = .error e → P e) :
    ∀ e, (x >>= f) = .error e → P e := by
  intro e herror
  cases x with
  | error e' =>
    cases herror
    exact hx e rfl
  | ok a => exact hf a e herror

theorem Cell.isMismatch_of_readText {column : String} {cell : Cell} {e : DatabaseError}
    (herror : cell.readText column = .error e) : e.isMismatch = true := by
  cases cell <;> cases herror <;> rfl

theorem Cell.isMismatch_of_readInteger {column : String} {cell : Cell} {e : DatabaseError}
    (herror : cell.readInteger column = .error e) : e.isMismatch = true := by
  cases cell <;> cases herror <;> rfl

theorem UserRow.isMismatch_of_decode {row : UserRow} :
    ∀ e, row.decode = .error e → e.isMismatch = true := by
  apply forall_error_bind fun _ => Cell.isMismatch_of_readText
  intro id
  apply forall_error_bind fun _ => Cell.isMismatch_of_readText
  intro email
  apply forall_error_bind fun _ => Cell.isMismatch_of_readText
  intro name
  apply forall_error_bind fun _ => Cell.isMismatch_of_readInteger
  rintro verifiedAt e ⟨⟩

theorem Store.isMismatch_of_writeBarrier {store : Store} {e : DatabaseError}
    (hbarrier : store.writeBarrier = some e) : e.isMismatch = false := by
  unfold writeBarrier at hbarrier
  split_ifs at hbarrier <;> cases hbarrier <;> rfl

/-! ### Statements on any database -/

namespace Query

variable {α : Type} {desk : Desk} {late : Bool} {effect : Database → Database}

/-- On this desk the statement leaves the store with its effect, or just as it is. -/
def MakesOn (q : Query α) (late : Bool) (effect : Database → Database) (desk : Desk) : Prop :=
  (q desk).2.store = { desk.store with
    database :=
      if made late (q desk).1 then effect desk.store.database else desk.store.database }

def Makes (q : Query α) (late : Bool) (effect : Database → Database) : Prop :=
  ∀ desk, q.MakesOn late effect desk

theorem return_apply {β : Type} (f : α → β) (q : Query α) (desk : Desk) :
    (do return f (← q)) desk = ((q desk).1.map f, (q desk).2) := by
  rw [Step.bind_apply]
  rcases q desk with ⟨e | a, after⟩ <;> rfl

/-- Whether the change was made does not depend on how the answer is put. -/
theorem made_map {β : Type} (f : α → β) (outcome : Except StoreError α) :
    made late (outcome.map f) = made late outcome := by
  cases outcome <;> rfl

theorem Makes.return {β : Type} {q : Query α} (hq : q.Makes late effect) (f : α → β) :
    Makes (do return f (← q)) late effect := by
  intro desk
  rw [MakesOn, return_apply, made_map]
  exact hq desk

theorem Makes.replying {q : Query α} (hq : q.Makes late effect) (f : α → Reply) :
    (q.replying f).Makes late effect :=
  hq.return f

def IdleOn (q : Query α) (desk : Desk) : Prop := (q desk).2.store = desk.store

theorem ReadsOnly.idleOn {q : Query α} (hq : q.ReadsOnly) : q.IdleOn desk := hq desk

theorem IdleOn.return {β : Type} {q : Query α} (hq : q.IdleOn desk) (f : α → β) :
    IdleOn (do return f (← q)) desk := by
  rw [IdleOn, return_apply]
  exact hq

theorem ReadsOnly.makes {q : Query α} (hq : q.ReadsOnly) : q.Makes late fun db => db := by
  intro desk
  rw [MakesOn, ite_self]
  exact hq desk

/-- A statement that fails early has made no change. -/
theorem makesOn_of_error {q : Query α} {e : StoreError} (hq : q desk = (.error e, desk))
    (hearly : (late && e.isUnread) = false) : q.MakesOn late effect desk := by
  rw [MakesOn, hq, made, hearly]
  rfl

/-! A statement that changes a table has to find it, and to be let write. -/

section Select

variable {ρ : Type} {select : Query ρ} {context : String} {next : ρ → Query α}

theorem refused_of_select
    (hselect : ∀ desk, (∃ rows, select desk = (.ok rows, desk)) ∨
      ∃ e, select desk = (.error e, desk) ∧ e.isUnread = false)
    {cause : DatabaseError} (hbarrier : desk.store.writeBarrier = some cause) :
    ∃ e, (do let rows ← select; writing context; next rows) desk = (.error e, desk) ∧
      e.isUnread = false := by
  rcases hselect desk with ⟨rows, hrows⟩ | ⟨e, herror, hearly⟩
  · refine ⟨.query context cause, ?_, Store.isMismatch_of_writeBarrier hbarrier⟩
    simp only [Step.bind_of_ok hrows, Step.bind_apply, writing, hbarrier]
  · refine ⟨e, ?_, hearly⟩
    simp only [Step.bind_apply, herror]

theorem idleOn_of_select
    (hselect : ∀ desk, (∃ rows, select desk = (.ok rows, desk)) ∨
      ∃ e, select desk = (.error e, desk) ∧ e.isUnread = false)
    {cause : DatabaseError} (hbarrier : desk.store.writeBarrier = some cause) :
    IdleOn (do let rows ← select; writing context; next rows) desk := by
  obtain ⟨e, herror, -⟩ := refused_of_select hselect hbarrier
  rw [IdleOn, herror]

theorem makes_of_select
    (hselect : ∀ desk, (∃ rows, select desk = (.ok rows, desk)) ∨
      ∃ e, select desk = (.error e, desk) ∧ e.isUnread = false)
    (hnext : ∀ desk rows, select desk = (.ok rows, desk) → (next rows).MakesOn late effect desk) :
    Makes (do let rows ← select; writing context; next rows) late effect := by
  intro desk
  cases hbarrier : desk.store.writeBarrier with
  | some cause =>
    obtain ⟨e, herror, hearly⟩ := refused_of_select hselect hbarrier
    exact makesOn_of_error herror (by rw [hearly, Bool.and_false])
  | none =>
    rcases hselect desk with ⟨rows, hrows⟩ | ⟨e, herror, hearly⟩
    · have hthen : (do let rows ← select; writing context; next rows) desk = next rows desk := by
        simp only [Step.bind_of_ok hrows, Step.bind_apply, writing, hbarrier]
      rw [MakesOn, hthen]
      exact hnext desk rows hrows
    · refine makesOn_of_error (e := e) ?_ (by rw [hearly, Bool.and_false])
      simp only [Step.bind_apply, herror]

end Select

theorem usersFor_cases (context : String) (desk : Desk) :
    (∃ rows, usersFor context desk = (.ok rows, desk)) ∨
      ∃ e, usersFor context desk = (.error e, desk) ∧ e.isUnread = false := by
  unfold usersFor
  cases desk.store.database.users with
  | none => exact .inr ⟨_, rfl, rfl⟩
  | some rows => exact .inl ⟨rows, rfl⟩

theorem tokensFor_cases (context : String) (desk : Desk) :
    (∃ rows, tokensFor context desk = (.ok rows, desk)) ∨
      ∃ e, tokensFor context desk = (.error e, desk) ∧ e.isUnread = false := by
  unfold tokensFor
  cases desk.store.database.tokens with
  | none => exact .inr ⟨_, rfl, rfl⟩
  | some rows => exact .inl ⟨rows, rfl⟩

theorem usersFor_eq_ok {context : String} {rows : List UserRow} :
    usersFor context desk = (.ok rows, desk) ↔ desk.store.database.users = some rows := by
  unfold usersFor
  cases desk.store.database.users <;> simp

theorem tokensFor_eq_ok {context : String} {rows : List TokenRow} :
    tokensFor context desk = (.ok rows, desk) ↔ desk.store.database.tokens = some rows := by
  unfold tokensFor
  cases desk.store.database.tokens <;> simp

theorem made_decodeUser (row : Option UserRow) : made true (decodeUser row desk).1 = true := by
  cases row with
  | none => rfl
  | some row =>
    simp only [decodeUser, Step.ofExcept_apply]
    cases hdecode : row.decode with
    | ok user => rfl
    | error cause => exact UserRow.isMismatch_of_decode cause hdecode

/-- An update makes its change also where it cannot read the row afterwards. -/
theorem makes_updateUser (context email : String) (change : UserRow → UserRow) :
    (updateUser context email change).Makes true (·.changeOwner email change) := by
  refine makes_of_select (usersFor_cases context) fun desk rows hrows => ?_
  rw [usersFor_eq_ok] at hrows
  dsimp only
  rw [MakesOn, Step.bind_apply, setUsers, Step.update_apply]
  dsimp only
  rw [made_decodeUser, if_pos rfl, readsOnly_decodeUser, Database.changeOwner, hrows]
  rfl

theorem makesOn_insert {context : String} {add : Database → Except DatabaseError Database}
    (hadd : ∀ db, add desk.store.database = .ok db → effect desk.store.database = db) :
    (insert context add).MakesOn false effect desk := by
  cases hadded : add desk.store.database with
  | ok db =>
    have hinsert : insert context add desk = (.ok (), { desk with store.database := db }) := by
      simp only [insert, hadded]
    rw [MakesOn, hinsert]
    simp only [made, if_true, hadd db hadded]
  | error e =>
    refine makesOn_of_error
      (e := if e.isNotUnique then .conflict context else .query context e) ?_ rfl
    simp only [insert, hadded]

theorem makes_createUser (user : User) :
    (createUser user).Makes false fun db =>
      { db with users := db.users.map (· ++ [user.row]) } := by
  refine makes_of_select (usersFor_cases _) fun desk rows hrows => makesOn_insert fun db hok => ?_
  rw [usersFor_eq_ok] at hrows
  simp only [Database.insertUser, hrows] at hok
  cases hfault : UserRow.fault? rows user.row with
  | some e => simp [hfault] at hok
  | none =>
    simp only [hfault, Except.ok.injEq] at hok
    rw [← hok, hrows]
    rfl

theorem makes_createToken (token : Token) :
    (createToken token).Makes false fun db =>
      { db with tokens := db.tokens.map (· ++ [token.row]) } := by
  refine makes_of_select (tokensFor_cases _) fun desk rows hrows => makesOn_insert fun db hok => ?_
  rw [tokensFor_eq_ok] at hrows
  simp only [Database.insertToken, hrows] at hok
  cases hfault : TokenRow.fault? rows token.row with
  | some e => simp [hfault] at hok
  | none =>
    simp only [hfault, Except.ok.injEq] at hok
    rw [← hok, hrows]
    rfl

theorem makes_deleteTokens (context : String) (drop : TokenRow → Bool) :
    (deleteTokens context drop).Makes false (·.dropTokens drop) := by
  refine makes_of_select (tokensFor_cases context) fun desk rows hrows => ?_
  rw [tokensFor_eq_ok] at hrows
  simp [MakesOn, Step.bind_apply, setTokens, made, Database.dropTokens, hrows]

/-- An update that fails on reading its answer has met a row that cannot be read. -/
theorem exists_unreadable_of_updateUser {context email : String} {change : UserRow → UserRow}
    {e : StoreError} (hkeeps : UserRow.Keeps change)
    (herror : (updateUser context email change desk).1 = .error e) (hunread : e.isUnread = true) :
    ∃ rows, desk.store.database.users = some rows ∧ ∃ row ∈ rows, row.email = .text email ∧
      ∃ cause, (change row).decode = .error cause := by
  cases hrows : desk.store.database.users with
  | none =>
    simp only [updateUser, Step.bind_apply, usersFor, hrows, Except.error.injEq] at herror
    rw [← herror] at hunread
    cases hunread
  | some rows =>
    cases hbarrier : desk.store.writeBarrier with
    | some cause =>
      simp only [updateUser, Step.bind_apply, usersFor, hrows, writing, hbarrier,
        Except.error.injEq] at herror
      rw [← herror] at hunread
      exact absurd hunread (Bool.eq_false_iff.mp (Store.isMismatch_of_writeBarrier hbarrier))
    | none =>
      rw [updateUser_of_users hbarrier hkeeps hrows] at herror
      cases hfind : rows.find? (·.hasEmail email) with
      | none =>
        rw [hfind] at herror
        cases herror
      | some row =>
        have hemail := List.find?_some hfind
        refine ⟨rows, rfl, row, List.mem_of_find?_eq_some hfind, of_decide_eq_true hemail, ?_⟩
        cases hdecode : (change row).decode with
        | error cause => exact ⟨cause, rfl⟩
        | ok user => simp [hfind, decodeUser, hdecode, Except.mapError, Except.map] at herror

end Query

namespace RowStatement

open Query

/-- A statement either makes its change or leaves everything as it is. -/
theorem makes_run (statement : RowStatement) :
    statement.run.Makes statement.update?.isSome statement.effect := by
  cases statement with
  | userByEmail email => exact (readsOnly_userByEmail email).makes.replying _
  | userById id => exact (readsOnly_userById id).makes.replying _
  | createUser user => exact (makes_createUser user).replying _
  | updateUserPassword email password => exact (makes_updateUser _ email _).replying _
  | setUserVerified email now => exact (makes_updateUser _ email _).replying _
  | createToken token => exact (makes_createToken token).replying _
  | liveToken value type now =>
    exact ((readsOnly_tokensFor _).bind fun _ => readsOnly_decodeToken _).makes.replying _
  | deleteTokensFor email type => exact (makes_deleteTokens _ _).replying _
  | deleteToken value => exact ((makes_deleteTokens _ _).return _).replying _
  | purgeExpiredTokens now => exact (makes_deleteTokens _ _).replying _
  | countUsers => exact ((readsOnly_usersFor _).bind fun _ => .pure _).makes.replying _
  | countTokens email type =>
    exact ((readsOnly_tokensFor _).bind fun _ => .pure _).makes.replying _

/-- The two statements that update a user run alike. -/
theorem run_of_update? {statement : RowStatement} {email : String} {change : UserRow → UserRow}
    (hupdate : statement.update? = some (email, change)) :
    ∃ context, statement.run = (updateUser context email change).replying .user ∧
      UserRow.Keeps change := by
  cases statement <;> cases hupdate
  case updateUserPassword password => exact ⟨_, rfl, UserRow.keeps_password password⟩
  case setUserVerified now => exact ⟨_, rfl, UserRow.keeps_stamp now⟩

/-- A statement that fails and has made its change is an update of a row that cannot be read. -/
theorem unreadable_of_made {statement : RowStatement} {desk : Desk} {e : StoreError}
    (herror : (statement.run desk).1 = .error e) (hmade : statement.made (.error e) = true) :
    statement.Unreadable desk.store.database := by
  obtain ⟨hlate, hunread⟩ : statement.update?.isSome = true ∧ e.isUnread = true :=
    Bool.and_eq_true_iff.mp hmade
  obtain ⟨⟨email, change⟩, hupdate⟩ := Option.isSome_iff_exists.mp hlate
  obtain ⟨context, hrun, hkeeps⟩ := run_of_update? hupdate
  have hfails : (updateUser context email change desk).1 = .error e := by
    rw [hrun, replying, return_apply] at herror
    cases houtcome : (updateUser context email change desk).1 with
    | error e' =>
      rw [houtcome] at herror
      cases herror
      rfl
    | ok user =>
      rw [houtcome] at herror
      cases herror
  exact ⟨email, change, hupdate, exists_unreadable_of_updateUser hkeeps hfails hunread⟩

/-- While nothing can be written, a statement leaves the store alone. -/
theorem idleOn_run (statement : RowStatement) {desk : Desk} {cause : DatabaseError}
    (hbarrier : desk.store.writeBarrier = some cause) : statement.run.IdleOn desk := by
  cases statement with
  | userByEmail email => exact (readsOnly_userByEmail email).idleOn.return _
  | userById id => exact (readsOnly_userById id).idleOn.return _
  | createUser user => exact (idleOn_of_select (usersFor_cases _) hbarrier).return _
  | updateUserPassword email password =>
    exact (idleOn_of_select (usersFor_cases _) hbarrier).return _
  | setUserVerified email now => exact (idleOn_of_select (usersFor_cases _) hbarrier).return _
  | createToken token => exact (idleOn_of_select (tokensFor_cases _) hbarrier).return _
  | liveToken value type now =>
    exact ((readsOnly_tokensFor _).bind fun _ => readsOnly_decodeToken _).idleOn.return _
  | deleteTokensFor email type =>
    exact (idleOn_of_select (tokensFor_cases _) hbarrier).return _
  | deleteToken value =>
    exact ((idleOn_of_select (tokensFor_cases _) hbarrier).return _).return _
  | purgeExpiredTokens now => exact (idleOn_of_select (tokensFor_cases _) hbarrier).return _
  | countUsers => exact ((readsOnly_usersFor _).bind fun _ => .pure _).idleOn.return _
  | countTokens email type => exact ((readsOnly_tokensFor _).bind fun _ => .pure _).idleOn.return _

/-! ### Statements on tables of users and tokens -/

def ending (tables : Tables) : RowStatement → Except StoreError Reply × Tables
  | userByEmail email => (.ok (.user (tables.userWithEmail? email)), tables)
  | userById id => (.ok (.user (tables.userWithId? id)), tables)
  | createUser user =>
    if ∃ other ∈ tables.users, other.id = user.id ∨ other.email = user.email then
      (.error (.conflict "failed to create the user"), tables)
    else (.ok .done, tables.addUser user)
  | updateUserPassword email password =>
    let after := tables.changeUser email (·.withPassword password)
    (.ok (.user (after.userWithEmail? email)), after)
  | setUserVerified email now =>
    let after := tables.changeUser email (·.stamp now)
    (.ok (.user (after.userWithEmail? email)), after)
  | createToken token =>
    if ∃ other ∈ tables.tokens, other.value = token.value then
      (.error (.conflict "failed to create the token"), tables)
    else (.ok .done, tables.addToken token)
  | liveToken value type now => (.ok (.token (tables.liveToken? value type now)), tables)
  | deleteTokensFor email type =>
    (.ok (.count (tables.tokens.countP (·.isFor email type))),
      tables.dropTokens (·.isFor email type))
  | deleteToken value =>
    (.ok (.deleted (0 < tables.tokens.countP (·.value = value))),
      tables.dropTokens (·.value = value))
  | purgeExpiredTokens now =>
    (.ok (.count (tables.tokens.countP (!·.isLive now))), tables.dropTokens (!·.isLive now))
  | countUsers => (.ok (.count tables.users.length), tables)
  | countTokens email type =>
    (.ok (.count (tables.tokens.countP (·.isFor email type))), tables)

open Step (Carries)

theorem carries_return {α β : Type} {q : Query α} {tables after : Tables}
    {outcome : Except StoreError α} (hq : Carries Desk.Holds q tables outcome after)
    (f : α → β) : Carries Desk.Holds (do return f (← q)) tables (outcome.map f) after := by
  intro desk hdesk
  obtain ⟨houtcome, hafter⟩ := hq desk hdesk
  rw [return_apply]
  exact ⟨congrArg (Except.map f) houtcome, hafter⟩

/-- On the tables of the engine, each statement ends as it is said to. -/
theorem carries_run (statement : RowStatement) (tables : Tables) :
    Carries Desk.Holds statement.run tables (statement.ending tables).1
      (statement.ending tables).2 := by
  cases statement with
  | userByEmail email => exact carries_return (userByEmail_carries email tables) _
  | userById id => exact carries_return (userById_carries id tables) _
  | createUser user =>
    rw [ending]
    split
    · next htaken =>
      refine carries_return (createUser_carries_error ?_) _
      simp only [Tables.userWithEmail?, Tables.userWithId?, ne_eq, List.find?_eq_none]
      grind
    · next hfree =>
      refine carries_return (createUser_carries_ok ?_ ?_) _
      · refine List.find?_eq_none.mpr fun other hother hsame => hfree ⟨other, hother, .inr ?_⟩
        exact of_decide_eq_true hsame
      · refine List.find?_eq_none.mpr fun other hother hsame => hfree ⟨other, hother, .inl ?_⟩
        exact of_decide_eq_true hsame
  | updateUserPassword email password =>
    exact carries_return (updateUser_carries _ email (fun _ => rfl) tables) _
  | setUserVerified email now =>
    exact carries_return (updateUser_carries _ email (fun user => user.stamp_row now) tables) _
  | createToken token =>
    rw [ending]
    split
    · next htaken => exact carries_return (createToken_carries_error htaken) _
    · next hfree =>
      refine carries_return (createToken_carries_ok ?_) _
      intro other hother hsame
      exact hfree ⟨other, hother, hsame⟩
  | liveToken value type now =>
    exact carries_return (liveToken_carries value type now tables) _
  | deleteTokensFor email type =>
    exact carries_return (deleteTokens_carries _ (fun token => token.isFor_row email type) tables) _
  | deleteToken value =>
    have hdelete : Carries Desk.Holds (deleteTokens _ (·.hasValue value)) tables _ _ :=
      deleteTokens_carries "failed to delete the token" (fun token => token.hasValue_row value)
        tables
    exact carries_return (carries_return hdelete _) _
  | purgeExpiredTokens now =>
    exact carries_return (deleteTokens_carries _ (fun token => token.isExpired_row now) tables) _
  | countUsers =>
    have hcount : Carries Desk.Holds Query.countUsers tables (.ok tables.users.length) tables := by
      rw [← List.length_map (f := User.row)]
      exact .bind_ok (usersFor_carries _ tables) (.pure _ _)
    exact carries_return hcount _
  | countTokens email type =>
    have hcount : Carries Desk.Holds (Query.countTokens email type) tables
        (.ok (tables.tokens.countP (·.isFor email type))) tables := by
      refine .bind_ok (tokensFor_carries _ tables) ?_
      simp only [List.countP_map, Function.comp_def, Token.isFor_row]
      exact .pure _ _
    exact carries_return hcount _

end RowStatement

end IdentityLifecycle
