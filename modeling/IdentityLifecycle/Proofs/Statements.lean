import IdentityLifecycle.Proofs.Tables

/-!
# The statements on tables of users and tokens
-/

namespace IdentityLifecycle

def Desk.Holds (desk : Desk) (tables : Tables) : Prop := desk.store.Holds tables

open Step (Carries)

variable {tables : Tables}

namespace Query

theorem usersFor_carries (context : String) (tables : Tables) :
    Carries Desk.Holds (usersFor context) tables (.ok (tables.users.map User.row)) tables := by
  intro desk hdesk
  have hrows : usersFor context desk = (.ok (tables.users.map User.row), desk) := by
    simp [usersFor, hdesk.users]
  rw [hrows]
  exact ⟨rfl, hdesk⟩

theorem tokensFor_carries (context : String) (tables : Tables) :
    Carries Desk.Holds (tokensFor context) tables (.ok (tables.tokens.map Token.row)) tables := by
  intro desk hdesk
  have hrows : tokensFor context desk = (.ok (tables.tokens.map Token.row), desk) := by
    simp [tokensFor, hdesk.tokens]
  rw [hrows]
  exact ⟨rfl, hdesk⟩

theorem writing_carries (context : String) (tables : Tables) :
    Carries Desk.Holds (writing context) tables (.ok ()) tables := by
  intro desk hdesk
  have hfree : writing context desk = (.ok (), desk) := by
    simp [writing, Store.writeBarrier, hdesk.unlocked, hdesk.writable]
  rw [hfree]
  exact ⟨rfl, hdesk⟩

theorem connect_carries (tables : Tables) :
    Carries Desk.Holds connect tables (.ok ()) tables := by
  intro desk hdesk
  have hopen : connect desk = (.ok (), desk) := by
    simp [connect, hdesk.opened]
  rw [hopen]
  exact ⟨rfl, hdesk⟩

theorem report_carries (entry : Log.Entry) (tables : Tables) :
    Carries Desk.Holds (report entry) tables (.ok ()) tables :=
  fun _ hdesk => ⟨rfl, hdesk⟩

theorem onConnection_carries {α : Type} {q : Query α} {outcome : Except StoreError α}
    {after : Tables} (hq : Carries Desk.Holds q tables outcome after) :
    Carries Desk.Holds q.onConnection tables outcome after :=
  .bind_ok (connect_carries tables) hq

theorem setUsers_carries (users : List User) :
    Carries Desk.Holds (setUsers (users.map User.row)) tables (.ok ())
      { tables with users } :=
  fun _ hdesk => ⟨rfl, { hdesk with users := rfl }⟩

theorem setTokens_carries (tokens : List Token) :
    Carries Desk.Holds (setTokens (tokens.map Token.row)) tables (.ok ())
      { tables with tokens } :=
  fun _ hdesk => ⟨rfl, { hdesk with tokens := rfl }⟩

theorem decodeUser_carries (user : Option User) (tables : Tables) :
    Carries Desk.Holds (decodeUser (user.map User.row)) tables (.ok user) tables := by
  cases user with
  | none => exact .pure none tables
  | some user => exact .ofExcept _ tables

theorem decodeToken_carries (token : Option Token) (tables : Tables) :
    Carries Desk.Holds (decodeToken (token.map Token.row)) tables (.ok token) tables := by
  cases token with
  | none => exact .pure none tables
  | some token =>
    have hdecode : (token.row.decode.map some : Except StoreError (Option Token)) =
        .ok (some token) := by
      rw [token.decode_row]
      rfl
    rw [← hdecode]
    exact .ofExcept _ tables

/-! ### Users -/

theorem find?_hasEmail (users : List User) (email : String) :
    (users.map User.row).find? (·.hasEmail email) =
      (users.find? (·.email = email)).map User.row := by
  rw [List.find?_map]
  congr 2
  funext user
  exact user.hasEmail_row email

theorem find?_hasId (users : List User) (id : String) :
    (users.map User.row).find? (·.hasId id) = (users.find? (·.id = id)).map User.row := by
  rw [List.find?_map]
  congr 2
  funext user
  exact user.hasId_row id

theorem userByEmail_carries (email : String) (tables : Tables) :
    Carries Desk.Holds (userByEmail email) tables (.ok (tables.userWithEmail? email)) tables := by
  refine .bind_ok (usersFor_carries _ tables) ?_
  rw [find?_hasEmail]
  exact decodeUser_carries _ tables

theorem userById_carries (id : String) (tables : Tables) :
    Carries Desk.Holds (userById id) tables (.ok (tables.userWithId? id)) tables := by
  refine .bind_ok (usersFor_carries _ tables) ?_
  rw [find?_hasId]
  exact decodeUser_carries _ tables

/-- On the tables, an update changes the users with the email and answers the first. -/
theorem updateUser_carries (context email : String) {changeRow : UserRow → UserRow}
    {change : User → User} (hchange : ∀ user, changeRow user.row = (change user).row)
    (tables : Tables) :
    Carries Desk.Holds (updateUser context email changeRow) tables
      (.ok ((tables.changeUser email change).userWithEmail? email))
      (tables.changeUser email change) := by
  refine .bind_ok (usersFor_carries _ tables) (.bind_ok (writing_carries _ tables) ?_)
  have hrows : (tables.users.map User.row).map
      (fun row => if row.hasEmail email then changeRow row else row) =
        (tables.changeUser email change).users.map User.row := by
    simp only [Tables.changeUser, List.map_map]
    congr 1
    funext user
    by_cases hemail : user.email = email
    · simp [User.hasEmail_row, hemail, hchange]
    · simp [User.hasEmail_row, hemail]
  rw [hrows]
  refine .bind_ok (setUsers_carries _) ?_
  rw [find?_hasEmail]
  exact decodeUser_carries _ _

/-- The constraint that a new user breaks is one on emails or on ids. -/
theorem fault?_row (users : List User) (new : User) :
    UserRow.fault? (users.map User.row) new.row =
      if users.any (·.email = new.email) then
        some (.notUnique DatabaseError.uniqueCode "users.email")
      else if users.any (·.id = new.id) then
        some (.notUnique DatabaseError.primaryKeyCode "users.id")
      else none := by
  simp [UserRow.fault?, User.row, Function.comp_def]

theorem createUser_carries_ok {new : User} (hemail : tables.userWithEmail? new.email = none)
    (hid : tables.userWithId? new.id = none) :
    Carries Desk.Holds (createUser new) tables (.ok ()) (tables.addUser new) := by
  refine .bind_ok (usersFor_carries _ tables) (.bind_ok (writing_carries _ tables) ?_)
  intro desk hdesk
  have hadd : Database.insertUser new.row desk.store.database =
      .ok { desk.store.database with users := some ((tables.addUser new).users.map User.row) } := by
    simp only [Tables.userWithEmail?, Tables.userWithId?, List.find?_eq_none] at hemail hid
    have hfault : UserRow.fault? (tables.users.map User.row) new.row = none := by
      rw [fault?_row, if_neg (by simpa using hemail), if_neg (by simpa using hid)]
    simp [Database.insertUser, hdesk.users, hfault]
  simp only [insert, hadd]
  exact ⟨trivial, { hdesk with users := rfl }⟩

/-- A user with a key that is taken is not added. -/
theorem createUser_carries_error {new : User}
    (htaken : tables.userWithEmail? new.email ≠ none ∨ tables.userWithId? new.id ≠ none) :
    Carries Desk.Holds (createUser new) tables (.error (.conflict "failed to create the user"))
      tables := by
  refine .bind_ok (usersFor_carries _ tables) (.bind_ok (writing_carries _ tables) ?_)
  intro desk hdesk
  have hrefuse : ∃ e, Database.insertUser new.row desk.store.database = .error e ∧
      e.isNotUnique = true := by
    simp only [Tables.userWithEmail?, Tables.userWithId?, ne_eq, List.find?_eq_none] at htaken
    simp only [Database.insertUser, hdesk.users, fault?_row]
    by_cases hemail : tables.users.any (·.email = new.email)
    · exact ⟨.notUnique DatabaseError.uniqueCode "users.email", by rw [if_pos hemail], rfl⟩
    · have hid : tables.users.any (·.id = new.id) := by
        rcases htaken with h | h
        · exact absurd (by simpa using h) hemail
        · simpa using h
      exact ⟨.notUnique DatabaseError.primaryKeyCode "users.id", by
        rw [if_neg hemail, if_pos hid], rfl⟩
  obtain ⟨e, hinsert, hunique⟩ := hrefuse
  simp only [insert, hinsert, hunique, if_true]
  exact ⟨trivial, hdesk⟩

/-! ### Tokens -/

theorem find?_isLiveAs (tokens : List Token) (value : String) (type : TokenType) (now : Instant) :
    (tokens.map Token.row).find? (·.isLiveAs value type now) =
      (tokens.find? (·.isLiveAs value type now)).map Token.row := by
  rw [List.find?_map]
  congr 2
  funext token
  exact token.isLiveAs_row value type now

theorem liveToken_carries (value : String) (type : TokenType) (now : Instant) (tables : Tables) :
    Carries Desk.Holds (liveToken value type now) tables (.ok (tables.liveToken? value type now))
      tables := by
  refine .bind_ok (tokensFor_carries _ tables) ?_
  rw [find?_isLiveAs]
  exact decodeToken_carries _ tables

theorem deleteTokens_carries (context : String) {dropRow : TokenRow → Bool} {drop : Token → Bool}
    (hdrop : ∀ token : Token, dropRow token.row = drop token) (tables : Tables) :
    Carries Desk.Holds (deleteTokens context dropRow) tables (.ok (tables.tokens.countP drop))
      (tables.dropTokens drop) := by
  refine .bind_ok (tokensFor_carries _ tables) (.bind_ok (writing_carries _ tables) ?_)
  have hrows : (tables.tokens.map Token.row).filter (fun row => !dropRow row) =
      (tables.dropTokens drop).tokens.map Token.row := by
    simp [List.filter_map, Tables.dropTokens, Function.comp_def, hdrop]
  have hcount : (tables.tokens.map Token.row).countP dropRow = tables.tokens.countP drop := by
    simp [List.countP_map, Function.comp_def, hdrop]
  rw [hrows, hcount]
  exact .bind_ok (setTokens_carries _) (.pure _ _)

/-- The constraint that a new token breaks is one on values. -/
theorem fault?_token_row (tokens : List Token) (new : Token) :
    TokenRow.fault? (tokens.map Token.row) new.row =
      if tokens.any (·.value = new.value) then
        some (.notUnique DatabaseError.primaryKeyCode "tokens.token")
      else none := by
  simp [TokenRow.fault?, Token.row, Function.comp_def]

theorem createToken_carries_ok {new : Token}
    (hfree : ∀ token ∈ tables.tokens, token.value ≠ new.value) :
    Carries Desk.Holds (createToken new) tables (.ok ()) (tables.addToken new) := by
  refine .bind_ok (tokensFor_carries _ tables) (.bind_ok (writing_carries _ tables) ?_)
  intro desk hdesk
  have hadd : Database.insertToken new.row desk.store.database =
      .ok { desk.store.database with
        tokens := some ((tables.addToken new).tokens.map Token.row) } := by
    have hfault : TokenRow.fault? (tables.tokens.map Token.row) new.row = none := by
      rw [fault?_token_row, if_neg (by simpa using hfree)]
    simp [Database.insertToken, hdesk.tokens, hfault, Tables.addToken]
  simp only [insert, hadd]
  exact ⟨trivial, { hdesk with tokens := rfl }⟩

theorem createToken_carries_error {new : Token}
    (htaken : ∃ token ∈ tables.tokens, token.value = new.value) :
    Carries Desk.Holds (createToken new) tables (.error (.conflict "failed to create the token"))
      tables := by
  refine .bind_ok (tokensFor_carries _ tables) (.bind_ok (writing_carries _ tables) ?_)
  intro desk hdesk
  have hrefuse : Database.insertToken new.row desk.store.database =
      .error (.notUnique DatabaseError.primaryKeyCode "tokens.token") := by
    have hfault : TokenRow.fault? (tables.tokens.map Token.row) new.row =
        some (.notUnique DatabaseError.primaryKeyCode "tokens.token") := by
      rw [fault?_token_row, if_pos (by simpa using htaken)]
    simp [Database.insertToken, hdesk.tokens, hfault]
  simp only [insert, hrefuse]
  exact ⟨rfl, hdesk⟩

end Query

/-! ### The ledger -/

namespace Ledger

def newToken (ledger : Ledger) (email : String) (type : TokenType) (now : Instant)
    (random : ByteSource) : Token where
  value := ledger.generateValue random
  type := type
  email := email
  expiresAt := now.after (ledger.lifetime type)

variable (ledger : Ledger) (email : String) (type : TokenType) (now : Instant)
  (random : ByteSource)

/-- With room for it, a token is issued. -/
theorem issue_carries_ok (hfree : tables.HasRoomFor (ledger.newToken email type now random)) :
    Carries Desk.Holds (ledger.issue email type now random) tables
      (.ok (ledger.newToken email type now random))
      (tables.replaceToken (ledger.newToken email type now random)) := by
  refine .bind_ok (Query.deleteTokens_carries _ (fun token => token.isFor_row email type) tables) ?_
  refine .bind_ok (Query.createToken_carries_ok hfree.value_ne) ?_
  exact .bind_ok (Query.report_carries _ _) (.pure _ _)

theorem issue_carries_error (htaken : ¬tables.HasRoomFor (ledger.newToken email type now random)) :
    Carries Desk.Holds (ledger.issue email type now random) tables
      (.error (.conflict "failed to create the token"))
      (tables.dropTokens (·.isFor email type)) := by
  refine .bind_ok (Query.deleteTokens_carries _ (fun token => token.isFor_row email type) tables) ?_
  exact .bind_error (Query.createToken_carries_error (Tables.exists_value_of_not_room htaken)) _

theorem peek_carries (value : String) (tables : Tables) :
    Carries Desk.Holds (peek value type now) tables (.ok (tables.liveToken? value type now))
      tables := by
  refine .bind_ok (Query.liveToken_carries value type now tables) ?_
  have hlive : (tables.liveToken? value type now).filter (·.isLive now) =
      tables.liveToken? value type now := by
    cases hfound : tables.liveToken? value type now with
    | none => rfl
    | some token =>
      have hlive : token.isLive now = true := by
        simpa [Token.isLive] using (Tables.of_liveToken?_eq_some hfound).2.2.2
      simp [hlive]
  rw [hlive]
  exact .pure _ _

theorem consume_carries_none {value : String} (hnone : tables.liveToken? value type now = none) :
    Carries Desk.Holds (consume value type now) tables (.ok none) tables := by
  refine .bind_ok (peek_carries type now value tables) ?_
  rw [hnone]
  exact .pure _ _

/-- A live token is used up. -/
theorem consume_carries_some {value : String} {token : Token}
    (hsome : tables.liveToken? value type now = some token) :
    Carries Desk.Holds (consume value type now) tables (.ok (some token))
      (tables.dropTokens (·.value = token.value)) := by
  refine .bind_ok (peek_carries type now value tables) ?_
  rw [hsome]
  refine .bind_ok (.bind_ok (Query.deleteTokens_carries _ (fun t => t.hasValue_row token.value)
    tables) (.pure _ _)) ?_
  exact .bind_ok (Query.report_carries _ _) (.pure _ _)

end Ledger

end IdentityLifecycle
