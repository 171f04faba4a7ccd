import IdentityLifecycle.Proofs.Carries
import IdentityLifecycle.Proofs.KnownUsers
import IdentityLifecycle.Service

/-!
# Who holds a token

What the statements for a token and for its owner find in a database that may hold anything: tables
may be missing, and rows may be there that cannot be read.
-/

namespace IdentityLifecycle

/-! ### Rows -/

theorem Cell.readInteger_eq_ok {column : String} {cell : Cell} {n : Int64} :
    cell.readInteger column = .ok n ↔ cell = .integer n ∨ (cell = .null ∧ n = 0) := by
  constructor
  · intro hok
    cases cell with
    | integer m =>
      cases hok
      exact .inl rfl
    | null =>
      cases hok
      exact .inr ⟨rfl, rfl⟩
    | real x => cases hok
    | text s => cases hok
    | blob b => cases hok
  · rintro (rfl | ⟨rfl, rfl⟩) <;> rfl

namespace TokenRow

variable {row : TokenRow} {token : Token} {value : String} {type : TokenType} {now : Instant}

theorem isLiveAs_iff :
    row.isLiveAs value type now = true ↔
      row.value = .text value ∧ row.type = type.text ∧ row.expiresAt.exceeds now = true := by
  simp [isLiveAs, hasValue, and_assoc]

theorem cells_of_decode (hdecode : row.decode = .ok token) :
    row.value.readText "token" = .ok token.value ∧
      row.email.readText "email" = .ok token.email ∧
      row.expiresAt.readInteger "expires_at" = .ok token.expiresAt := by
  simp only [decode, bind_eq_ok, mapError_eq_ok, pure, Except.pure, Except.ok.injEq] at hdecode
  obtain ⟨value, hvalue, email, hemail, expiresAt, hexpires, type, -, rfl⟩ := hdecode
  exact ⟨hvalue, hemail, hexpires⟩

/-- A row that is live stands for a live token, so that looking at the expiry again changes
nothing. -/
theorem isLive_of_decode (hlive : row.isLiveAs value type now = true)
    (hdecode : row.decode = .ok token) : token.isLive now = true := by
  obtain ⟨-, -, hexceeds⟩ := isLiveAs_iff.mp hlive
  obtain ⟨-, -, hexpires⟩ := cells_of_decode hdecode
  rcases Cell.readInteger_eq_ok.mp hexpires with hinteger | ⟨hnull, -⟩
  · rw [hinteger] at hexceeds
    exact hexceeds
  · rw [hnull] at hexceeds
    cases hexceeds

theorem value_of_decode (hlive : row.isLiveAs value type now = true)
    (hdecode : row.decode = .ok token) : token.value = value := by
  obtain ⟨hvalue, -, -⟩ := isLiveAs_iff.mp hlive
  obtain ⟨hread, -, -⟩ := cells_of_decode hdecode
  rw [hvalue] at hread
  exact (Except.ok.inj hread).symm

end TokenRow

namespace UserRow.Keeps

variable {change : UserRow → UserRow}

theorem decode_of_ok (hkeeps : Keeps change) {row : UserRow} {user : User}
    (hdecode : row.decode = .ok user) :
    ∃ changed, (change row).decode = .ok changed ∧ changed.toPublic = user.toPublic := by
  have hpublic := hkeeps.public? row
  rw [public?_of_decode hdecode] at hpublic
  exact decode_of_public? hpublic

theorem find?_map (hkeeps : Keeps change) (rows : List UserRow) (email : String) :
    (rows.map fun row => if row.hasEmail email then change row else row).find? (·.hasEmail email) =
      (rows.find? (·.hasEmail email)).map change := by
  have hemail : ∀ row, (change row).hasEmail email = row.hasEmail email := by
    intro row
    rw [hasEmail, hasEmail, hkeeps.email]
  induction rows with
  | nil => rfl
  | cons row rows ih =>
    by_cases hrow : row.hasEmail email = true
    · simp [hrow, hemail]
    · rw [List.map_cons, if_neg hrow]
      simp [hrow, ih]

end UserRow.Keeps

/-! ### What there is to redeem -/

namespace Database

def token? (db : Database) (value : String) (type : TokenType) (now : Instant) :
    Except StoreError (Option Token) :=
  match db.tokens with
  | none => .error (.query "failed to get the token" (.noSuchTable tokensName))
  | some rows =>
    match rows.find? (·.isLiveAs value type now) with
    | none => .ok none
    | some row => row.decode.map some

def owner? (db : Database) (context email : String) : Except StoreError (Option User) :=
  match db.users with
  | none => .error (.query context (.noSuchTable usersName))
  | some rows =>
    match rows.find? (·.hasEmail email) with
    | none => .ok none
    | some row => (row.decode.mapError (.query "failed to decode the user row")).map some

/-- The live token with a value and a type, and its owner; `orphaned` says that nobody owns it. -/
def holder? (db : Database) (value : String) (type : TokenType) (now : Instant) (context : String)
    (orphaned : IdentityError) : Except IdentityError (Token × User) :=
  match db.token? value type now with
  | .error e => .error (.store e)
  | .ok none => .error .invalidToken
  | .ok (some token) =>
    match db.owner? context token.email with
    | .error e => .error (.store e)
    | .ok none => .error orphaned
    | .ok (some owner) => .ok (token, owner)

def dropValue (db : Database) (value : String) : Database :=
  { db with tokens := db.tokens.map fun rows => rows.filter fun row => !row.hasValue value }

def changeOwner (db : Database) (email : String) (change : UserRow → UserRow) : Database :=
  { db with users := db.users.map fun rows =>
      rows.map fun row => if row.hasEmail email then change row else row }

theorem owner?_eq_ok_some {db : Database} {context email : String} {user : User} :
    db.owner? context email = .ok (some user) ↔
      ∃ rows, db.users = some rows ∧ ∃ row, rows.find? (·.hasEmail email) = some row ∧
        row.decode = .ok user := by
  unfold owner?
  cases db.users with
  | none => simp
  | some rows =>
    cases hfind : rows.find? (·.hasEmail email) with
    | none => simp [hfind]
    | some row =>
      cases hdecode : row.decode <;> simp [hfind, hdecode, Except.map, Except.mapError]

theorem token?_eq_ok_some {db : Database} {value : String} {type : TokenType} {now : Instant}
    {token : Token} :
    db.token? value type now = .ok (some token) ↔
      ∃ rows, db.tokens = some rows ∧ ∃ row, rows.find? (·.isLiveAs value type now) = some row ∧
        row.decode = .ok token := by
  unfold token?
  cases db.tokens with
  | none => simp
  | some rows =>
    cases hfind : rows.find? (·.isLiveAs value type now) with
    | none => simp [hfind]
    | some row => cases hdecode : row.decode <;> simp [hfind, hdecode, Except.map]

/-- The holder of a live token is its owner. -/
theorem holder?_eq_ok {db : Database} {value : String} {type : TokenType} {now : Instant}
    {context : String} {orphaned : IdentityError} {token : Token} {user : User} :
    db.holder? value type now context orphaned = .ok (token, user) ↔
      db.token? value type now = .ok (some token) ∧
        db.owner? context token.email = .ok (some user) := by
  unfold holder?
  rcases db.token? value type now with e | _ | found
  · simp
  · simp
  · dsimp only
    constructor
    · intro hok
      rcases howner : db.owner? context found.email with e | _ | owner
      · simp [howner] at hok
      · simp [howner] at hok
      · simp only [howner, Except.ok.injEq, Prod.mk.injEq] at hok
        obtain ⟨rfl, rfl⟩ := hok
        exact ⟨rfl, howner⟩
    · rintro ⟨htoken, howner⟩
      cases htoken
      rw [howner]

/-- Whose token it is does not depend on who asks. -/
theorem holder?_ok_of_ok {db : Database} {value : String} {type : TokenType} {now : Instant}
    {context : String} {orphaned : IdentityError} {token : Token} {user : User}
    (hok : db.holder? value type now context orphaned = .ok (token, user)) (context' : String)
    (orphaned' : IdentityError) :
    db.holder? value type now context' orphaned' = .ok (token, user) := by
  obtain ⟨htoken, howner⟩ := holder?_eq_ok.mp hok
  refine holder?_eq_ok.mpr ⟨htoken, ?_⟩
  exact owner?_eq_ok_some.mpr (owner?_eq_ok_some.mp howner)

end Database

namespace Query

variable {desk : Desk} {value : String} {type : TokenType} {now : Instant}

/-- Looking for a token leaves the desk as it is. -/
theorem peek_apply (value : String) (type : TokenType) (now : Instant) (desk : Desk) :
    Ledger.peek value type now desk = (desk.store.database.token? value type now, desk) := by
  unfold Ledger.peek liveToken Database.token?
  simp only [Step.bind_apply, tokensFor]
  cases htokens : desk.store.database.tokens with
  | none => rfl
  | some rows =>
    dsimp only
    cases hfind : rows.find? (·.isLiveAs value type now) with
    | none => rfl
    | some row =>
      have hlive := List.find?_some hfind
      simp only [decodeToken, Step.ofExcept_apply]
      cases hdecode : row.decode with
      | error e => rfl
      | ok token =>
        simp [Except.map, Option.filter, TokenRow.isLive_of_decode hlive hdecode]

theorem userByEmail_apply (email : String) (desk : Desk) :
    userByEmail email desk =
      (desk.store.database.owner? "failed to get the user by email" email, desk) := by
  unfold userByEmail Database.owner?
  simp only [Step.bind_apply, usersFor]
  cases husers : desk.store.database.users with
  | none => rfl
  | some rows =>
    dsimp only
    cases rows.find? (·.hasEmail email) <;> rfl

theorem consume_of_none (hnone : desk.store.database.token? value type now = .ok none) :
    Ledger.consume value type now desk = (.ok none, desk) := by
  have hpeek := peek_apply value type now desk
  rw [hnone] at hpeek
  rw [Ledger.consume, Step.bind_of_ok hpeek]
  rfl

theorem consume_of_error {e : StoreError}
    (herror : desk.store.database.token? value type now = .error e) :
    Ledger.consume value type now desk = (.error e, desk) := by
  rw [Ledger.consume, Step.bind_apply, peek_apply, herror]

/-- A token that is found is taken away. -/
theorem consume_of_some {token : Token} (hbarrier : desk.store.writeBarrier = none)
    (hsome : desk.store.database.token? value type now = .ok (some token)) :
    ∃ after, Ledger.consume value type now desk = (.ok (some token), after) ∧
      after.store = { desk.store with database := desk.store.database.dropValue value } := by
  have hpeek := peek_apply value type now desk
  rw [hsome] at hpeek
  obtain ⟨rows, hrows, row, hfind, hdecode⟩ := Database.token?_eq_ok_some.mp hsome
  have hlive := List.find?_some hfind
  have hvalue := TokenRow.value_of_decode hlive hdecode
  have hdelete : deleteToken token.value desk =
      (.ok (0 < rows.countP (·.hasValue value)), { desk with
        store.database := desk.store.database.dropValue value }) := by
    rw [hvalue]
    simp [deleteToken, deleteTokens, Step.bind_apply, tokensFor, writing, hrows, hbarrier,
      setTokens, Database.dropValue]
  rw [Ledger.consume, Step.bind_of_ok hpeek]
  dsimp only
  rw [Step.bind_of_ok hdelete]
  exact ⟨_, rfl, rfl⟩

/-- Tokens have been deleted: just those that were to be, and the answer is how many. -/
theorem deleteTokens_ok {context : String} {drop : TokenRow → Bool} {after : Desk} {n : Nat}
    (hok : deleteTokens context drop desk = (.ok n, after)) :
    ∃ rows, desk.store.database.tokens = some rows ∧ n = rows.countP drop ∧
      after.store.database =
        { desk.store.database with tokens := some (rows.filter fun row => !drop row) } := by
  obtain ⟨rows, mid, hrows, hok⟩ := Step.bind_eq_ok.mp hok
  obtain ⟨⟨⟩, mid', hwriting, hok⟩ := Step.bind_eq_ok.mp hok
  unfold tokensFor at hrows
  split at hrows
  · next hfound =>
    cases hrows
    unfold writing at hwriting
    split at hwriting
    · cases hwriting
    · cases hwriting
      cases hok
      exact ⟨rows, hfound, rfl, rfl⟩
  · cases hrows

/-! A change of the owner answers the changed user, and fails where the owner cannot be read. -/

section

variable {context email : String} {change : UserRow → UserRow}

theorem updateUser_of_users {rows : List UserRow} (hbarrier : desk.store.writeBarrier = none)
    (hkeeps : UserRow.Keeps change) (hrows : desk.store.database.users = some rows) :
    updateUser context email change desk =
      decodeUser ((rows.find? (·.hasEmail email)).map change)
        { desk with store.database := desk.store.database.changeOwner email change } := by
  rw [← hkeeps.find?_map]
  simp [updateUser, Step.bind_apply, usersFor, writing, hrows, hbarrier, setUsers,
    Database.changeOwner]

/-- A change that leaves the keys is answered with the user as changed, who looks the same to
callers. -/
theorem updateUser_of_owner {user : User} (hbarrier : desk.store.writeBarrier = none)
    (hkeeps : UserRow.Keeps change)
    (howner : desk.store.database.owner? context email = .ok (some user)) :
    ∃ changed, changed.toPublic = user.toPublic ∧
      updateUser context email change desk = (.ok (some changed),
        { desk with store.database := desk.store.database.changeOwner email change }) := by
  obtain ⟨rows, hrows, row, hfind, hdecode⟩ := Database.owner?_eq_ok_some.mp howner
  obtain ⟨changed, hchanged, hpublic⟩ := hkeeps.decode_of_ok hdecode
  refine ⟨changed, hpublic, ?_⟩
  rw [updateUser_of_users hbarrier hkeeps hrows, hfind]
  simp only [Option.map_some, decodeUser, Step.ofExcept_apply, hchanged]
  rfl

theorem updateUser_of_none (hbarrier : desk.store.writeBarrier = none)
    (hkeeps : UserRow.Keeps change)
    (hnone : desk.store.database.owner? context email = .ok none) :
    ∃ after, updateUser context email change desk = (.ok none, after) := by
  unfold Database.owner? at hnone
  split at hnone
  · cases hnone
  · next rows hrows =>
    rw [updateUser_of_users hbarrier hkeeps hrows]
    cases hfind : rows.find? (·.hasEmail email) with
    | none => exact ⟨_, rfl⟩
    | some row =>
      rw [hfind] at hnone
      cases hdecode : row.decode with
      | error e => simp [hdecode, Except.map, Except.mapError] at hnone
      | ok user => simp [hdecode, Except.map, Except.mapError] at hnone

theorem updateUser_of_error {e : StoreError} (hbarrier : desk.store.writeBarrier = none)
    (hkeeps : UserRow.Keeps change)
    (herror : desk.store.database.owner? context email = .error e) :
    ∃ e' after, updateUser context email change desk = (.error e', after) := by
  unfold Database.owner? at herror
  cases hrows : desk.store.database.users with
  | none =>
    refine ⟨.query context (.noSuchTable Database.usersName), desk, ?_⟩
    simp only [updateUser, Step.bind_apply, usersFor, hrows]
  | some rows =>
    rw [updateUser_of_users hbarrier hkeeps hrows]
    rw [hrows] at herror
    cases hfind : rows.find? (·.hasEmail email) with
    | none => simp [hfind] at herror
    | some row =>
      simp only [Option.map_some, decodeUser, Step.ofExcept_apply]
      cases hchanged : (change row).decode with
      | error e' => exact ⟨_, _, rfl⟩
      | ok changed =>
        -- If the changed row could be read, so could the row before.
        have hpublic := hkeeps.public? row
        rw [UserRow.public?_of_decode hchanged] at hpublic
        obtain ⟨user, hdecode, -⟩ := UserRow.decode_of_public? hpublic.symm
        simp [hfind, hdecode, Except.map, Except.mapError] at herror

end

end Query

end IdentityLifecycle
