import IdentityLifecycle.Proofs.Carries
import IdentityLifecycle.Store.Query
import IdentityLifecycle.Token.Ledger

/-!
# Tables of users and tokens

A database that only the engine has written to holds well-formed rows: its tables are lists of users
and of tokens. Here the statements are described on such lists.
-/

namespace IdentityLifecycle

structure Tables where
  users : List User := []
  tokens : List Token := []

/-- The store has both tables with these rows, is open for writing, and settles units of work. -/
structure Store.Holds (store : Store) (tables : Tables) : Prop where
  users : store.database.users = some (tables.users.map User.row)
  tokens : store.database.tokens = some (tables.tokens.map Token.row)
  opened : store.closed = false
  unlocked : store.locked = false
  writable : store.readOnly = false
  settling : store.settling = {}
  unreferred : store.database.referring = []

/-! ### Well-formed rows -/

theorem User.hasEmail_row (user : User) (email : String) :
    user.row.hasEmail email = decide (user.email = email) := by
  simp [UserRow.hasEmail, User.row]

theorem User.hasId_row (user : User) (id : String) :
    user.row.hasId id = decide (user.id = id) := by
  simp [UserRow.hasId, User.row]

def User.stamp (user : User) (now : Instant) : User :=
  if user.verifiedAt = 0 then { user with verifiedAt := now } else user

theorem User.stamp_row (user : User) (now : Instant) :
    user.row.stamp now = (user.stamp now).row := by
  unfold UserRow.stamp User.stamp
  by_cases h : user.verifiedAt = 0
  · simp [User.row, h]
  · simp [User.row, h]

@[simp] theorem User.stamp_email (user : User) (now : Instant) :
    (user.stamp now).email = user.email := by
  unfold User.stamp
  split <;> rfl

@[simp] theorem User.stamp_id (user : User) (now : Instant) : (user.stamp now).id = user.id := by
  unfold User.stamp
  split <;> rfl

@[simp] theorem User.stamp_name (user : User) (now : Instant) :
    (user.stamp now).name = user.name := by
  unfold User.stamp
  split <;> rfl

@[simp] theorem User.stamp_password (user : User) (now : Instant) :
    (user.stamp now).password = user.password := by
  unfold User.stamp
  split <;> rfl

namespace Token

def isFor (token : Token) (email : String) (type : TokenType) : Bool :=
  token.email = email && token.type = type

def isLiveAs (token : Token) (value : String) (type : TokenType) (now : Instant) : Bool :=
  token.value = value && token.type = type && token.isLive now

theorem decode_row (token : Token) : token.row.decode = .ok token := by
  cases token with
  | mk value type email expiresAt => cases type <;> rfl

end Token

theorem TokenType.text_injective {a b : TokenType} : a.text = b.text ↔ a = b := by
  cases a <;> cases b <;> simp [TokenType.text]

namespace Token

theorem isFor_row (token : Token) (email : String) (type : TokenType) :
    token.row.isFor email type = token.isFor email type := by
  simp [TokenRow.isFor, Token.isFor, Token.row, TokenType.text_injective]

theorem hasValue_row (token : Token) (value : String) :
    token.row.hasValue value = decide (token.value = value) := by
  simp [TokenRow.hasValue, Token.row]

theorem isLiveAs_row (token : Token) (value : String) (type : TokenType) (now : Instant) :
    token.row.isLiveAs value type now = token.isLiveAs value type now := by
  simp [TokenRow.isLiveAs, Token.isLiveAs, Token.isLive, Token.row, TokenRow.hasValue,
    TokenType.text_injective, Cell.exceeds]

theorem isExpired_row (token : Token) (now : Instant) :
    token.row.isExpired now = !token.isLive now := by
  simp [TokenRow.isExpired, Token.isLive, Token.row, Cell.atMost, Cell.exceeds]

theorem isFor_iff {token : Token} {email : String} {type : TokenType} :
    token.isFor email type = true ↔ token.email = email ∧ token.type = type := by
  simp [isFor]

theorem isLiveAs_iff {token : Token} {value : String} {type : TokenType} {now : Instant} :
    token.isLiveAs value type now = true ↔
      token.value = value ∧ token.type = type ∧ now < token.expiresAt := by
  simp [isLiveAs, isLive, and_assoc]

end Token

/-! ### Changes of the tables -/

namespace Tables

def userWithEmail? (tables : Tables) (email : String) : Option User :=
  tables.users.find? (·.email = email)

def userWithId? (tables : Tables) (id : String) : Option User :=
  tables.users.find? (·.id = id)

def liveToken? (tables : Tables) (value : String) (type : TokenType) (now : Instant) :
    Option Token :=
  tables.tokens.find? (·.isLiveAs value type now)

def addUser (tables : Tables) (user : User) : Tables :=
  { tables with users := tables.users ++ [user] }

def changeUser (tables : Tables) (email : String) (change : User → User) : Tables :=
  { tables with users := tables.users.map fun user =>
      if user.email = email then change user else user }

def addToken (tables : Tables) (token : Token) : Tables :=
  { tables with tokens := tables.tokens ++ [token] }

def dropTokens (tables : Tables) (drop : Token → Bool) : Tables :=
  { tables with tokens := tables.tokens.filter fun token => !drop token }

def replaceToken (tables : Tables) (token : Token) : Tables :=
  (tables.dropTokens (·.isFor token.email token.type)).addToken token

/-- No token of another slot has the value of the new one. -/
def HasRoomFor (tables : Tables) (new : Token) : Prop :=
  ∀ token ∈ tables.tokens, token.value = new.value → token.isFor new.email new.type

instance (tables : Tables) (new : Token) : Decidable (tables.HasRoomFor new) :=
  inferInstanceAs (Decidable (∀ token ∈ tables.tokens, _))

theorem of_userWithEmail?_eq_some {tables : Tables} {email : String} {user : User}
    (hfound : tables.userWithEmail? email = some user) :
    user ∈ tables.users ∧ user.email = email :=
  ⟨List.mem_of_find?_eq_some hfound, by simpa using List.find?_some hfound⟩

theorem of_userWithId?_eq_some {tables : Tables} {id : String} {user : User}
    (hfound : tables.userWithId? id = some user) : user ∈ tables.users ∧ user.id = id :=
  ⟨List.mem_of_find?_eq_some hfound, by simpa using List.find?_some hfound⟩

/-- What is known of a live token that was found. -/
theorem of_liveToken?_eq_some {tables : Tables} {value : String} {type : TokenType} {now : Instant}
    {token : Token} (hfound : tables.liveToken? value type now = some token) :
    token ∈ tables.tokens ∧ token.value = value ∧ token.type = type ∧ now < token.expiresAt := by
  have hlive : token.isLiveAs value type now = true := by
    simpa using List.find?_some hfound
  exact ⟨List.mem_of_find?_eq_some hfound, Token.isLiveAs_iff.mp hlive⟩

@[simp] theorem addUser_users (tables : Tables) (user : User) :
    (tables.addUser user).users = tables.users ++ [user] := rfl

@[simp] theorem mem_dropTokens {tables : Tables} {drop : Token → Bool} {token : Token} :
    token ∈ (tables.dropTokens drop).tokens ↔ token ∈ tables.tokens ∧ drop token = false := by
  simp [dropTokens]

@[simp] theorem mem_replaceToken {tables : Tables} {new token : Token} :
    token ∈ (tables.replaceToken new).tokens ↔
      (token ∈ tables.tokens ∧ token.isFor new.email new.type = false) ∨ token = new := by
  simp [replaceToken, addToken, dropTokens]

/-- Once its slot is empty, no token has the value of the new one. -/
theorem HasRoomFor.value_ne {tables : Tables} {new : Token} (h : tables.HasRoomFor new) :
    ∀ token ∈ (tables.dropTokens (·.isFor new.email new.type)).tokens,
      token.value ≠ new.value := by
  intro token htoken hvalue
  obtain ⟨hmem, hother⟩ := mem_dropTokens.mp htoken
  have hslot := h token hmem hvalue
  rw [hslot] at hother
  cases hother

/-- Where there is no room, a token outside the slot has the value. -/
theorem exists_value_of_not_room {tables : Tables} {new : Token} (h : ¬tables.HasRoomFor new) :
    ∃ token ∈ (tables.dropTokens (·.isFor new.email new.type)).tokens,
      token.value = new.value := by
  simp only [HasRoomFor, Classical.not_forall] at h
  obtain ⟨token, hmem, hvalue, hother⟩ := h
  exact ⟨token, mem_dropTokens.mpr ⟨hmem, eq_false_of_ne_true hother⟩, hvalue⟩

end Tables

end IdentityLifecycle
