import IdentityLifecycle.Proofs.Disclosure
import IdentityLifecycle.Proofs.Tidy

/-!
# One account among others

A call on behalf of one account reads and changes the rows of that account only. So it leaves what
the tables have for any other, and comes to the same on all tables that agree on its own.
-/

namespace IdentityLifecycle

/-! ### Tables that agree on an account -/

namespace Tables

/-- The tables have the same rows for an account, in the same order. -/
structure Agree (account : String) (left right : Tables) : Prop where
  users : left.users.filter (·.email = account) = right.users.filter (·.email = account)
  tokens : left.tokens.filter (·.email = account) = right.tokens.filter (·.email = account)

namespace Agree

variable {account : String} {left right other tables : Tables}

theorem refl (account : String) (tables : Tables) : Agree account tables tables := ⟨rfl, rfl⟩

theorem symm (h : Agree account left right) : Agree account right left :=
  ⟨h.users.symm, h.tokens.symm⟩

theorem trans (h : Agree account left right) (h' : Agree account right other) :
    Agree account left other :=
  ⟨h.users.trans h'.users, h.tokens.trans h'.tokens⟩

theorem userWithEmail? (h : Agree account left right) :
    left.userWithEmail? account = right.userWithEmail? account := by
  unfold Tables.userWithEmail?
  rw [← List.head?_filter, ← List.head?_filter]
  exact congrArg List.head? h.users

/-- A token that is sought among those of an account. -/
theorem find?_tokens {value : String} {type : TokenType} {now : Instant}
    (hvalue : ∀ token ∈ tables.tokens, token.value = value → token.email = account) :
    (tables.tokens.filter (·.email = account)).find? (·.isLiveAs value type now) =
      tables.liveToken? value type now := by
  rw [Tables.liveToken?, ← List.head?_filter, ← List.head?_filter, List.filter_filter]
  refine congrArg List.head? (List.filter_congr fun token htoken => ?_)
  cases hlive : token.isLiveAs value type now with
  | false => rfl
  | true => simp [hvalue token htoken (Token.isLiveAs_iff.mp hlive).1]

theorem liveToken? (h : Agree account left right) {value : String} (type : TokenType)
    (now : Instant)
    (hleft : ∀ token ∈ left.tokens, token.value = value → token.email = account)
    (hright : ∀ token ∈ right.tokens, token.value = value → token.email = account) :
    left.liveToken? value type now = right.liveToken? value type now := by
  rw [← find?_tokens hleft, ← find?_tokens hright, h.tokens]

/-! Changes that are made on both sides. -/

theorem addUser (h : Agree account left right) (user : User) :
    Agree account (left.addUser user) (right.addUser user) where
  users := by simp only [addUser_users, List.filter_append, h.users]
  tokens := h.tokens

theorem dropTokens (h : Agree account left right) (drop : Token → Bool) :
    Agree account (left.dropTokens drop) (right.dropTokens drop) where
  users := h.users
  tokens := by
    have hfilter := congrArg (List.filter fun token => !drop token) h.tokens
    simpa only [Tables.dropTokens, List.filter_filter, Bool.and_comm] using hfilter

theorem replaceToken (h : Agree account left right) (new : Token) :
    Agree account (left.replaceToken new) (right.replaceToken new) where
  users := h.users
  tokens := by
    have hrest := (h.dropTokens (·.isFor new.email new.type)).tokens
    simp only [Tables.replaceToken, addToken, List.filter_append, hrest]

theorem email_ite {change : User → User} (hchange : ∀ user, (change user).email = user.email)
    (email : String) (user : User) :
    (if user.email = email then change user else user).email = user.email := by
  split
  · exact hchange user
  · rfl

theorem changeUser (h : Agree account left right) (email : String) {change : User → User}
    (hchange : ∀ user, (change user).email = user.email) :
    Agree account (left.changeUser email change) (right.changeUser email change) where
  users := by
    simp only [Tables.changeUser, List.filter_map, Function.comp_def, email_ite hchange, h.users]
  tokens := h.tokens

/-! Changes that are made for another account. -/

theorem addUser_of_ne {user : User} (hne : user.email ≠ account) :
    Agree account (tables.addUser user) tables where
  users := by simp [hne]
  tokens := rfl

theorem dropTokens_of_ne {drop : Token → Bool}
    (hdrop : ∀ token ∈ tables.tokens, token.email = account → drop token = false) :
    Agree account (tables.dropTokens drop) tables where
  users := rfl
  tokens := by
    rw [Tables.dropTokens, List.filter_filter]
    refine List.filter_congr fun token htoken => ?_
    by_cases hemail : token.email = account
    · simp [hemail, hdrop token htoken hemail]
    · simp [hemail]

theorem replaceToken_of_ne {new : Token} (hne : new.email ≠ account) :
    Agree account (tables.replaceToken new) tables where
  users := rfl
  tokens := by
    have hdrop : ∀ token ∈ tables.tokens, token.email = account →
        token.isFor new.email new.type = false := by
      intro token _ hemail
      simp [Token.isFor, hemail, hne.symm]
    have hrest := (dropTokens_of_ne hdrop).tokens
    simp [Tables.replaceToken, addToken, List.filter_append, hrest, hne]

theorem changeUser_of_ne {email : String} {change : User → User}
    (hchange : ∀ user, (change user).email = user.email) (hne : email ≠ account) :
    Agree account (tables.changeUser email change) tables where
  users := by
    simp only [Tables.changeUser, List.filter_map, Function.comp_def, email_ite hchange]
    refine (List.map_congr_left fun user huser => ?_).trans (List.map_id _)
    have hemail : user.email = account := by simpa using (List.mem_filter.mp huser).2
    exact if_neg (hemail ▸ hne.symm)
  tokens := rfl

end Agree

/-- Two lists with the same entries for every key are permutations of each other. -/
theorem perm_of_filter_eq {α β : Type} [DecidableEq α] [DecidableEq β] (key : α → β)
    {left right : List α}
    (h : ∀ k, left.filter (key · = k) = right.filter (key · = k)) : left.Perm right := by
  rw [List.perm_iff_count]
  intro a
  calc
    left.count a = (left.filter (key · = key a)).count a := (List.count_filter (by simp)).symm
    _ = (right.filter (key · = key a)).count a := by rw [h]
    _ = right.count a := List.count_filter (by simp)

/-- Tables that agree on every account have the same rows, perhaps in another order. -/
theorem perm_of_agree {left right : Tables} (h : ∀ account, Agree account left right) :
    left.users.Perm right.users ∧ left.tokens.Perm right.tokens :=
  ⟨perm_of_filter_eq (·.email) fun account => (h account).users,
    perm_of_filter_eq (·.email) fun account => (h account).tokens⟩

end Tables

/-! ### The account that a call is about -/

namespace Call

def email? : Call → Option String
  | signup email _ _ | signin email _ | resendSignupToken email => some email
  | resetPassword email | changePassword email _ => some email
  | _ => none

def presented? : Call → Option String
  | validateSignupToken value | resetPasswordToken value => some value
  | changePasswordWithToken value _ => some value
  | _ => none

def Personal (call : Call) : Prop := call.email?.isSome ∨ call.presented?.isSome

/-- The call is about an account: that with the given email address, or the owner of the presented
token. -/
def Addresses (call : Call) (tables : Tables) (account : String) : Prop :=
  (∃ email, call.email? = some email ∧ normalizeEmail email = .ok account) ∨
    ∃ value, call.presented? = some value ∧
      ∃ token ∈ tables.tokens, token.value = value ∧ token.email = account

/-- The call is about no other account. -/
def Within (call : Call) (tables : Tables) (account : String) : Prop :=
  ∀ other, call.Addresses tables other → other = account

namespace Within

variable {call : Call} {tables : Tables} {account : String}

theorem email_eq (h : call.Within tables account) {email normal : String}
    (hemail : call.email? = some email) (hnormal : normalizeEmail email = .ok normal) :
    normal = account :=
  h normal (.inl ⟨email, hemail, hnormal⟩)

theorem token_email (h : call.Within tables account) {value : String}
    (hvalue : call.presented? = some value) :
    ∀ token ∈ tables.tokens, token.value = value → token.email = account :=
  fun token htoken hsame => h _ (.inr ⟨value, hvalue, token, htoken, hsame, rfl⟩)

end Within

/-- A call about an email presents no token. -/
theorem not_presented_of_email {call : Call} {email value : String}
    (hemail : call.email? = some email) : call.presented? ≠ some value := by
  cases call <;> first | exact Option.some_ne_none value ∘ Eq.symm | cases hemail

/-- A call is about at most one account. -/
theorem Addresses.unique {call : Call} {tables : Tables} {account other : String}
    (htidy : tables.Tidy) (h : call.Addresses tables account)
    (h' : call.Addresses tables other) : account = other := by
  obtain ⟨email, hemail, hnormal⟩ | ⟨value, hvalue, token, htoken, hsame, rfl⟩ := h
  · obtain ⟨email', hemail', hnormal'⟩ | ⟨value, hvalue, -⟩ := h'
    · cases hemail.symm.trans hemail'
      exact Except.ok.inj (hnormal.symm.trans hnormal')
    · exact absurd hvalue (not_presented_of_email hemail)
  · obtain ⟨email, hemail, -⟩ | ⟨value', hvalue', token', htoken', hsame', rfl⟩ := h'
    · exact absurd hvalue (not_presented_of_email hemail)
    · cases hvalue.symm.trans hvalue'
      rw [htidy.value_unique htoken htoken' (hsame.trans hsame'.symm)]

end Call

/-! ### The same work on tables that agree -/

inductive Work.Agree {α : Type} (account : String) : Work α → Work α → Prop
  | failed (e : IdentityError) (postings : List Posting) :
      Agree account { result := .error e, postings } { result := .error e, postings }
  | done {left right : Tables} (a : α) (postings : List Posting)
      (htables : left.Agree account right) :
      Agree account { result := .ok (a, left), postings } { result := .ok (a, right), postings }

namespace Service

variable {service : Service} {around : Surroundings} {account : String} {left right : Tables}

/-- Issuing a token looks at no row of another account, if the value that is drawn is free. -/
theorem mailing_agree (h : left.Agree account right) (type : TokenType) (email name : String)
    (hleft : left.HasRoomFor (service.tokenFor around type email))
    (hright : right.HasRoomFor (service.tokenFor around type email)) :
    Work.Agree account (service.mailing around type email name left)
      (service.mailing around type email name right) := by
  unfold mailing
  dsimp only
  rw [if_pos hleft, if_pos hright]
  cases around.mailer _ with
  | ok entries => exact .done () _ (h.replaceToken _)
  | error e => exact .failed _ _

section Drawn

variable (hleft : around.Fresh service left) (hright : around.Fresh service right)

include hleft hright

theorem registering_agree {user : User} (h : left.Agree user.email right)
    (hid : user.id = around.userId) :
    Work.Agree user.email (service.registering around user left)
      (service.registering around user right) := by
  have hfree : left.userWithId? user.id = none ∧ right.userWithId? user.id = none :=
    ⟨hid ▸ hleft.userId, hid ▸ hright.userId⟩
  cases hemail : left.userWithEmail? user.email with
  | some other =>
    rw [service.registering_of_taken around (.inl (by simp [hemail])),
      service.registering_of_taken around (.inl (by simp [← h.userWithEmail?, hemail]))]
    exact .failed _ _
  | none =>
    rw [service.registering_of_free around hemail hfree.1,
      service.registering_of_free around (h.userWithEmail? ▸ hemail) hfree.2]
    exact mailing_agree (h.addUser user) _ _ _ (hasRoomFor_of_fresh hleft.value _ _)
      (hasRoomFor_of_fresh hright.value _ _)

theorem reissuing_agree (h : left.Agree account right) :
    Work.Agree account (service.reissuing around account left)
      (service.reissuing around account right) := by
  unfold reissuing
  rw [h.userWithEmail?]
  cases right.userWithEmail? account with
  | none => exact .failed _ _
  | some user =>
    dsimp only
    split
    · exact .failed _ _
    · exact mailing_agree h _ _ _ (hasRoomFor_of_fresh hleft.value _ _)
        (hasRoomFor_of_fresh hright.value _ _)

theorem issuingReset_agree (h : left.Agree account right) :
    Work.Agree account (service.issuingReset around account left)
      (service.issuingReset around account right) := by
  unfold issuingReset
  rw [h.userWithEmail?]
  cases right.userWithEmail? account with
  | none => exact .failed _ _
  | some user =>
    dsimp only
    split
    · exact mailing_agree h _ _ _ (hasRoomFor_of_fresh hleft.value _ _)
        (hasRoomFor_of_fresh hright.value _ _)
    · exact .failed _ _

end Drawn

/-- Redeeming a token looks at no row of another account than the owner's. -/
theorem redeeming_agree (h : left.Agree account right) {value : String} (type : TokenType)
    (now : Instant) {change : User → User} (orphaned : IdentityError)
    (hchange : ∀ user, (change user).email = user.email)
    (hleft : ∀ token ∈ left.tokens, token.value = value → token.email = account)
    (hright : ∀ token ∈ right.tokens, token.value = value → token.email = account) :
    Work.Agree account (redeeming value type now change orphaned left)
      (redeeming value type now change orphaned right) := by
  unfold redeeming
  rw [h.liveToken? type now hleft hright]
  cases hlive : right.liveToken? value type now with
  | none => exact .failed _ _
  | some token =>
    -- a live token with the value is of the account, so the same row goes on both sides
    obtain ⟨hmem, hvalue, -, -⟩ := Tables.of_liveToken?_eq_some hlive
    obtain rfl := hright token hmem hvalue
    have hafter := (h.dropTokens (·.value = token.value)).changeUser token.email hchange
    dsimp only
    rw [hafter.userWithEmail?]
    cases Tables.userWithEmail? _ token.email with
    | none => exact .failed _ _
    | some user => exact .done _ _ hafter

theorem replacing_agree (h : left.Agree account right) (hashed : HashedPassword) :
    Work.Agree account (replacing account hashed left) (replacing account hashed right) := by
  have hchanged := h.changeUser account fun user => user.withPassword_email hashed
  unfold replacing
  dsimp only
  rw [hchanged.userWithEmail?]
  cases Tables.userWithEmail? _ account with
  | none => exact .failed _ _
  | some user => exact .done _ _ (hchanged.dropTokens _)

/-- The gate, too, depends on the rows of the owner alone. -/
theorem resetGate_agree (h : left.Agree account right) {value : String} (now : Instant)
    (hleft : ∀ token ∈ left.tokens, token.value = value → token.email = account)
    (hright : ∀ token ∈ right.tokens, token.value = value → token.email = account) :
    left.resetGate value now = right.resetGate value now := by
  unfold Tables.resetGate
  rw [h.liveToken? .passwordReset now hleft hright]
  cases hlive : right.liveToken? value .passwordReset now with
  | none => rfl
  | some token =>
    obtain ⟨hmem, hvalue, -, -⟩ := Tables.of_liveToken?_eq_some hlive
    obtain rfl := hright token hmem hvalue
    simp only [h.userWithEmail?]

end Service

end IdentityLifecycle
