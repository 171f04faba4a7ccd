import IdentityLifecycle.Proofs.Holders
import IdentityLifecycle.Proofs.Settling

/-!
# Redeeming a token

Using a token up and changing its owner is one unit of work. With both of them there and legible,
the row of the token goes and the row of the owner changes, and otherwise nothing does.
-/

namespace IdentityLifecycle

/-! ### The unit of work -/

namespace Procedure

variable {α : Type} {s : Session} {q : Query α} {desk : Desk}

theorem query_of_ok {a : α} (hq : q s.desk = (.ok a, desk)) :
    query q s = (.ok a, { s with desk }) := by
  rw [query, hq]

theorem query_of_error {e : StoreError} (hq : q s.desk = (.error e, desk)) :
    query q s = (.error (.store e), { s with desk }) := by
  rw [query, hq]

end Procedure

namespace Service

open Procedure

variable {s : Session} {value context : String} {type : TokenType} {now : Instant}
  {orphaned : IdentityError} {change : UserRow → UserRow}

def redeem (value : String) (type : TokenType) (now : Instant) (orphaned : IdentityError)
    (update : String → Query (Option User)) : Procedure User := do
  let token ← query (Ledger.consume value type now)
  let token ← .ofOption .invalidToken token
  .ofOption orphaned (← query (update token.email))

/-- To verify a user is to redeem a signup token for a stamp. -/
theorem verify_eq_redeem (around : Surroundings) (value : String) :
    verify around value = redeem value .signup around.now .invalidToken
      (Query.updateUser "failed to set the user as verified" · (·.stamp around.now)) := rfl

theorem replacePasswordWithToken_eq_redeem (now : Instant) (value : String)
    (hashed : HashedPassword) :
    replacePasswordWithToken now value hashed = redeem value .passwordReset now .emailNotFound
      (Query.updateUser "failed to update the user password" ·
        fun row => { row with password := hashed }) := rfl

/-- With a live token there, redeeming it is the change of its owner. -/
theorem redeem_of_token {token : Token} (orphaned : IdentityError)
    (update : String → Query (Option User)) (hbarrier : s.desk.store.writeBarrier = none)
    (htoken : s.desk.store.database.token? value type now = .ok (some token)) :
    ∃ spent : Desk, spent.store = { s.desk.store with
        database := s.desk.store.database.dropValue value } ∧
      redeem value type now orphaned update s =
        (query (update token.email) >>= Step.ofOption orphaned) { s with desk := spent } := by
  obtain ⟨spent, hspent, hstore⟩ := Query.consume_of_some hbarrier htoken
  refine ⟨spent, hstore, ?_⟩
  rw [redeem, Step.bind_of_ok (query_of_ok hspent)]
  rfl

/-- A token whose owner can be read is redeemed. -/
theorem redeem_of_holder {token : Token} {user : User}
    (hbarrier : s.desk.store.writeBarrier = none) (hkeeps : UserRow.Keeps change)
    (hholder : s.desk.store.database.holder? value type now context orphaned = .ok (token, user)) :
    ∃ changed after, changed.toPublic = user.toPublic ∧
      redeem value type now orphaned (Query.updateUser context · change) s = (.ok changed, after) ∧
      after.desk.store = { s.desk.store with
        database := (s.desk.store.database.dropValue value).changeOwner token.email change } := by
  obtain ⟨htoken, howner⟩ := Database.holder?_eq_ok.mp hholder
  obtain ⟨spent, hstore, hredeem⟩ :=
    redeem_of_token orphaned (Query.updateUser context · change) hbarrier htoken
  have hbarrier' : spent.store.writeBarrier = none := by rw [hstore]; exact hbarrier
  have howner' : spent.store.database.owner? context token.email = .ok (some user) := by
    rw [hstore]
    exact howner
  obtain ⟨changed, hpublic, hupdate⟩ := Query.updateUser_of_owner hbarrier' hkeeps howner'
  refine ⟨changed, { s with desk := { spent with
    store.database := spent.store.database.changeOwner token.email change } }, hpublic, ?_, ?_⟩
  · rw [hredeem, Step.bind_of_ok (query_of_ok hupdate)]
    rfl
  · rw [hstore]

/-- Without a token, or an owner, redeeming fails as looking them up does. Only which statement
could not be run may differ. -/
theorem redeem_of_no_holder {e : IdentityError} (hbarrier : s.desk.store.writeBarrier = none)
    (hkeeps : UserRow.Keeps change)
    (hnone : s.desk.store.database.holder? value type now context orphaned = .error e) :
    ∃ e' after,
      redeem value type now orphaned (Query.updateUser context · change) s = (.error e', after) ∧
        (e' = e ∨ ∃ cause cause', e = .store cause ∧ e' = .store cause') := by
  unfold Database.holder? at hnone
  rcases htoken : s.desk.store.database.token? value type now with cause | _ | token
  · have hconsume := Query.consume_of_error htoken
    rw [htoken] at hnone
    cases hnone
    refine ⟨.store cause, s, ?_, .inl rfl⟩
    rw [redeem, Step.bind_apply, query_of_error hconsume]
  · have hconsume := Query.consume_of_none htoken
    rw [htoken] at hnone
    cases hnone
    refine ⟨.invalidToken, s, ?_, .inl rfl⟩
    rw [redeem, Step.bind_of_ok (query_of_ok hconsume)]
    rfl
  -- The token is gone when its owner turns out to be missing; only the unit of work undoes that.
  · rw [htoken] at hnone
    obtain ⟨spent, hstore, hredeem⟩ :=
      redeem_of_token orphaned (Query.updateUser context · change) hbarrier htoken
    have hbarrier' : spent.store.writeBarrier = none := by rw [hstore]; exact hbarrier
    have hsame : spent.store.database.owner? context token.email =
        s.desk.store.database.owner? context token.email := by
      rw [hstore]
      rfl
    rcases howner : s.desk.store.database.owner? context token.email with cause | _ | user
    · obtain ⟨cause', after, hupdate⟩ :=
        Query.updateUser_of_error hbarrier' hkeeps (hsame.trans howner)
      simp only [howner] at hnone
      cases hnone
      refine ⟨.store cause', { s with desk := after }, ?_, .inr ⟨cause, cause', rfl, rfl⟩⟩
      rw [hredeem, Step.bind_apply, query_of_error hupdate]
    · obtain ⟨after, hupdate⟩ := Query.updateUser_of_none hbarrier' hkeeps (hsame.trans howner)
      simp only [howner] at hnone
      cases hnone
      refine ⟨orphaned, { s with desk := after }, ?_, .inl rfl⟩
      rw [hredeem, Step.bind_of_ok (query_of_ok hupdate)]
      rfl
    · simp [howner] at hnone

theorem asUnit_redeem_of_holder {token : Token} {user : User} (hfree : s.desk.store.Free)
    (hkeeps : UserRow.Keeps change)
    (hholder : s.desk.store.database.holder? value type now context orphaned = .ok (token, user)) :
    ∃ changed after, changed.toPublic = user.toPublic ∧
      asUnit (redeem value type now orphaned (Query.updateUser context · change)) s =
        (.ok changed, after) ∧
      after.desk.store = { s.desk.store with
        database := (s.desk.store.database.dropValue value).changeOwner token.email change } := by
  have hbarrier : s.inUnit.desk.store.writeBarrier = none := hfree.inUnit.writeBarrier
  obtain ⟨changed, t, hpublic, hredeem, hstore⟩ := redeem_of_holder hbarrier hkeeps hholder
  have hdatabase : t.desk.store.database =
      (s.desk.store.database.dropValue value).changeOwner token.email change := by
    rw [hstore]
    rfl
  have hcommit : (s.desk.store.settlingOf t.desk.store.database).commit = none := by
    rw [hdatabase]
    exact hfree.commits rfl
  refine ⟨changed, _, hpublic, asUnit_of_ok hfree.opened hfree.unlocked hredeem hcommit, ?_⟩
  rw [hdatabase]

/-- Without an owner, the unit of work leaves everything as it is. -/
theorem asUnit_redeem_of_no_holder {e : IdentityError} (hfree : s.desk.store.Free)
    (hkeeps : UserRow.Keeps change)
    (hnone : s.desk.store.database.holder? value type now context orphaned = .error e) :
    ∃ e' after,
      asUnit (redeem value type now orphaned (Query.updateUser context · change)) s =
        (.error e', after) ∧
      (e' = e ∨ ∃ cause cause', e = .store cause ∧ e' = .store cause') ∧
      after.desk.store = s.desk.store := by
  have hbarrier : s.inUnit.desk.store.writeBarrier = none := hfree.inUnit.writeBarrier
  obtain ⟨e', t, hredeem, hsame⟩ := redeem_of_no_holder hbarrier hkeeps hnone
  exact ⟨e', _, asUnit_of_error hfree.opened hfree.unlocked hredeem hfree.rollsBack, hsame, rfl⟩

end Service

/-! ### Tables whose keys are in order -/

namespace Database

/-- Token values, where there are any, and the emails of users are distinct, and every token is for
an email. -/
structure KeysInOrder (db : Database) : Prop where
  values : ∀ rows, db.tokens = some rows → ∀ a ∈ rows, ∀ b ∈ rows, a.value = b.value →
    a.value ≠ .null → a = b
  addressees : ∀ rows, db.tokens = some rows → ∀ row ∈ rows, row.email ≠ .null
  emails : ∀ rows, db.users = some rows → ∀ a ∈ rows, ∀ b ∈ rows, a.email = b.email → a = b

/-- The row is that of a live token with a value and a type, `owner` is that of its owner, and both
can be read. -/
structure Redeemable (db : Database) (value : String) (type : TokenType) (now : Instant)
    (row : TokenRow) (owner : UserRow) : Prop where
  live : ∃ rows, db.tokens = some rows ∧ row ∈ rows ∧ row.value = .text value ∧
    row.type = type.text ∧ row.expiresAt.exceeds now = true
  owned : ∃ rows, db.users = some rows ∧ owner ∈ rows ∧ owner.email = row.email
  legible : ∃ token user, row.decode = .ok token ∧ owner.decode = .ok user

def redeemed (db : Database) (row : TokenRow) (owner : UserRow) (change : UserRow → UserRow) :
    Database :=
  { db with
    tokens := db.tokens.map fun rows => rows.filter (· ≠ row)
    users := db.users.map fun rows => rows.map fun user => if user = owner then change user else user }

variable {db : Database} {value context : String} {type : TokenType} {now : Instant}
  {orphaned : IdentityError} {row : TokenRow} {owner : UserRow}

/-! The constraints under which rows are added keep the keys in order. -/

theorem KeysInOrder.insertUser {after : Database} (hkeys : db.KeysInOrder)
    (hok : db.insertUser owner = .ok after) : after.KeysInOrder := by
  unfold Database.insertUser at hok
  cases husers : db.users with
  | none =>
    rw [husers] at hok
    cases hok
  | some rows =>
    simp only [husers] at hok
    cases hfault : UserRow.fault? rows owner with
    | some e =>
      rw [hfault] at hok
      cases hok
    | none =>
      rw [hfault] at hok
      cases hok
      have hfree : ∀ row ∈ rows, row.email ≠ owner.email := by
        intro row hrow hsame
        have hany : rows.any (·.email = owner.email) = true :=
          List.any_eq_true.mpr ⟨row, hrow, decide_eq_true hsame⟩
        rw [UserRow.fault?, if_pos hany] at hfault
        split at hfault
        · cases hfault
        split at hfault
        · cases hfault
        split at hfault <;> cases hfault
      refine ⟨hkeys.values, hkeys.addressees, ?_⟩
      rintro _ ⟨⟩ a ha b hb hsame
      rcases List.mem_append.mp ha with ha | ha <;> rcases List.mem_append.mp hb with hb | hb
      · exact hkeys.emails rows husers a ha b hb hsame
      · rw [List.mem_singleton.mp hb] at hsame
        exact absurd hsame (hfree a ha)
      · rw [List.mem_singleton.mp ha] at hsame
        exact absurd hsame.symm (hfree b hb)
      · rw [List.mem_singleton.mp ha, List.mem_singleton.mp hb]

theorem KeysInOrder.insertToken {after : Database} (hkeys : db.KeysInOrder)
    (hok : db.insertToken row = .ok after) : after.KeysInOrder := by
  unfold Database.insertToken at hok
  cases htokens : db.tokens with
  | none =>
    rw [htokens] at hok
    cases hok
  | some rows =>
    simp only [htokens] at hok
    cases hfault : TokenRow.fault? rows row with
    | some e =>
      rw [hfault] at hok
      cases hok
    | none =>
      rw [hfault] at hok
      cases hok
      unfold TokenRow.fault? at hfault
      split at hfault
      · cases hfault
      next hemail =>
      split at hfault
      · cases hfault
      split at hfault
      · cases hfault
      next htaken =>
      have hfree : ∀ other ∈ rows, other.value = row.value → row.value = .null := by
        intro other hother hsame
        by_contra hvalue
        have hany : rows.any (·.value = row.value) = true :=
          List.any_eq_true.mpr ⟨other, hother, decide_eq_true hsame⟩
        exact htaken (by simp [hvalue, hany])
      refine ⟨?_, ?_, hkeys.emails⟩
      · rintro _ ⟨⟩ a ha b hb hsame hvalue
        rcases List.mem_append.mp ha with ha | ha <;> rcases List.mem_append.mp hb with hb | hb
        · exact hkeys.values rows htokens a ha b hb hsame hvalue
        · rw [List.mem_singleton.mp hb] at hsame
          exact absurd (hsame.trans (hfree a ha hsame)) hvalue
        · rw [List.mem_singleton.mp ha] at hsame hvalue
          exact absurd (hfree b hb hsame.symm) hvalue
        · rw [List.mem_singleton.mp ha, List.mem_singleton.mp hb]
      · rintro _ ⟨⟩ other hother
        rcases List.mem_append.mp hother with hother | hother
        · exact hkeys.addressees rows htokens other hother
        · rw [List.mem_singleton.mp hother]
          exact hemail

theorem find?_eq_some_of_unique {α : Type} {p : α → Bool} {as : List α} {a : α} (hmem : a ∈ as)
    (hp : p a = true) (hunique : ∀ b ∈ as, p b = true → b = a) : as.find? p = some a := by
  cases hfind : as.find? p with
  | none => exact absurd hp (List.find?_eq_none.mp hfind a hmem)
  | some b => rw [hunique b (List.mem_of_find?_eq_some hfind) (List.find?_some hfind)]

theorem KeysInOrder.email_of_decode (hkeys : db.KeysInOrder) {rows : List TokenRow} {token : Token}
    (hrows : db.tokens = some rows) (hrow : row ∈ rows) (hdecode : row.decode = .ok token) :
    row.email = .text token.email := by
  obtain ⟨-, hemail, -⟩ := TokenRow.cells_of_decode hdecode
  rcases Cell.readText_eq_ok.mp hemail with htext | ⟨hnull, -⟩
  · exact htext
  · exact absurd hnull (hkeys.addressees rows hrows row hrow)

theorem KeysInOrder.find?_isLiveAs (hkeys : db.KeysInOrder) {rows : List TokenRow}
    (hrows : db.tokens = some rows) (hrow : row ∈ rows)
    (hlive : row.isLiveAs value type now = true) :
    rows.find? (·.isLiveAs value type now) = some row := by
  refine find?_eq_some_of_unique hrow hlive fun other hother hlive' => ?_
  have hvalue := (TokenRow.isLiveAs_iff.mp hlive).1
  have hvalue' := (TokenRow.isLiveAs_iff.mp hlive').1
  exact hkeys.values rows hrows other hother row hrow (hvalue'.trans hvalue.symm)
    (by rw [hvalue']; exact Cell.noConfusion)

/-- Where the keys are in order, a token and its owner are found if and only if there are legible
rows for them. -/
theorem KeysInOrder.holder?_of_redeemable (hkeys : db.KeysInOrder)
    (hredeemable : db.Redeemable value type now row owner) :
    ∃ token user, db.holder? value type now context orphaned = .ok (token, user) ∧
      row.email = .text token.email ∧ owner.decode = .ok user := by
  obtain ⟨⟨tokens, htokens, hrow, hvalue, htype, hexceeds⟩, ⟨users, husers, howner, howned⟩,
    ⟨token, user, hdecode, hdecode'⟩⟩ := hredeemable
  have hemail := hkeys.email_of_decode htokens hrow hdecode
  have hlive : row.isLiveAs value type now = true :=
    TokenRow.isLiveAs_iff.mpr ⟨hvalue, htype, hexceeds⟩
  have hfind := hkeys.find?_isLiveAs htokens hrow hlive
  have hfind' : users.find? (·.hasEmail token.email) = some owner := by
    refine find?_eq_some_of_unique howner (decide_eq_true (howned.trans hemail)) ?_
    intro other hother hsame
    exact hkeys.emails users husers other hother owner howner
      ((of_decide_eq_true hsame).trans (howned.trans hemail).symm)
  refine ⟨token, user, holder?_eq_ok.mpr ⟨?_, ?_⟩, hemail, hdecode'⟩
  · exact token?_eq_ok_some.mpr ⟨tokens, htokens, row, hfind, hdecode⟩
  · exact owner?_eq_ok_some.mpr ⟨users, husers, owner, hfind', hdecode'⟩

/-- What the statements find is what is redeemable, since the keys tell rows apart. -/
theorem KeysInOrder.redeemable_of_holder? (hkeys : db.KeysInOrder) {token : Token} {user : User}
    (hholder : db.holder? value type now context orphaned = .ok (token, user)) :
    ∃ row owner, db.Redeemable value type now row owner := by
  obtain ⟨htoken, howner⟩ := holder?_eq_ok.mp hholder
  obtain ⟨tokens, htokens, row, hfind, hdecode⟩ := token?_eq_ok_some.mp htoken
  obtain ⟨users, husers, owner, hfind', hdecode'⟩ := owner?_eq_ok_some.mp howner
  have hlive := List.find?_some hfind
  have hrow := List.mem_of_find?_eq_some hfind
  have hemail := List.find?_some hfind'
  refine ⟨row, owner, ⟨tokens, htokens, hrow, TokenRow.isLiveAs_iff.mp hlive⟩,
    ⟨users, husers, List.mem_of_find?_eq_some hfind', ?_⟩, ⟨token, user, hdecode, hdecode'⟩⟩
  exact (of_decide_eq_true hemail).trans (hkeys.email_of_decode htokens hrow hdecode).symm

/-- Where the keys are in order, the rows with an email are one row. -/
theorem KeysInOrder.map_hasEmail (hkeys : db.KeysInOrder) {rows : List UserRow}
    (hrows : db.users = some rows) (howner : owner ∈ rows) {email : String}
    (hemail : owner.email = .text email) (change : UserRow → UserRow) :
    (rows.map fun user => if user.hasEmail email then change user else user) =
      rows.map fun user => if user = owner then change user else user := by
  refine List.map_congr_left fun user huser => ?_
  by_cases hsame : user = owner
  · have hhas : user.hasEmail email = true := decide_eq_true (by rw [hsame, hemail])
    rw [if_pos hhas, if_pos hsame]
  · have hhas : ¬user.hasEmail email = true := by
      intro hhas
      exact hsame (hkeys.emails rows hrows user huser owner howner
        ((of_decide_eq_true hhas).trans hemail.symm))
    rw [if_neg hhas, if_neg hsame]

theorem KeysInOrder.dropValue_changeOwner (hkeys : db.KeysInOrder)
    (hredeemable : db.Redeemable value type now row owner) {email : String}
    (hemail : row.email = .text email) (change : UserRow → UserRow) :
    (db.dropValue value).changeOwner email change = db.redeemed row owner change := by
  obtain ⟨⟨tokens, htokens, hrow, hvalue, -, -⟩, ⟨users, husers, howner, howned⟩, -⟩ := hredeemable
  -- Rows are dropped by their value and changed by their email: the keys single out one each.
  have hdrop : (tokens.filter fun other => !other.hasValue value) = tokens.filter (· ≠ row) := by
    refine List.filter_congr fun other hother => ?_
    by_cases hsame : other = row
    · simp [hsame, TokenRow.hasValue, hvalue]
    · have hne : other.value ≠ .text value := by
        intro hother'
        exact hsame (hkeys.values tokens htokens other hother row hrow
          (hother'.trans hvalue.symm) (by rw [hother']; exact Cell.noConfusion))
      simp [hsame, TokenRow.hasValue, hne]
  have hchange := hkeys.map_hasEmail husers howner (howned.trans hemail) change
  simp only [dropValue, changeOwner, redeemed, htokens, husers, Option.map_some, hdrop, hchange]

end Database

/-! ### Exactly what redeeming does -/

/-- A unit of work that succeeds for what is redeemable, takes just that token away and changes just
its owner, and otherwise leaves the store as it is. -/
structure Procedure.Redeems (unit : Procedure User) (s : Session) (value : String)
    (type : TokenType) (now : Instant) (change : UserRow → UserRow) (orphaned : IdentityError) :
    Prop where
  succeeds_iff : (∃ user after, unit s = (.ok user, after)) ↔
    ∃ row owner, s.desk.store.database.Redeemable value type now row owner
  changes : ∀ user after row owner, unit s = (.ok user, after) →
    s.desk.store.database.Redeemable value type now row owner →
    owner.public? = some user.toPublic ∧ after.desk.store = { s.desk.store with
      database := s.desk.store.database.redeemed row owner change }
  fails : ∀ e after, unit s = (.error e, after) → after.desk.store = s.desk.store
  dead : ∀ rows, s.desk.store.database.tokens = some rows →
    (∀ row ∈ rows, row.isLiveAs value type now = false) → (unit s).1 = .error .invalidToken
  orphan : ∀ tokens users row token, s.desk.store.database.tokens = some tokens →
    s.desk.store.database.users = some users → row ∈ tokens →
    row.isLiveAs value type now = true → row.decode = .ok token →
    (∀ owner ∈ users, owner.email ≠ row.email) → (unit s).1 = .error orphaned

namespace Service

open Procedure

variable {s : Session} {value context : String} {type : TokenType} {now : Instant}
  {orphaned : IdentityError} {change : UserRow → UserRow}

/-- It then answers why there is none. -/
theorem answer_of_no_holder {e : IdentityError} (hfree : s.desk.store.Free)
    (hkeeps : UserRow.Keeps change) (hplain : ∀ cause, e ≠ .store cause)
    (hnone : s.desk.store.database.holder? value type now context orphaned = .error e) :
    (asUnit (redeem value type now orphaned (Query.updateUser context · change)) s).1 =
      .error e := by
  obtain ⟨e', after, hunit, hsame, -⟩ := asUnit_redeem_of_no_holder hfree hkeeps hnone
  rw [hunit]
  rcases hsame with rfl | ⟨cause, -, hstore, -⟩
  · rfl
  · exact absurd hstore (hplain cause)

/-- The argument for both types of token, with the change of the owner as a parameter. -/
theorem redeems_of_update (hfree : s.desk.store.Free)
    (hkeys : s.desk.store.database.KeysInOrder) (hkeeps : UserRow.Keeps change)
    (horphaned : ∀ cause, orphaned ≠ .store cause) :
    (asUnit (redeem value type now orphaned (Query.updateUser context · change))).Redeems
      s value type now change orphaned where
  succeeds_iff := by
    cases hholder : s.desk.store.database.holder? value type now context orphaned with
    | error e =>
      obtain ⟨e', after, hunit, -, -⟩ := asUnit_redeem_of_no_holder hfree hkeeps hholder
      refine iff_of_false ?_ ?_
      · rintro ⟨user, after', hok⟩
        rw [hunit] at hok
        cases hok
      · rintro ⟨row, owner, hredeemable⟩
        obtain ⟨token, user, hok, -, -⟩ := hkeys.holder?_of_redeemable hredeemable
        rw [hholder] at hok
        cases hok
    | ok holder =>
      obtain ⟨changed, after, -, hunit, -⟩ := asUnit_redeem_of_holder hfree hkeeps hholder
      exact iff_of_true ⟨changed, after, hunit⟩ (hkeys.redeemable_of_holder? hholder)
  changes := by
    intro user after row owner hok hredeemable
    obtain ⟨token, found, hholder, hemail, hdecode⟩ := hkeys.holder?_of_redeemable hredeemable
    obtain ⟨changed, after', hpublic, hunit, hstore⟩ :=
      asUnit_redeem_of_holder hfree hkeeps hholder
    rw [hunit] at hok
    cases hok
    refine ⟨?_, ?_⟩
    · rw [UserRow.public?_of_decode hdecode, hpublic]
    · rw [hstore, hkeys.dropValue_changeOwner hredeemable hemail]
  fails := by
    intro e after herror
    cases hholder : s.desk.store.database.holder? value type now context orphaned with
    | error cause =>
      obtain ⟨e', after', hunit, -, hstore⟩ := asUnit_redeem_of_no_holder hfree hkeeps hholder
      rw [hunit] at herror
      cases herror
      exact hstore
    | ok holder =>
      obtain ⟨changed, after', -, hunit, -⟩ := asUnit_redeem_of_holder hfree hkeeps hholder
      rw [hunit] at herror
      cases herror
  dead := by
    intro rows hrows hdead
    refine answer_of_no_holder hfree hkeeps nofun ?_
    have hfind : rows.find? (·.isLiveAs value type now) = none :=
      List.find?_eq_none.mpr fun row hrow => by simp [hdead row hrow]
    simp [Database.holder?, Database.token?, hrows, hfind]
  orphan := by
    intro tokens users row token htokens husers hrow hlive hdecode halone
    refine answer_of_no_holder hfree hkeeps horphaned ?_
    have hfind := hkeys.find?_isLiveAs htokens hrow hlive
    have hemail := hkeys.email_of_decode htokens hrow hdecode
    have hnobody : users.find? (·.hasEmail token.email) = none := by
      refine List.find?_eq_none.mpr fun owner howner hhas => ?_
      exact halone owner howner ((of_decide_eq_true hhas).trans hemail.symm)
    have htoken := Database.token?_eq_ok_some.mpr ⟨tokens, htokens, row, hfind, hdecode⟩
    simp [Database.holder?, htoken, Database.owner?, husers, hnobody]

/-- On any tables, confirming an address and setting a new password use up just the token and change
just its owner, if both of them can be read, and otherwise nothing. -/
theorem redeems_exactly (hfree : s.desk.store.Free) (hkeys : s.desk.store.database.KeysInOrder)
    (around : Surroundings) (value : String) (now : Instant) (hashed : HashedPassword) :
    (asUnit (verify around value)).Redeems s value .signup around.now (·.stamp around.now)
      .invalidToken ∧
    (asUnit (replacePasswordWithToken now value hashed)).Redeems s value .passwordReset now
      (fun row => { row with password := hashed }) .emailNotFound := by
  rw [verify_eq_redeem, replacePasswordWithToken_eq_redeem]
  constructor
  · exact redeems_of_update hfree hkeys (UserRow.keeps_stamp around.now) nofun
  · exact redeems_of_update hfree hkeys (UserRow.keeps_password hashed) nofun

def ofStamp (stamp : Cell) : Session where
  desk.store.database := {
    users := some [⟨.text "u", .text "a@b", .text "n", ⟨[1], [2]⟩, stamp⟩]
    tokens := some [⟨.text "s", "SIGNUP", .text "a@b", .integer 9⟩,
      ⟨.text "r", "RESET_PASSWORD", .text "a@b", .integer 9⟩] }
  cache := .unbounded

theorem redeems_of_live_signup :
    ∃ user after, asUnit (verify (Request.at 5 .purgeExpiredTokens).around "s")
        (ofStamp (.integer 0)) = (.ok user, after) ∧
      after.desk.store.database = {
        users := some [⟨.text "u", .text "a@b", .text "n", ⟨[1], [2]⟩, .integer 5⟩]
        tokens := some [⟨.text "r", "RESET_PASSWORD", .text "a@b", .integer 9⟩] } := by
  have hkeys : (ofStamp (.integer 0)).desk.store.database.KeysInOrder := by
    refine ⟨?_, ?_, ?_⟩ <;> rintro rows ⟨⟩ <;> decide
  have hredeemable : (ofStamp (.integer 0)).desk.store.database.Redeemable "s" .signup 5
      ⟨.text "s", "SIGNUP", .text "a@b", .integer 9⟩
      ⟨.text "u", .text "a@b", .text "n", ⟨[1], [2]⟩, .integer 0⟩ :=
    ⟨⟨_, rfl, by decide, rfl, rfl, by decide⟩, ⟨_, rfl, by decide, rfl⟩, ⟨_, _, rfl, rfl⟩⟩
  obtain ⟨hverify, -⟩ := redeems_exactly (s := ofStamp (.integer 0)) ⟨⟨rfl, rfl, rfl⟩, rfl, rfl⟩ hkeys
    (Request.at 5 .purgeExpiredTokens).around "s" 5 ⟨[], []⟩
  obtain ⟨user, after, hok⟩ := hverify.succeeds_iff.mpr ⟨_, _, hredeemable⟩
  obtain ⟨-, hstore⟩ := hverify.changes user after _ _ hok hredeemable
  refine ⟨user, after, hok, ?_⟩
  rw [hstore]
  decide

/-- A live token of a user is not redeemed if the user's stamp cannot be read. -/
theorem not_redeemed_of_text_stamp :
    (∃ row ∈ ((ofStamp (.text "abc")).desk.store.database.tokens).getD [],
      row.isLiveAs "s" .signup 5 = true ∧
        ∃ owner ∈ ((ofStamp (.text "abc")).desk.store.database.users).getD [],
          owner.email = row.email) ∧
      (asUnit (verify (Request.at 5 .purgeExpiredTokens).around "s") (ofStamp (.text "abc"))).1 =
        .error (.store (.query "failed to decode the user row"
          (.mismatchedColumn "verified_at" "INTEGER" "TEXT"))) := by
  decide +kernel

end Service

end IdentityLifecycle
