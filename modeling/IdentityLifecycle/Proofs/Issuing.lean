import IdentityLifecycle.Proofs.Expiry
import IdentityLifecycle.Proofs.Holders
import IdentityLifecycle.Proofs.Settling
import IdentityLifecycle.Proofs.Statements

/-!
# Issuing a token

A new token takes the place of all rows in its slot, whatever else the table holds. Its value may be
that of a row in the slot, since those are gone before the new one comes, but not that of a row
outside. From then on it is found up to its expiry, and that is never brought forward by a lack of
room for the sum.
-/

namespace IdentityLifecycle

/-- Only rows in the slot of the new token have its value. -/
def TokenRow.RoomFor (rows : List TokenRow) (new : Token) : Prop :=
  ∀ row ∈ rows, row.value = .text new.value → row.isFor new.email new.type = true

def TokenRow.supersede (rows : List TokenRow) (new : Token) : List TokenRow :=
  rows.filter (fun row => !row.isFor new.email new.type) ++ [new.row]

/-- The token is in the table, and is the only one there with its value. -/
def Database.HasToken (db : Database) (token : Token) : Prop :=
  ∃ rows, db.tokens = some rows ∧ rows.filter (·.hasValue token.value) = [token.row]

namespace TokenRow

variable {rows : List TokenRow} {new : Token}

theorem isFor_of_row (new : Token) : new.row.isFor new.email new.type = true := by
  simp [isFor, Token.row]

theorem filter_isFor_supersede (rows : List TokenRow) (new : Token) :
    (supersede rows new).filter (·.isFor new.email new.type) = [new.row] := by
  rw [supersede, List.filter_append, List.filter_filter]
  simp [isFor_of_row]

/-- The rows outside the slot stay, in their order. -/
theorem filter_not_isFor_supersede (rows : List TokenRow) (new : Token) :
    ((supersede rows new).filter fun row => !row.isFor new.email new.type) =
      rows.filter fun row => !row.isFor new.email new.type := by
  rw [supersede, List.filter_append, List.filter_filter]
  simp [isFor_of_row]

/-- Once the slot is empty, no row has the value of the new token. -/
theorem RoomFor.value_ne (hroom : RoomFor rows new) :
    ∀ row ∈ rows.filter (fun row => !row.isFor new.email new.type),
      row.value ≠ .text new.value := by
  intro row hrow hvalue
  obtain ⟨hmem, hother⟩ := List.mem_filter.mp hrow
  rw [hroom row hmem hvalue] at hother
  cases hother

/-- Where there is no room, a row outside the slot has the value. -/
theorem exists_value_of_no_room (hroom : ¬RoomFor rows new) :
    ∃ row ∈ rows.filter (fun row => !row.isFor new.email new.type),
      row.value = .text new.value := by
  simp only [RoomFor, Classical.not_forall] at hroom
  obtain ⟨row, hmem, hvalue, hother⟩ := hroom
  exact ⟨row, List.mem_filter.mpr ⟨hmem, by simpa using hother⟩, hvalue⟩

theorem RoomFor.filter_hasValue (hroom : RoomFor rows new) :
    (supersede rows new).filter (·.hasValue new.value) = [new.row] := by
  have hnone : (rows.filter fun row => !row.isFor new.email new.type).filter
      (·.hasValue new.value) = [] :=
    List.filter_eq_nil_iff.mpr fun row hrow hvalue =>
      hroom.value_ne row hrow (of_decide_eq_true hvalue)
  rw [supersede, List.filter_append, hnone]
  simp [hasValue, Token.row]

end TokenRow

/-! ### The statements -/

def Desk.withTokens (desk : Desk) (rows : List TokenRow) : Desk :=
  { desk with store.database.tokens := some rows }

namespace Query

variable {desk : Desk} {rows : List TokenRow}

theorem deleteTokens_of_rows (context : String) (drop : TokenRow → Bool)
    (hbarrier : desk.store.writeBarrier = none) (hrows : desk.store.database.tokens = some rows) :
    deleteTokens context drop desk =
      (.ok (rows.countP drop), desk.withTokens (rows.filter fun row => !drop row)) := by
  simp [deleteTokens, Step.bind_apply, tokensFor, hrows, writing, hbarrier, setTokens,
    Desk.withTokens]

/-- The constraint that a new token breaks is the one on values. -/
theorem fault?_of_token (rows : List TokenRow) (new : Token) :
    TokenRow.fault? rows new.row =
      if rows.any (·.value = .text new.value) then
        some (.notUnique DatabaseError.primaryKeyCode "tokens.token")
      else none := rfl

theorem createToken_of_free {new : Token} (hbarrier : desk.store.writeBarrier = none)
    (hrows : desk.store.database.tokens = some rows)
    (hfree : ∀ row ∈ rows, row.value ≠ .text new.value) :
    createToken new desk = (.ok (), desk.withTokens (rows ++ [new.row])) := by
  have hfault : TokenRow.fault? rows new.row = none := by
    rw [fault?_of_token, if_neg (by simpa using hfree)]
  simp [createToken, Step.bind_apply, tokensFor, hrows, writing, hbarrier, insert,
    Database.insertToken, hfault, Desk.withTokens]

theorem createToken_of_taken {new : Token} (hbarrier : desk.store.writeBarrier = none)
    (hrows : desk.store.database.tokens = some rows)
    (htaken : ∃ row ∈ rows, row.value = .text new.value) :
    createToken new desk = (.error (.conflict "failed to create the token"), desk) := by
  have hfault : TokenRow.fault? rows new.row =
      some (.notUnique DatabaseError.primaryKeyCode "tokens.token") := by
    rw [fault?_of_token, if_pos (by simpa using htaken)]
  have hunique : (DatabaseError.notUnique DatabaseError.primaryKeyCode "tokens.token").isNotUnique
      = true := rfl
  simp [createToken, Step.bind_apply, tokensFor, hrows, writing, hbarrier, insert,
    Database.insertToken, hfault, hunique]

end Query

/-! ### The ledger -/

namespace Ledger

variable {ledger : Ledger} {email : String} {type : TokenType} {now : Instant}
  {random : ByteSource} {desk : Desk} {rows : List TokenRow}

/-- What is left of issuing a token once its slot is empty. -/
theorem issue_of_rows (ledger : Ledger) (email : String) (type : TokenType) (now : Instant)
    (random : ByteSource) (hbarrier : desk.store.writeBarrier = none)
    (hrows : desk.store.database.tokens = some rows) :
    ∃ entry, ledger.issue email type now random desk =
      (do
        Query.createToken (ledger.newToken email type now random)
        Query.report entry
        return ledger.newToken email type now random)
      (desk.withTokens (rows.filter fun row => !row.isFor email type)) := by
  have hdelete := Query.deleteTokens_of_rows "failed to delete the tokens for the email"
    (·.isFor email type) hbarrier hrows
  rw [issue, Query.deleteTokensFor, Step.bind_of_ok hdelete]
  exact ⟨_, rfl⟩

/-- With room for it, the token takes the place of its slot. -/
theorem issue_of_room (hbarrier : desk.store.writeBarrier = none)
    (hrows : desk.store.database.tokens = some rows)
    (hroom : TokenRow.RoomFor rows (ledger.newToken email type now random)) :
    ∃ after, ledger.issue email type now random desk =
      (.ok (ledger.newToken email type now random), after) ∧ after.store = { desk.store with
        database.tokens :=
          some (TokenRow.supersede rows (ledger.newToken email type now random)) } := by
  obtain ⟨entry, hissue⟩ := issue_of_rows ledger email type now random hbarrier hrows
  have hcreate : Query.createToken (ledger.newToken email type now random)
      (desk.withTokens (rows.filter fun row => !row.isFor email type)) = (.ok (), _) :=
    Query.createToken_of_free hbarrier rfl hroom.value_ne
  rw [hissue, Step.bind_of_ok hcreate]
  exact ⟨_, rfl, rfl⟩

/-- Without room, issuing ends in a conflict. -/
theorem issue_of_no_room (hbarrier : desk.store.writeBarrier = none)
    (hrows : desk.store.database.tokens = some rows)
    (hroom : ¬TokenRow.RoomFor rows (ledger.newToken email type now random)) :
    ∃ after, ledger.issue email type now random desk =
      (.error (.conflict "failed to create the token"), after) := by
  obtain ⟨entry, hissue⟩ := issue_of_rows ledger email type now random hbarrier hrows
  have hcreate : Query.createToken (ledger.newToken email type now random)
      (desk.withTokens (rows.filter fun row => !row.isFor email type)) = (.error _, _) :=
    Query.createToken_of_taken hbarrier rfl (TokenRow.exists_value_of_no_room hroom)
  rw [hissue, Step.bind_apply, hcreate]
  exact ⟨_, rfl⟩

/-- An issue that succeeds has found the table of tokens, with room for the new one. -/
theorem issue_eq_ok {token : Token} {after : Desk}
    (hissue : ledger.issue email type now random desk = (.ok token, after)) :
    token = ledger.newToken email type now random ∧
      ∃ rows, TokenRow.RoomFor rows token ∧ after.store = { desk.store with
        database.tokens := some (TokenRow.supersede rows token) } := by
  cases hrows : desk.store.database.tokens with
  | none =>
    simp [issue, Query.deleteTokensFor, Query.deleteTokens, Step.bind_apply, Query.tokensFor,
      hrows] at hissue
  | some rows =>
    cases hbarrier : desk.store.writeBarrier with
    | some e =>
      simp [issue, Query.deleteTokensFor, Query.deleteTokens, Step.bind_apply, Query.tokensFor,
        hrows, Query.writing, hbarrier] at hissue
    | none =>
      by_cases hroom : TokenRow.RoomFor rows (ledger.newToken email type now random)
      · obtain ⟨left, hok, hstore⟩ := issue_of_room hbarrier hrows hroom
        rw [hok] at hissue
        cases hissue
        exact ⟨rfl, rows, hroom, hstore⟩
      · obtain ⟨left, herror⟩ := issue_of_no_room hbarrier hrows hroom
        rw [herror] at hissue
        cases hissue

/-- Within a unit of work, issuing a token replaces the rows of one slot, or it fails and the unit
takes back that they were deleted. -/
theorem issue_settles {store held : Store} {unit : WriteUnit}
    (hbegin : store.begin = .ok (unit, held)) (hwritable : store.readOnly = false)
    (hrows : store.database.tokens = some rows) (settings : TokenSettings) (email : String)
    (type : TokenType) (now : Instant) (random : ByteSource) (log : Log) :
    let token : Token := {
      value := (ofSettings settings).generateValue random
      type, email
      expiresAt := now.after (lifetimeOfSeconds (settings.ttlSecs type)) }
    let issued := (ofSettings settings).issue email type now random { store := unit.store, log }
    let settled :=
      ({ unit with database := issued.2.store.database } : WriteUnit).finish held issued.1
    ((∃ answer, issued.1 = .ok answer) ↔
      ∀ row ∈ rows, row.value = .text token.value → row.isFor email type = true) ∧
    (∀ answer, issued.1 = .ok answer → answer = token ∧
      ∃ rows', settled = (.ok token, { store with database.tokens := some rows' }) ∧
        rows'.filter (·.isFor email type) = [token.row] ∧
        (rows'.filter fun row => !row.isFor email type) =
          rows.filter fun row => !row.isFor email type) ∧
    ∀ e, issued.1 = .error e →
      e = .conflict "failed to create the token" ∧ settled = (.error e, store) := by
  intro token issued settled
  obtain ⟨-, hunit, -⟩ := Store.begin_eq_ok hbegin
  have htoken : (ofSettings settings).newToken email type now random = token := by
    rw [newToken, lifetime_ofSettings]
  have hbarrier : unit.store.writeBarrier = none := by
    simp [Store.writeBarrier, hunit, WriteUnit.store, hwritable]
  have hdatabase : unit.store.database = store.database := by
    rw [hunit]
    rfl
  have hrows' : unit.store.database.tokens = some rows := by rw [hdatabase, hrows]
  by_cases hroom : TokenRow.RoomFor rows token
  · obtain ⟨after, hok, hafter⟩ : ∃ after, (ofSettings settings).issue email type now random
        { store := unit.store, log } = (.ok token, after) ∧ after.store = { unit.store with
          database.tokens := some (TokenRow.supersede rows token) } := by
      rw [← htoken] at hroom ⊢
      exact issue_of_room hbarrier hrows' hroom
    have hissued : issued = (.ok token, after) := hok
    refine ⟨iff_of_true ⟨token, congrArg Prod.fst hissued⟩ hroom, ?_, ?_⟩
    · intro answer hanswer
      rw [hissued] at hanswer
      cases hanswer
      refine ⟨rfl, TokenRow.supersede rows token, ?_, TokenRow.filter_isFor_supersede rows token,
        TokenRow.filter_not_isFor_supersede rows token⟩
      have hcommit : ({} : Settling).commit = none := rfl
      simp only [settled, hissued, WriteUnit.finish_ok_of_none hcommit,
        WriteUnit.commit_of_begin hbegin, hafter, hdatabase]
    · intro e herror
      rw [hissued] at herror
      cases herror
  · obtain ⟨after, herror⟩ : ∃ after, (ofSettings settings).issue email type now random
        { store := unit.store, log } =
          (.error (.conflict "failed to create the token"), after) := by
      rw [← htoken] at hroom
      exact issue_of_no_room hbarrier hrows' hroom
    have hissued : issued = (.error (.conflict "failed to create the token"), after) := herror
    refine ⟨iff_of_false ?_ hroom, ?_, ?_⟩
    · rintro ⟨answer, hok⟩
      rw [hissued] at hok
      cases hok
    · intro answer hok
      rw [hissued] at hok
      cases hok
    · intro e he
      rw [hissued] at he
      cases he
      refine ⟨rfl, ?_⟩
      have hrollback : ({} : Settling).rollback = none := rfl
      simp only [settled, hissued, WriteUnit.finish_error_of_none hrollback,
        WriteUnit.rollback_of_begin hbegin]

/-- A row in the slot gives its value up to the new token, and one outside the slot does not. -/
theorem issue_settles_with_collisions :
    let inside : TokenRow := ⟨.text "AA", "SIGNUP", .text "a@b", .integer 1⟩
    let other : TokenRow := ⟨.text "BB", "SIGNUP", .text "a@b", .text "soon"⟩
    let outside : TokenRow := ⟨.text "AA", "RESET_PASSWORD", .text "a@b", .integer 7⟩
    let issue (rows : List TokenRow) := (ofSettings { tokenBytes := 1 }).issue "a@b" .signup 5
      (fun _ => 0) { store := { database := { tokens := some rows } } }
    (∃ answer, (issue [inside, other]).1 = .ok answer) ∧
      ¬∃ answer, (issue [inside, outside]).1 = .ok answer := by
  intro inside other outside issue
  have hbegin : ∀ rows : List TokenRow, ({ database := { tokens := some rows } } : Store).begin =
      .ok ({ database := { tokens := some rows } },
        { database := { tokens := some rows }, locked := true }) := fun _ => rfl
  obtain ⟨hinside, -⟩ := issue_settles (hbegin [inside, other]) rfl rfl { tokenBytes := 1 } "a@b"
    .signup 5 (fun _ => 0) {}
  obtain ⟨houtside, -⟩ := issue_settles (hbegin [inside, outside]) rfl rfl { tokenBytes := 1 }
    "a@b" .signup 5 (fun _ => 0) {}
  constructor
  · refine hinside.mpr ?_
    decide
  · refine fun hok => absurd (houtside.mp hok) ?_
    decide

/-! ### Expiry -/

/-- A token that was issued is in the table, and no other has its value. -/
theorem hasToken_of_issue {token : Token} {after : Desk}
    (hissue : ledger.issue email type now random desk = (.ok token, after)) :
    after.store.database.HasToken token := by
  obtain ⟨-, rows, hroom, hafter⟩ := issue_eq_ok hissue
  refine ⟨_, ?_, hroom.filter_hasValue⟩
  rw [hafter]

end Ledger

/-- The expiry alone decides whether a token is found that is the only one with its value. -/
theorem Database.HasToken.token? {db : Database} {token : Token} (hhas : db.HasToken token)
    (t : Instant) :
    db.token? token.value token.type t =
      .ok (if t < token.expiresAt then some token else none) := by
  obtain ⟨rows, hrows, halone⟩ := hhas
  have hfind : rows.find? (·.isLiveAs token.value token.type t) =
      [token.row].find? (·.isLiveAs token.value token.type t) := by
    rw [← halone, List.find?_filter]
    congr 1
    funext row
    by_cases hvalue : row.hasValue token.value = true
    · simp [hvalue]
    · simp [TokenRow.isLiveAs, hvalue]
  have hlive : token.row.isLiveAs token.value token.type t = decide (t < token.expiresAt) := by
    simp [Token.isLiveAs_row, Token.isLiveAs, Token.isLive]
  unfold Database.token?
  simp only [hrows, hfind, List.find?_singleton, hlive]
  by_cases ht : t < token.expiresAt
  · simp [ht, Token.decode_row, Except.map]
  · simp [ht]

namespace Ledger

variable {email : String} {type : TokenType} {now : Instant} {random : ByteSource} {desk : Desk}

/-- It expires its lifetime later, or at the last instant. -/
theorem toInt_expiresAt_of_issue {settings : TokenSettings} {token : Token} {after : Desk}
    (hnow : 0 ≤ now)
    (hissue : (ofSettings settings).issue email type now random desk = (.ok token, after)) :
    token.expiresAt.toInt =
      min (now.toInt + 1000 * (settings.ttlSecs type).toNat) Int64.maxValue.toInt := by
  obtain ⟨rfl, -⟩ := issue_eq_ok hissue
  exact toInt_expiry settings type hnow

/-- A token that was issued is found just before the sum of the instant and its lifetime, with the
last instant as the only bound on the sum. -/
theorem peek_issued {settings : TokenSettings} {token : Token} {after : Desk} (hnow : 0 ≤ now)
    (hissue : (ofSettings settings).issue email type now random desk = (.ok token, after)) :
    after.store.database.HasToken token ∧
    (∀ later : Desk, later.store.database.HasToken token → ∀ t : Instant,
      peek token.value type t later = (.ok (
        if t.toInt < min (now.toInt + 1000 * (settings.ttlSecs type).toNat) Int64.maxValue.toInt
        then some token else none), later)) ∧
    (settings.ttlSecs type = 0 → ∀ t, now ≤ t → peek token.value type t after = (.ok none, after)) ∧
    now ≤ token.expiresAt ∧
    ∀ {settings' : TokenSettings} {email' : String} {type' : TokenType} {random' : ByteSource}
      {desk' after' : Desk} {token' : Token},
      (ofSettings settings').issue email' type' now random' desk' = (.ok token', after') →
      settings.ttlSecs type ≤ settings'.ttlSecs type' → token.expiresAt ≤ token'.expiresAt := by
  have hexpiry := toInt_expiresAt_of_issue hnow hissue
  have htype : token.type = type := by
    obtain ⟨rfl, -⟩ := issue_eq_ok hissue
    rfl
  have hpeek : ∀ later : Desk, later.store.database.HasToken token → ∀ t : Instant,
      peek token.value type t later = (.ok (
        if t.toInt < min (now.toInt + 1000 * (settings.ttlSecs type).toNat) Int64.maxValue.toInt
        then some token else none), later) := by
    intro later hlater t
    have hfound := hlater.token? t
    rw [htype] at hfound
    rw [Query.peek_apply, hfound, ← hexpiry]
    simp only [Int64.lt_iff_toInt_lt]
  have hhas := hasToken_of_issue hissue
  refine ⟨hhas, hpeek, ?_, ?_, ?_⟩
  · intro hzero t ht
    rw [hpeek after hhas t, if_neg ?_]
    have hlater := Int64.le_iff_toInt_le.mp ht
    have hnothing : (settings.ttlSecs type).toNat = 0 := congrArg UInt64.toNat hzero
    omega
  · rw [Int64.le_iff_toInt_le, hexpiry]
    have hlast := now.toInt_le
    omega
  · intro settings' email' type' random' desk' after' token' hissue' hlonger
    have hlonger := UInt64.le_iff_toNat_le.mp hlonger
    rw [Int64.le_iff_toInt_le, hexpiry, toInt_expiresAt_of_issue hnow hissue']
    omega

/-- With the longest lifetime there is, a token expires at the last instant. -/
theorem peek_issued_forever :
    (0 : Instant) ≤ 5 ∧ ∃ token after,
      (ofSettings { tokenBytes := 1, signupTtlSecs := 18446744073709551615 }).issue "a@b" .signup 5
        (fun _ => 0) { store := { database := { tokens := some [] } } } = (.ok token, after) ∧
      peek token.value .signup 9223372036854775806 after = (.ok (some token), after) ∧
      peek token.value .signup 9223372036854775807 after = (.ok none, after) := by
  have hnow : (0 : Instant) ≤ 5 := by decide
  obtain ⟨after, hissue, -⟩ := @issue_of_room
    (ofSettings { tokenBytes := 1, signupTtlSecs := 18446744073709551615 }) "a@b" .signup 5
    (fun _ => 0) { store := { database := { tokens := some [] } } } [] rfl rfl
    (by simp [TokenRow.RoomFor])
  obtain ⟨hhas, hpeek, -⟩ := peek_issued hnow hissue
  refine ⟨hnow, _, after, hissue, ?_, ?_⟩
  · rw [hpeek after hhas, if_pos (by decide)]
  · rw [hpeek after hhas, if_neg (by decide)]

end Ledger

end IdentityLifecycle
