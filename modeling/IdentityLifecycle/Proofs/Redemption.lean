import IdentityLifecycle.Proofs.Links
import IdentityLifecycle.Proofs.TokenValue

/-!
# Redeeming a mailed link

A link is good just as long as it has not expired and no event has ended its life. Whoever redeems
it acts on the account that it was mailed to, and nobody can use it for the other purpose.
-/

namespace IdentityLifecycle

def Surroundings.readings (around : Surroundings) : TokenType → List Instant
  | .signup => [around.now]
  | .passwordReset => [around.now, around.later]

/-- The clock stands at positive instants and does not go back, neither within a call nor from one
call to the next; the latest comes first. -/
structure Chronological (times : List Surroundings) : Prop where
  positive : ∀ around ∈ times, 0 < around.now
  forward : ∀ around ∈ times, around.now ≤ around.later
  ordered : times.Pairwise fun next earlier => earlier.later ≤ next.now

inductive Call.Redeems (value : String) : TokenType → Call → Prop
  | confirm : Redeems value .signup (.validateSignupToken value)
  | recover {password : String} (hpassword : validatePassword password = .ok ()) :
      Redeems value .passwordReset (.changePasswordWithToken value password)

/-- The call redeems a value as a token of a type, or just checks it. -/
inductive Call.Presents (value : String) : TokenType → Call → Prop
  | redeem {type : TokenType} {call : Call} (hcall : call.Redeems value type) :
      Presents value type call
  | check : Presents value .passwordReset (.resetPasswordToken value)

def Token.ActsOn (token : Token) (before after : Tables) : Prop :=
  ∃ change : User → User, (∀ user, (change user).email = user.email) ∧
    after = (before.dropTokens (· = token)).changeUser token.email change

/-- No reading of the clock finds the token expired, and no event since its issue has ended it. -/
def Token.Good (token : Token) (since : List Event) (around : Surroundings) : Prop :=
  (∀ now ∈ around.readings token.type, now < token.expiresAt) ∧ ∀ event ∈ since, ¬event.Ends token

variable {service : Service} {around : Surroundings} {tables : Tables} {value password : String}

/-! ### Redeeming on given tables -/

def Tables.Ready (tables : Tables) (service : Service) (around : Surroundings) : Prop :=
  ∀ token ∈ tables.tokens, (∃ user, tables.userWithEmail? token.email = some user) ∧
    ∀ password, validatePassword password = .ok () →
      ∃ hashed, service.hashing around password = .ok hashed

theorem Tables.resetGate_of_none {now : Instant}
    (hdead : tables.liveToken? value .passwordReset now = none) :
    tables.resetGate value now = .error .invalidToken := by
  rw [resetGate, hdead]
  exact ite_self _

theorem Tables.resetGate_of_some {now : Instant} {token : Token} {user : User} (hvalue : value ≠ "")
    (hlive : tables.liveToken? value .passwordReset now = some token)
    (huser : tables.userWithEmail? token.email = some user) :
    tables.resetGate value now = .ok () := by
  rw [resetGate, if_neg hvalue, hlive]
  simp only [huser]

theorem Service.newPasswordWithToken_of_none
    (hpassword : validatePassword password = .ok ())
    (hdead : tables.liveToken? value .passwordReset around.now = none) :
    service.newPasswordWithToken around value password tables = .error .invalidToken := by
  rw [newPasswordWithToken, hpassword, tables.resetGate_of_none hdead]
  rfl

theorem Service.newPasswordWithToken_of_some {token : Token} {user : User}
    {hashed : HashedPassword} (hpassword : validatePassword password = .ok ()) (hvalue : value ≠ "")
    (hlive : tables.liveToken? value .passwordReset around.now = some token)
    (huser : tables.userWithEmail? token.email = some user)
    (hhashed : service.hashing around password = .ok hashed) :
    service.newPasswordWithToken around value password tables = .ok hashed :=
  newPasswordWithToken_eq_ok.mpr ⟨hpassword, tables.resetGate_of_some hvalue hlive huser, hhashed⟩

namespace Call

variable {view : View} {type : TokenType} {call : Call}

/-- A token that is dead at one of the readings of the clock is refused. -/
theorem ending_redeems_dead (hcall : call.Redeems value type) (hvalue : value ≠ "")
    (hready : view.tables.Ready service around)
    (hdead : ∃ now ∈ around.readings type, view.tables.liveToken? value type now = none) :
    (call.ending service around view).1 = .error .invalidToken := by
  obtain ⟨now, hreading, hdead⟩ := hdead
  cases hcall with
  | confirm =>
    obtain rfl := List.mem_singleton.mp hreading
    change ((Service.validateSignupTokenEnding around value view).map _).1 = _
    rw [Service.validateSignupTokenEnding, if_neg hvalue, Service.redeeming_of_none _ _ hdead]
    rfl
  | @recover password hpassword =>
    change ((service.changePasswordWithTokenEnding around value password view).map _).1 = _
    rw [Service.changePasswordWithTokenEnding]
    cases hfirst : view.tables.liveToken? value .passwordReset around.now with
    | none =>
      rw [Service.newPasswordWithToken_of_none hpassword hfirst]
      rfl
    | some token =>
      -- the value passes the gate, so it is the second reading that finds it dead
      obtain ⟨hmem, -⟩ := Tables.of_liveToken?_eq_some hfirst
      obtain ⟨⟨user, huser⟩, hhashing⟩ := hready token hmem
      obtain ⟨hashed, hhashed⟩ := hhashing password hpassword
      have hlater : view.tables.liveToken? value .passwordReset around.later = none := by
        rcases List.mem_pair.mp hreading with rfl | rfl
        · rw [hfirst] at hdead
          cases hdead
        · exact hdead
      rw [Service.newPasswordWithToken_of_some hpassword hvalue hfirst huser hhashed]
      dsimp only [Ending.given]
      rw [Service.redeeming_of_none _ _ hlater]
      rfl

/-- A token that is live at all of them is redeemed. -/
theorem ending_redeems_live {token : Token} (hcall : call.Redeems value type) (hvalue : value ≠ "")
    (hready : view.tables.Ready service around) (hmem : token ∈ view.tables.tokens)
    (hlive : ∀ now ∈ around.readings type, view.tables.liveToken? value type now = some token) :
    ∃ (change : User → User) (user : User), (∀ user, (change user).email = user.email) ∧
      view.tables.userWithEmail? token.email = some user ∧
      (call.ending service around view).1 = .ok (.user (change user).toPublic) ∧
      (call.ending service around view).2.tables =
        (view.tables.dropTokens (·.value = value)).changeUser token.email change := by
  obtain ⟨⟨user, huser⟩, hhashing⟩ := hready token hmem
  cases hcall with
  | confirm =>
    have hlive := hlive around.now (by simp [Surroundings.readings])
    have hkeep : ∀ user : User, (user.stamp around.now).email = user.email := by simp
    refine ⟨(·.stamp around.now), user, hkeep, huser, ?_⟩
    change ((Service.validateSignupTokenEnding around value view).map _).1 = _ ∧
      ((Service.validateSignupTokenEnding around value view).map _).2.tables = _
    rw [Service.validateSignupTokenEnding, if_neg hvalue,
      Service.redeeming_of_owner hkeep _ hlive huser]
    exact ⟨rfl, rfl⟩
  | @recover password hpassword =>
    obtain ⟨hashed, hhashed⟩ := hhashing password hpassword
    have hnow := hlive around.now (by simp [Surroundings.readings])
    have hlater := hlive around.later (by simp [Surroundings.readings])
    have hkeep := fun user : User => user.withPassword_email hashed
    refine ⟨(·.withPassword hashed), user, hkeep, huser, ?_⟩
    change ((service.changePasswordWithTokenEnding around value password view).map _).1 = _ ∧
      ((service.changePasswordWithTokenEnding around value password view).map _).2.tables = _
    rw [Service.changePasswordWithTokenEnding,
      Service.newPasswordWithToken_of_some hpassword hvalue hnow huser hhashed]
    dsimp only [Ending.given]
    rw [Service.redeeming_of_owner hkeep _ hlater huser]
    exact ⟨rfl, rfl⟩

/-- A value that is not a live token of a type is refused by every call for tokens of the type. -/
theorem ending_presents_dead (hcall : call.Presents value type) (hvalue : value ≠ "")
    (hready : view.tables.Ready service around)
    (hdead : ∀ now, view.tables.liveToken? value type now = none) :
    (call.ending service around view).1 = .error .invalidToken := by
  cases hcall with
  | redeem hredeems =>
    refine ending_redeems_dead hredeems hvalue hready ⟨around.now, ?_, hdead _⟩
    cases type <;> exact List.mem_cons_self
  | check =>
    change (Ending.map _ (view.tables.resetGate value around.now, view)).1 = _
    rw [Tables.resetGate_of_none (hdead around.now)]
    rfl

end Call

/-! ### Live rows -/

namespace Follows

variable {since : List Event} {token : Token} {now : Instant}

theorem eq_of_liveToken? {type : TokenType} {found : Token} (h : Follows since token tables)
    (hfound : tables.liveToken? token.value type now = some found) :
    found = token ∧ token.type = type ∧ now < token.expiresAt ∧ ∀ event ∈ since, ¬event.Ends token := by
  obtain ⟨hmem, hvalue, htype, hnow⟩ := Tables.of_liveToken?_eq_some hfound
  obtain ⟨rfl, hstanding⟩ := h.only found hmem hvalue
  exact ⟨rfl, htype, hnow, hstanding⟩

theorem liveToken?_eq_some (h : Follows since token tables)
    (hstanding : ∀ event ∈ since, ¬event.Ends token)
    (hclock : ∀ event ∈ since, event.request.around.now ≤ now) (hnow : now < token.expiresAt) :
    token ∈ tables.tokens ∧ tables.liveToken? token.value token.type now = some token := by
  have hmem : token ∈ tables.tokens := by
    refine (h.present hstanding).resolve_right ?_
    rintro ⟨event, hevent, hexpired⟩
    have hearlier := hclock event hevent
    rw [Int64.le_iff_toInt_le] at hexpired hearlier
    rw [Int64.lt_iff_toInt_lt] at hnow
    omega
  refine ⟨hmem, ?_⟩
  cases hfound : tables.liveToken? token.value token.type now with
  | some found => rw [(h.eq_of_liveToken? hfound).1]
  | none =>
    have hnot := List.find?_eq_none.mp hfound token hmem
    exact absurd (Token.isLiveAs_iff.mpr ⟨rfl, rfl, hnow⟩) hnot

/-- The row of the token is the only one with its value. -/
theorem dropTokens_value (h : Follows since token tables) :
    tables.dropTokens (·.value = token.value) = tables.dropTokens (· = token) := by
  unfold Tables.dropTokens
  rw [List.filter_congr]
  intro other hother
  by_cases hvalue : other.value = token.value
  · rw [(h.only other hother hvalue).1]
    simp
  · have hne : other ≠ token := fun hsame => hvalue (congrArg Token.value hsame)
    simp [hvalue, hne]

variable {view : View} {call : Call}

/-- While a token is good, it is redeemed. -/
theorem ending_of_good (h : Follows since token view.tables) (hvalue : token.value ≠ "")
    (hready : view.tables.Ready service around) (hcall : call.Redeems token.value token.type)
    (hclock : ∀ event ∈ since, ∀ now ∈ around.readings token.type, event.request.around.now ≤ now)
    (hgood : token.Good since around) :
    ∃ user, (call.ending service around view).1 = .ok (.user user) ∧ user.email = token.email ∧
      token.ActsOn view.tables (call.ending service around view).2.tables := by
  obtain ⟨hnow, hstanding⟩ := hgood
  have hlive : ∀ now ∈ around.readings token.type, token ∈ view.tables.tokens ∧
      view.tables.liveToken? token.value token.type now = some token := by
    intro now hreading
    exact h.liveToken?_eq_some hstanding (fun event hevent => hclock event hevent now hreading)
      (hnow now hreading)
  have hmem : token ∈ view.tables.tokens := by
    refine (hlive around.now ?_).1
    cases token.type <;> exact List.mem_cons_self
  obtain ⟨change, user, hkeep, huser, hanswer, htables⟩ := Call.ending_redeems_live hcall hvalue
    hready hmem fun now hreading => (hlive now hreading).2
  obtain ⟨-, hemail⟩ := Tables.of_userWithEmail?_eq_some huser
  refine ⟨(change user).toPublic, hanswer, (hkeep user).trans hemail, change, hkeep, ?_⟩
  rw [htables, h.dropTokens_value]

/-- Once it is not, it is refused. -/
theorem ending_of_not_good (h : Follows since token view.tables) (hvalue : token.value ≠ "")
    (hready : view.tables.Ready service around) (hcall : call.Redeems token.value token.type)
    (hbad : ¬token.Good since around) :
    (call.ending service around view).1 = .error .invalidToken := by
  refine Call.ending_redeems_dead hcall hvalue hready ?_
  by_contra hlive
  have hfound : ∀ now ∈ around.readings token.type, now < token.expiresAt ∧
      ∀ event ∈ since, ¬event.Ends token := by
    intro now hreading
    cases hcase : view.tables.liveToken? token.value token.type now with
    | none => exact absurd ⟨now, hreading, hcase⟩ hlive
    | some found =>
      obtain ⟨-, -, hnow, hstanding⟩ := h.eq_of_liveToken? hcase
      exact ⟨hnow, hstanding⟩
  have hreading : around.now ∈ around.readings token.type := by
    cases token.type <;> exact List.mem_cons_self
  exact hbad ⟨fun now hreading => (hfound now hreading).1, (hfound _ hreading).2⟩

theorem liveToken?_of_ne {type : TokenType} (h : Follows since token tables)
    (hne : type ≠ token.type) (now : Instant) : tables.liveToken? token.value type now = none := by
  cases hfound : tables.liveToken? token.value type now with
  | none => rfl
  | some found => exact absurd (h.eq_of_liveToken? hfound).2.1.symm hne

end Follows

/-- In the tables that a chronicle leads to, tokens have owners and passwords can be hashed. -/
theorem Chronicle.ready {events : List Event} (hchronicle : Chronicle service {} events tables)
    (hclock : ∀ event ∈ events, 0 < event.request.around.now) (around : Surroundings) :
    tables.Ready service around := by
  intro token htoken
  have hsound := hchronicle.sound Tables.sound_empty hclock
  obtain ⟨owner, howner, hemail, -⟩ := hsound.owned token htoken
  have hfound : ∃ user, tables.userWithEmail? token.email = some user := by
    rw [← Option.isSome_iff_exists, Tables.userWithEmail?, List.find?_isSome]
    exact ⟨owner, howner, by simpa using hemail⟩
  refine ⟨hfound, fun password hpassword => ?_⟩
  obtain ⟨user, huser⟩ := hfound
  obtain ⟨given, random, -, hgiven⟩ :=
    (hchronicle.mirrors hclock token.email).credential user huser
  obtain ⟨hne, hlength⟩ := validatePassword_eq_ok.mp hpassword
  have hne : utf8 password ≠ [] := fun hnil => hne (utf8_eq_nil.mp hnil)
  have hlength : (utf8 password).length ≤ Hasher.maxInputLength :=
    Nat.le_trans hlength (by decide)
  obtain ⟨hashed, hhashed⟩ := Hasher.generateHash_ok_of_ok hgiven hne hlength around.salt
  exact ⟨hashed, Service.hashing_eq_ok.mpr hhashed⟩

/-! ### Over whole runs -/

theorem Service.follows_of_run {events later earlier : List Event} {issue : Event}
    {type : TokenType} {account : String} (hchronicle : Chronicle service {} events tables)
    (hevents : events = later ++ issue :: earlier) (hissue : issue.Issues type account)
    (hfresh : ∀ event ∈ later, ∀ type' account', event.Issues type' account' →
      service.valueIn event ≠ service.valueIn issue) :
    Follows later (service.tokenFor issue.request.around type account) tables ∧
      ∃ name, issue.postings = [⟨.forToken service.site type account name
        (service.tokenFor issue.request.around type account).value, true⟩] := by
  rw [hevents] at hchronicle
  obtain ⟨middle, hbefore, hafter⟩ := hchronicle.split
  cases hbefore with
  | failed =>
    have hnone := hissue.1
    rw [Event.account?_of_error rfl] at hnone
    cases hnone
  | done hearlier heffect =>
    obtain ⟨hfollows, hmails⟩ := heffect.follows_of_issues hissue
    exact ⟨hafter.follows hfollows hfresh, hmails⟩

theorem Chronological.events_le {events : List Event} {around : Surroundings}
    (hclock : Chronological (around :: events.map (·.request.around))) (type : TokenType) :
    ∀ event ∈ events, ∀ now ∈ around.readings type, event.request.around.now ≤ now := by
  intro event hevent now hreading
  have hmem : event.request.around ∈ events.map (·.request.around) := List.mem_map_of_mem hevent
  have hwithin := hclock.forward _ (.tail _ hmem)
  have hbetween := (List.pairwise_cons.mp hclock.ordered).1 _ hmem
  have hlast := hclock.forward around List.mem_cons_self
  have hnow : now = around.now ∨ now = around.later := by
    cases type with
    | signup => exact .inl (List.mem_singleton.mp hreading)
    | passwordReset => exact List.mem_pair.mp hreading
  rcases hnow with rfl | rfl
  · exact Int64.le_trans hwithin hbetween
  · exact Int64.le_trans (Int64.le_trans hwithin hbetween) hlast

/-- Once a token has been issued, its link is good just as long as no reading of the clock comes
after its expiry and no event ends its life; when it is not, it is refused as invalid. Redeeming it
acts on the account that it was issued for, and it is never good for the other purpose. -/
theorem redeemable_iff_of_issued (service : Service) (settings : TokenSettings)
    (hledger : service.ledger = .ofSettings settings) (hbytes : 1 ≤ settings.tokenBytes)
    (cache : Cache) (requests : List Request) (around : Surroundings)
    (hclock : Chronological (around :: requests.map (·.around))) (later earlier : List Event)
    (issue : Event) (type : TokenType) (account : String)
    (hevents : (service.run (.fresh cache) requests).1 = later ++ issue :: earlier)
    (hissue : issue.Issues type account)
    (hfresh : ∀ event ∈ later, ∀ type' account', event.Issues type' account' →
      service.valueIn event ≠ service.valueIn issue) :
    let token := service.tokenFor issue.request.around type account
    let s := (service.run (.fresh cache) requests).2
    (∃ name, issue.postings =
      [⟨.forToken service.site type account name token.value, true⟩]) ∧
    token.expiresAt.toInt = min
      (issue.request.around.now.toInt + 1000 * (settings.ttlSecs type).toNat) Int64.maxValue.toInt ∧
    (∀ call : Call, call.Redeems token.value type →
      ((∃ user, (call.perform service around s).1 = .ok (.user user)) ↔ token.Good later around) ∧
      (¬token.Good later around → (call.perform service around s).1 = .error .invalidToken) ∧
      ∀ user, (call.perform service around s).1 = .ok (.user user) → user.email = account ∧
        ∃ before after, s.desk.store.Holds before ∧
          (call.perform service around s).2.desk.store.Holds after ∧ token.ActsOn before after) ∧
    ∀ other ≠ type, ∀ call : Call, call.Presents token.value other →
      (call.perform service around s).1 = .error .invalidToken ∧
        s.Untouched (call.perform service around s).2 := by
  intro token s
  obtain ⟨view, hshows, hchronicle⟩ := service.run_fresh_chronicle cache requests
  have hpositive : ∀ event ∈ (service.run (.fresh cache) requests).1,
      0 < event.request.around.now :=
    service.forall_run_events fun request hrequest =>
      hclock.positive _ (.tail _ (List.mem_map_of_mem hrequest))
  have hmap : requests.map (·.around) =
      (service.run (.fresh cache) requests).1.map (·.request.around) := by
    conv => lhs; rw [← service.run_requests (.fresh cache) requests]
    rw [List.map_map]
    rfl
  have hready := hchronicle.ready hpositive around
  -- the issue splits the chronicle, and its later part tells what has become of the row
  obtain ⟨hfollows, hmails⟩ := Service.follows_of_run hchronicle hevents hissue hfresh
  have hvalue : token.value ≠ "" := by
    refine Ledger.generateValue_ne_empty ?_ issue.request.around.token
    rw [hledger]
    exact UInt64.le_iff_toNat_le.mp hbytes
  have hbefore : ∀ event ∈ later, ∀ now ∈ around.readings type, event.request.around.now ≤ now := by
    rw [hmap] at hclock
    intro event hevent
    refine hclock.events_le type event ?_
    rw [hevents]
    exact List.mem_append_left _ hevent
  have hends : ∀ call : Call, (call.perform service around s).1 =
      (call.ending service around view).1 :=
    fun call => (call.perform_ends service around view s hshows).1
  have hissued : 0 < issue.request.around.now := hpositive issue (by simp [hevents])
  refine ⟨hmails, ?_, ?_, ?_⟩
  · have hexpiry := Ledger.toInt_expiry settings type (Int64.le_of_lt hissued)
    rwa [← hledger] at hexpiry
  · intro call hcall
    by_cases hgood : token.Good later around
    · obtain ⟨user, hanswer, hemail, hacts⟩ :=
        hfollows.ending_of_good hvalue hready hcall hbefore hgood
      rw [← hends] at hanswer
      have hafter := (call.perform_ends service around view s hshows).2.tables
      refine ⟨iff_of_true ⟨user, hanswer⟩ hgood, fun hbad => absurd hgood hbad, ?_⟩
      intro other hother
      rw [hanswer] at hother
      cases hother
      exact ⟨hemail, view.tables, _, hshows.tables, hafter, hacts⟩
    · have hanswer := hfollows.ending_of_not_good hvalue hready hcall hgood
      rw [← hends] at hanswer
      rw [hanswer]
      refine ⟨iff_of_false ?_ hgood, fun _ => rfl, ?_⟩
      · rintro ⟨user, ⟨⟩⟩
      · rintro user ⟨⟩
  · intro other hne call hcall
    have herror : (call.perform service around s).1 = .error .invalidToken := by
      rw [hends]
      exact Call.ending_presents_dead hcall hvalue hready (hfollows.liveToken?_of_ne hne)
    have hleft := (call.transactional_perform service around).left s _ herror
    exact ⟨herror, hleft.untouched rfl⟩

/-- A link that was mailed at signup survives a purge and confirms the address. -/
theorem redeemable_after_purge :
    let requests : List Request := [.at 2 .purgeExpiredTokens, .at 1 (.signup "a@b" "n" "p")]
    let s := (Service.small.run (.fresh .unbounded) requests).2
    let around := (Request.at 3 .purgeExpiredTokens).around
    Service.small.ledger = .ofSettings { tokenBytes := 1 } ∧
      Chronological (around :: requests.map (·.around)) ∧
      ∃ user, ((Call.validateSignupToken "AA").perform .small around s).1 = .ok (.user user) := by
  intro requests s around
  let issue := (Service.small.serve (.at 1 (.signup "a@b" "n" "p")) (.fresh .unbounded)).1
  let purge := (Service.small.serve (.at 2 .purgeExpiredTokens)
    (Service.small.serve (.at 1 (.signup "a@b" "n" "p")) (.fresh .unbounded)).2).1
  have hledger : Service.small.ledger = .ofSettings { tokenBytes := 1 } := rfl
  have hclock : Chronological (around :: requests.map (·.around)) := by
    refine ⟨?_, ?_, ?_⟩ <;> simp [around, requests, Request.at]
  have hissue : issue.Issues .signup "a@b" := ⟨by decide +kernel, rfl⟩
  have hpurge : ∀ event ∈ [purge], event.request.call = .purgeExpiredTokens := by
    rintro event hevent
    rw [List.mem_singleton.mp hevent]
    rfl
  have hgood : (Service.small.tokenFor issue.request.around .signup "a@b").Good [purge] around := by
    have hwithin : around.now <
        (Service.small.tokenFor issue.request.around .signup "a@b").expiresAt := by
      decide +kernel
    refine ⟨List.forall_mem_singleton.mpr hwithin, fun event hevent => ?_⟩
    have hcall := hpurge event hevent
    refine Event.not_ends_of_call (by rw [hcall]; rfl) ?_ ?_
    · rintro (_ | _) value password hredemption <;> rw [hcall] at hredemption <;> cases hredemption
    · rintro email password hchange
      rw [hcall] at hchange
      cases hchange
  obtain ⟨-, -, hredeem, -⟩ := redeemable_iff_of_issued .small { tokenBytes := 1 } hledger
    (by decide) .unbounded requests around hclock [purge] [] issue .signup "a@b" rfl hissue
    (by
      rintro event hevent type account ⟨-, hcall⟩
      rw [hpurge event hevent] at hcall
      cases hcall)
  have hvalue : (Service.small.tokenFor issue.request.around .signup "a@b").value = "AA" := by
    decide +kernel
  have hcall : Call.Redeems "AA" .signup (.validateSignupToken "AA") := .confirm
  rw [← hvalue] at hcall
  exact ⟨hledger, hclock, hvalue ▸ (hredeem _ hcall).1.mpr hgood⟩

end IdentityLifecycle
