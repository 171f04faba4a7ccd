import IdentityLifecycle.Proofs.Credentials
import IdentityLifecycle.Proofs.Expiry
import IdentityLifecycle.Proofs.Failure

/-!
# The life of a mailed link

The value in a link is good until it expires, is used, or gives way to a newer one. Since it was
issued, its row is either the only one with the value, or gone for a reason that the events tell.
-/

namespace IdentityLifecycle

/-! ### What events do to links -/

namespace Call

def issues? : Call → Option TokenType
  | signup .. => some .signup
  | resendSignupToken .. => some .signup
  | resetPassword .. => some .passwordReset
  | _ => none

theorem ReadsOnly.issues?_eq_none {call : Call} (hcall : call.ReadsOnly) : call.issues? = none := by
  cases call <;> first | rfl | cases hcall

def redemption (type : TokenType) (value password : String) : Call :=
  match type with
  | .signup => .validateSignupToken value
  | .passwordReset => .changePasswordWithToken value password

end Call

namespace Event

def Issues (event : Event) (type : TokenType) (account : String) : Prop :=
  event.account? = some account ∧ event.request.call.issues? = some type

def Redeems (event : Event) (type : TokenType) (value : String) : Prop :=
  (∃ answer, event.answer = .ok answer) ∧
    ∃ password, event.request.call = .redemption type value password

def ChangesPassword (event : Event) (account : String) : Prop :=
  event.account? = some account ∧
    ∃ email password, event.request.call = .changePassword email password

/-- What ends the life of a token before it expires. -/
inductive Ends (event : Event) (token : Token) : Prop
  | used (h : event.Redeems token.type token.value)
  | superseded (h : event.Issues token.type token.email)
  | revoked (htype : token.type = .passwordReset) (h : event.ChangesPassword token.email)

end Event

def Service.valueIn (service : Service) (event : Event) : String :=
  service.ledger.generateValue event.request.around.token

/-- What events since a token was issued have made of it. -/
structure Follows (since : List Event) (token : Token) (tables : Tables) : Prop where
  only : ∀ other ∈ tables.tokens, other.value = token.value →
    other = token ∧ ∀ event ∈ since, ¬event.Ends token
  present : (∀ event ∈ since, ¬event.Ends token) →
    token ∈ tables.tokens ∨ ∃ event ∈ since, token.expiresAt ≤ event.request.around.now

variable {service : Service} {around : Surroundings} {before after tables : Tables}
  {since : List Event} {token : Token}

/-- Right after it was issued, a token is the only one with its value. -/
theorem follows_nil (hroom : before.HasRoomFor token) :
    Follows [] token (before.replaceToken token) where
  only := by
    intro other hother hvalue
    refine ⟨?_, by simp⟩
    rcases Tables.mem_replaceToken.mp hother with ⟨hother, hkept⟩ | hnew
    · rw [hroom other hother hvalue] at hkept
      exact Bool.noConfusion hkept
    · exact hnew
  present := fun _ => .inl (Tables.mem_replaceToken.mpr (.inr rfl))

namespace Follows

/-- An event that drops some rows. -/
theorem cons_of_drop {event : Event} {drop : Token → Bool} (h : Follows since token before)
    (htokens : ∀ other, other ∈ after.tokens ↔ other ∈ before.tokens ∧ drop other = false)
    (hkeep : drop token = false → ¬event.Ends token)
    (hdrop : token ∈ before.tokens → drop token = true →
      event.Ends token ∨ token.expiresAt ≤ event.request.around.now) :
    Follows (event :: since) token after := by
  constructor
  · intro other hother hvalue
    obtain ⟨hother, hkept⟩ := (htokens other).mp hother
    obtain ⟨rfl, hstanding⟩ := h.only other hother hvalue
    exact ⟨rfl, List.forall_mem_cons.mpr ⟨hkeep hkept, hstanding⟩⟩
  · intro hstanding
    obtain ⟨hevent, hearlier⟩ := List.forall_mem_cons.mp hstanding
    rcases h.present hearlier with hmem | ⟨earlier, hearlier, hexpired⟩
    · cases hcase : drop token with
      | false => exact .inl ((htokens token).mpr ⟨hmem, hcase⟩)
      | true =>
        have hexpired := (hdrop hmem hcase).resolve_left hevent
        exact .inr ⟨event, List.mem_cons_self, hexpired⟩
    · exact .inr ⟨earlier, .tail _ hearlier, hexpired⟩

/-- An event that leaves all rows. -/
theorem cons_of_same {event : Event} (h : Follows since token tables)
    (hevent : ¬event.Ends token) : Follows (event :: since) token tables := by
  have hrows : ∀ other, other ∈ tables.tokens ↔ other ∈ tables.tokens ∧ false = false := by
    simp
  exact h.cons_of_drop hrows (fun _ => hevent) (fun _ hdropped => nomatch hdropped)

/-- An event that puts another token in the place of those of its slot. -/
theorem cons_of_issue {event : Event} {new : Token} (h : Follows since token before)
    (htokens : ∀ other, other ∈ after.tokens ↔
      (other ∈ before.tokens ∧ other.isFor new.email new.type = false) ∨ other = new)
    (hvalue : new.value ≠ token.value)
    (hends : event.Ends token ↔ token.isFor new.email new.type = true) :
    Follows (event :: since) token after := by
  constructor
  · intro other hother hsame
    rcases (htokens other).mp hother with ⟨hother, hkept⟩ | rfl
    · obtain ⟨rfl, hstanding⟩ := h.only other hother hsame
      have hevent : ¬event.Ends other := by
        rw [hends, hkept]
        exact Bool.noConfusion
      exact ⟨rfl, List.forall_mem_cons.mpr ⟨hevent, hstanding⟩⟩
    · exact absurd hsame hvalue
  · intro hstanding
    obtain ⟨hevent, hearlier⟩ := List.forall_mem_cons.mp hstanding
    rcases h.present hearlier with hmem | ⟨earlier, hearlier, hexpired⟩
    · have hkept : token.isFor new.email new.type = false := by
        rw [Bool.eq_false_iff]
        exact fun hfor => hevent (hends.mpr hfor)
      exact .inl ((htokens token).mpr (.inl ⟨hmem, hkept⟩))
    · exact .inr ⟨earlier, .tail _ hearlier, hexpired⟩

end Follows

/-! ### No effect breaks the connection -/

/-- A call that issues a token ends those of its slot and no others. -/
theorem Event.ends_iff_of_issues {event : Event} {type : TokenType} {account : String}
    (hissues : event.Issues type account) :
    event.Ends token ↔ token.isFor account type = true := by
  obtain ⟨haccount, hcall⟩ := hissues
  rw [Token.isFor_iff]
  constructor
  · intro hends
    cases hends with
    | used hused =>
      obtain ⟨-, password, hredemption⟩ := hused
      rw [hredemption] at hcall
      cases htype : token.type <;> rw [htype] at hcall <;> cases hcall
    | superseded hissues =>
      obtain ⟨haccount', hcall'⟩ := hissues
      rw [haccount] at haccount'
      rw [hcall] at hcall'
      exact ⟨(Option.some.inj haccount').symm, (Option.some.inj hcall').symm⟩
    | revoked htype hchanges =>
      obtain ⟨-, email, password, hchange⟩ := hchanges
      rw [hchange] at hcall
      cases hcall
  · rintro ⟨rfl, rfl⟩
    exact .superseded ⟨haccount, hcall⟩

/-- A call that uses a token ends those with its type and value and no others. -/
theorem Event.ends_iff_of_redeems {event : Event} {type : TokenType} {value : String}
    (hredeems : event.Redeems type value) :
    event.Ends token ↔ token.type = type ∧ token.value = value := by
  obtain ⟨hanswer, password, hcall⟩ := hredeems
  constructor
  · intro hends
    cases hends with
    | used hused =>
      obtain ⟨-, password', hredemption⟩ := hused
      rw [hcall] at hredemption
      cases type <;> cases htype : token.type <;> rw [htype] at hredemption <;> cases hredemption
      · exact ⟨rfl, rfl⟩
      · exact ⟨rfl, rfl⟩
    | superseded hissues =>
      obtain ⟨-, hissue⟩ := hissues
      rw [hcall] at hissue
      cases type <;> cases hissue
    | revoked htype hchanges =>
      obtain ⟨-, email, password', hchange⟩ := hchanges
      rw [hcall] at hchange
      cases type <;> cases hchange
  · rintro ⟨rfl, rfl⟩
    exact .used ⟨hanswer, password, hcall⟩

/-- Setting a new password ends the reset tokens of the account and no others. -/
theorem Event.ends_iff_of_changesPassword {event : Event} {account : String}
    (hchanges : event.ChangesPassword account) :
    event.Ends token ↔ token.isFor account .passwordReset = true := by
  obtain ⟨haccount, email, password, hcall⟩ := hchanges
  rw [Token.isFor_iff]
  constructor
  · intro hends
    cases hends with
    | used hused =>
      obtain ⟨-, password', hredemption⟩ := hused
      rw [hcall] at hredemption
      cases htype : token.type <;> rw [htype] at hredemption <;> cases hredemption
    | superseded hissues =>
      obtain ⟨-, hissue⟩ := hissues
      rw [hcall] at hissue
      cases hissue
    | revoked htype hchanges =>
      obtain ⟨haccount', -⟩ := hchanges
      rw [haccount] at haccount'
      exact ⟨(Option.some.inj haccount').symm, htype⟩
  · rintro ⟨rfl, htype⟩
    exact .revoked htype ⟨haccount, email, password, hcall⟩

theorem Event.not_ends_of_call {event : Event} (hissues : event.request.call.issues? = none)
    (hredeems : ∀ type value password, event.request.call ≠ .redemption type value password)
    (hchanges : ∀ email password, event.request.call ≠ .changePassword email password) :
    ¬event.Ends token := by
  intro hends
  cases hends with
  | used hused =>
    obtain ⟨-, password, hcall⟩ := hused
    exact hredeems _ _ _ hcall
  | superseded hissued =>
    rw [hissued.2] at hissues
    cases hissues
  | revoked htype hchange =>
    obtain ⟨-, email, password, hcall⟩ := hchange
    exact hchanges _ _ hcall

/-- A call that fails ends the life of no token. -/
theorem Event.not_ends_of_error {event : Event} {e : IdentityError}
    (herror : event.answer = .error e) : ¬event.Ends token := by
  have haccount := Event.account?_of_error herror
  intro hends
  cases hends with
  | used hused =>
    obtain ⟨⟨answer, hanswer⟩, -⟩ := hused
    rw [herror] at hanswer
    cases hanswer
  | superseded hissued =>
    rw [hissued.1] at haccount
    cases haccount
  | revoked htype hchange =>
    rw [hchange.1] at haccount
    cases haccount

theorem Follows.cons_of_redeems {event : Event} {type : TokenType} {value : String} {used : Token}
    {now : Instant} (h : Follows since token before) (hredeems : event.Redeems type value)
    (hused : before.liveToken? value type now = some used)
    (htokens : after.tokens = (before.dropTokens (·.value = value)).tokens) :
    Follows (event :: since) token after := by
  have hends : event.Ends token ↔ token.type = type ∧ token.value = value :=
    Event.ends_iff_of_redeems hredeems
  obtain ⟨hmem, hvalue, htype, -⟩ := Tables.of_liveToken?_eq_some hused
  have hrows : ∀ other, other ∈ after.tokens ↔
      other ∈ before.tokens ∧ decide (other.value = value) = false := by
    intro other
    rw [htokens, Tables.mem_dropTokens]
  refine h.cons_of_drop hrows ?_ ?_
  · intro hkept hend
    exact of_decide_eq_false hkept (hends.mp hend).2
  · -- the row that was used has the value of the token, so it is the row of the token
    intro _ hdropped
    have hsame := of_decide_eq_true hdropped
    obtain ⟨rfl, -⟩ := h.only used hmem (hvalue.trans hsame.symm)
    exact .inl (hends.mpr ⟨htype, hvalue⟩)

theorem issues_asking (service : Service) (around : Surroundings) (type : TokenType)
    (name : String) {email normal : String} (hnormal : normalizeEmail email = .ok normal) :
    Event.Issues ⟨⟨.asking type email, around⟩, .ok .done,
      [⟨.forToken service.site type normal name (service.ledger.generateValue around.token),
        true⟩]⟩ type normal := by
  have haccount : (normalizeEmail email).toOption = some normal :=
    congrArg Except.toOption hnormal
  cases type with
  | signup => exact ⟨haccount, rfl⟩
  | passwordReset => exact ⟨haccount, rfl⟩

/-- Step of the invariant: after another call, the events still say what has become of the token. -/
theorem Effect.follows {call : Call} {answer : Answer} {mails : List Posting}
    (heffect : Effect service around before call answer mails after)
    (h : Follows since token before)
    (hfresh : ∀ type account, Event.Issues ⟨⟨call, around⟩, .ok answer, mails⟩ type account →
      service.ledger.generateValue around.token ≠ token.value) :
    Follows (⟨⟨call, around⟩, .ok answer, mails⟩ :: since) token after := by
  cases heffect with
  | read hcall =>
    refine h.cons_of_same (Event.not_ends_of_call hcall.issues?_eq_none ?_ ?_)
    · rintro type value password rfl
      cases type <;> cases hcall
    · rintro email password rfl
      cases hcall
  | @registered email name password user hnew hemail hid hroom =>
    obtain ⟨hnormal, -⟩ := Service.newUser_eq_ok.mp hnew
    have haccount : (normalizeEmail email).toOption = some user.email :=
      congrArg Except.toOption hnormal
    have hvalue := hfresh .signup user.email ⟨haccount, rfl⟩
    refine h.cons_of_issue (fun _ => Tables.mem_replaceToken) hvalue ?_
    exact Event.ends_iff_of_issues ⟨haccount, rfl⟩
  | @issued email normal type user hnormal huser hsuits hroom =>
    have hissues := issues_asking service around type user.name hnormal
    refine h.cons_of_issue (fun _ => Tables.mem_replaceToken) (hfresh type normal hissues) ?_
    exact Event.ends_iff_of_issues hissues
  | @confirmed value used user hvalue htoken huser =>
    exact h.cons_of_redeems ⟨⟨_, rfl⟩, "", rfl⟩ htoken rfl
  | @recovered value password hashed used user hnew htoken huser =>
    exact h.cons_of_redeems ⟨⟨_, rfl⟩, password, rfl⟩ htoken rfl
  | @changed email normal password hashed user hnew huser =>
    obtain ⟨hnormal, -⟩ := Service.newPassword_eq_ok.mp hnew
    have haccount : (normalizeEmail email).toOption = some normal :=
      congrArg Except.toOption hnormal
    have hchanges : Event.ChangesPassword ⟨⟨.changePassword email password, around⟩, .ok .done, []⟩
        normal := ⟨haccount, email, password, rfl⟩
    have hends : Event.Ends _ token ↔ token.isFor normal .passwordReset = true :=
      Event.ends_iff_of_changesPassword hchanges
    refine h.cons_of_drop (fun _ => Tables.mem_dropTokens) ?_ ?_
    · intro hkept hend
      rw [hends.mp hend] at hkept
      exact Bool.noConfusion hkept
    · intro _ hdropped
      exact .inl (hends.mpr hdropped)
  | purged =>
    refine h.cons_of_drop (fun other => Tables.mem_dropTokens) ?_ ?_
    · intro _
      refine Event.not_ends_of_call rfl ?_ ?_
      · rintro type value password hcall
        cases type <;> cases hcall
      · rintro email password ⟨⟩
    · intro _ hdropped
      right
      simpa [Token.isLive] using hdropped

/-- By induction on the chronicle, what has become of a token can be told from the events. -/
theorem Chronicle.follows {start : Tables} (hchronicle : Chronicle service start since tables)
    (hstart : Follows [] token start)
    (hfresh : ∀ event ∈ since, ∀ type account, event.Issues type account →
      service.valueIn event ≠ token.value) :
    Follows since token tables := by
  induction hchronicle with
  | start => exact hstart
  | @failed events tables request e mails hearlier ih =>
    have hbefore := ih fun event hevent => hfresh event (.tail _ hevent)
    exact hbefore.cons_of_same (Event.not_ends_of_error rfl)
  | @done events before after request answer mails hearlier heffect ih =>
    have hbefore := ih fun event hevent => hfresh event (.tail _ hevent)
    exact heffect.follows hbefore (hfresh _ List.mem_cons_self)

/-- What has been issued is mailed, and followed from then on. -/
theorem Effect.follows_of_issues {call : Call} {answer : Answer} {mails : List Posting}
    {type : TokenType} {account : String}
    (heffect : Effect service around before call answer mails after)
    (hissues : Event.Issues ⟨⟨call, around⟩, .ok answer, mails⟩ type account) :
    Follows [] (service.tokenFor around type account) after ∧
      ∃ name, mails = [⟨.forToken service.site type account name
        (service.tokenFor around type account).value, true⟩] := by
  obtain ⟨haccount, hcall⟩ := hissues
  cases heffect with
  | read hread =>
    rw [hread.issues?_eq_none] at hcall
    cases hcall
  | @registered email name password user hnew hemail hid hroom =>
    obtain ⟨hnormal, -⟩ := Service.newUser_eq_ok.mp hnew
    have hsame : (normalizeEmail email).toOption = some account := haccount
    rw [hnormal] at hsame
    cases hsame
    cases hcall
    exact ⟨follows_nil hroom, user.name, rfl⟩
  | @issued email normal issued user hnormal huser hsuits hroom =>
    obtain ⟨haccount', hcall'⟩ := issues_asking service around issued user.name hnormal
    have hsame : normal = account := Option.some.inj (haccount'.symm.trans haccount)
    have htype : issued = type := Option.some.inj (hcall'.symm.trans hcall)
    subst hsame htype
    exact ⟨follows_nil hroom, user.name, rfl⟩
  | confirmed => cases hcall
  | recovered => cases hcall
  | changed => cases hcall
  | purged => cases hcall

end IdentityLifecycle
