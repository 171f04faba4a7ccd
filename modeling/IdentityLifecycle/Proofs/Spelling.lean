import IdentityLifecycle.Proofs.EmailGrammar
import IdentityLifecycle.Proofs.LogBlind

/-!
# Spellings of one address

Blanks around an address and the case of its ASCII letters make no difference: neither to the
address that is kept, not even where they stand beside a sigma, nor to any operation, which writes
the text as it was given to the log alone.
-/

namespace IdentityLifecycle

namespace Text

/-! ### The case of ASCII letters -/

/-- A text with its ASCII letters in lower case, and all else as it is. -/
def foldAscii (s : String) : String := String.ofList (s.toList.map Char.toLower)

theorem toNat_toLower_of_capital {c : Char} (hcapital : 0x41 ≤ c.toNat ∧ c.toNat ≤ 0x5A) :
    c.toLower.toNat = c.toNat + 32 := by
  have hletter : c.val ≥ 'A'.val ∧ c.val ≤ 'Z'.val := hcapital
  have hmove : c.toLower.toNat = (c.toNat + 32) % 2 ^ 32 := congrArg Char.toNat (dif_pos hletter)
  omega

theorem toLower_eq_sigma_iff {c : Char} : c.toLower = 'Σ' ↔ c = 'Σ' := by
  by_cases hcapital : 0x41 ≤ c.toNat ∧ c.toNat ≤ 0x5A
  · have hmove := toNat_toLower_of_capital hcapital
    have hsigma : 'Σ'.toNat = 0x3A3 := rfl
    refine iff_of_false ?_ ?_
    · intro hsame
      rw [hsame] at hmove
      omega
    · intro hsame
      rw [hsame] at hcapital
      omega
  · rw [toLower_of_not_capital hcapital]

theorem toLower_toLower (c : Char) : c.toLower.toLower = c.toLower := by
  by_cases hascii : c.toNat < 0x80
  · exact toLower_of_not_capital (toLower_ascii hascii).2
  · have hsame : c.toLower = c := toLower_of_not_capital (by omega)
    rw [hsame, hsame]

theorem lowerChar_toLower (c : Char) : lowerChar c.toLower = lowerChar c := by
  by_cases hascii : c.toNat < 0x80
  · rw [lowerChar, lowerChar, if_pos hascii, if_pos (toLower_ascii hascii).1, toLower_toLower]
  · rw [toLower_of_not_capital (by omega)]

/-- ASCII letters of both cases are cased, and case rules do not look through them. -/
theorem ranges_of_letters :
    (0x41, 0x5A) ∈ casedRanges ∧ (0x61, 0x7A) ∈ casedRanges ∧
      ∀ r ∈ caseIgnorableRanges, r.2 < 0x41 ∨ 0x5A < r.1 ∧ r.2 < 0x61 ∨ 0x7A < r.1 := by
  decide +kernel

theorem CodeRanges.has_of_mem {ranges : CodeRanges} {r : Nat × Nat} {c : Char} (hr : r ∈ ranges)
    (hfirst : r.1 ≤ c.toNat) (hlast : c.toNat ≤ r.2) : ranges.has c = true :=
  List.any_eq_true.mpr ⟨r, hr, by simp [hfirst, hlast]⟩

/-- Whether a character is cased does not depend on its case. -/
theorem isCased_toLower (c : Char) : isCased c.toLower = isCased c := by
  by_cases hcapital : 0x41 ≤ c.toNat ∧ c.toNat ≤ 0x5A
  · have hmove := toNat_toLower_of_capital hcapital
    obtain ⟨hcapitals, hsmalls, -⟩ := ranges_of_letters
    have hsmall : isCased c.toLower = true :=
      CodeRanges.has_of_mem hsmalls (by dsimp only; omega) (by dsimp only; omega)
    rw [hsmall]
    exact (CodeRanges.has_of_mem hcapitals hcapital.1 hcapital.2).symm
  · rw [toLower_of_not_capital hcapital]

theorem isCaseIgnorable_toLower (c : Char) : isCaseIgnorable c.toLower = isCaseIgnorable c := by
  by_cases hcapital : 0x41 ≤ c.toNat ∧ c.toNat ≤ 0x5A
  · have hmove := toNat_toLower_of_capital hcapital
    obtain ⟨-, -, hranges⟩ := ranges_of_letters
    have hneither : ∀ d : Char, (0x41 ≤ d.toNat ∧ d.toNat ≤ 0x5A) ∨
        (0x61 ≤ d.toNat ∧ d.toNat ≤ 0x7A) → isCaseIgnorable d = false := by
      intro d hd
      refine List.any_eq_false.mpr fun r hr => ?_
      have hrange := hranges r hr
      simp only [Bool.and_eq_true, decide_eq_true_eq]
      omega
    rw [hneither c (.inl hcapital), hneither c.toLower (.inr (by omega))]
  · rw [toLower_of_not_capital hcapital]

/-! ### Lower-casing does not see the case of ASCII letters -/

theorem meetsCased_map (cs : List Char) : meetsCased (cs.map Char.toLower) = meetsCased cs := by
  induction cs with
  | nil => rfl
  | cons c cs ih =>
    unfold meetsCased at ih ⊢
    rw [List.map_cons, List.find?_cons, List.find?_cons, isCaseIgnorable_toLower]
    cases isCaseIgnorable c with
    | true => exact ih
    | false => exact isCased_toLower c

theorem lowerAfter_map (before cs : List Char) :
    lowerAfter (before.map Char.toLower) (cs.map Char.toLower) = lowerAfter before cs := by
  induction cs generalizing before with
  | nil => rfl
  | cons c cs ih =>
    have hsigma : lowerSigma (before.map Char.toLower) (cs.map Char.toLower) =
        lowerSigma before cs := by
      rw [lowerSigma, meetsCased_map, meetsCased_map, lowerSigma]
    have hrest := ih (c :: before)
    rw [List.map_cons] at hrest
    rw [List.map_cons, lowerAfter, lowerAfter, hrest, hsigma, lowerChar_toLower]
    simp only [toLower_eq_sigma_iff]

/-- Full lower-casing does not see whether ASCII letters were in lower case before. -/
theorem lowercase_foldAscii (s : String) : lowercase (foldAscii s) = lowercase s := by
  rw [lowercase, foldAscii, String.toList_ofList]
  exact congrArg String.ofList (lowerAfter_map [] s.toList)

end Text

/-! ### The address that is kept -/

/-- The texts are the same but for blanks around them and the case of ASCII letters. -/
def SpelledAlike (email other : String) : Prop :=
  Text.foldAscii (Text.trim Text.isBlank email) = Text.foldAscii (Text.trim Text.isBlank other)

variable {email other : String}

/-- Emails that are spelled alike are kept alike, or refused alike. -/
theorem SpelledAlike.normalizeEmail_eq (halike : SpelledAlike email other) :
    normalizeEmail email = normalizeEmail other := by
  have hcanonical : canonicalEmail email = canonicalEmail other := by
    calc
      canonicalEmail email = Text.lowercase (Text.foldAscii (Text.trim Text.isBlank email)) :=
        (Text.lowercase_foldAscii _).symm
      _ = Text.lowercase (Text.foldAscii (Text.trim Text.isBlank other)) := by rw [halike]
      _ = canonicalEmail other := Text.lowercase_foldAscii _
  unfold normalizeEmail
  rw [hcanonical]

/-! ### The operations -/

namespace Service

open Procedure

variable (service : Service) (around : Surroundings)

theorem sameButLog_hashPassword (password : String) :
    SameButLog (service.hashPassword around password) (service.hashPassword around password) :=
  .ofExcept _

theorem sameButLog_mailSignupToken (email name : String) :
    SameButLog (service.mailSignupToken around email name)
      (service.mailSignupToken around email name) :=
  .bind (sameButLog_query (Query.logBlind_issue _ _ _ _ _)) fun _ => sameButLog_send _ _

theorem sameButLog_register (user : User) :
    SameButLog (service.register around user) (service.register around user) :=
  .bind (sameButLog_query (Query.logBlind_userByEmail _)) fun _ => .guard <|
    .bind (.recover (sameButLog_query (Query.logBlind_createUser user)) _) fun _ =>
      service.sameButLog_mailSignupToken around user.email user.name

theorem sameButLog_reissueSignup (email : String) :
    SameButLog (service.reissueSignup around email) (service.reissueSignup around email) :=
  .bind (sameButLog_query (Query.logBlind_userByEmail _)) fun _ => .bind (.ofOption _ _) fun user =>
    .guard (service.sameButLog_mailSignupToken around email user.name)

theorem sameButLog_issueReset (email : String) :
    SameButLog (service.issueReset around email) (service.issueReset around email) :=
  .bind (sameButLog_query (Query.logBlind_userByEmail _)) fun _ => .bind (.ofOption _ _) fun _ =>
    .guard <| .bind (sameButLog_query (Query.logBlind_issue _ _ _ _ _)) fun _ => sameButLog_send _ _

theorem sameButLog_replacePassword (email : String) (hashed : HashedPassword) :
    SameButLog (replacePassword email hashed) (replacePassword email hashed) :=
  .bind (sameButLog_query (Query.logBlind_updateUser _ _ _)) fun _ =>
    .bind (.ofOption _ _) fun _ =>
      .bind (sameButLog_query (Query.logBlind_deleteTokens _ _)) fun _ => .pure _

theorem sameButLog_signup (halike : SpelledAlike email other) (name password : String) :
    SameButLog (service.signup around email name password)
      (service.signup around other name password) := by
  unfold signup
  rw [halike.normalizeEmail_eq]
  refine sameButLog_within (.bind (sameButLog_validate _) fun email => ?_) _ _
  refine .bind (sameButLog_validate _) fun name => ?_
  refine .bind (sameButLog_validate _) fun _ => ?_
  refine .bind (service.sameButLog_hashPassword around password) fun hashed => ?_
  refine .bind (sameButLog_asUnit (service.sameButLog_register around _)) fun _ => ?_
  exact .bind (sameButLog_onCache _) fun _ => sameButLog_report _

theorem sameButLog_signin (halike : SpelledAlike email other) (password : String) :
    SameButLog (service.signin email password) (service.signin other password) := by
  have hmismatch : SameButLog signin.mismatch signin.mismatch :=
    .bind (sameButLog_report _) fun _ => .fail _
  unfold signin
  rw [halike.normalizeEmail_eq]
  refine sameButLog_within (.bind (.ofExcept _) fun email => ?_) _ _
  refine .bind (sameButLog_query (Query.logBlind_userByEmail email).onConnection) fun found => ?_
  refine .bind (.ofOption _ found) fun user => .guard ?_
  dsimp only
  split
  · exact .bind (sameButLog_report _) fun _ => sameButLog_cacheRead user
  · exact hmismatch
  · exact hmismatch
  · exact .fail _

theorem sameButLog_resendSignupToken (halike : SpelledAlike email other) :
    SameButLog (service.resendSignupToken around email)
      (service.resendSignupToken around other) := by
  unfold resendSignupToken
  rw [halike.normalizeEmail_eq]
  refine sameButLog_within (.bind (sameButLog_validate _) fun email => ?_) _ _
  exact .bind (sameButLog_asUnit (service.sameButLog_reissueSignup around email)) fun _ =>
    sameButLog_report _

theorem sameButLog_resetPassword (halike : SpelledAlike email other) :
    SameButLog (service.resetPassword around email) (service.resetPassword around other) := by
  unfold resetPassword
  rw [halike.normalizeEmail_eq]
  refine sameButLog_within (.bind (sameButLog_validate _) fun email => ?_) _ _
  exact .bind (sameButLog_asUnit (service.sameButLog_issueReset around email)) fun _ =>
    sameButLog_report _

theorem sameButLog_changePassword (halike : SpelledAlike email other) (password : String) :
    SameButLog (service.changePassword around email password)
      (service.changePassword around other password) := by
  unfold changePassword
  rw [halike.normalizeEmail_eq]
  refine sameButLog_within (.bind (sameButLog_validate _) fun email => ?_) _ _
  refine .bind (sameButLog_validate _) fun _ => ?_
  refine .bind (service.sameButLog_hashPassword around password) fun hashed => ?_
  refine .bind (sameButLog_asUnit (sameButLog_replacePassword email hashed)) fun _ => ?_
  exact .bind (sameButLog_onCache _) fun _ => sameButLog_report _

theorem sameButLog_getUserByEmail (halike : SpelledAlike email other) :
    SameButLog (getUserByEmail email) (getUserByEmail other) := by
  unfold getUserByEmail
  rw [halike.normalizeEmail_eq]
  exact .bind (sameButLog_validate _) fun email =>
    sameButLog_lookUp _ (Query.logBlind_userByEmail email)

end Service

/-! ### All calls -/

namespace Call

def withEmail (email : String) : Call → Call
  | signup _ name password => signup email name password
  | signin _ password => signin email password
  | resendSignupToken _ => resendSignupToken email
  | resetPassword _ => resetPassword email
  | changePassword _ password => changePassword email password
  | getUserByEmail _ => getUserByEmail email
  | call => call

/-- Calls with addresses that are spelled alike end alike. -/
theorem perform_withEmail (service : Service) (around : Surroundings) (call : Call)
    (halike : SpelledAlike email other) (s : Session) :
    ((call.withEmail email).perform service around s).1 =
        ((call.withEmail other).perform service around s).1 ∧
      ((call.withEmail email).perform service around s).2.SameButLog
        ((call.withEmail other).perform service around s).2 := by
  have hanswering : ∀ {α : Type} {p q : Procedure α} (f : α → Answer), Procedure.SameButLog p q →
      (p.answering f s).1 = (q.answering f s).1 ∧
        (p.answering f s).2.SameButLog (q.answering f s).2 :=
    fun f hpq => Step.Agree.bind hpq (fun _ => .pure _) s s (.refl s)
  cases call with
  | signup _ name password =>
    exact hanswering _ (service.sameButLog_signup around halike name password)
  | signin _ password => exact hanswering _ (service.sameButLog_signin halike password)
  | resendSignupToken _ => exact hanswering _ (service.sameButLog_resendSignupToken around halike)
  | resetPassword _ => exact hanswering _ (service.sameButLog_resetPassword around halike)
  | changePassword _ password =>
    exact hanswering _ (service.sameButLog_changePassword around halike password)
  | getUserByEmail _ => exact hanswering _ (Service.sameButLog_getUserByEmail halike)
  | _ => exact ⟨rfl, .refl _⟩

end Call

/-- Texts that are the same but for blanks around them and the case of ASCII letters are kept as the
same address, or refused with the same error. In every session, a call with one of them ends as the
call with the other does, with the same tables, cache and mails. -/
theorem spelling_makes_no_difference (halike : SpelledAlike email other) :
    normalizeEmail email = normalizeEmail other ∧
      ∀ (service : Service) (around : Surroundings) (call : Call) (s : Session),
        ((call.withEmail email).perform service around s).1 =
            ((call.withEmail other).perform service around s).1 ∧
          ((call.withEmail email).perform service around s).2.SameButLog
            ((call.withEmail other).perform service around s).2 :=
  ⟨halike.normalizeEmail_eq, fun service around call s =>
    call.perform_withEmail service around halike s⟩

/-- A sigma between letters that are written large and small. -/
theorem spelling_makes_no_difference_around_sigma :
    SpelledAlike "\u2003aΣB@X" "AΣb@x\t" ∧ normalizeEmail "AΣb@x\t" = .ok "aσb@x" ∧
      normalizeEmail "\u2003aΣB@X" = normalizeEmail "AΣb@x\t" ∧
      let around := (Request.at 5 .purgeExpiredTokens).around
      let call : Call := .signup "" "n" "p"
      let left := (call.withEmail "\u2003aΣB@X").perform .small around (.fresh .unbounded)
      let right := (call.withEmail "AΣb@x\t").perform .small around (.fresh .unbounded)
      left.1 = right.1 ∧ left.2.SameButLog right.2 := by
  have halike : SpelledAlike "\u2003aΣB@X" "AΣb@x\t" := by
    unfold SpelledAlike
    decide +kernel
  obtain ⟨hnormal, hends⟩ := spelling_makes_no_difference halike
  have hkept : normalizeEmail "AΣb@x\t" = .ok "aσb@x" := by
    decide +kernel
  exact ⟨halike, hkept, hnormal, hends _ _ _ _⟩

end IdentityLifecycle
