import IdentityLifecycle.Proofs.Canonical

/-!
# The grammar of email addresses

An address is accepted if, without the blanks around it and in lower case, it has one `@` with
something on both sides, no blank and at most 254 bytes. The first of these rules that it breaks is
the error.
-/

namespace IdentityLifecycle

/-! ### One mark -/

/-- An address: a user and a host with the only `@` between them, and no blank. -/
structure IsEmail (cs : List Char) : Prop where
  parts : ∃ user host, cs = user ++ '@' :: host ∧ user ≠ [] ∧ host ≠ [] ∧ '@' ∉ user ∧ '@' ∉ host
  unbroken : ∀ c ∈ cs, Text.isBlank c = false

/-- An address, split at its first `@`. -/
theorem isAddress_append {user host : List Char} (huser : '@' ∉ user) :
    isAddress (user ++ '@' :: host) = true ↔
      user ≠ [] ∧ host ≠ [] ∧ '@' ∉ host ∧
        ∀ c ∈ user ++ '@' :: host, Text.isBlank c = false := by
  have hother : ∀ c ∈ user, decide (c ≠ '@') = true := by
    intro c hc
    exact decide_eq_true fun hsame => huser (hsame ▸ hc)
  have hspan : (user ++ '@' :: host).span (· ≠ '@') = (user, '@' :: host) := by
    rw [List.span_eq_takeWhile_dropWhile, List.takeWhile_append_of_pos hother,
      List.dropWhile_append_of_pos hother]
    simp
  rw [isAddress, hspan]
  dsimp only
  simp only [Bool.and_eq_true, Bool.not_eq_true', List.isEmpty_eq_false_iff, List.any_eq_false,
    List.contains_eq_mem, decide_eq_false_iff_not, Bool.not_eq_true, and_assoc]

theorem not_isAddress_of_not_mem {cs : List Char} (hmark : '@' ∉ cs) : isAddress cs = false := by
  have hother : ∀ c ∈ cs, decide (c ≠ '@') = true := by
    intro c hc
    exact decide_eq_true fun hsame => hmark (hsame ▸ hc)
  have hnone : cs.dropWhile (· ≠ '@') = [] := List.dropWhile_eq_nil_iff.mpr hother
  rw [isAddress, List.span_eq_takeWhile_dropWhile, hnone]

/-- The check, which splits a text at its first mark, decides the grammar. -/
theorem isAddress_iff {cs : List Char} : isAddress cs = true ↔ IsEmail cs := by
  constructor
  · intro haddress
    have hmark : '@' ∈ cs := by
      by_contra hmark
      rw [not_isAddress_of_not_mem hmark] at haddress
      cases haddress
    obtain ⟨user, host, rfl, huser⟩ := List.eq_append_cons_of_mem hmark
    obtain ⟨hne, hne', hhost, hunbroken⟩ := (isAddress_append huser).mp haddress
    exact ⟨⟨user, host, rfl, hne, hne', huser, hhost⟩, hunbroken⟩
  · rintro ⟨⟨user, host, rfl, hne, hne', huser, hhost⟩, hunbroken⟩
    exact (isAddress_append huser).mpr ⟨hne, hne', hhost, hunbroken⟩

/-! ### The whole check -/

theorem utf8ByteSize_pos_iff {s : String} : 1 ≤ s.utf8ByteSize ↔ s ≠ "" := by
  rw [Nat.one_le_iff_ne_zero, Ne, String.utf8ByteSize_eq_zero_iff]

/-- What a text must be to be kept as an email address. -/
structure KeptEmail (s : String) : Prop where
  not_empty : 1 ≤ s.utf8ByteSize
  short : s.utf8ByteSize ≤ 254
  address : IsEmail s.toList

def emailFault (s : String) : ValidationError :=
  if s = "" then .emptyEmail
  else if 254 < s.utf8ByteSize then .emailTooLong 254
  else .invalidEmail s

theorem normalizeEmail_of_kept {email normal : String} (hnormal : canonicalEmail email = normal)
    (hkept : KeptEmail normal) : normalizeEmail email = .ok normal :=
  normalizeEmail_eq_ok.mpr ⟨hnormal, utf8ByteSize_pos_iff.mp hkept.not_empty, hkept.short,
    isAddress_iff.mpr hkept.address⟩

/-- What is not kept is refused for the first rule that it breaks. -/
theorem normalizeEmail_of_not_kept {email normal : String} (hnormal : canonicalEmail email = normal)
    (hbroken : ¬KeptEmail normal) : normalizeEmail email = .error (emailFault normal) := by
  unfold normalizeEmail emailFault
  rw [hnormal]
  dsimp only
  by_cases hempty : normal = ""
  · rw [if_pos hempty, if_pos hempty]
  rw [if_neg hempty, if_neg hempty]
  by_cases hlong : 254 < normal.utf8ByteSize
  · rw [if_pos hlong, maxEmailLength, if_pos hlong]
  · have haddress : ¬isAddress normal.toList = true := by
      intro haddress
      exact hbroken ⟨utf8ByteSize_pos_iff.mpr hempty, by omega, isAddress_iff.mp haddress⟩
    rw [if_neg hlong, maxEmailLength, if_neg hlong, if_neg haddress]

/-- An email address is accepted if and only if what is between the blanks around it is, in lower
case, in the grammar. That is kept, and accepted again unchanged. -/
theorem normalizeEmail_exact (email : String) :
    ∃ core, (∀ s, Text.Stripped Text.isBlank email s ↔ s = core) ∧
      (normalizeEmail email = .ok (Text.lowercase core) ↔ KeptEmail (Text.lowercase core)) ∧
      (¬KeptEmail (Text.lowercase core) →
        normalizeEmail email = .error (emailFault (Text.lowercase core))) ∧
      ∀ normal, normalizeEmail email = .ok normal → normalizeEmail normal = .ok normal := by
  have hnormal : canonicalEmail email = Text.lowercase (Text.trim Text.isBlank email) := rfl
  refine ⟨Text.trim Text.isBlank email, fun s => ?_, ?_, ?_, ?_⟩
  · constructor
    · exact fun hstripped => hstripped.trim_eq.symm
    · rintro rfl
      exact Text.stripped_trim Text.isBlank email
  · constructor
    · intro hok
      by_contra hbroken
      rw [normalizeEmail_of_not_kept hnormal hbroken] at hok
      cases hok
    · exact normalizeEmail_of_kept hnormal
  · exact normalizeEmail_of_not_kept hnormal
  · exact fun normal => normalizeEmail_idempotent

/-- A mark ends a word, and with it goes the final form of sigma; a point does not. -/
example : normalizeEmail "\u2003ΟΔΟΣ@ΣΑΣ.GR\t" = .ok "οδος@σασ.gr" := by
  decide +kernel

end IdentityLifecycle
