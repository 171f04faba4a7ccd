import IdentityLifecycle.Proofs.Trimming
import IdentityLifecycle.User.Validation

/-!
# Canonical spellings

Lower-casing a text twice is lower-casing it once, and so the spellings under which email addresses
and names are kept pass their own checks unchanged.
-/

namespace IdentityLifecycle

namespace Text

/-! ### The table of lower cases -/

def span (first last : Nat) : Nat := (1 <<< (last + 1 - first) - 1) <<< first

theorem testBit_span {first last n : Nat} (hfirst : first ≤ n) (hlast : n ≤ last) :
    (span first last).testBit n = true := by
  rw [span, Nat.testBit_shiftLeft, Nat.one_shiftLeft, Nat.testBit_two_pow_sub_one,
    Bool.and_eq_true]
  exact ⟨decide_eq_true hfirst, decide_eq_true (by omega)⟩

namespace CaseRun

def halves (run : CaseRun) (shift : Int) (parity : Nat) : Nat :=
  let first := (run.first + shift).toNat
  let last := (run.last + shift).toNat
  if run.stride = 2 ∧ first % 2 ≠ parity then 0
  else span ((first + 1 - parity) / 2) ((last - parity) / 2)

def hitsScalars (run : CaseRun) : Bool :=
  let first := run.first + run.shift
  let last := run.last + run.shift
  0 ≤ first && (last < 0x130 || 0x130 < first && last < 0xD800 || 0xDFFF < first && last < 0x110000)

theorem covers_iff {run : CaseRun} {n : Nat} :
    run.covers n = true ↔ run.first ≤ n ∧ n ≤ run.last ∧ (n - run.first) % run.stride = 0 := by
  simp [covers, and_assoc]

theorem testBit_halves {run : CaseRun} {shift : Int} {n m : Nat} (hcovers : run.covers n = true)
    (hfirst : 0 ≤ run.first + shift) (hm : (m : Int) = n + shift) :
    (run.halves shift (m % 2)).testBit (m / 2) = true := by
  obtain ⟨hge, hle, hstride⟩ := covers_iff.mp hcovers
  unfold halves
  dsimp only
  rw [if_neg]
  · apply testBit_span <;> omega
  · rintro ⟨htwo, hodd⟩
    rw [htwo] at hstride
    omega

end CaseRun

theorem testBit_foldr {runs : List CaseRun} {run : CaseRun} (bits : CaseRun → Nat) {n : Nat}
    (hrun : run ∈ runs) (hbit : (bits run).testBit n = true) :
    (runs.foldr (fun run rest => bits run ||| rest) 0).testBit n = true := by
  induction runs with
  | nil => exact absurd hrun List.not_mem_nil
  | cons other runs ih =>
    rw [List.foldr_cons, Nat.testBit_or, Bool.or_eq_true]
    rcases List.mem_cons.mp hrun with rfl | hrun
    · exact .inl hbit
    · exact .inr (ih hrun)

/-- The halves of the code points of one parity that the table covers. -/
def covered (parity : Nat) : Nat :=
  caseRuns.foldr (fun run rest => run.halves 0 parity ||| rest) 0

/-- The halves of the code points of one parity that the table maps to. -/
def reached (parity : Nat) : Nat :=
  caseRuns.foldr (fun run rest => run.halves run.shift parity ||| rest) 0

/-- No code point that the table maps to is one that it maps. Both are sets of bits, so that the
whole table is compared at once. -/
theorem reached_and_covered : ∀ parity < 2, reached parity &&& covered parity = 0 := by
  decide +kernel

theorem caseRuns_hitsScalars : ∀ run ∈ caseRuns, run.hitsScalars = true := by
  decide +kernel

/-- A capital sigma has a lower case; the small sigmas and the dot above are their own. -/
theorem caseRuns_sigma :
    (∃ run ∈ caseRuns, run.covers 0x3A3 = true) ∧
      ∀ n ∈ [0x3C3, 0x3C2, 0x307], ∀ run ∈ caseRuns, run.covers n = false := by
  decide +kernel

theorem not_covers_of_covers {run other : CaseRun} {n m : Nat} (hrun : run ∈ caseRuns)
    (hother : other ∈ caseRuns) (hcovers : run.covers n = true) (hm : (m : Int) = n + run.shift) :
    other.covers m = false := by
  rw [Bool.eq_false_iff]
  intro hagain
  have hscalar := caseRuns_hitsScalars run hrun
  simp only [CaseRun.hitsScalars, Bool.and_eq_true, decide_eq_true_eq] at hscalar
  have hreached : (reached (m % 2)).testBit (m / 2) = true :=
    testBit_foldr (fun run => run.halves run.shift (m % 2)) hrun
      (CaseRun.testBit_halves hcovers hscalar.1 hm)
  have hcovered : (covered (m % 2)).testBit (m / 2) = true :=
    testBit_foldr (fun run => run.halves 0 (m % 2)) hother
      (CaseRun.testBit_halves hagain (by omega) (by omega))
  -- halved, the code point would be a bit of both sets for its parity
  have hboth : (reached (m % 2) &&& covered (m % 2)).testBit (m / 2) = true := by
    rw [Nat.testBit_and, hreached, hcovered]
    rfl
  rw [reached_and_covered _ (Nat.mod_lt m Nat.two_pos), Nat.zero_testBit] at hboth
  exact Bool.noConfusion hboth

theorem toNat_ofNat {n : Nat} (hvalid : n.isValidChar) : (Char.ofNat n).toNat = n := by
  rw [Char.ofNat, dif_pos hvalid]
  rfl

/-! ### Characters that lower-casing leaves alone -/

def IsLower (c : Char) : Prop := c ≠ 'Σ' ∧ lowerChar c = [c]

theorem toLower_of_not_capital {c : Char} (hsmall : ¬(0x41 ≤ c.toNat ∧ c.toNat ≤ 0x5A)) :
    c.toLower = c :=
  dif_neg hsmall

theorem toLower_ascii {c : Char} (hascii : c.toNat < 0x80) :
    c.toLower.toNat < 0x80 ∧ ¬(0x41 ≤ c.toLower.toNat ∧ c.toLower.toNat ≤ 0x5A) := by
  by_cases hcapital : 0x41 ≤ c.toNat ∧ c.toNat ≤ 0x5A
  · have hletter : c.val ≥ 'A'.val ∧ c.val ≤ 'Z'.val := hcapital
    have hmove : c.toLower.toNat = (c.toNat + 32) % 2 ^ 32 :=
      congrArg Char.toNat (dif_pos hletter)
    omega
  · rw [toLower_of_not_capital hcapital]
    exact ⟨hascii, hcapital⟩

theorem isLower_of_ascii {c : Char} (hascii : c.toNat < 0x80)
    (hsmall : ¬(0x41 ≤ c.toNat ∧ c.toNat ≤ 0x5A)) : IsLower c := by
  constructor
  · rintro rfl
    exact absurd hascii (by decide)
  · rw [lowerChar, if_pos hascii, toLower_of_not_capital hsmall]

theorem isLower_of_not_covered {c : Char} (hdotted : c ≠ '\u0130')
    (hfree : ∀ run ∈ caseRuns, run.covers c.toNat = false) : IsLower c := by
  by_cases hascii : c.toNat < 0x80
  · refine isLower_of_ascii hascii fun hcapital => ?_
    have hcovers : (⟨0x41, 0x5A, 1, 32⟩ : CaseRun).covers c.toNat = true :=
      CaseRun.covers_iff.mpr ⟨hcapital.1, hcapital.2, Nat.mod_one _⟩
    rw [hfree _ List.mem_cons_self] at hcovers
    exact Bool.noConfusion hcovers
  constructor
  · rintro rfl
    obtain ⟨run, hrun, hcovers⟩ := caseRuns_sigma.1
    exact Bool.noConfusion ((hfree run hrun).symm.trans hcovers)
  · have hnone : caseRuns.find? (·.covers c.toNat) = none := by
      rw [List.find?_eq_none]
      intro run hrun
      simp [hfree run hrun]
    rw [lowerChar, if_neg hascii, if_neg hdotted, hnone]

theorem isLower_of_covered {c : Char} {run : CaseRun} (hrun : run ∈ caseRuns)
    (hcovers : run.covers c.toNat = true) : IsLower (Char.ofNat (c.toNat + run.shift).toNat) := by
  obtain ⟨hfirst, hlast, -⟩ := CaseRun.covers_iff.mp hcovers
  have hscalar := caseRuns_hitsScalars run hrun
  simp only [CaseRun.hitsScalars, Bool.and_eq_true, Bool.or_eq_true, decide_eq_true_eq] at hscalar
  have hvalid : (c.toNat + run.shift).toNat.isValidChar := by
    unfold Nat.isValidChar
    omega
  have hshift : ((c.toNat + run.shift).toNat : Int) = c.toNat + run.shift := by
    omega
  apply isLower_of_not_covered
  · intro hdotted
    have hcode := congrArg Char.toNat hdotted
    rw [toNat_ofNat hvalid] at hcode
    have hvalue : '\u0130'.toNat = 0x130 := rfl
    omega
  · intro other hother
    rw [toNat_ofNat hvalid]
    exact not_covers_of_covers hrun hother hcovers hshift

/-- What lower-casing makes of a character is in lower case. -/
theorem isLower_of_mem_lowerChar {c d : Char} (hd : d ∈ lowerChar c) : IsLower d := by
  unfold lowerChar at hd
  by_cases hascii : c.toNat < 0x80
  · rw [if_pos hascii, List.mem_singleton] at hd
    obtain ⟨hlower, hsmall⟩ := toLower_ascii hascii
    rw [hd]
    exact isLower_of_ascii hlower hsmall
  rw [if_neg hascii] at hd
  by_cases hdotted : c = '\u0130'
  · rw [if_pos hdotted] at hd
    rcases List.mem_pair.mp hd with rfl | rfl
    · exact isLower_of_ascii (by decide) (by decide)
    · exact isLower_of_not_covered (by decide) (caseRuns_sigma.2 0x307 (by decide))
  rw [if_neg hdotted] at hd
  cases hfound : caseRuns.find? (·.covers c.toNat) with
  | some run =>
    rw [hfound, List.mem_singleton] at hd
    rw [hd]
    have hcovers : run.covers c.toNat = true := by simpa using List.find?_some hfound
    exact isLower_of_covered (List.mem_of_find?_eq_some hfound) hcovers
  | none =>
    rw [hfound, List.mem_singleton] at hd
    rw [hd]
    apply isLower_of_not_covered hdotted
    intro run hrun
    simpa using List.find?_eq_none.mp hfound run hrun

theorem isLower_lowerSigma (before after : List Char) : IsLower (lowerSigma before after) := by
  unfold lowerSigma
  split
  · exact isLower_of_not_covered (by decide) (caseRuns_sigma.2 0x3C2 (by decide))
  · exact isLower_of_not_covered (by decide) (caseRuns_sigma.2 0x3C3 (by decide))

/-! ### Lower-casing twice -/

theorem isLower_of_mem_lowerAfter {cs before : List Char} {d : Char}
    (hd : d ∈ lowerAfter before cs) : IsLower d := by
  induction cs generalizing before with
  | nil => exact absurd hd List.not_mem_nil
  | cons c cs ih =>
    rw [lowerAfter, List.mem_append] at hd
    rcases hd with hd | hd
    · by_cases hsigma : c = 'Σ'
      · rw [if_pos hsigma, List.mem_singleton] at hd
        rw [hd]
        exact isLower_lowerSigma before cs
      · rw [if_neg hsigma] at hd
        exact isLower_of_mem_lowerChar hd
    · exact ih hd

/-- What is in lower case already stays, wherever it stands. -/
theorem lowerAfter_of_isLower {cs : List Char} (before : List Char) (hcs : ∀ c ∈ cs, IsLower c) :
    lowerAfter before cs = cs := by
  induction cs generalizing before with
  | nil => rfl
  | cons c cs ih =>
    obtain ⟨hsigma, hsame⟩ := hcs c List.mem_cons_self
    rw [lowerAfter, if_neg hsigma, hsame, ih (c :: before) fun d hd => hcs d (.tail c hd)]
    rfl

/-- Lower-casing twice comes to the same as doing it once. -/
theorem lowercase_lowercase (s : String) : lowercase (lowercase s) = lowercase s := by
  unfold lowercase
  rw [String.toList_ofList]
  rw [lowerAfter_of_isLower [] fun _ hd => isLower_of_mem_lowerAfter hd]

end Text

theorem not_isBlank_of_isAddress {cs : List Char} (haddress : isAddress cs = true) :
    ∀ c ∈ cs, Text.isBlank c = false := by
  unfold isAddress at haddress
  split at haddress
  · simp only [Bool.and_eq_true, Bool.not_eq_true', List.any_eq_false] at haddress
    intro c hc
    simpa using haddress.2 c hc
  · exact Bool.noConfusion haddress

/-- Which emails are accepted, and as what. -/
theorem normalizeEmail_eq_ok {email normal : String} :
    normalizeEmail email = .ok normal ↔
      canonicalEmail email = normal ∧ normal ≠ "" ∧ normal.utf8ByteSize ≤ maxEmailLength ∧
        isAddress normal.toList = true := by
  unfold normalizeEmail
  generalize canonicalEmail email = spelling
  generalize maxEmailLength = limit
  dsimp only
  constructor
  · intro hnormal
    split at hnormal
    · cases hnormal
    split at hnormal
    · cases hnormal
    split at hnormal
    · cases hnormal
      exact ⟨rfl, by assumption, by omega, by assumption⟩
    · cases hnormal
  · rintro ⟨rfl, hne, hlength, haddress⟩
    rw [if_neg hne, if_neg (by omega), if_pos haddress]

theorem normalizeEmail_ne_empty {email normal : String}
    (hnormal : normalizeEmail email = .ok normal) : normal ≠ "" :=
  (normalizeEmail_eq_ok.mp hnormal).2.1

theorem normalizeEmail_idempotent {email normal : String}
    (hnormal : normalizeEmail email = .ok normal) : normalizeEmail normal = .ok normal := by
  obtain ⟨hspelling, hne, hlength, haddress⟩ := normalizeEmail_eq_ok.mp hnormal
  refine normalizeEmail_eq_ok.mpr ⟨?_, hne, hlength, haddress⟩
  calc
    canonicalEmail normal = Text.lowercase normal := by
      rw [canonicalEmail, Text.trim_of_free (not_isBlank_of_isAddress haddress)]
    _ = Text.lowercase (canonicalEmail email) := by rw [hspelling]
    _ = canonicalEmail email := Text.lowercase_lowercase _
    _ = normal := hspelling

/-- Which names are accepted, and as what. -/
theorem validateName_eq_ok {name valid : String} :
    validateName name = .ok valid ↔
      Text.trim Text.isBlank name = valid ∧ valid ≠ "" ∧ valid.length ≤ maxNameLength := by
  unfold validateName
  generalize Text.trim Text.isBlank name = trimmed
  generalize maxNameLength = limit
  dsimp only
  constructor
  · intro hvalid
    split at hvalid
    · cases hvalid
    split at hvalid
    · cases hvalid
    · cases hvalid
      exact ⟨rfl, by assumption, by omega⟩
  · rintro ⟨rfl, hne, hlength⟩
    rw [if_neg hne, if_neg (by omega)]

theorem validateName_idempotent {name valid : String} (hvalid : validateName name = .ok valid) :
    validateName valid = .ok valid := by
  obtain ⟨htrim, hne, hlength⟩ := validateName_eq_ok.mp hvalid
  refine validateName_eq_ok.mpr ⟨?_, hne, hlength⟩
  rw [← htrim, Text.trim_trim]

end IdentityLifecycle
