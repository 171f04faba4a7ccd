import IdentityLifecycle.Proofs.Canonical
import IdentityLifecycle.Proofs.JsonForms
import IdentityLifecycle.Settings.Load
import Mathlib.Data.Nat.Digits.Defs

/-!
# Integers as texts

An integer of 64 bits is read back from its decimals, in a JSON text and in a variable, as it is.
-/

namespace IdentityLifecycle

/-! ### Decimals -/

def digitsValue (ds : List Char) : Nat := Nat.ofDigits 10 (ds.reverse.map Json.digitValue)

inductive Decimal : Int → List Char → Prop
  | natural {ds : List Char} (hds : Json.Digits ds) : Decimal (digitsValue ds) ds
  | plus {ds : List Char} (hds : Json.Digits ds) : Decimal (digitsValue ds) ('+' :: ds)
  | minus {ds : List Char} (hds : Json.Digits ds) : Decimal (-digitsValue ds) ('-' :: ds)

/-- The decimals of an integer in a JSON text: without a plus sign and without leading zeros. -/
inductive JsonDecimal : Int → List Char → Prop
  | natural {ds : List Char} (hds : Json.WholeForm ds) : JsonDecimal (digitsValue ds) ds
  | minus {ds : List Char} (hds : Json.WholeForm ds) : JsonDecimal (-digitsValue ds) ('-' :: ds)

theorem JsonDecimal.numberForm {n : Int} {cs : List Char} (h : JsonDecimal n cs) :
    Json.NumberForm cs := by
  cases h with
  | natural hds => simpa using Json.NumberForm.mk (.inl rfl) hds .absent .absent
  | minus hds => simpa using Json.NumberForm.mk (.inr rfl) hds .absent .absent

theorem foldl_digits (ds : List Char) :
    ds.foldl (fun n c => n * 10 + Json.digitValue c) 0 = digitsValue ds := by
  rw [digitsValue, Nat.ofDigits_eq_foldr, List.foldr_map, List.foldr_reverse]
  congr 1
  funext n c
  push_cast
  omega

def IsSignedWord (n : Int) : Prop := Int64.minValue.toInt ≤ n ∧ n ≤ Int64.maxValue.toInt

/-- A scalar that stands for an integer; what JSON has for minus zero is a zero with a sign. -/
inductive Stands : Int → Scalar → Prop
  | integer {n : Int} {k : Int64} (hk : k.toInt = n) : Stands n (.integer k)
  | negativeZero : Stands 0 (.real (.neg (.ofNat 0)))

/-! ### Numbers of JSON texts -/

namespace Json

theorem le_foldl_digits (ds : List Char) (n : Nat) :
    n ≤ ds.foldl (fun n c => n * 10 + digitValue c) n := by
  induction ds generalizing n with
  | nil => exact Nat.le_refl n
  | cons c ds ih => exact Nat.le_trans (by omega) (ih (n * 10 + digitValue c))

/-- Digits that fit are all taken. -/
theorem pushWhole_of_lt (ds : List Char) (hlt : digitsValue ds < wordRange) :
    pushWhole ds = (⟨digitsValue ds, false⟩, 0) := by
  have hpush : ∀ (ds : List Char) (n : Nat),
      ds.foldl (fun n c => n * 10 + digitValue c) n < wordRange →
      ds.foldl (fun r c => (Significand.push r.1 c,
          if (Significand.push r.1 c).full then r.2 + 1 else r.2)) (⟨n, false⟩, (0 : Int)) =
        (⟨ds.foldl (fun n c => n * 10 + digitValue c) n, false⟩, 0) := by
    intro ds
    induction ds with
    | nil =>
      intro n _
      rfl
    | cons c ds ih =>
      intro n hlt
      have hnext : n * 10 + digitValue c < wordRange :=
        Nat.lt_of_le_of_lt (le_foldl_digits ds _) hlt
      have hstep : Significand.push ⟨n, false⟩ c = ⟨n * 10 + digitValue c, false⟩ := by
        simp [Significand.push, hnext]
      rw [List.foldl_cons, List.foldl_cons, ← ih _ hlt]
      simp [hstep]
  rw [← foldl_digits] at hlt ⊢
  exact hpush ds 0 hlt

theorem WholeForm.digits {ds : List Char} (h : WholeForm ds) : Digits ds := by
  rcases h with rfl | ⟨hds, -⟩
  · exact digits_of_all (by decide) (by decide)
  · exact hds

theorem readNumberText_whole {sign whole rest : List Char} (hsign : sign = [] ∨ sign = ['-'])
    (hwhole : WholeForm whole) (hrest : Stops rest) :
    readNumberText (sign ++ (whole ++ rest)) = some
      ({ negative := decide (sign = ['-']), whole, fraction := none, exponent := none }, rest) :=
  readNumberText_of_parts hsign (readWhole_append hwhole fun c hc => (hrest c hc).1)
    (readFraction_of_stops fun c hc => (hrest c hc).2.1)
    (readExponent_of_stops fun c hc => (hrest c hc).2.2)

theorem readNumber_of_value {sign whole : List Char} {k : JsonNumber}
    (hsign : sign = [] ∨ sign = ['-']) (hwhole : WholeForm whole)
    (hvalue : NumberText.value
      { negative := decide (sign = ['-']), whole, fraction := none, exponent := none } = some k)
    (rest : List Char) (hrest : Stops rest) :
    readNumber (sign ++ whole ++ rest) = some (k, rest) := by
  rw [readNumber, List.append_assoc, readNumberText_whole hsign hwhole hrest]
  simp [hvalue]

/-- The decimals of an integer of 64 bits are read as a number that stands for it. -/
theorem readNumber_decimal {n : Int} {cs : List Char} (h : JsonDecimal n cs)
    (hn : IsSignedWord n) :
    ∃ k, (∀ rest, Stops rest → readNumber (cs ++ rest) = some (k, rest)) ∧
      Stands n (Node.scalarOfNumber k) := by
  obtain ⟨hlower, hupper⟩ := hn
  have hmin : Int64.minValue.toInt = -0x8000000000000000 := rfl
  have hmax : Int64.maxValue.toInt = 0x7FFFFFFFFFFFFFFF := rfl
  cases h with
  | natural hds =>
    have hsmall : digitsValue cs < 0x8000000000000000 := by omega
    have hpush := pushWhole_of_lt cs (by unfold wordRange; omega)
    refine ⟨.natural (UInt64.ofNat (digitsValue cs)),
      readNumber_of_value (.inl rfl) hds (by simp [NumberText.value, hpush]), ?_⟩
    have hword : (UInt64.ofNat (digitsValue cs)).toNat = digitsValue cs :=
      UInt64.toNat_ofNat_of_lt' (by unfold UInt64.size; omega)
    have hsame : (Int64.ofNat (digitsValue cs)).toInt = digitsValue cs :=
      Int64.toInt_ofNat_of_lt (by omega)
    rw [Node.scalarOfNumber, hword, if_pos hsmall]
    exact .integer hsame
  | @minus ds hds =>
    have hsmall : digitsValue ds ≤ 0x8000000000000000 := by omega
    have hpush := pushWhole_of_lt ds (by unfold wordRange; omega)
    by_cases hzero : digitsValue ds = 0
    · refine ⟨.real (.neg (.ofNat 0)),
        readNumber_of_value (.inr rfl) hds (by simp [NumberText.value, hpush, hzero]), ?_⟩
      rw [hzero]
      exact .negativeZero
    · have hsame : (Int64.ofInt (-digitsValue ds)).toInt = -digitsValue ds :=
        Int64.toInt_ofInt_of_le (by omega) (by omega)
      have hfits : ¬signedRange < digitsValue ds := by
        unfold signedRange
        omega
      refine ⟨.negative (Int64.ofInt (-digitsValue ds)), readNumber_of_value (.inr rfl) hds
        (by simp [NumberText.value, hpush, hzero, hfits]), .integer hsame⟩

/-! ### Objects with one member -/

def Reads (fuel depth : Nat) (cs : List Char) (value : Json) : Prop :=
  ∀ blanks rest, Blanks blanks → Stops rest →
    readValue fuel depth (blanks ++ cs ++ rest) = some (value, rest)

theorem reads_number {fuel depth : Nat} {cs : List Char} {k : JsonNumber} (hform : NumberForm cs)
    (hread : ∀ rest, Stops rest → readNumber (cs ++ rest) = some (k, rest)) :
    Reads (fuel + 1) depth cs (.number k) := by
  intro blanks rest hblanks hrest
  have hskip := skipBlanks_value hblanks (.number hform) rest
  have hnumber := hread rest hrest
  obtain ⟨c, tail, rfl, hc⟩ := first_number hform
  rw [readValue, hskip]
  fin_cases hc <;>
    exact congrArg (Option.map fun r => (Json.number r.1, r.2)) hnumber

theorem readMembers_one {fuel depth : Nat} {m : Member} {text : List Char} {value : Json}
    (hm : MemberText m text) (hvalue : Reads fuel depth m.value value) (rest : List Char) :
    readMembers (fuel + 1) depth (text ++ '\x7d' :: rest) = some ([(m.name, value)], rest) := by
  obtain @⟨before, body, after, between, cs, behind, name, hbefore, hbody, hafter, hbetween,
    -, hbehind⟩ := hm
  have hread := hvalue between (behind ++ '\x7d' :: rest) hbetween
    (stops_append hbehind (stops_cons (by decide) rest))
  simp only [List.append_assoc, List.cons_append] at hread ⊢
  rw [readMembers, skipBlanks_append hbefore, skipBlanks_cons rfl]
  simp only [readString_of_spells hbody, bind, Option.bind_some, skipBlanks_append hafter,
    skipBlanks_cons (show isBlank ':' = false from rfl), hread, skipBlanks_append hbehind,
    skipBlanks_cons (show isBlank '\x7d' = false from rfl), String.ofList_toList]
  rfl

theorem reads_object {fuel depth : Nat} {m : Member} {object : List Char} {value : Json}
    (hobject : ObjectText [m] object) (hvalue : Reads fuel depth m.value value) :
    Reads (fuel + 2) (depth + 1) object (.object [(m.name, value)]) := by
  intro blanks rest hblanks hrest
  obtain _ | @⟨_, inside, hms⟩ := hobject
  obtain ⟨tail, htail⟩ := hms.first ('\x7d' :: rest)
  obtain hm | ⟨-, ⟨⟩⟩ := hms
  have hread := readMembers_one hm hvalue rest
  simp only [List.append_assoc, List.cons_append, List.nil_append]
  rw [readValue, skipBlanks_append hblanks, skipBlanks_cons rfl]
  simp only [htail]
  rw [if_neg (by simp)]
  exact congrArg (Option.map fun r => (Json.object r.1, r.2)) hread

/-- A text of one section that gives one field an integer. -/
theorem ofText_section {group field : String} {cs inside object text : List Char} {k : JsonNumber}
    (hobject : ObjectText [⟨group, inside⟩] object) (hinside : ObjectText [⟨field, cs⟩] inside)
    (htext : Around object text) (hform : NumberForm cs)
    (hread : ∀ rest, Stops rest → readNumber (cs ++ rest) = some (k, rest)) :
    ofText (String.ofList text) = some (.object [(group, .object [(field, .number k)])]) := by
  obtain ⟨before, behind, hbefore, hbehind, rfl⟩ := htext
  have hlength : 2 ≤ object.length := by
    cases hobject
    simp
  obtain ⟨fuel, hfuel⟩ : ∃ fuel,
      2 * (String.ofList (before ++ object ++ behind)).length + 2 = fuel + 1 + 2 + 2 := by
    simp only [String.length_ofList, List.length_append]
    exact ⟨2 * (before.length + object.length + behind.length) - 3, by omega⟩
  have hnumber : Reads (fuel + 1) 125 cs (.number k) := reads_number hform hread
  have hvalue := reads_object hobject (reads_object hinside hnumber)
  have hstops : Stops behind := by
    rw [← List.append_nil behind]
    exact stops_append hbehind (by simp [Stops])
  have hwhole := hvalue before behind hbefore hstops
  rw [ofText, hfuel, String.toList_ofList, depthLimit, hwhole]
  simp [skipBlanks_blanks hbehind]

end Json

/-! ### Values of variables -/

/-- Decimals hold nothing but digits and signs, and at least one digit. -/
theorem Decimal.mem {n : Int} {cs : List Char} (h : Decimal n cs) :
    (∀ c ∈ cs, c ∈ ['+', '-'] ∨ Json.isDigit c = true) ∧ ∃ c ∈ cs, Json.isDigit c = true := by
  have hfirst : ∀ {ds}, Json.Digits ds → ∃ c ∈ ds, Json.isDigit c = true := by
    intro ds hds
    obtain ⟨c, ds, rfl⟩ := List.exists_cons_of_ne_nil hds.1
    exact ⟨c, List.mem_cons_self, hds.2 c List.mem_cons_self⟩
  cases h with
  | natural hds => exact ⟨fun c hc => .inr (hds.2 c hc), hfirst hds⟩
  | plus hds | minus hds =>
    obtain ⟨c, hc, hdigit⟩ := hfirst hds
    refine ⟨fun d hd => ?_, c, .tail _ hc, hdigit⟩
    rcases List.mem_cons.mp hd with rfl | hd
    · exact .inl (by decide)
    · exact .inr (hds.2 d hd)

/-- An integer is read back from its decimals. -/
theorem readInteger_decimal {n : Int} {cs : List Char} (h : Decimal n cs) :
    Numeral.readInteger cs = some n := by
  have hdigits : ∀ {ds}, Json.Digits ds → (ds.isEmpty || !ds.all Char.isDigit) = false := by
    intro ds hds
    have hall : ds.all Char.isDigit = true := List.all_eq_true.mpr hds.2
    simp [hds.1, hall]
  have hvalue : ∀ ds, Numeral.valueOfDigits ds = digitsValue ds := foldl_digits
  cases h with
  | natural hds =>
    have hsign : Numeral.readSign cs = (false, cs) := by
      unfold Numeral.readSign
      split
      · exact absurd (hds.2 '-' List.mem_cons_self) (by decide)
      · exact absurd (hds.2 '+' List.mem_cons_self) (by decide)
      · rfl
    simp [Numeral.readInteger, hsign, hdigits hds, Numeral.signed, hvalue]
  | plus hds => simp [Numeral.readInteger, Numeral.readSign, hdigits hds, Numeral.signed, hvalue]
  | minus hds => simp [Numeral.readInteger, Numeral.readSign, hdigits hds, Numeral.signed, hvalue]

/-- The decimals of an integer of 64 bits are the value that stands for it. -/
theorem scalarOfText_decimal {n : Int} {cs : List Char} (h : Decimal n cs) (hn : IsSignedWord n) :
    Stands n (Settings.scalarOfText (String.ofList cs)) := by
  obtain ⟨hmem, c, hc, hdigit⟩ := h.mem
  have hlower : ∀ c ∈ cs, Text.IsLower c := by
    intro c hc
    rcases hmem c hc with hsign | hdigit
    · simp only [List.mem_cons, List.not_mem_nil, or_false] at hsign
      rcases hsign with rfl | rfl <;> exact Text.isLower_of_ascii (by decide) (by decide)
    · obtain ⟨hlower, hupper⟩ := Json.toNat_of_isDigit hdigit
      exact Text.isLower_of_ascii (by omega) (by omega)
  have hword : Text.lowercase (String.ofList cs) = String.ofList cs := by
    rw [Text.lowercase, String.toList_ofList, Text.lowerAfter_of_isLower _ hlower]
  have hne : ∀ word : String, word.toList.any Json.isDigit = false → String.ofList cs ≠ word := by
    intro word hnone hsame
    rw [← hsame, String.toList_ofList, List.any_eq_true.mpr ⟨c, hc, hdigit⟩] at hnone
    cases hnone
  have hinteger : int64OfInt n = some (Int64.ofInt n) := if_pos (by simpa [IsSignedWord] using hn)
  simp only [Settings.scalarOfText, hword]
  rw [if_neg (hne _ (by decide)), if_neg (hne _ (by decide)), String.toList_ofList,
    readInteger_decimal h, Option.bind_some, hinteger]
  exact .integer (Int64.toInt_ofInt_of_le hn.1 (Int.lt_add_one_of_le hn.2))

end IdentityLifecycle
