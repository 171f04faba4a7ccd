import IdentityLifecycle.Proofs.Hashing
import IdentityLifecycle.Token.Ledger

/-!
# Token values

A value is written in an alphabet without the slash, so that it can be the last part of a link and
be found again behind the last slash. The bytes that it was made from can be read off it.
-/

namespace IdentityLifecycle

namespace Text

/-- What stands behind the last `mark`. -/
def afterLast (mark : Char) (s : String) : String :=
  String.ofList (s.toList.reverse.takeWhile (· ≠ mark)).reverse

/-- Nothing behind the mark holds another one. -/
theorem afterLast_append {mark : Char} {s : String} (front : String) (hfree : mark ∉ s.toList) :
    afterLast mark (front ++ String.singleton mark ++ s) = s := by
  have hall : ∀ c ∈ s.toList.reverse, decide (c ≠ mark) = true := by
    intro c hc
    have hne : c ≠ mark := fun hmark => hfree (hmark ▸ List.mem_reverse.mp hc)
    simpa using hne
  have hlist : (front ++ String.singleton mark ++ s).toList.reverse =
      s.toList.reverse ++ mark :: front.toList.reverse := by
    simp
  rw [afterLast, hlist, List.takeWhile_append_of_pos hall]
  simp

namespace Base64

theorem isDigit_digit {n : Nat} (hn : n < 64) : isDigit (digit n) = true := by
  revert n
  decide

theorem isDigit_of_mem_encode (bytes : List UInt8) : ∀ c ∈ encode bytes, isDigit c = true := by
  have hdigit := @isDigit_digit
  fun_induction encode bytes with
  | case1 => simp
  | case2 a =>
    have ha := a.toNat_lt
    simp only [List.forall_mem_cons]
    exact ⟨hdigit (by omega), hdigit (by omega), by simp⟩
  | case3 a b =>
    have ha := a.toNat_lt
    have hb := b.toNat_lt
    simp only [List.forall_mem_cons]
    exact ⟨hdigit (by omega), hdigit (by omega), hdigit (by omega), by simp⟩
  | case4 a b c rest ih =>
    have ha := a.toNat_lt
    have hb := b.toNat_lt
    have hc := c.toNat_lt
    simp only [List.forall_mem_cons]
    exact ⟨hdigit (by omega), hdigit (by omega), hdigit (by omega), hdigit (by omega), ih⟩

/-- Three bytes take four digits, and the last one or two take one more than they are. -/
theorem length_encode (bytes : List UInt8) :
    (encode bytes).length = (4 * bytes.length + 2) / 3 := by
  fun_induction encode bytes with
  | case1 => rfl
  | case2 a => simp
  | case3 a b => simp
  | case4 a b c rest ih =>
    simp only [List.length_cons, ih]
    omega

theorem encode_ne_nil {bytes : List UInt8} (hne : bytes ≠ []) : encode bytes ≠ [] := by
  have hlength := length_encode bytes
  have hpos := List.length_pos_iff.mpr hne
  apply List.ne_nil_of_length_pos
  omega

theorem isDigit_iff {c : Char} :
    isDigit c = true ↔
      ('A' ≤ c ∧ c ≤ 'Z') ∨ ('a' ≤ c ∧ c ≤ 'z') ∨ ('0' ≤ c ∧ c ≤ '9') ∨ c = '-' ∨ c = '_' := by
  have hclass : c.isAlphanum = (decide ('A' ≤ c ∧ c ≤ 'Z') ||
      decide ('a' ≤ c) && decide (c ≤ 'z') || decide ('0' ≤ c) && decide (c ≤ '9')) := rfl
  rw [isDigit, hclass]
  simp only [Bool.or_eq_true, Bool.and_eq_true, decide_eq_true_iff, beq_iff_eq, or_assoc]

def sixBits (c : Char) : Nat :=
  if 'A' ≤ c ∧ c ≤ 'Z' then c.toNat - 65
  else if 'a' ≤ c ∧ c ≤ 'z' then c.toNat - 71
  else if '0' ≤ c ∧ c ≤ '9' then c.toNat + 4
  else if c = '-' then 62
  else 63

theorem sixBits_digit {n : Nat} (hn : n < 64) : sixBits (digit n) = n := by
  revert n
  decide

def decode : List Char → List UInt8
  | a :: b :: c :: d :: rest =>
    UInt8.ofNat (sixBits a * 4 + sixBits b / 16) ::
      UInt8.ofNat (sixBits b % 16 * 16 + sixBits c / 4) ::
      UInt8.ofNat (sixBits c % 4 * 64 + sixBits d) :: decode rest
  | [a, b, c] =>
    [UInt8.ofNat (sixBits a * 4 + sixBits b / 16),
      UInt8.ofNat (sixBits b % 16 * 16 + sixBits c / 4)]
  | [a, b] => [UInt8.ofNat (sixBits a * 4 + sixBits b / 16)]
  | _ => []

/-- The bytes can be read back from the digits. -/
theorem decode_encode (bytes : List UInt8) : decode (encode bytes) = bytes := by
  fun_induction encode bytes with
  | case1 => rfl
  | case2 a =>
    have ha := a.toNat_lt
    have hfirst : a.toNat / 4 * 4 + a.toNat % 4 * 16 / 16 = a.toNat := by omega
    simp (disch := omega) only [decode, sixBits_digit, hfirst, UInt8.ofNat_toNat]
  | case3 a b =>
    have ha := a.toNat_lt
    have hb := b.toNat_lt
    have hfirst : a.toNat / 4 * 4 + (a.toNat % 4 * 16 + b.toNat / 16) / 16 = a.toNat := by omega
    have hsecond : (a.toNat % 4 * 16 + b.toNat / 16) % 16 * 16 + b.toNat % 16 * 4 / 4 =
        b.toNat := by omega
    simp (disch := omega) only [decode, sixBits_digit, hfirst, hsecond, UInt8.ofNat_toNat]
  | case4 a b c rest ih =>
    have ha := a.toNat_lt
    have hb := b.toNat_lt
    have hc := c.toNat_lt
    have hfirst : a.toNat / 4 * 4 + (a.toNat % 4 * 16 + b.toNat / 16) / 16 = a.toNat := by omega
    have hsecond : (a.toNat % 4 * 16 + b.toNat / 16) % 16 * 16 +
        (b.toNat % 16 * 4 + c.toNat / 64) / 4 = b.toNat := by omega
    have hthird : (b.toNat % 16 * 4 + c.toNat / 64) % 4 * 64 + c.toNat % 64 = c.toNat := by omega
    simp (disch := omega) only [decode, sixBits_digit, hfirst, hsecond, hthird,
      UInt8.ofNat_toNat, ih]

theorem encode_injective : Function.Injective encode :=
  Function.LeftInverse.injective decode_encode

end Base64

end Text

namespace Ledger

theorem toList_generateValue (ledger : Ledger) (random : ByteSource) :
    (ledger.generateValue random).toList =
      Text.Base64.encode (random.take ledger.tokenBytes) := by
  rw [generateValue, Token.valueOfBytes, String.toList_ofList]

/-- Four digits stand for three bytes, and the rest is rounded up. -/
theorem length_generateValue (ledger : Ledger) (random : ByteSource) :
    (ledger.generateValue random).length = (4 * ledger.tokenBytes + 2) / 3 := by
  rw [← String.length_toList, toList_generateValue, Text.Base64.length_encode,
    ByteSource.length_take]

/-- Values are the same just if the bytes are that they are made from. -/
theorem generateValue_eq_iff {ledger : Ledger} {random other : ByteSource} :
    ledger.generateValue other = ledger.generateValue random ↔
      other.take ledger.tokenBytes = random.take ledger.tokenBytes := by
  rw [← String.toList_inj, toList_generateValue, toList_generateValue]
  exact Text.Base64.encode_injective.eq_iff

theorem generateValue_ne_empty {ledger : Ledger} (hbytes : 1 ≤ ledger.tokenBytes)
    (random : ByteSource) : ledger.generateValue random ≠ "" := by
  have hlength : (random.take ledger.tokenBytes).length ≠ 0 := by
    rw [ByteSource.length_take]
    omega
  have hencode := Text.Base64.encode_ne_nil (fun hnil => hlength (List.length_eq_zero_iff.mpr hnil))
  intro hempty
  apply hencode
  rw [← toList_generateValue, hempty]
  rfl

theorem generateValue_eq_empty {ledger : Ledger} (hbytes : ledger.tokenBytes = 0)
    (random : ByteSource) : ledger.generateValue random = "" := by
  rw [generateValue, hbytes]
  rfl

/-- A value can stand in a path. -/
theorem slash_not_mem_generateValue (ledger : Ledger) (random : ByteSource) :
    '/' ∉ (ledger.generateValue random).toList := by
  rw [toList_generateValue]
  intro hslash
  have hdigit := Text.Base64.isDigit_of_mem_encode _ _ hslash
  exact absurd hdigit (by decide)

end Ledger

end IdentityLifecycle
