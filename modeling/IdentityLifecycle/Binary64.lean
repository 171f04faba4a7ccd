/-!
Floating-point numbers of 64 bits, as exact values.
-/
namespace IdentityLifecycle

/-- A finite number is `mantissa * 2 ^ exponent`, with a mantissa below `2 ^ 53` and the least
exponent, from `-1074` on, that allows one. -/
inductive Binary64 where
  | nan
  | infinite (negative : Bool)
  | finite (negative : Bool) (mantissa : Nat) (exponent : Int)
  deriving DecidableEq, Repr

namespace Binary64

def leastExponent : Int := -1074

def leastNormal : Nat := 0x10000000000000

def greatestExponent : Int := 971

def zero (negative : Bool) : Binary64 := finite negative 0 leastExponent

def roundHalfEven (num den : Nat) : Nat :=
  let q := num / den
  let r := num % den
  if den < 2 * r || (2 * r == den && q % 2 == 1) then q + 1 else q

/-- The exponent at which `num / den` has a mantissa of 53 bits, or the least exponent. -/
def exponentOfRatio (num den : Nat) : Int :=
  let e : Int := (num.log2 : Int) - den.log2 - 52
  let short : Bool :=
    if 0 ≤ e then num < den * leastNormal * Nat.pow 2 e.toNat
    else num * Nat.pow 2 (-e).toNat < den * leastNormal
  max leastExponent (if short then e - 1 else e)

def ofRatio (negative : Bool) (num den : Nat) : Binary64 :=
  if num = 0 then zero negative
  else
    let e := exponentOfRatio num den
    let m := if 0 ≤ e then roundHalfEven num (den * Nat.pow 2 e.toNat)
      else roundHalfEven (num * Nat.pow 2 (-e).toNat) den
    let (m, e) := if m = 2 * leastNormal then (leastNormal, e + 1) else (m, e)
    if greatestExponent < e then infinite negative else finite negative m e

def ofNat (n : Nat) : Binary64 := ofRatio false n 1

def ratio (mantissa : Nat) (exponent : Int) : Nat × Nat :=
  if 0 ≤ exponent then (mantissa * Nat.pow 2 exponent.toNat, 1)
  else (mantissa, Nat.pow 2 (-exponent).toNat)

def neg : Binary64 → Binary64
  | nan => nan
  | infinite s => infinite !s
  | finite s m e => finite (!s) m e

def addMagnitude : Binary64 → Binary64 → Binary64
  | finite _ m e, finite _ m' e' =>
    let (n, d) := ratio m e
    let (n', d') := ratio m' e'
    ofRatio false (n * d' + n' * d) (d * d')
  | _, _ => nan

def isSmaller : Binary64 → Binary64 → Bool
  | finite _ m e, finite _ m' e' =>
    let (n, d) := ratio m e
    let (n', d') := ratio m' e'
    n * d' < n' * d
  | _, _ => false

def mulMagnitude : Binary64 → Binary64 → Binary64
  | finite _ m e, finite _ m' e' =>
    let (n, d) := ratio m e
    let (n', d') := ratio m' e'
    ofRatio false (n * n') (d * d')
  | _, _ => nan

def divMagnitude : Binary64 → Binary64 → Binary64
  | finite _ m e, finite _ m' e' =>
    let (n, d) := ratio m e
    let (n', d') := ratio m' e'
    ofRatio false (n * d') (d * n')
  | _, _ => nan

def isInfinite : Binary64 → Bool
  | infinite _ => true
  | _ => false

def maxWord : Nat := 0xffffffffffffffff

/-- The nearest natural number to the value, halves going up, within the range of 64 bits; zero
for what is negative or no number. -/
def toUInt64 : Binary64 → UInt64
  | nan => 0
  | infinite negative => if negative then 0 else UInt64.ofNat maxWord
  | finite true _ _ => 0
  | finite false m e =>
    let (n, d) := ratio m e
    UInt64.ofNat (min maxWord ((2 * n + d) / (2 * d)))

end Binary64

end IdentityLifecycle
