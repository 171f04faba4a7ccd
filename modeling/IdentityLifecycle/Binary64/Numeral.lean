import IdentityLifecycle.Binary64.Decimal

/-!
Decimal numerals, and the numbers that they stand for.
-/
namespace IdentityLifecycle

/-- A numeral such as `-12.5e3`: its digits up to the point, those after it, and its exponent. -/
structure Numeral where
  negative : Bool
  whole : List Char
  fraction : Option (List Char)
  exponent : Option Int
  deriving DecidableEq, Repr

namespace Numeral

def valueOfDigits (ds : List Char) : Nat := ds.foldl (fun n c => n * 10 + (c.toNat - 48)) 0

def readSign : List Char → Bool × List Char
  | '-' :: cs => (true, cs)
  | '+' :: cs => (false, cs)
  | cs => (false, cs)

def signed (negative : Bool) (n : Nat) : Int := if negative then -n else n

def readInteger (cs : List Char) : Option Int :=
  let (negative, ds) := readSign cs
  if ds.isEmpty || !ds.all Char.isDigit then none
  else some (signed negative (valueOfDigits ds))

def readFraction : List Char → Option (List Char) × List Char
  | '.' :: cs =>
    let (ds, rest) := cs.span Char.isDigit
    (some ds, rest)
  | cs => (none, cs)

def readExponent : List Char → Option (Option Int)
  | [] => some none
  | c :: cs => if c = 'e' || c = 'E' then (readInteger cs).map some else none

def ofChars (cs : List Char) : Option Numeral :=
  let (negative, cs) := readSign cs
  let (whole, cs) := cs.span Char.isDigit
  let (fraction, cs) := readFraction cs
  if whole.isEmpty && (fraction.getD []).isEmpty then none
  else (readExponent cs).map fun exponent => { negative, whole, fraction, exponent }

def toBinary64 (numeral : Numeral) : Binary64 :=
  let fraction := numeral.fraction.getD []
  Binary64.ofDecimal numeral.negative (valueOfDigits (numeral.whole ++ fraction))
    (numeral.exponent.getD 0 - fraction.length)

def toInt? (numeral : Numeral) : Option Int :=
  if numeral.fraction.isNone && numeral.exponent.isNone then
    some (signed numeral.negative (valueOfDigits numeral.whole))
  else none

end Numeral

def Binary64.ofText? (s : String) : Option Binary64 :=
  let (negative, cs) := Numeral.readSign s.toList
  let word := cs.map Char.toLower
  if word = "inf".toList || word = "infinity".toList then some (.infinite negative)
  else if word = "nan".toList then some .nan
  else (Numeral.ofChars s.toList).map Numeral.toBinary64

end IdentityLifecycle
