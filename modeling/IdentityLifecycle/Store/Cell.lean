import IdentityLifecycle.Basic
import IdentityLifecycle.Binary64.Numeral
import IdentityLifecycle.Text.Basic

/-!
The values in the columns of a table. A column has a preferred class of values, but rows written
from outside may hold a value of another class.
-/
namespace IdentityLifecycle

inductive Cell where
  | null
  | integer (n : Int64)
  | real (x : Binary64)
  | text (s : String)
  | blob (b : Bytes)
  deriving DecidableEq, Repr

namespace Cell

def className : Cell → String
  | null => "NULL"
  | integer _ => "INTEGER"
  | real _ => "REAL"
  | text _ => "TEXT"
  | blob _ => "BLOB"

def realExceeds (x : Binary64) (n : Int64) : Bool :=
  match x with
  | .nan => false
  | .infinite negative => !negative
  | .finite negative mantissa exponent =>
    let (num, den) := Binary64.ratio mantissa exponent
    n.toInt * den < if negative then -(num : Int) else num

def exceeds (cell : Cell) (n : Int64) : Bool :=
  match cell with
  | null => false
  | integer m => n < m
  | real x => realExceeds x n
  | text _ => true
  | blob _ => true

/-- Whether the value is an integer or less, as a number; a missing value is neither. -/
def atMost (cell : Cell) (n : Int64) : Bool :=
  cell ≠ null && !cell.exceeds n

def fraction : Cell → Int × Nat
  | integer n => (n.toInt, 1)
  | real (.finite negative mantissa exponent) =>
    let (num, den) := Binary64.ratio mantissa exponent
    (Numeral.signed negative num, den)
  | real (.infinite negative) => (Numeral.signed negative (Nat.pow 2 1024), 1)
  | _ => (0, 1)

def classRank : Cell → Nat
  | null => 0
  | integer _ => 1
  | real _ => 1
  | text _ => 2
  | blob _ => 3

def order (a b : Cell) : Ordering :=
  match a, b with
  | text s, text t => compare s t
  | blob s, blob t => compare (s.map (·.toNat)) (t.map (·.toNat))
  | a, b =>
    (compare a.classRank b.classRank).then <|
      let (n, d) := a.fraction
      let (n', d') := b.fraction
      compare (n * d') (n' * d)

def isSpace (c : Char) : Bool := c = ' ' || (0x9 ≤ c.toNat && c.toNat ≤ 0xD)

def leadingInt (cs : List Char) : Int :=
  let (negative, cs) := Numeral.readSign (cs.dropWhile isSpace)
  Numeral.signed negative (Numeral.valueOfDigits (cs.takeWhile Char.isDigit))

/-- The integer that a value is read as where one is wanted: numbers lose what is behind the point,
and texts count by the integer at their front. -/
def toInt64 : Cell → Int64
  | null => 0
  | integer n => n
  | text s => clampInt (leadingInt s.toList)
  | blob b => clampInt (leadingInt (b.map fun byte => Char.ofNat byte.toNat))
  | cell =>
    let (n, d) := cell.fraction
    clampInt (n.tdiv d)

def integerOfReal (x : Binary64) : Option Int64 :=
  match x with
  | .finite negative mantissa exponent =>
    let (num, den) := Binary64.ratio mantissa exponent
    let n := Numeral.signed negative (num / den)
    if num % den = 0 && Int64.minValue.toInt < n && n < Int64.maxValue.toInt then int64OfInt n
    else none
  | _ => none

def ofTextAsInteger (s : String) : Cell :=
  let cs := Text.dropEndWhile isSpace (s.toList.dropWhile isSpace)
  match Numeral.ofChars cs with
  | none => text s
  | some numeral =>
    match numeral.toInt?.bind int64OfInt with
    | some n => integer n
    | none =>
      let x := numeral.toBinary64
      match integerOfReal x with
      | some n => integer n
      | none => real x

end Cell

end IdentityLifecycle
