import IdentityLifecycle.Binary64

/-!
The decimal text of a floating-point number: the fewest digits that read back as the number,
written without an exponent.
-/
namespace IdentityLifecycle.Binary64

/-- Whether `num / den` reads back as `mantissa * 2 ^ exponent`: it lies between the midpoints to
the two neighbours, which themselves go to an even mantissa. -/
def readsBack (mantissa : Nat) (exponent : Int) (num den : Nat) : Bool :=
  let (vn, vd) := ratio (4 * mantissa) (exponent - 2)
  let gap := ratio 1 (exponent - 2)
  let below := if mantissa = leastNormal && leastExponent < exponent then 1 else 2
  -- `vn / vd` is the number and `gap` a quarter of the distance to the next one
  let upper := vn * gap.2 + 2 * gap.1 * vd
  let lower := vn * gap.2 - below * gap.1 * vd
  let scale := vd * gap.2
  if mantissa % 2 = 0 then num * scale ≤ upper * den && lower * den ≤ num * scale
  else num * scale < upper * den && lower * den < num * scale

def decimalRatio (digits : Nat) (power : Int) : Nat × Nat :=
  if 0 ≤ power then (digits * Nat.pow 10 power.toNat, 1)
  else (digits, Nat.pow 10 (-power).toNat)

inductive Tie where
  | greater
  | even
  deriving DecidableEq, Repr

def Tie.prefersNext (tie : Tie) (q r unit : Nat) : Bool :=
  unit < 2 * r || (unit == 2 * r && (tie = .greater || q % 2 == 1))

/-- The multiple of `10 ^ power` that reads back as the number, the nearer if both neighbours
do. -/
def onGrid (tie : Tie) (mantissa : Nat) (exponent power : Int) : Option Nat :=
  let (n, d) := ratio mantissa exponent
  let (gn, gd) := decimalRatio 1 power
  let q := n * gd / (d * gn)
  let r := n * gd % (d * gn)
  let down := (fun (a, b) => readsBack mantissa exponent a b) (decimalRatio q power)
  let up := (fun (a, b) => readsBack mantissa exponent a b) (decimalRatio (q + 1) power)
  if up && (!down || tie.prefersNext q r (d * gn)) then some (q + 1)
  else if down then some q
  else none

/-- The number of digits before the decimal point of a fraction, or minus the number of zeros
after it, searched for from `guess` upwards. -/
def magnitude (num den : Nat) : Int :=
  let guess : Int := ((num.log2 : Int) - den.log2 - 1) * 3 / 10 - 1
  let fits (p : Int) : Bool :=
    let (n, d) := decimalRatio 1 p
    num * d < den * n
  ((List.range 8).map fun (i : Nat) => guess + i).find? fits |>.getD (guess + 8)

def shortest (tie : Tie) (mantissa : Nat) (exponent : Int) : Nat × Int :=
  let (n, d) := ratio mantissa exponent
  let top := magnitude n d
  let grids := (List.range 18).map fun (i : Nat) => top - 1 - i
  match grids.findSome? fun power => (onGrid tie mantissa exponent power).map (·, power) with
  | some found => found
  | none => (0, 0)

def positional (digits : Nat) (power : Int) : List Char :=
  let text := Nat.toDigits 10 digits
  if 0 ≤ power then text ++ List.replicate power.toNat '0'
  else
    let places := (-power).toNat
    let padded := List.replicate (places + 1 - text.length) '0' ++ text
    padded.take (padded.length - places) ++ '.' :: padded.drop (padded.length - places)

def dropTrailingZeros : Nat → Nat → Int → Nat × Int
  | 0, digits, power => (digits, power)
  | fuel + 1, digits, power =>
    if digits ≠ 0 && digits % 10 == 0 then dropTrailingZeros fuel (digits / 10) (power + 1)
    else (digits, power)

def signText (negative : Bool) (text : List Char) : String :=
  String.ofList (if negative then '-' :: text else text)

def toText : Binary64 → String
  | nan => "NaN"
  | infinite negative => signText negative ['i', 'n', 'f']
  | finite negative mantissa exponent =>
    if mantissa = 0 then signText negative ['0']
    else
      let (digits, power) := shortest .greater mantissa exponent
      let (digits, power) := dropTrailingZeros 20 digits power
      signText negative (positional digits power)

def ofDecimal (negative : Bool) (digits : Nat) (power : Int) : Binary64 :=
  let size : Int := (Nat.toDigits 10 digits).length + power
  if digits = 0 || size < -400 then zero negative
  else if 400 < size then infinite negative
  else
    let (n, d) := decimalRatio digits power
    ofRatio negative n d

end IdentityLifecycle.Binary64
