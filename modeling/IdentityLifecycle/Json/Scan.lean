import IdentityLifecycle.Basic
import IdentityLifecycle.Json.Value

/-!
The parts of a JSON text: blanks, strings and numbers. Each reader takes its part off the front and
answers the rest.
-/
namespace IdentityLifecycle.Json

def isBlank (c : Char) : Bool := c = ' ' || c = '\n' || c = '\t' || c = '\r'

def skipBlanks (cs : List Char) : List Char := cs.dropWhile isBlank

def hexWord (a b c d : Char) : Option Nat := do
  return (← hexValue a) * 4096 + (← hexValue b) * 256 + (← hexValue c) * 16 + (← hexValue d)

def shortEscape : Char → Option Char
  | '"' => some '"'
  | '\\' => some '\\'
  | '/' => some '/'
  | 'b' => some '\x08'
  | 'f' => some '\x0c'
  | 'n' => some '\n'
  | 'r' => some '\r'
  | 't' => some '\t'
  | _ => none

def joinSurrogates (high low : Nat) : Char :=
  Char.ofNat (0x10000 + (high - 0xD800) * 0x400 + (low - 0xDC00))

/-- Reads a string after its opening quote. A surrogate counts only in a pair. -/
def readString : List Char → Option (List Char × List Char)
  | [] => none
  | '"' :: rest => some ([], rest)
  | '\\' :: 'u' :: a :: b :: c :: d :: rest => do
    let n ← hexWord a b c d
    if 0xD800 ≤ n && n ≤ 0xDBFF then
      match rest with
      | '\\' :: 'u' :: a' :: b' :: c' :: d' :: rest' => do
        let n' ← hexWord a' b' c' d'
        if 0xDC00 ≤ n' && n' ≤ 0xDFFF then
          let (cs, rest) ← readString rest'
          return (joinSurrogates n n' :: cs, rest)
        else none
      | _ => none
    else if 0xDC00 ≤ n && n ≤ 0xDFFF then none
    else do
      let (cs, rest) ← readString rest
      return (Char.ofNat n :: cs, rest)
  | '\\' :: c :: rest => do
    let c ← shortEscape c
    let (cs, rest) ← readString rest
    return (c :: cs, rest)
  | c :: rest =>
    if c = '\\' || c.toNat < 0x20 then none
    else do
      let (cs, rest) ← readString rest
      return (c :: cs, rest)

def skipString : List Char → Option (List Char)
  | [] => none
  | '"' :: rest => some rest
  | '\\' :: 'u' :: a :: b :: c :: d :: rest =>
    if (hexWord a b c d).isSome then skipString rest else none
  | '\\' :: c :: rest => if (shortEscape c).isSome then skipString rest else none
  | c :: rest => if c = '\\' || c.toNat < 0x20 then none else skipString rest

def isDigit (c : Char) : Bool := '0' ≤ c && c ≤ '9'

def digitValue (c : Char) : Nat := c.toNat - 48

structure NumberText where
  negative : Bool
  whole : List Char
  fraction : Option (List Char)
  exponent : Option (Bool × List Char)

def digits (cs : List Char) : Option (List Char × List Char) :=
  match cs.span isDigit with
  | ([], _) => none
  | (ds, rest) => some (ds, rest)

def readWhole : List Char → Option (List Char × List Char)
  | '0' :: rest =>
    match rest with
    | c :: _ => if isDigit c then none else some (['0'], rest)
    | [] => some (['0'], rest)
  | cs => digits cs

def readFraction : List Char → Option (Option (List Char) × List Char)
  | '.' :: rest => (digits rest).map fun (ds, rest) => (some ds, rest)
  | cs => some (none, cs)

def readExponent : List Char → Option (Option (Bool × List Char) × List Char)
  | c :: rest =>
    if c = 'e' || c = 'E' then
      match rest with
      | '-' :: rest => (digits rest).map fun (ds, rest) => (some (true, ds), rest)
      | '+' :: rest => (digits rest).map fun (ds, rest) => (some (false, ds), rest)
      | rest => (digits rest).map fun (ds, rest) => (some (false, ds), rest)
    else some (none, c :: rest)
  | [] => some (none, [])

def readNumberText (cs : List Char) : Option (NumberText × List Char) := do
  let (negative, cs) := match cs with
    | '-' :: rest => (true, rest)
    | cs => (false, cs)
  let (whole, cs) ← readWhole cs
  let (fraction, cs) ← readFraction cs
  let (exponent, cs) ← readExponent cs
  return ({ negative, whole, fraction, exponent }, cs)

def wordRange : Nat := 0x10000000000000000

def signedRange : Nat := 0x8000000000000000

structure Significand where
  value : Nat
  full : Bool

def Significand.push (s : Significand) (c : Char) : Significand :=
  let next := s.value * 10 + digitValue c
  if s.full || wordRange ≤ next then { s with full := true } else { s with value := next }

/-- Digits before the point: each one that no longer fits counts a power of ten. -/
def pushWhole (ds : List Char) : Significand × Int :=
  ds.foldl (fun (s, power) c =>
    let next := s.push c
    (next, if next.full then power + 1 else power)) (⟨0, false⟩, 0)

def pushFraction (value : Nat) (power : Int) (ds : List Char) : Nat × Int :=
  let (s, power) := ds.foldl (fun (s, power) c =>
    let next := s.push c
    (next, if next.full then power else power - 1)) (Significand.mk value false, power)
  (s.value, power)

def powerOfTen (n : Nat) : Binary64 := Binary64.ofNat (Nat.pow 10 n)

def scaleDown : Nat → Binary64 → Nat → Binary64
  | 0, x, _ => x
  | fuel + 1, x, n =>
    if n ≤ 308 then x.divMagnitude (powerOfTen n)
    else if x = .zero false then x
    else scaleDown fuel (x.divMagnitude (powerOfTen 308)) (n - 308)

/-- The significand as a floating-point number, then scaled: too large a result is no number. -/
def scale (significand : Nat) (power : Int) : Option Binary64 :=
  let x := Binary64.ofNat significand
  if 0 ≤ power then
    if 308 < power then if significand = 0 then some x else none
    else
      let y := x.mulMagnitude (powerOfTen power.toNat)
      if y.isInfinite then none else some y
  else some (scaleDown 4 x (-power).toNat)

def signed (negative : Bool) (x : Binary64) : Binary64 := if negative then x.neg else x

def NumberText.value (t : NumberText) : Option JsonNumber :=
  let (s, power) := pushWhole t.whole
  if t.fraction.isNone && t.exponent.isNone && !s.full then
    if !t.negative then some (.natural (UInt64.ofNat s.value))
    else if s.value = 0 || signedRange < s.value then some (.real (.neg (.ofNat s.value)))
    else some (.negative (Int64.ofInt (-s.value)))
  else
    let (significand, power) := match t.fraction with
      | some ds => pushFraction s.value power ds
      | none => (s.value, power)
    let power : Int := match t.exponent with
      | some (true, ds) => power - ds.foldl (fun n c => n * 10 + digitValue c) 0
      | some (false, ds) => power + ds.foldl (fun n c => n * 10 + digitValue c) 0
      | none => power
    (scale significand power).map fun x => .real (signed t.negative x)

def readNumber (cs : List Char) : Option (JsonNumber × List Char) := do
  let (text, rest) ← readNumberText cs
  return (← text.value, rest)

end IdentityLifecycle.Json
