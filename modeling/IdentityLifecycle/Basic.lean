/-!
The plain data of the engine: strings of bytes, signed words, and instants in milliseconds.
-/
namespace IdentityLifecycle

abbrev Bytes := List UInt8

def utf8 (s : String) : Bytes := s.toUTF8.data.toList

def hexText (bytes : Bytes) : String :=
  String.ofList (bytes.flatMap fun b =>
    [Nat.digitChar (b.toNat / 16), Nat.digitChar (b.toNat % 16)])

def hexValue (c : Char) : Option Nat :=
  if '0' ≤ c && c ≤ '9' then some (c.toNat - 48)
  else if 'a' ≤ c && c ≤ 'f' then some (c.toNat - 87)
  else if 'A' ≤ c && c ≤ 'F' then some (c.toNat - 55)
  else none

def bytesOfHex : List Char → Option Bytes
  | [] => some []
  | a :: b :: rest => do
    let high ← hexValue a
    let low ← hexValue b
    return UInt8.ofNat (high * 16 + low) :: (← bytesOfHex rest)
  | [_] => none

abbrev ByteSource := Nat → UInt8

def ByteSource.take (source : ByteSource) (n : Nat) : Bytes := (List.range n).map source

/-! ### Signed words and instants -/

def int64OfInt (n : Int) : Option Int64 :=
  if Int64.minValue.toInt ≤ n && n ≤ Int64.maxValue.toInt then some (Int64.ofInt n) else none

/-- An integer as a signed word; one that does not fit becomes the least or the greatest word. -/
def clampInt (n : Int) : Int64 :=
  if n < Int64.minValue.toInt then Int64.minValue
  else if Int64.maxValue.toInt < n then Int64.maxValue
  else Int64.ofInt n

/-- Milliseconds since the epoch, in a signed 64-bit word. -/
abbrev Instant := Int64

def Instant.clamp (n : Int) : Instant := clampInt n

def Instant.after (start lifetime : Instant) : Instant :=
  clampInt (start.toInt + lifetime.toInt)

end IdentityLifecycle
