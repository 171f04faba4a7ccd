import IdentityLifecycle.Binary64

/-!
JSON values and their compact text.
-/
namespace IdentityLifecycle

/-- A number as it is read: an integer of 64 bits where the text is one in range, else a
floating-point number. -/
inductive JsonNumber where
  | natural (n : UInt64)
  | negative (n : Int64)
  | real (x : Binary64)
  deriving DecidableEq, Repr

inductive Json where
  | null
  | bool (b : Bool)
  | number (n : JsonNumber)
  | string (s : String)
  | array (items : List Json)
  | object (members : List (String × Json))

namespace Json

def hexDigit (n : Nat) : Char := Nat.digitChar n

def escapeChar (c : Char) : List Char :=
  if c = '"' || c = '\\' then ['\\', c]
  else if c = '\x08' then ['\\', 'b']
  else if c = '\t' then ['\\', 't']
  else if c = '\n' then ['\\', 'n']
  else if c = '\x0c' then ['\\', 'f']
  else if c = '\r' then ['\\', 'r']
  else if c.toNat < 0x20 then
    ['\\', 'u', '0', '0', hexDigit (c.toNat / 16), hexDigit (c.toNat % 16)]
  else [c]

def stringText (s : String) : List Char :=
  '"' :: s.toList.flatMap escapeChar ++ ['"']

def decimalText (digits : Nat) (power : Int) : List Char :=
  let text := Nat.toDigits 10 digits
  let point : Int := text.length + power
  if 0 ≤ power && point ≤ 16 then text ++ List.replicate power.toNat '0' ++ ['.', '0']
  else if 0 < point && point ≤ 16 then
    text.take point.toNat ++ '.' :: text.drop point.toNat
  else if -5 < point && point ≤ 0 then
    '0' :: '.' :: List.replicate (-point).toNat '0' ++ text
  else
    let lead := if text.length = 1 then text else text.take 1 ++ '.' :: text.drop 1
    lead ++ 'e' :: (if 0 < point then ['+'] else []) ++ (toString (point - 1)).toList

end Json

end IdentityLifecycle
