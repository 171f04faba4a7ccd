import IdentityLifecycle.Basic

/-!
Reading bytes as UTF-8, with the place and the length of what is malformed.
-/
namespace IdentityLifecycle.Text

/-- The place at which bytes stop being UTF-8, and how many bytes are malformed there; without a
number, the end cuts a sequence short. -/
structure Utf8Fault where
  index : Nat
  length : Option Nat
  deriving DecidableEq, Repr

def Utf8Fault.message (fault : Utf8Fault) : String :=
  match fault.length with
  | some n =>
    "invalid utf-8 sequence of " ++ toString n ++ " bytes from index " ++ toString fault.index
  | none => "incomplete utf-8 byte sequence from index " ++ toString fault.index

/-- The length of the sequence that a byte starts, and the least and the greatest byte that may
follow it. -/
def sequenceShape (b : UInt8) : Option (Nat × UInt8 × UInt8) :=
  if b < 0x80 then some (1, 0, 0)
  else if b < 0xC2 then none
  else if b < 0xE0 then some (2, 0x80, 0xBF)
  else if b = 0xE0 then some (3, 0xA0, 0xBF)
  else if b = 0xED then some (3, 0x80, 0x9F)
  else if b < 0xF0 then some (3, 0x80, 0xBF)
  else if b = 0xF0 then some (4, 0x90, 0xBF)
  else if b < 0xF4 then some (4, 0x80, 0xBF)
  else if b = 0xF4 then some (4, 0x80, 0x8F)
  else none

def continues (b : UInt8) : Bool := 0x80 ≤ b && b < 0xC0

def sequenceLength (b : UInt8) (rest : Bytes) : Except (Option Nat) Nat :=
  match sequenceShape b with
  | none => .error (some 1)
  | some (1, _) => .ok 1
  | some (length, low, high) =>
    match rest with
    | [] => .error none
    | second :: rest =>
      let tail := rest.take (length - 2)
      let good := tail.takeWhile continues
      if second < low || high < second then .error (some 1)
      else if good.length < tail.length then .error (some (2 + good.length))
      else if good.length < length - 2 then .error none
      else .ok length

def faultFrom (index : Nat) : Nat → Bytes → Option Utf8Fault
  | 0, _ => none
  | _, [] => none
  | fuel + 1, b :: rest =>
    match sequenceLength b rest with
    | .ok n => faultFrom (index + n) fuel (rest.drop (n - 1))
    | .error length => some { index, length }

def decodeUtf8 (bytes : Bytes) : Except Utf8Fault String :=
  match faultFrom 0 bytes.length bytes, String.fromUTF8? ⟨bytes.toArray⟩ with
  | none, some s => .ok s
  | some fault, _ => .error fault
  | none, none => .error ⟨0, none⟩

def decodeUtf8Leniently : Nat → Bytes → List Char
  | 0, _ => []
  | _, [] => []
  | fuel + 1, b :: rest =>
    match sequenceLength b rest with
    | .ok n =>
      let sequence := b :: rest.take (n - 1)
      ((String.fromUTF8? ⟨sequence.toArray⟩).getD "").toList ++
        decodeUtf8Leniently fuel (rest.drop (n - 1))
    | .error (some n) => '\ufffd' :: decodeUtf8Leniently fuel (rest.drop (n - 1))
    | .error none => ['\ufffd']

def textOfBytes (bytes : Bytes) : String := String.ofList (decodeUtf8Leniently bytes.length bytes)

end IdentityLifecycle.Text
