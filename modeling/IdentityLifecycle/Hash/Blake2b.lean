import IdentityLifecycle.Basic

/-!
The hash function BLAKE2b, without a key.
-/
namespace IdentityLifecycle.Hash

def littleEndian : Nat → Nat → Bytes
  | 0, _ => []
  | n + 1, x => UInt8.ofNat x :: littleEndian n (x / 256)

def wordOfBytes (bytes : Bytes) : UInt64 :=
  bytes.foldr (fun b word => word <<< 8 ||| b.toUInt64) 0

def bytesOfWord (word : UInt64) : Bytes :=
  (List.range 8).map fun i => (word >>> (UInt64.ofNat (8 * i))).toUInt8

def rotateRight (x n : UInt64) : UInt64 := x >>> n ||| x <<< (64 - n)

structure Quad where
  a : UInt64
  b : UInt64
  c : UInt64
  d : UInt64

namespace Blake2b

def initial : Vector UInt64 8 :=
  #v[0x6a09e667f3bcc908, 0xbb67ae8584caa73b, 0x3c6ef372fe94f82b, 0xa54ff53a5f1d36f1,
    0x510e527fade682d1, 0x9b05688c2b3e6c1f, 0x1f83d9abfb41bd6b, 0x5be0cd19137e2179]

def orders : List (List (Fin 16)) := [
    [0, 1, 2, 3, 4, 5, 6, 7, 8, 9, 10, 11, 12, 13, 14, 15],
    [14, 10, 4, 8, 9, 15, 13, 6, 1, 12, 0, 2, 11, 7, 5, 3],
    [11, 8, 12, 0, 5, 2, 15, 13, 10, 14, 3, 6, 7, 1, 9, 4],
    [7, 9, 3, 1, 13, 12, 11, 14, 2, 6, 5, 10, 4, 0, 15, 8],
    [9, 0, 5, 7, 2, 4, 10, 15, 14, 1, 11, 12, 6, 8, 3, 13],
    [2, 12, 6, 10, 0, 11, 8, 3, 4, 13, 7, 5, 15, 14, 1, 9],
    [12, 5, 1, 15, 14, 13, 4, 10, 0, 7, 6, 3, 9, 2, 8, 11],
    [13, 11, 7, 14, 12, 1, 3, 9, 5, 0, 15, 4, 8, 6, 2, 10],
    [6, 15, 14, 9, 11, 3, 0, 8, 12, 2, 13, 7, 1, 4, 10, 5],
    [10, 2, 8, 4, 7, 6, 1, 5, 15, 11, 9, 14, 3, 12, 13, 0]]

/-- The orders of all twelve rounds: the last two are as the first. -/
def schedule : List (List (Fin 16)) := orders ++ orders.take 2

/-- The columns, then the diagonals, of the working words taken as a square. -/
def quads : List (Fin 16 × Fin 16 × Fin 16 × Fin 16) := [
    (0, 4, 8, 12), (1, 5, 9, 13), (2, 6, 10, 14), (3, 7, 11, 15),
    (0, 5, 10, 15), (1, 6, 11, 12), (2, 7, 8, 13), (3, 4, 9, 14)]

def mix (q : Quad) (x y : UInt64) : Quad :=
  let a := q.a + q.b + x
  let d := rotateRight (q.d ^^^ a) 32
  let c := q.c + d
  let b := rotateRight (q.b ^^^ c) 24
  let a := a + b + y
  let d := rotateRight (d ^^^ a) 16
  let c := c + d
  let b := rotateRight (b ^^^ c) 63
  { a, b, c, d }

def mixAt (v : Vector UInt64 16) (i : Fin 16 × Fin 16 × Fin 16 × Fin 16) (x y : UInt64) :
    Vector UInt64 16 :=
  let (a, b, c, d) := i
  let q := mix ⟨v[a], v[b], v[c], v[d]⟩ x y
  (((v.set a q.a).set b q.b).set c q.c).set d q.d

def round (block : Vector UInt64 16) :
    Vector UInt64 16 → List (Fin 16 × Fin 16 × Fin 16 × Fin 16) → List (Fin 16) →
      Vector UInt64 16
  | v, q :: qs, i :: j :: order => round block (mixAt v q block[i] block[j]) qs order
  | v, _, _ => v

def compress (h : Vector UInt64 8) (block : Vector UInt64 16) (count : Nat) (last : Bool) :
    Vector UInt64 8 :=
  let v : Vector UInt64 16 := h ++ initial
  let v := v.set 12 (v[12] ^^^ UInt64.ofNat count)
  let v := v.set 13 (v[13] ^^^ UInt64.ofNat (count / 0x10000000000000000))
  let v := if last then v.set 14 (v[14] ^^^ 0xffffffffffffffff) else v
  let v := schedule.foldl (fun v order => round block v quads order) v
  Vector.ofFn fun i => h[i] ^^^ v[i.castLE (by decide : 8 ≤ 16)] ^^^ v[i.natAdd 8]

def blockOfBytes (bytes : Bytes) : Vector UInt64 16 :=
  Vector.ofFn fun i => wordOfBytes ((bytes.drop (8 * i)).take 8)

def absorb (h : Vector UInt64 8) (count : Nat) (message : Bytes) : Vector UInt64 8 :=
  if message.length ≤ 128 then
    compress h (blockOfBytes message) (count + message.length) true
  else
    absorb (compress h (blockOfBytes (message.take 128)) (count + 128) false) (count + 128)
      (message.drop 128)
termination_by message.length
decreasing_by simp only [List.length_drop]; omega

def hash (size : Nat) (message : Bytes) : Bytes :=
  let h := initial.set 0 (initial[0] ^^^ 0x01010000 ^^^ UInt64.ofNat size)
  ((absorb h 0 message).toList.flatMap bytesOfWord).take size

end Blake2b

end IdentityLifecycle.Hash
