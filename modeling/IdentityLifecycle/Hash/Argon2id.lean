import IdentityLifecycle.Hash.Blake2b

/-!
The password hash Argon2id, version 0x13, without a secret and without associated data.
-/
namespace IdentityLifecycle.Hash

namespace Argon2id

structure Costs where
  passes : Nat
  memory : Nat
  lanes : Nat
  deriving DecidableEq, Repr

/-- The first 32 bytes of each of `links` more hashes after `v`, then a last hash of `rest`
bytes. -/
def hashChain (rest : Nat) : Nat → Bytes → Bytes
  | 0, v => Blake2b.hash rest v
  | links + 1, v =>
    let next := Blake2b.hash 64 v
    next.take 32 ++ hashChain rest links next

def longHash (size : Nat) (message : Bytes) : Bytes :=
  let seed := littleEndian 4 size ++ message
  if size ≤ 64 then Blake2b.hash size seed
  else
    let links := (size - 1) / 32 - 1
    let first := Blake2b.hash 64 seed
    first.take 32 ++ hashChain (size - 32 * links) (links - 1) first

abbrev Block := Vector UInt64 128

def Block.zero : Block := Vector.replicate 128 0

def Block.ofBytes (bytes : Bytes) : Block :=
  let words := Array.ofFn fun (i : Fin 128) => wordOfBytes ((bytes.drop (8 * i)).take 8)
  Vector.ofFn fun i => words.getD i 0

def Block.toBytes (block : Block) : Bytes := block.toList.flatMap bytesOfWord

def Block.xor (a b : Block) : Block := a.zipWith (· ^^^ ·) b

def mulAdd (x y : UInt64) : UInt64 :=
  x + y + 2 * (x &&& 0xffffffff) * (y &&& 0xffffffff)

def mix (q : Quad) : Quad :=
  let a := mulAdd q.a q.b
  let d := rotateRight (q.d ^^^ a) 32
  let c := mulAdd q.c d
  let b := rotateRight (q.b ^^^ c) 24
  let a := mulAdd a b
  let d := rotateRight (d ^^^ a) 16
  let c := mulAdd c d
  let b := rotateRight (b ^^^ c) 63
  { a, b, c, d }

def mixAt (block : Block) (a b c d : Fin 128) : Block :=
  let q := mix ⟨block[a], block[b], block[c], block[d]⟩
  (((block.set a q.a).set b q.b).set c q.c).set d q.d

def permute (block : Block) (place : Fin 16 → Fin 128) : Block :=
  Blake2b.quads.foldl (fun block (a, b, c, d) =>
    mixAt block (place a) (place b) (place c) (place d)) block

/-- The rows of the block as an eight by eight square of pairs, then its columns. -/
def permuteAll (block : Block) : Block :=
  let rows := (List.finRange 8).foldl (fun block (r : Fin 8) =>
    permute block fun i => ⟨16 * r + i, by omega⟩) block
  (List.finRange 8).foldl (fun block (c : Fin 8) =>
    permute block fun i => ⟨2 * c + 16 * (i / 2) + i % 2, by omega⟩) rows

def compress (a b : Block) : Block :=
  let r := a.xor b
  r.xor (permuteAll r)

structure Position where
  pass : Nat
  quarter : Nat
  lane : Nat
  index : Nat

structure Layout where
  costs : Costs
  laneLength : Nat
  quarterLength : Nat

/-- The memory is cut down to whole quarters in all lanes. -/
def Layout.ofCosts (costs : Costs) : Layout :=
  let quarterLength := costs.memory / (4 * costs.lanes)
  { costs, laneLength := 4 * quarterLength, quarterLength }

/-- In the first half of the first pass the references do not depend on the password. -/
def Position.isIndependent (pos : Position) : Bool := pos.pass == 0 && pos.quarter < 2

def Position.column (layout : Layout) (pos : Position) : Nat :=
  pos.quarter * layout.quarterLength + pos.index

def addresses (layout : Layout) (pos : Position) (counter : Nat) : Block :=
  let input := Block.zero
    |>.set 0 (UInt64.ofNat pos.pass)
    |>.set 1 (UInt64.ofNat pos.lane)
    |>.set 2 (UInt64.ofNat pos.quarter)
    |>.set 3 (UInt64.ofNat (layout.laneLength * layout.costs.lanes))
    |>.set 4 (UInt64.ofNat layout.costs.passes)
    |>.set 5 2
    |>.set 6 (UInt64.ofNat counter)
  compress .zero (compress .zero input)

/-- How many blocks a position may refer to in the lane it is in, or in another. -/
def referenceArea (layout : Layout) (pos : Position) (sameLane : Bool) : Nat :=
  let finished :=
    if pos.pass = 0 then pos.quarter * layout.quarterLength
    else layout.laneLength - layout.quarterLength
  if sameLane then finished + pos.index - 1
  else if pos.index = 0 then finished - 1 else finished

def halfRange : Nat := 0x100000000

def reference (layout : Layout) (pos : Position) (random : UInt64) : Nat :=
  let low := random.toNat % halfRange
  let lane :=
    if pos.pass = 0 && pos.quarter == 0 then pos.lane
    else (random.toNat / halfRange) % layout.costs.lanes
  let area := referenceArea layout pos (lane == pos.lane)
  let back := area * (low * low / halfRange) / halfRange
  let start :=
    if pos.pass = 0 || pos.quarter == 3 then 0
    else (pos.quarter + 1) * layout.quarterLength
  lane * layout.laneLength + (start + (area - 1 - back)) % layout.laneLength

abbrev Memory := Array Block

def fillBlock (layout : Layout) (pos : Position) (memory : Memory) (addressBlock : Block) :
    Memory :=
  let base := pos.lane * layout.laneLength
  let column := pos.column layout
  let before := if column = 0 then layout.laneLength - 1 else column - 1
  let previous := memory.getD (base + before) .zero
  let random :=
    if pos.isIndependent then addressBlock.get ⟨pos.index % 128, Nat.mod_lt _ (by decide)⟩
    else previous[0]
  let new := compress previous (memory.getD (reference layout pos random) .zero)
  let place := base + column
  let new := if pos.pass = 0 then new else new.xor (memory.getD place .zero)
  memory.setIfInBounds place new

def fillQuarter (layout : Layout) (memory : Memory) (pass quarter lane : Nat) : Memory :=
  let first := if pass = 0 && quarter == 0 then 2 else 0
  let pos (index : Nat) : Position := { pass, quarter, lane, index }
  let addressBlock :=
    if (pos 0).isIndependent then addresses layout (pos 0) 1 else .zero
  let indices := (List.range layout.quarterLength).drop first
  (indices.foldl (fun (memory, addressBlock) index =>
    let addressBlock :=
      if (pos index).isIndependent && index % 128 == 0 then
        addresses layout (pos index) (index / 128 + 1)
      else addressBlock
    (fillBlock layout (pos index) memory addressBlock, addressBlock))
    (memory, addressBlock)).1

def fill (layout : Layout) (memory : Memory) : Memory :=
  (List.range layout.costs.passes).foldl (fun memory pass =>
    (List.range 4).foldl (fun memory quarter =>
      (List.range layout.costs.lanes).foldl (fun memory lane =>
        fillQuarter layout memory pass quarter lane) memory) memory) memory

def withLength (bytes : Bytes) : Bytes := littleEndian 4 bytes.length ++ bytes

def seed (costs : Costs) (size : Nat) (password salt : Bytes) : Bytes :=
  Blake2b.hash 64
    (littleEndian 4 costs.lanes ++ littleEndian 4 size ++ littleEndian 4 costs.memory ++
      littleEndian 4 costs.passes ++ littleEndian 4 0x13 ++ littleEndian 4 2 ++
      withLength password ++ withLength salt ++ withLength [] ++ withLength [])

def start (layout : Layout) (seed : Bytes) : Memory :=
  (List.range layout.costs.lanes).foldl (fun memory lane =>
    [0, 1].foldl (fun (memory : Memory) column =>
      memory.setIfInBounds (lane * layout.laneLength + column)
        (.ofBytes (longHash 1024 (seed ++ littleEndian 4 column ++ littleEndian 4 lane)))) memory)
    (Array.replicate (layout.costs.lanes * layout.laneLength) .zero)

def lastBlocks (layout : Layout) (memory : Memory) : Block :=
  (List.range layout.costs.lanes).foldl (fun block lane =>
    block.xor (memory.getD ((lane + 1) * layout.laneLength - 1) .zero)) .zero

end Argon2id

def argon2id (costs : Argon2id.Costs) (size : Nat) (password salt : Bytes) : Bytes :=
  let layout := Argon2id.Layout.ofCosts costs
  let memory := Argon2id.start layout (Argon2id.seed costs size password salt)
  let last := Argon2id.lastBlocks layout (Argon2id.fill layout memory)
  Argon2id.longHash size last.toBytes

end IdentityLifecycle.Hash
