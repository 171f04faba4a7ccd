import IdentityLifecycle.Binary64

/-!
How alike two words are, by the measure of Jaro: the characters that both have at about the same
place, and how many of those come in another order.
-/
namespace IdentityLifecycle.Text

def markMatch (c : Char) (low high : Nat) (b : List (Char × Bool)) : Option (List (Char × Bool)) :=
  match b.mapIdx (fun i entry => (i, entry)) |>.find? fun (i, d, marked) =>
      low ≤ i && i < high && !marked && c == d with
  | some (i, d, _) => some (b.set i (d, true))
  | none => none

/-- Pairs the characters of `a`, the first of which is at `index`, with characters of `b` at most
`range` places away; answers the paired characters of both in their orders. -/
def pairUp (range : Nat) : Nat → List Char → List (Char × Bool) → List Char × List Char
  | _, [], b => ([], (b.filter (·.2)).map (·.1))
  | index, c :: a, b =>
    match markMatch c (index - range) (index + range + 1) b with
    | some b =>
      let (xs, ys) := pairUp range (index + 1) a b
      (c :: xs, ys)
    | none => pairUp range (index + 1) a b

/-- The mean of three shares, rounded after each step: of the first word and of the second that is
paired, and of the pairs that come in the same order. One for the same words, nothing for words
without a pair. -/
def similarity (a b : List Char) : Binary64 :=
  let (m, n) := (a.length, b.length)
  if m = 0 && n = 0 then .ofNat 1
  else
    let (xs, ys) := pairUp (max m n / 2 - 1) 0 a (b.map (·, false))
    let paired := xs.length
    let swapped := (xs.zip ys).countP (fun (x, y) => x != y) / 2
    let share (part whole : Nat) : Binary64 := .ofRatio false part whole
    if paired = 0 then .ofNat 0
    else
      let ends := (share paired m).addMagnitude (share paired n)
      (ends.addMagnitude (share (paired - swapped) paired)).divMagnitude (.ofNat 3)

def alikeness : Binary64 := .ofRatio false 7 10

def alike (word : String) (words : List String) : List String :=
  let scored := words.map fun w => (w, similarity word.toList w.toList)
  let near := scored.filter fun (_, s) => alikeness.isSmaller s
  (near.mergeSort fun (_, s) (_, s') => !s'.isSmaller s).map (·.1)

end IdentityLifecycle.Text
