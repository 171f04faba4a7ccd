import IdentityLifecycle.Basic
import IdentityLifecycle.Text.WordTable

/-!
Patterns for texts: which ones are well formed. A pattern is made of characters, of classes of
characters in brackets, of groups in parentheses and of signs of repetition. There are no classes
that depend on tables of letters, such as `\d`, and no matching without case.
-/
namespace IdentityLifecycle.Log.Pattern

inductive Escape where
  | character (c : Char)
  | edge
  deriving DecidableEq, Repr

def readCode (count : Nat) (cs : List Char) : Option (Escape × List Char) :=
  match (cs.take count).mapM hexValue with
  | none => none
  | some digits =>
    let code := digits.foldl (fun n digit => n * 16 + digit) 0
    if digits.length = count && code.isValidChar then
      some (.character (Char.ofNat code), cs.drop count)
    else none

def readEscape : List Char → Option (Escape × List Char)
  | [] => none
  | 'x' :: cs => readCode 2 cs
  | 'u' :: cs => readCode 4 cs
  | 'U' :: cs => readCode 8 cs
  | 'A' :: cs => some (.edge, cs)
  | 'z' :: cs => some (.edge, cs)
  | 'a' :: cs => some (.character '\x07', cs)
  | 'f' :: cs => some (.character '\x0c', cs)
  | 'n' :: cs => some (.character '\n', cs)
  | 'r' :: cs => some (.character '\r', cs)
  | 't' :: cs => some (.character '\t', cs)
  | 'v' :: cs => some (.character '\x0b', cs)
  | c :: cs =>
    if c.isAlphanum || c = '<' || c = '>' || 0x80 ≤ c.toNat then none else some (.character c, cs)

/-! ### Classes -/

def readMember : List Char → Option (Char × List Char)
  | [] => none
  | '\\' :: cs =>
    match readEscape cs with
    | some (.character c, rest) => some (c, rest)
    | _ => none
  | c :: cs => some (c, cs)

def dropClassStart (cs : List Char) : List Char :=
  let cs := match cs with
    | '^' :: cs => cs
    | cs => cs
  match cs with
  | ']' :: cs => cs
  | cs => cs.dropWhile (· = '-')

def closeClass : Nat → Nat → List Char → Option (List Char)
  | 0, _, _ => none
  | _, _, [] => none
  | fuel + 1, depth, '[' :: cs => closeClass fuel (depth + 1) (dropClassStart cs)
  | fuel + 1, depth, ']' :: cs => if depth ≤ 1 then some cs else closeClass fuel (depth - 1) cs
  | fuel + 1, depth, '&' :: '&' :: cs => closeClass fuel depth cs
  | fuel + 1, depth, '-' :: '-' :: cs => closeClass fuel depth cs
  | fuel + 1, depth, '~' :: '~' :: cs => closeClass fuel depth cs
  | fuel + 1, depth, cs =>
    match readMember cs with
    | none => none
    | some (_, '-' :: ']' :: rest) => closeClass fuel depth ('-' :: ']' :: rest)
    | some (_, '-' :: '-' :: rest) => closeClass fuel depth ('-' :: '-' :: rest)
    | some (first, '-' :: rest) =>
      match readMember rest with
      | some (last, rest) => if first ≤ last then closeClass fuel depth rest else none
      | none => none
    | some (_, rest) => closeClass fuel depth rest

/-! ### Groups -/

inductive Opening where
  | group (name : Option (List Char))
  | flags
  deriving DecidableEq, Repr

def isGroupName : List Char → Bool
  | [] => false
  | c :: cs =>
    (c = '_' || (Text.isAlphanumeric c && !c.isDigit)) &&
      cs.all fun c => Text.isAlphanumeric c || ['_', '.', '[', ']'].contains c

def readGroupName (cs : List Char) : Option (Opening × List Char) :=
  match cs.span (· ≠ '>') with
  | (name, _ :: rest) => if isGroupName name then some (.group (some name), rest) else none
  | (_, []) => none

def areFlags (flags : List Char) : Bool :=
  let (on, off) := flags.span (· ≠ '-')
  flags.Nodup && flags.all ['i', 'm', 's', 'U', 'u', 'x', 'R', '-'].contains && off.length ≠ 1 &&
    !on.contains 'i'

def readFlags (cs : List Char) : Option (Opening × List Char) :=
  match cs.span fun c => c ≠ ':' && c ≠ ')' with
  | (flags, ':' :: rest) => if areFlags flags then some (.group none, rest) else none
  | (flags, ')' :: rest) => if areFlags flags && !flags.isEmpty then some (.flags, rest) else none
  | _ => none

def readOpening : List Char → Option (Opening × List Char)
  | '?' :: 'P' :: '<' :: cs => readGroupName cs
  | '?' :: '<' :: cs => readGroupName cs
  | '?' :: cs => readFlags cs
  | cs => some (.group none, cs)

/-! ### Whole patterns -/

structure State where
  depth : Nat := 0
  names : List (List Char) := []
  repeatable : Bool := false
  deriving DecidableEq, Repr

def State.enter (state : State) : Opening → Option State
  | .flags => some { state with repeatable := false }
  | .group name =>
    if name.any state.names.contains then none
    else some {
      depth := state.depth + 1
      names := name.toList ++ state.names
      repeatable := false }

/-- Whether the rest of a pattern is well formed. A brace counts as the start of a repetition that
is never closed, because a closing brace ends the field that a pattern is for. -/
def isRest : Nat → State → List Char → Bool
  | _, state, [] => state.depth = 0
  | 0, _, _ => false
  | fuel + 1, state, c :: cs =>
    let behind (rest : List Char) : Bool := isRest fuel { state with repeatable := true } rest
    match c with
    | '\\' => (readEscape cs).any fun (_, rest) => behind rest
    | '[' => (closeClass (cs.length + 1) 1 (dropClassStart cs)).any behind
    | '(' => (readOpening cs).any fun (opening, rest) =>
      (state.enter opening).any fun state => isRest fuel state rest
    | ')' => 0 < state.depth &&
      isRest fuel { state with depth := state.depth - 1, repeatable := true } cs
    | '|' => isRest fuel { state with repeatable := false } cs
    | '\x7b' => false
    | _ =>
      if ['*', '+', '?'].contains c then
        state.repeatable && behind (if cs.head? = some '?' then cs.drop 1 else cs)
      else behind cs

def isWellFormed (pattern : List Char) : Bool := isRest (pattern.length + 1) {} pattern

end IdentityLifecycle.Log.Pattern
