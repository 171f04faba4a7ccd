import IdentityLifecycle.Basic
import IdentityLifecycle.Binary64.Numeral
import IdentityLifecycle.Json.Value
import IdentityLifecycle.Text.Case

/-!
Trees of settings, and how one is laid over another.
-/
namespace IdentityLifecycle

inductive Scalar where
  | nil
  | bool (b : Bool)
  | integer (n : Int64)
  | real (x : Binary64)
  | text (s : String)
  deriving DecidableEq, Repr

inductive Node where
  | leaf (origin : Option String) (scalar : Scalar)
  | list (origin : Option String) (items : List Node)
  | table (origin : Option String) (entries : List (String × Node))

namespace Node

def emptyTable : Node := .table none []

def nil : Node := .leaf none .nil

def entries : Node → List (String × Node)
  | table _ entries => entries
  | _ => []

def items : Node → List Node
  | list _ items => items
  | _ => []

def origin : Node → Option String
  | leaf origin _ => origin
  | list origin _ => origin
  | table origin _ => origin

def putEntry (entries : List (String × Node)) (name : String) (node : Node) :
    List (String × Node) :=
  if (entries.lookup name).isSome then
    entries.map fun entry => if entry.1 = name then (name, node) else entry
  else entries ++ [(name, node)]

mutual

def overlay : Node → Option Node → Node
  | table _ entries, below => overlayEntries entries (below.getD emptyTable)
  | leaf origin scalar, _ => leaf origin scalar
  | list origin items, _ => list origin items

/-- Lays the entries of a table over a node, which becomes a table if there are any. Their names go
to lower case, so that names that differ in case alone meet. -/
def overlayEntries : List (String × Node) → Node → Node
  | [], below => below
  | (name, node) :: rest, below =>
    let origin := match below with
      | table origin _ => origin
      | _ => none
    let name := Text.lowercase name
    overlayEntries rest
      (table origin (putEntry below.entries name (node.overlay (below.entries.lookup name))))

end

/-- A step into a node: to an entry of a table or an item of a list; a negative index counts from
the end of the list. -/
inductive PathStep where
  | entry (name : String)
  | item (index : Int)
  deriving DecidableEq, Repr

def position? (index : Int) (length : Nat) : Option Nat :=
  if 0 ≤ index then some index.toNat
  else if index.natAbs ≤ length then some (length - index.natAbs)
  else none

def putItem (items : List Node) (index : Nat) (node : Node) : List Node :=
  (items ++ List.replicate (index + 1 - items.length) nil).set index node

/-- Lays a node over what is at a path, making tables and lists on the way as needed. -/
def setAt : List PathStep → Node → Option Node → Node
  | [], node, below => node.overlay below
  | .entry name :: rest, node, below =>
    let below := below.getD emptyTable
    let origin := match below with
      | table origin _ => origin
      | _ => none
    table origin (putEntry below.entries name (setAt rest node (below.entries.lookup name)))
  | .item index :: rest, node, below =>
    let below := below.getD (.list none [])
    let origin := match below with
      | list origin _ => origin
      | _ => none
    match position? index below.items.length with
    | none => below
    | some index =>
      let item := match rest with
        | [] => node
        | rest => setAt rest node (some (below.items.getD index nil))
      list origin (putItem below.items index item)

def isNameChar (c : Char) : Bool := c.isAlphanum || c = '_' || c = '-' || c = ' '

def entryNamed (name : List Char) : PathStep := .entry (Text.lowercase (String.ofList name))

def readIndex (cs : List Char) : Option (Int × List Char) :=
  let dropBlanks (cs : List Char) : List Char := cs.dropWhile fun c => c = ' ' || c = '\t'
  let (negative, cs) := match dropBlanks cs with
    | '-' :: cs => (true, cs)
    | cs => (false, cs)
  let (ds, rest) := cs.span Char.isDigit
  match dropBlanks rest with
  | ']' :: rest =>
    if ds.isEmpty then none
    else
      let index := Numeral.signed negative (Numeral.valueOfDigits ds)
      (int64OfInt index).map fun _ => (index, rest)
  | _ => none

def readSteps : Nat → List Char → Option (List PathStep)
  | _, [] => some []
  | 0, _ => none
  | fuel + 1, '.' :: cs =>
    match cs.span isNameChar with
    | ([], _) => none
    | (name, rest) => (readSteps fuel rest).map (entryNamed name :: ·)
  | fuel + 1, '[' :: cs =>
    match readIndex cs with
    | some (index, rest) => (readSteps fuel rest).map (.item index :: ·)
    | none => none
  | _, _ => none

def pathOfText (s : String) : List PathStep :=
  match s.toList.span isNameChar with
  | ([], _) => [entryNamed s.toList]
  | (name, rest) =>
    match readSteps rest.length rest with
    | some steps => entryNamed name :: steps
    | none => [entryNamed s.toList]

def setAll (settings : List (String × Node)) (below : Node) : Node :=
  settings.foldl (fun below (path, node) => setAt (pathOfText path) node (some below)) below

def scalarOfNumber : JsonNumber → Scalar
  | .natural n =>
    if n.toNat < 0x8000000000000000 then .integer (Int64.ofNat n.toNat) else .real (.ofNat n.toNat)
  | .negative n => .integer n
  | .real x => .real x

mutual

/-- The node for a JSON value that comes from `origin`; of two members with a name the later one
counts. -/
def ofJson (origin : String) : Json → Node
  | .null => leaf (some origin) .nil
  | .bool b => leaf (some origin) (.bool b)
  | .number n => leaf (some origin) (scalarOfNumber n)
  | .string s => leaf (some origin) (.text s)
  | .array items => list (some origin) (ofItems origin items)
  | .object members => table (some origin) (ofMembers origin members [])

def ofItems (origin : String) : List Json → List Node
  | [] => []
  | item :: rest => ofJson origin item :: ofItems origin rest

def ofMembers (origin : String) :
    List (String × Json) → List (String × Node) → List (String × Node)
  | [], entries => entries
  | (name, value) :: rest, entries =>
    ofMembers origin rest (putEntry entries name (ofJson origin value))

end

end Node

end IdentityLifecycle
