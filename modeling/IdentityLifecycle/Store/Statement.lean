import IdentityLifecycle.Step
import IdentityLifecycle.Store.Error
import IdentityLifecycle.Store.Lexeme
import IdentityLifecycle.Text.Basic

/-!
Statements that are given as texts: those that create a table, drop one, or insert an integer into
it.
-/
namespace IdentityLifecycle

structure TableName where
  place : Option Identifier := none
  table : Identifier
  deriving DecidableEq, Repr

namespace TableName

def name (table : TableName) : String := table.table.name

def shown (table : TableName) : String :=
  match table.place with
  | some place => place.name ++ "." ++ table.name
  | none => table.name

end TableName

structure TableShape where
  columns : List String
  /-- Whether the values of a column are to be values of tokens. -/
  refers : Bool := false
  deriving DecidableEq, Repr

inductive Statement where
  /-- Creates a table. The name counts before the shape is read from `rest`, which may turn out to
  be at fault. -/
  | createTable (table : TableName) (ifMissing : Bool) (rest : Except DatabaseError TableShape)
  | dropTable (table : TableName) (ifPresent : Bool)
  /-- Inserts a row of which only the value for a column `id` is given. -/
  | insertRow (table : TableName) (value : Int64)

namespace Statement

abbrev Reader (α : Type) := Step (List Lexeme) DatabaseError α

def fault : List Lexeme → DatabaseError
  | [] => .complaint "incomplete input"
  | .illegal text :: _ => .complaint ("unrecognized token: \"" ++ text ++ "\"")
  | lexeme :: _ => .complaint ("near \"" ++ lexeme.text ++ "\": syntax error")

def unexpected {α : Type} : Reader α := fun lexemes => (.error (fault lexemes), lexemes)

def isNext (word : String) : Reader Bool := fun lexemes =>
  (.ok (lexemes.head?.any (·.spells word)), lexemes)

def accept (word : String) : Reader Bool := fun lexemes =>
  match lexemes with
  | [] => (.ok false, [])
  | lexeme :: rest => if lexeme.spells word then (.ok true, rest) else (.ok false, lexemes)

def expect : List String → Reader Unit
  | [] => pure ()
  | word :: words => do
    if ← accept word then expect words else unexpected

def identifier : Reader Identifier := fun lexemes =>
  match lexemes with
  | .identifier word :: rest => (.ok word, rest)
  | _ => unexpected lexemes

def tableName : Reader TableName := do
  let first ← identifier
  if ← accept "." then
    return { place := some first, table := ← identifier }
  else return { table := first }

/-- Takes names with commas between them, up to the bracket behind them. Where they are `typed`,
more words may follow each; `started` says that a name has been taken since the last comma. -/
def names (typed : Bool) :
    Bool → List Lexeme → Except DatabaseError (List String) × List Lexeme
  | false, .identifier word :: rest =>
    let (outcome, rest) := names typed true rest
    (outcome.map (word.name :: ·), rest)
  | true, .identifier word :: rest =>
    if typed then names typed true rest else unexpected (.identifier word :: rest)
  | true, lexeme :: rest =>
    if lexeme.spells "," then names typed false rest
    else if lexeme.spells ")" then (.ok [], rest)
    else unexpected (lexeme :: rest)
  | _, lexemes => unexpected lexemes

def columns (typed : Bool) : Reader (List String) := do
  expect ["("]
  names typed false

def integer : Reader Int64 := do
  let negative ← accept "-"
  fun lexemes =>
    match lexemes with
    | .sign text :: rest =>
      if text.toList.all Char.isDigit then
        (.ok (clampInt (Numeral.signed negative (Numeral.valueOfDigits text.toList))), rest)
      else unexpected lexemes
    | _ => unexpected lexemes

def finish : Reader Unit := do
  let _ ← accept ";"
  fun lexemes => if lexemes.isEmpty then (.ok (), []) else unexpected lexemes

def acceptAll (word : String) (words : List String) : Reader Bool := do
  if ← accept word then
    expect words
    return true
  else return false

def referenceWords : List String :=
  ["REFERENCES", "TOKENS", "(", "TOKEN", ")", "DEFERRABLE", "INITIALLY", "DEFERRED"]

def isReference (lexemes : List Lexeme) : Bool :=
  let first := lexemes.take referenceWords.length
  first.length = referenceWords.length &&
    (first.zip referenceWords).all fun (lexeme, word) => lexeme.spells word

/-- Leaves out the words that make the first column refer to tokens, if there are any. -/
def cutReference : List Lexeme → Option (List Lexeme)
  | [] => none
  | lexeme :: rest =>
    if isReference rest then some (lexeme :: rest.drop referenceWords.length)
    else (cutReference rest).map (lexeme :: ·)

def createTail : Reader TableShape := do
  if ← accept "AS" then unexpected
  let reference ← fun lexemes => (.ok (cutReference lexemes), lexemes)
  if let some lexemes := reference then
    .update fun _ => lexemes
  let names ← columns true
  finish
  return { columns := names, refers := reference.isSome }

def create : Reader Statement := do
  expect ["TABLE"]
  let ifMissing ← acceptAll "IF" ["NOT", "EXISTS"]
  let table ← tableName
  if (← isNext "(") || (← isNext "AS") then
    fun lexemes => (.ok (.createTable table ifMissing (createTail lexemes).1), [])
  else unexpected

def drop : Reader Statement := do
  expect ["TABLE"]
  let ifPresent ← acceptAll "IF" ["EXISTS"]
  let table ← tableName
  finish
  return .dropTable table ifPresent

def insert : Reader Statement := do
  expect ["INTO"]
  let table ← tableName
  if ← accept "AS" then
    let _ ← identifier
  if ← isNext "(" then
    let _ ← columns false
  expect ["VALUES", "("]
  let value ← integer
  expect [")"]
  finish
  return .insertRow table value

def ofLexemes (lexemes : List Lexeme) : Except DatabaseError Statement :=
  let reader : Reader Statement := do
    if ← accept "CREATE" then create
    else if ← accept "DROP" then drop
    else if ← accept "INSERT" then insert
    else unexpected
  (reader lexemes).1

def split : List Lexeme → List (List Lexeme)
  | [] => []
  | lexeme :: rest =>
    if lexeme.spells ";" then [lexeme] :: split rest
    else match split rest with
      | [] => [[lexeme]]
      | first :: others => (lexeme :: first) :: others

/-- The statements of a text, each of which is read when the one before it is done. Nothing behind
a NUL counts. -/
def ofText (s : String) : List (Except DatabaseError Statement) :=
  let cs := (Text.trim Text.isBlank s).toList.takeWhile (· ≠ '\x00')
  let parts := split (Lexeme.ofChars cs)
  (parts.filter fun part => !part.all (·.spells ";")).map ofLexemes

end Statement

end IdentityLifecycle
