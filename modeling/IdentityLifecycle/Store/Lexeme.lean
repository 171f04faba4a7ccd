import IdentityLifecycle.Basic

/-!
The lexemes of statements: names, signs, and texts that no statement may hold.
-/
namespace IdentityLifecycle

/-- A name in a statement: as it is written there, perhaps in quotes, and what it says. -/
structure Identifier where
  written : String
  name : String
  deriving DecidableEq, Repr

inductive Lexeme where
  | identifier (word : Identifier)
  /-- A sign, a number, or a word that cannot be a name. -/
  | sign (text : String)
  /-- A text that no statement may hold. -/
  | illegal (text : String)
  deriving DecidableEq, Repr

namespace Lexeme

def text : Lexeme → String
  | identifier word => word.written
  | sign text => text
  | illegal text => text

def spells (lexeme : Lexeme) (word : String) : Bool := lexeme.text.toUpper == word

def reserved : List String := [
  "ADD", "ALL", "ALTER", "AND", "AS", "AUTOINCREMENT", "BETWEEN", "CASE", "CHECK", "COLLATE",
  "COMMIT", "CONSTRAINT", "CREATE", "DEFAULT", "DEFERRABLE", "DELETE", "DISTINCT", "DROP", "ELSE",
  "ESCAPE", "EXCEPT", "EXISTS", "FOREIGN", "FROM", "GROUP", "HAVING", "IN", "INDEX", "INSERT",
  "INTERSECT", "INTO", "IS", "ISNULL", "JOIN", "LIMIT", "NOT", "NOTHING", "NOTNULL", "NULL", "ON",
  "OR", "ORDER", "PRIMARY", "REFERENCES", "RETURNING", "SELECT", "SET", "TABLE", "THEN", "TO",
  "TRANSACTION", "UNION", "UNIQUE", "UPDATE", "USING", "VALUES", "WHEN", "WHERE"]

def signs : List String := [
  "->>", "->", "==", "<=", "<>", "<<", ">=", ">>", "!=", "||", "(", ")", ";", "+", "-", "*", "/",
  "%", "=", "<", ">", "|", ",", "&", "~", "."]

def isLetter (c : Char) : Bool := c.isAlpha || c = '_' || 0x80 ≤ c.toNat

def isWordChar (c : Char) : Bool := isLetter c || c.isDigit || c = '$'

def isHexDigit (c : Char) : Bool := (hexValue c).isSome

def isBlank (c : Char) : Bool :=
  c = ' ' || c = '\t' || c = '\n' || c = '\x0c' || c = '\r'

def continuesBlank (c : Char) : Bool := isBlank c || c = '\x0b'

def runLength (p : Char → Bool) (cs : List Char) : Nat := (cs.takeWhile p).length

/-- The length of what is left of a quoted text. A doubled quote does not end it. -/
def quotedLength (quote : Char) : List Char → Option Nat
  | [] => none
  | [c] => if c = quote then some 1 else none
  | c :: d :: cs =>
    if c ≠ quote then (quotedLength quote (d :: cs)).map (· + 1)
    else if d = quote then (quotedLength quote cs).map (· + 2)
    else some 1

def unquoted (quote : Char) : List Char → List Char
  | c :: d :: cs =>
    if c = quote && d = quote then c :: unquoted quote cs else c :: unquoted quote (d :: cs)
  | cs => cs

def commentLength : List Char → Option Nat
  | [] => none
  | '*' :: '/' :: _ => some 2
  | _ :: cs => (commentLength cs).map (· + 1)

def extend (p : Char → Bool) (cs : List Char) (n : Nat) : Nat := n + runLength p (cs.drop n)

def isSpacedDigit (c : Char) : Bool := c.isDigit || c = '_'

def startsExponent : List Char → Bool
  | '+' :: d :: _ => d.isDigit
  | '-' :: d :: _ => d.isDigit
  | d :: _ => d.isDigit
  | [] => false

def decimalLength (cs : List Char) : Nat :=
  let whole := extend isSpacedDigit cs 0
  let n := if (cs.drop whole).head? = some '.' then extend isSpacedDigit cs (whole + 1) else whole
  match cs.drop n with
  | e :: rest =>
    if (e = 'e' || e = 'E') && startsExponent rest then extend isSpacedDigit cs (n + 2) else n
  | [] => n

def numberLength : List Char → Nat
  | '0' :: x :: h :: cs =>
    if (x = 'x' || x = 'X') && isHexDigit h then 3 + runLength (fun c => isHexDigit c || c = '_') cs
    else decimalLength ('0' :: x :: h :: cs)
  | cs => decimalLength cs

def startsNumber : List Char → Bool
  | '.' :: d :: _ => d.isDigit
  | d :: _ => d.isDigit
  | [] => false

inductive Shape where
  | blank
  | word
  | quoted (quote : Char)
  | sign
  | illegal
  deriving DecidableEq, Repr

def frontBlob (cs : List Char) : Shape × Nat :=
  let n := extend isHexDigit cs 2
  if (cs.drop n).head? = some '\x27' && n % 2 = 0 then (.sign, n + 1)
  else (.illegal, min cs.length (extend (· ≠ '\x27') cs n + 1))

def frontQuoted (quote : Char) (cs : List Char) (length : Option Nat) : Shape × Nat :=
  match length with
  | some n => (.quoted quote, n + 1)
  | none => (.illegal, cs.length)

def frontNumber (cs : List Char) : Shape × Nat :=
  let n := numberLength cs
  let ending := extend isWordChar cs n
  (if ending = n then .sign else .illegal, ending)

/-- The place of a value that is given apart from the statement. It has a name, behind which more
may stand in brackets. -/
def frontParameter (cs : List Char) : Shape × Nat :=
  let n := extend isWordChar cs 1
  if n = 1 then (.illegal, 1)
  else if (cs.drop n).head? = some '(' then
    let ending := extend (fun c => !continuesBlank c && c ≠ ')') cs (n + 1)
    if (cs.drop ending).head? = some ')' then (.sign, ending + 1) else (.illegal, ending)
  else (.sign, n)

def frontSign (cs : List Char) : Shape × Nat :=
  match signs.find? (·.toList.isPrefixOf cs) with
  | some text => (.sign, text.length)
  | none => (.illegal, 1)

def front (cs : List Char) : Shape × Nat :=
  match cs with
  | [] => (.blank, 0)
  | c :: rest =>
    let next := rest.head?
    if isBlank c then (.blank, 1 + runLength continuesBlank rest)
    else if c = '\ufeff' then (.blank, 1)
    else if c = '-' && next = some '-' then (.blank, extend (· ≠ '\n') cs 2)
    else if c = '/' && next = some '*' && 1 < rest.length then
      (.blank, ((commentLength (rest.drop 1)).map (· + 2)).getD cs.length)
    else if (c = 'x' || c = 'X') && next = some '\x27' then frontBlob cs
    else if isLetter c then (.word, extend isWordChar cs 1)
    else if c = '"' || c = '\x27' || c = '\x60' then frontQuoted c cs (quotedLength c rest)
    else if c = '[' then frontQuoted ']' cs ((rest.idxOf? ']').map (· + 1))
    else if startsNumber cs then frontNumber cs
    else if c = '?' then (.sign, extend Char.isDigit cs 1)
    else if c = '$' || c = '@' || c = ':' || c = '#' then frontParameter cs
    else frontSign cs

def ofShape (shape : Shape) (cs : List Char) : Option Lexeme :=
  let text := String.ofList cs
  match shape with
  | .blank => none
  | .word => some (if reserved.contains text.toUpper then .sign text else .identifier ⟨text, text⟩)
  | .quoted quote =>
    let inner := unquoted quote (cs.drop 1).dropLast
    some (.identifier ⟨text, String.ofList inner⟩)
  | .sign => some (.sign text)
  | .illegal => some (.illegal text)

def readAll : Nat → List Char → List Lexeme
  | 0, _ => []
  | fuel + 1, cs =>
    if cs.isEmpty then []
    else
      let (shape, n) := front cs
      (ofShape shape (cs.take n)).toList ++ readAll fuel (cs.drop n)

def ofChars (cs : List Char) : List Lexeme := readAll cs.length cs

end Lexeme

end IdentityLifecycle
