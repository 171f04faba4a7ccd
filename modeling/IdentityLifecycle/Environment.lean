import IdentityLifecycle.Text.Basic
import IdentityLifecycle.Text.WordTable

/-!
The variables of the environment, and files that set them, a line `NAME=value` for each. Values may
be quoted, span several lines inside quotes, and mention other variables as `$NAME` or `$` and a
name in braces.
-/
namespace IdentityLifecycle

abbrev Environment := List (String × String)

namespace EnvironmentFile

/-- What the characters of a line so far lead to: whether it is over, or goes on inside quotes or
behind a backslash or blanks. -/
inductive LineState where
  | complete
  | blank
  | escape
  | strong
  | strongEscape
  | weak
  | weakEscape
  | comment
  deriving DecidableEq, Repr

namespace LineState

def outside (c : Char) : LineState :=
  if c = '\\' then escape else if c = '"' then weak else if c = '\'' then strong else complete

def next (state : LineState) (c : Char) : LineState :=
  match state with
  | blank => if c = '#' then comment else outside c
  | escape => complete
  | complete => if Text.isBlank c && c ≠ '\n' && c ≠ '\r' then blank else outside c
  | weak => if c = '\\' then weakEscape else if c = '"' then complete else weak
  | weakEscape => weak
  | strong => if c = '\\' then strongEscape else if c = '\'' then complete else strong
  | strongEscape => strong
  | comment => comment

end LineState

def physicalLines : List Char → List (List Char)
  | [] => []
  | c :: cs =>
    if c = '\n' then [c] :: physicalLines cs
    else match physicalLines cs with
      | [] => [[c]]
      | line :: rest => (c :: line) :: rest

def scanLine : LineState → List Char → List Char × LineState
  | state, [] => ([], state)
  | state, c :: cs =>
    match state.next c with
    | .comment => ([], .comment)
    | state =>
      let (line, state) := scanLine state cs
      (c :: line, state)

def isCommentLine (cs : List Char) : Bool := (cs.dropWhile Text.isBlank).head? = some '#'

def dropLineEnd (cs : List Char) : List Char :=
  match cs.reverse with
  | '\n' :: '\r' :: rest => rest.reverse
  | '\n' :: rest => rest.reverse
  | _ => cs

/-- Joins lines that belong together; `none` stands for a last line that is not complete. -/
def logicalLines : LineState → List Char → List (List Char) → List (Option (List Char))
  | state, _, [] => if state = .complete then [] else [none]
  | state, before, line :: rest =>
    if isCommentLine (before ++ line) then logicalLines .complete [] rest
    else
      let (kept, state) := scanLine state line
      if state = .complete then
        some (dropLineEnd (before ++ kept)) :: logicalLines .complete [] rest
      else if state = .comment then some (before ++ kept) :: logicalLines .complete [] rest
      else logicalLines state (before ++ kept) rest

inductive Mention where
  | bare (name : List Char)
  | braced (name : List Char)
  deriving DecidableEq, Repr

/-- The state of reading a value: its characters so far, latest first, and what is open. -/
structure ValueState where
  output : List Char := []
  strong : Bool := false
  weak : Bool := false
  escaped : Bool := false
  ended : Bool := false
  mention : Option Mention := none

namespace ValueState

def push (s : ValueState) (c : Char) : ValueState := { s with output := c :: s.output }

def substitute (s : ValueState) (lookUp : String → String) (name : List Char) : ValueState :=
  { s with
    output := (lookUp (String.ofList name.reverse)).toList.reverse ++ s.output
    mention := none }

def readPlain (s : ValueState) (c : Char) : ValueState :=
  if c = '$' then { s with mention := some (.bare []) }
  else if c = '\\' then { s with escaped := true }
  else if s.weak then if c = '"' then { s with weak := false } else s.push c
  else if c = '\'' then { s with strong := true }
  else if c = '"' then { s with weak := true }
  else if c = ' ' || c = '\t' then { s with ended := true }
  else s.push c

def readMention (s : ValueState) (lookUp : String → String) (c : Char) : Mention → ValueState
  | .bare name =>
    if Text.isAlphanumeric c then { s with mention := some (.bare (c :: name)) }
    else if c = '\x7b' && name.isEmpty then { s with mention := some (.braced []) }
    else
      let s := s.substitute lookUp name
      if c = '$' then { s with mention := some (.bare []) } else s.push c
  | .braced name =>
    if c = '\x7d' then s.substitute lookUp name
    else { s with mention := some (.braced (c :: name)) }

def readAll (lookUp : String → String) : List Char → ValueState → Option ValueState
  | [], s => some s
  | c :: cs, s =>
    if s.ended then
      if c = ' ' || c = '\t' then readAll lookUp cs s else if c = '#' then some s else none
    else if s.escaped then
      if c = 'n' then readAll lookUp cs { s.push '\n' with escaped := false }
      else if ['\\', '\'', '"', '$', ' '].contains c then
        readAll lookUp cs { s.push c with escaped := false }
      else none
    else if s.strong then
      readAll lookUp cs (if c = '\'' then { s with strong := false } else s.push c)
    else match s.mention with
      | some mention => readAll lookUp cs (s.readMention lookUp c mention)
      | none => readAll lookUp cs (s.readPlain c)

def finish (s : ValueState) (lookUp : String → String) : Option String :=
  if s.strong || s.weak then none
  else match s.mention with
    | some (.braced _) => none
    | some (.bare name) => some (String.ofList (s.substitute lookUp name).output.reverse)
    | none => some (String.ofList s.output.reverse)

end ValueState

def readValue (lookUp : String → String) (cs : List Char) : Option String :=
  (ValueState.readAll lookUp cs {}).bind (·.finish lookUp)

inductive Line where
  | nothing
  | setting (name : String) (value : List Char)
  | malformed
  deriving DecidableEq, Repr

def dropBlanks (cs : List Char) : List Char := cs.dropWhile Text.isBlank

def readName (cs : List Char) : Option (String × List Char) :=
  match cs.span fun c => c.isAlphanum || c = '_' || c = '.' with
  | (c :: name, rest) =>
    if c.isAlpha || c = '_' then some (String.ofList (c :: name), dropBlanks rest) else none
  | ([], _) => none

def readLine (cs : List Char) : Line :=
  let cs := dropBlanks (Text.dropEndWhile Text.isBlank cs)
  if cs.isEmpty || cs.head? = some '#' then .nothing
  else match readName cs with
    | some (name, '=' :: rest) => .setting name (dropBlanks rest)
    | some ("export", rest) =>
      match readName rest with
      | some (name, '=' :: rest) => .setting name (dropBlanks rest)
      | _ => .malformed
    | _ => .malformed

/-- Adds the variables that lines set, up to the first line that is malformed. A variable that
there is already keeps its value; `set` holds what the lines before this one set. -/
def addLines : List (Option (List Char)) → Environment → Environment → Environment
  | [], _, environment => environment
  | none :: _, _, environment => environment
  | some line :: rest, set, environment =>
    match readLine line with
    | .malformed => environment
    | .nothing => addLines rest set environment
    | .setting name cs =>
      let lookUp (name : String) : String :=
        ((environment.lookup name).orElse fun _ => set.lookup name).getD ""
      let value := if cs.isEmpty || cs.head? = some '#' then some "" else readValue lookUp cs
      match value with
      | none => environment
      | some value =>
        let isSet := (environment.lookup name).isSome
        addLines rest ((name, value) :: set)
          (if isSet then environment else environment ++ [(name, value)])

def load (content : String) (environment : Environment) : Environment :=
  let cs := match content.toList with
    | '\ufeff' :: cs => cs
    | cs => cs
  addLines (logicalLines .complete [] (physicalLines cs)) [] environment

end EnvironmentFile

end IdentityLifecycle
