import IdentityLifecycle.Binary64.Numeral
import IdentityLifecycle.Log
import IdentityLifecycle.Log.Pattern
import IdentityLifecycle.Text.Basic

/-!
Directives such as `warn`, `authkeep::cli=info` or `[signup]=debug`, which say how much of the log
passes.
-/
namespace IdentityLifecycle.Log

inductive Threshold where
  | off
  | error
  | warn
  | info
  | debug
  | trace
  deriving DecidableEq, Repr

namespace Threshold

def all : List (String × Threshold) :=
  [("off", off), ("error", error), ("warn", warn), ("info", info), ("debug", debug),
    ("trace", trace)]

def rank (threshold : Threshold) : Nat := all.findIdx (·.2 = threshold)

def ofText? (s : String) : Option Threshold :=
  let digits := match s.toList with
    | '+' :: ds => ds
    | ds => ds
  if !digits.isEmpty && digits.all Char.isDigit then
    all[digits.foldl (fun n c => n * 10 + (c.toNat - 48)) 0]?.map (·.2)
  else if s = "" then some error
  else all.lookup s.toLower

end Threshold

def Level.rank : Level → Nat
  | warn => Threshold.warn.rank
  | info => Threshold.info.rank
  | debug => Threshold.debug.rank

def Threshold.admits (threshold : Threshold) (level : Level) : Bool := level.rank ≤ threshold.rank

/-- A field that a directive asks for, perhaps with a number, a truth value or a pattern that its
value must match. -/
structure FieldDemand where
  name : String
  value : Option String := none
  deriving DecidableEq, Repr

structure Directive where
  target : Option String := none
  span : Option String := none
  fields : List FieldDemand := []
  threshold : Threshold := .trace
  deriving DecidableEq, Repr

inductive DirectiveFault where
  | malformed
  | unknownThreshold
  | malformedPattern
  deriving DecidableEq, Repr

def DirectiveFault.message : DirectiveFault → String
  | malformed => "invalid filter directive"
  | unknownThreshold =>
    "error parsing level filter: expected one of \"off\", \"error\", \"warn\", \"info\", " ++
      "\"debug\", \"trace\", or a number 0-5"
  | malformedPattern => "invalid field filter: error building NFA"

def FieldDemand.ofText (s : String) : Except DirectiveFault FieldDemand :=
  match Text.split '=' s with
  | name :: value :: _ =>
    if (Binary64.ofText? value).isSome || Pattern.isWellFormed value.toList then
      .ok { name, value := some value }
    else .error .malformedPattern
  | _ => .ok { name := s }

namespace Directive

/-- How far a directive has been read; a number is the position at which a part of it starts. -/
inductive Reading where
  | nothing
  | word (start : Nat)
  | span (start : Nat)
  | field (start : Nat)
  | fieldEnd
  | spanEnd
  | threshold (start : Nat)
  deriving DecidableEq, Repr

def startsWord (c : Char) : Bool := Text.isAlphanumeric c || c = '-' || c = ':' || c = '_'

def between (text : List Char) (first stop : Nat) : String :=
  let step (state : Nat × List Char) (c : Char) : Nat × List Char :=
    (state.1 + c.utf8Size, if first ≤ state.1 && state.1 < stop then c :: state.2 else state.2)
  String.ofList (text.foldl step (0, [])).2.reverse

def withThreshold (d : Directive) (s : String) : Except DirectiveFault Directive :=
  if s = "" then .ok { d with threshold := .trace }
  else match Threshold.ofText? s with
    | some threshold => .ok { d with threshold }
    | none => .error .unknownThreshold

def ofWord (s : String) : Directive :=
  if s = "" then {}
  else match Threshold.ofText? s with
    | some threshold => { threshold }
    | none => { target := some s }

def read (d : Directive) (i : Nat) (part : Nat → String) :
    Reading → Char → Except DirectiveFault (Directive × Reading)
  | .nothing, c =>
    if c = '[' then .ok (d, .span (i + 1))
    else if startsWord c then .ok (d, .word i)
    else .error .malformed
  | .word start, c =>
    if c = '=' then .ok ({ d with target := some (part start) }, .threshold (i + 1))
    else if c = '[' then .ok ({ d with target := some (part start) }, .span (i + 1))
    else .ok (d, .word start)
  | .span start, c =>
    if c = ']' then .ok ({ d with span := some (part start) }, .spanEnd)
    else if c = '\x7b' then
      let name := part start
      .ok ({ d with span := if name = "" then none else some name }, .field (i + 1))
    else .ok (d, .span start)
  | .field start, c =>
    if c = '\x7d' then
      let text := part start
      if text = "" then .error .malformed
      else (FieldDemand.ofText text).map fun f => ({ d with fields := d.fields ++ [f] }, .fieldEnd)
    else .ok (d, .field start)
  | .fieldEnd, c => if c = ']' then .ok (d, .spanEnd) else .error .malformed
  | .spanEnd, c => if c = '=' then .ok (d, .threshold (i + 1)) else .error .malformed
  | .threshold start, _ => .ok (d, .threshold start)

def readAll (part : Nat → Nat → String) :
    Directive → Nat → Reading → List Char → Except DirectiveFault (Directive × Reading)
  | d, _, reading, [] => .ok (d, reading)
  | d, i, reading, c :: cs =>
    match d.read i (part · i) reading c with
    | .ok (d, reading) => readAll part d (i + c.utf8Size) reading cs
    | .error e => .error e

/-- Reads a directive. Its signs are looked for in the text without the blanks around it, but the
parts between them are cut out of the text as it stands. -/
def ofText (s : String) : Except DirectiveFault Directive :=
  let part := between s.toList
  match readAll part {} 0 .nothing (Text.trim Text.isBlank s).toList with
  | .error e => .error e
  | .ok (d, .spanEnd) => .ok d
  | .ok (_, .word start) => .ok (ofWord (part start s.utf8ByteSize))
  | .ok (d, .threshold start) => d.withThreshold (part start s.utf8ByteSize)
  | .ok _ => .error .malformed

def coversTarget (d : Directive) (target : String) : Bool :=
  (d.target.getD "").toList.isPrefixOf target.toList

def isDynamic (d : Directive) : Bool := d.span.isSome || !d.fields.isEmpty

def isStatic (d : Directive) : Bool := d.span.isNone && d.fields.all (·.value.isNone)

/-- Whether everything inside a span that reports to `target` is the directive's concern. Values of
fields are not compared: a directive that asks for one covers no span. -/
def coversSpan (d : Directive) (target : String) (span : Span) : Bool :=
  d.coversTarget target && d.span.all (· = span.name) &&
    d.fields.all fun f => f.value.isNone && span.fields.any (·.1 = f.name)

def fieldNames (d : Directive) : List String := d.fields.map (·.name)

def compareSpecificity (a b : Directive) : Ordering :=
  let size (d : Directive) : Nat := match d.target with
    | some target => target.utf8ByteSize + 1
    | none => 0
  (compare (size a) (size b)).then <| (compare a.fields.length b.fields.length).then <|
    (compare (a.target.getD "") (b.target.getD "")).then (compare a.fieldNames b.fieldNames)

end Directive

end IdentityLifecycle.Log
