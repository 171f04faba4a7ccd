import IdentityLifecycle.Log.Directive

/-!
Filters that choose the entries of a log by their level and source. A filter is a list of
directives with commas between them.
-/
namespace IdentityLifecycle.Log

structure Filter where
  directives : List Directive
  deriving DecidableEq, Repr

namespace Filter

def ofDirectives (directives : List Directive) : Filter :=
  { directives := if directives.isEmpty then [{ threshold := .error }] else directives }

def pieces (s : String) : List String := (Text.split ',' s).filter (· ≠ "")

def ofText? (s : String) : Option Filter :=
  match (pieces s).mapM Directive.ofText with
  | .ok directives => some (ofDirectives directives)
  | .error _ => none

def ofTextLeniently (s : String) : Filter × List String :=
  let read := (pieces s).map fun piece => (piece, Directive.ofText piece)
  let complaints := read.filterMap fun (piece, outcome) =>
    match outcome with
    | .error e => some ("ignoring `" ++ piece ++ "`: " ++ e.message)
    | .ok _ => none
  (ofDirectives (read.filterMap (·.2.toOption)), complaints)

/-- Puts a directive among others, the most specific first, in the place of one that is about the
same. -/
def place (d : Directive) : List Directive → List Directive
  | [] => [d]
  | e :: rest =>
    match d.compareSpecificity e with
    | .gt => d :: e :: rest
    | .eq => d :: rest
    | .lt => e :: place d rest

def statics (filter : Filter) : List Directive :=
  (filter.directives.filter (·.isStatic)).foldl (fun placed d => place d placed) []

def admitsStatically (filter : Filter) (entry : Entry) : Bool :=
  let names := "message" :: entry.fields.map (·.1)
  match filter.statics.find? fun d =>
      d.coversTarget entry.source.target && d.fieldNames.all names.contains with
  | some d => d.threshold.admits entry.level
  | none => false

def spanTarget : String := Source.service.target

/-- Whether a span is followed at all; all spans have the level of information, and the fields of a
static directive do not count for them. -/
def admitsSpan (filter : Filter) (span : Span) : Bool :=
  filter.directives.any (fun d => d.isDynamic && d.coversSpan spanTarget span) ||
    match filter.statics.find? (·.coversTarget spanTarget) with
    | some d => d.threshold.admits .info
    | none => false

def admits (filter : Filter) (entry : Entry) : Bool :=
  (filter.directives.any fun d => d.isDynamic && d.threshold.admits entry.level &&
    entry.spans.any (d.coversSpan spanTarget)) || filter.admitsStatically entry

def apply (filter : Filter) (entries : List Entry) : List Entry :=
  (entries.filter filter.admits).map fun entry =>
    { entry with spans := entry.spans.filter filter.admitsSpan }

end Filter

end IdentityLifecycle.Log
