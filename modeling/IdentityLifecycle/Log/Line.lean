import IdentityLifecycle.Json.Value
import IdentityLifecycle.Log
import IdentityLifecycle.Text.Quoted

/-!
The written forms of log entries: a line for people, and a JSON object.
-/
namespace IdentityLifecycle.Log

def Value.lineText : Value → String
  | integer n => toString n
  | text s => Text.quoted s
  | displayed s => s

def Value.jsonText : Value → List Char
  | integer n => (toString n).toList
  | text s => Json.stringText s
  | displayed s => Json.stringText s

def objectText (members : List (String × List Char)) : List Char :=
  let member (m : String × List Char) : List Char := Json.stringText m.1 ++ ':' :: m.2
  '\x7b' :: [','].intercalate (members.map member) ++ ['\x7d']

def Span.jsonText (span : Span) : List Char :=
  objectText (span.fields.map (fun (name, s) => (name, Json.stringText s)) ++
    [("name", Json.stringText span.name)])

namespace Entry

def lineText (entry : Entry) : String :=
  entry.level.name ++ " " ++ entry.source.target ++ ": " ++ ", ".intercalate
    (entry.message :: entry.fields.map fun (name, value) => name ++ ": " ++ value.lineText)

def spanMembers (spans : List Span) : List (String × List Char) :=
  match spans.getLast? with
  | none => []
  | some span => [("span", span.jsonText),
      ("spans", '[' :: [','].intercalate (spans.map Span.jsonText) ++ [']'])]

def jsonText (time : String) (entry : Entry) : String :=
  let fields := ("message", Json.stringText entry.message) ::
    entry.fields.map fun (name, value) => (name, value.jsonText)
  String.ofList (objectText ([("timestamp", Json.stringText time),
    ("level", Json.stringText entry.level.name), ("fields", objectText fields),
    ("target", Json.stringText entry.source.target)] ++ spanMembers entry.spans))

end Entry

end IdentityLifecycle.Log
