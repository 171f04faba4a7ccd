import IdentityLifecycle.Binary64.Numeral
import IdentityLifecycle.Environment
import IdentityLifecycle.Json.Read
import IdentityLifecycle.Settings.Decode

/-!
The settings from three layers: a file of defaults, a local file, and environment variables.
-/
namespace IdentityLifecycle

/-- What the settings are read from. A file that does not exist is `none`. -/
structure SettingsSources where
  defaultFile : Option String := none
  localFile : Option String := none
  environment : Environment := []
  deriving DecidableEq, Repr

namespace Settings

def defaultPath : String := "config/default.json"

def localPath : String := "config/local.json"

def variableStart : List Char := "authkeep__".toList

def fileLayer (path : String) : Option String → Except SettingsError (List (String × Node))
  | none => .ok []
  | some content =>
    match Json.ofText content with
    | some (.object members) => .ok (Node.ofMembers path members [])
    | some value => .error (.file path (Node.ofJson path value).fileValueName)
    | none => .error (.file path none)

/-- The value of a variable: a truth value or a number if the text is one, else the text. -/
def scalarOfText (s : String) : Scalar :=
  let word := Text.lowercase s
  if word = "true" then .bool true
  else if word = "false" then .bool false
  else match (Numeral.readInteger s.toList).bind int64OfInt with
    | some n => .integer n
    | none =>
      match Binary64.ofText? s with
      | some x => .real x
      | none => .text s

def pathOfVariable : List Char → List Char
  | '_' :: '_' :: cs => '.' :: pathOfVariable cs
  | c :: cs => c :: pathOfVariable cs
  | [] => []

def variableSetting? (name value : String) : Option (String × Node) :=
  let name := (Text.lowercase name).toList
  if variableStart.isPrefixOf name then
    let path := String.ofList (pathOfVariable (name.drop variableStart.length))
    some (path, .leaf (some "the environment") (scalarOfText value))
  else none

def tree (sources : SettingsSources) : Except SettingsError Node := do
  let base ← fileLayer defaultPath sources.defaultFile
  let top ← fileLayer localPath sources.localFile
  let named := sources.environment.filterMap fun (name, value) => variableSetting? name value
  return Node.setAll (base ++ top ++ named) Node.emptyTable

def load (sources : SettingsSources) : Except SettingsError Settings := do
  ofNode (← tree sources)

end Settings

end IdentityLifecycle
