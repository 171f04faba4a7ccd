import IdentityLifecycle.Binary64.Numeral
import IdentityLifecycle.Settings
import IdentityLifecycle.Settings.Node
import IdentityLifecycle.Text.Quoted

/-!
Reading the settings out of a tree.
-/
namespace IdentityLifecycle

inductive SettingsError where
  /-- A file is not JSON, or it holds something else than an object. -/
  | file (path : String) (found : Option String)
  /-- The setting at `key` has another form than it needs. -/
  | mismatch (found wanted key : String) (origin : Option String)
  /-- A whole section has another form than it needs. -/
  | section (found wanted : String)
  | unknownVariant (type variant : String)
  | noVariant (type : String)
  deriving DecidableEq, Repr

def SettingsError.message : SettingsError → String
  | file path none => "invalid JSON in " ++ path
  | file path (some found) =>
    "invalid type: " ++ found ++ ", expected a map in " ++ path ++ " in " ++ path
  | mismatch found wanted key origin =>
    "invalid type: " ++ found ++ ", expected " ++ wanted ++ " for key `" ++ key ++ "`" ++
      match origin with
      | some place => " in " ++ place
      | none => ""
  | .section found wanted => "invalid type: " ++ found ++ ", expected " ++ wanted
  | unknownVariant type variant =>
    "enum " ++ type ++ " does not have variant constructor " ++ variant
  | noVariant type =>
    "value of enum " ++ type ++
      " should be represented by either string or table with exactly one key"

def Binary64.pointedText (x : Binary64) : String :=
  match x with
  | .finite .. => if x.toText.contains '.' then x.toText else x.toText ++ ".0"
  | x => x.toText

def parseUInt64 (s : String) : Option UInt64 :=
  let ds := match s.toList with
    | '+' :: ds => ds
    | ds => ds
  if ds.isEmpty || !ds.all Char.isDigit then none
  else
    let n := Numeral.valueOfDigits ds
    if n < 0x10000000000000000 then some (UInt64.ofNat n) else none

namespace Node

def valueName : Node → String
  | leaf _ .nil => "unit value"
  | leaf _ (.bool b) => "boolean `" ++ toString b ++ "`"
  | leaf _ (.integer n) => "integer `" ++ toString n ++ "`"
  | leaf _ (.real x) => "floating point `" ++ x.pointedText ++ "`"
  | leaf _ (.text s) => "string " ++ Text.quoted s
  | list _ _ => "sequence"
  | table _ _ => "map"

def fileValueName : Node → String
  | leaf _ (.integer n) => "64-bit integer `" ++ toString n ++ "`"
  | leaf _ (.real x) => "floating point `" ++ x.toText ++ "`"
  | node => node.valueName

def asText (key : String) (node : Node) : Except SettingsError String :=
  match node with
  | leaf _ (.text s) => .ok s
  | leaf _ (.integer n) => .ok (toString n)
  | leaf _ (.real x) => .ok x.toText
  | leaf _ (.bool b) => .ok (toString b)
  | node => .error (.mismatch node.valueName "a string" key node.origin)

def wordOfText (s : String) : Option UInt64 :=
  let word := Text.lowercase s
  if word = "true" || word = "on" || word = "yes" then some 1
  else if word = "false" || word = "off" || word = "no" then some 0
  else parseUInt64 s

/-- A natural number of 64 bits; floating-point numbers are rounded, and truth values and the
texts of numbers and truth values count as numbers. -/
def asUInt64 (key : String) (node : Node) : Except SettingsError UInt64 :=
  match node with
  | leaf origin (.integer n) =>
    if n < 0 then
      .error (.mismatch ("64-bit integer `" ++ toString n ++ "`")
        "an unsigned 64 bit or less integer" key origin)
    else .ok (UInt64.ofNat n.toInt.toNat)
  | leaf _ (.real x) => .ok x.toUInt64
  | leaf _ (.bool b) => .ok (if b then 1 else 0)
  | leaf origin (.text s) =>
    match wordOfText s with
    | some n => .ok n
    | none => .error (.mismatch ("string " ++ Text.quoted s) "an integer" key origin)
  | node => .error (.mismatch node.valueName "an integer" key node.origin)

def asUInt32 (key : String) (node : Node) : Except SettingsError UInt32 := do
  let n ← node.asUInt64 key
  if n.toNat < 0x100000000 then return UInt32.ofNat n.toNat
  else .error (.mismatch ("64-bit unsigned integer `" ++ toString n ++ "`")
    "an unsigned 32 bit integer" key none)

def asLogFormat (node : Node) : Except SettingsError LogFormat :=
  let named (s : String) : Except SettingsError LogFormat :=
    let name := Text.lowercase s
    if name = "pretty" then .ok .pretty
    else if name = "json" then .ok .json
    else .error (.unknownVariant "LogFormat" s)
  match node with
  | leaf _ (.text s) => named s
  | table _ [(name, _)] => named name
  | _ => .error (.noVariant "LogFormat")

end Node

structure Section where
  name : String
  node : Node

namespace Section

def ofNode (name type : String) (node : Node) : Except SettingsError Section :=
  match node with
  | .leaf .. => .error (.section node.valueName ("struct " ++ type))
  | node => .ok { name, node }

/-- Reads a setting, or takes the default if the section does not mention it. -/
def field {α : Type} (s : Section) (index : Nat) (name : String)
    (read : String → Node → Except SettingsError α) (default : α) : Except SettingsError α :=
  match s.node with
  | .table _ entries =>
    match entries.lookup name with
    | some node => read (s.name ++ "." ++ name) node
    | none => .ok default
  | .list _ items =>
    match items[index]? with
    | some node => read (s.name ++ "[" ++ toString index ++ "]") node
    | none => .ok default
  | .leaf .. => .ok default

end Section

def DatabaseSettings.ofSection (s : Section) : Except SettingsError DatabaseSettings := do
  let default : DatabaseSettings := {}
  return {
    url := ← s.field 0 "url" Node.asText default.url
    maxConnections := ← s.field 1 "max_connections" Node.asUInt32 default.maxConnections
    minConnections := ← s.field 2 "min_connections" Node.asUInt32 default.minConnections
    acquireTimeoutSecs :=
      ← s.field 3 "acquire_timeout_secs" Node.asUInt64 default.acquireTimeoutSecs
    busyTimeoutSecs := ← s.field 4 "busy_timeout_secs" Node.asUInt64 default.busyTimeoutSecs }

def HasherSettings.ofSection (s : Section) : Except SettingsError HasherSettings := do
  let default : HasherSettings := {}
  return {
    timeCost := ← s.field 0 "time_cost" Node.asUInt32 default.timeCost
    memoryKib := ← s.field 1 "memory_kib" Node.asUInt32 default.memoryKib
    parallelism := ← s.field 2 "parallelism" Node.asUInt32 default.parallelism
    saltLength := ← s.field 3 "salt_length" Node.asUInt64 default.saltLength
    keyLength := ← s.field 4 "key_length" Node.asUInt64 default.keyLength }

def TokenSettings.ofSection (s : Section) : Except SettingsError TokenSettings := do
  let default : TokenSettings := {}
  return {
    signupTtlSecs := ← s.field 0 "signup_ttl_secs" Node.asUInt64 default.signupTtlSecs
    resetTtlSecs := ← s.field 1 "reset_ttl_secs" Node.asUInt64 default.resetTtlSecs
    tokenBytes := ← s.field 2 "token_bytes" Node.asUInt64 default.tokenBytes }

def CacheSettings.ofSection (s : Section) : Except SettingsError CacheSettings := do
  let default : CacheSettings := {}
  return { maxCapacity := ← s.field 0 "max_capacity" Node.asUInt64 default.maxCapacity }

def MailSettings.ofSection (s : Section) : Except SettingsError MailSettings := do
  let default : MailSettings := {}
  return {
    domain := ← s.field 0 "domain" Node.asText default.domain
    sender := ← s.field 1 "from" Node.asText default.sender }

def LoggingSettings.ofSection (s : Section) : Except SettingsError LoggingSettings := do
  let default : LoggingSettings := {}
  return {
    level := ← s.field 0 "level" Node.asText default.level
    format := ← s.field 1 "format" (fun _ => Node.asLogFormat) default.format }

namespace Settings

def readSection {α : Type} (tree : Node) (name type : String)
    (read : Section → Except SettingsError α) (default : α) : Except SettingsError α :=
  match tree.entries.lookup name with
  | none => .ok default
  | some node => (Section.ofNode name type node).bind read

def ofNode (tree : Node) : Except SettingsError Settings := do
  return {
    database := ← readSection tree "database" "DatabaseConfig" DatabaseSettings.ofSection {}
    hasher := ← readSection tree "hasher" "HasherConfig" HasherSettings.ofSection {}
    tokens := ← readSection tree "tokens" "TokenConfig" TokenSettings.ofSection {}
    cache := ← readSection tree "cache" "CacheConfig" CacheSettings.ofSection {}
    mail := ← readSection tree "mail" "MailConfig" MailSettings.ofSection {}
    logging := ← readSection tree "logging" "LoggingConfig" LoggingSettings.ofSection {} }

end Settings

end IdentityLifecycle
