/-!
The commands of the program, and the pages of help about them.
-/
namespace IdentityLifecycle

inductive Command where
  | migrate
  | purgeTokens
  deriving DecidableEq, Repr

namespace Command

def all : List Command := [migrate, purgeTokens]

def name : Command → String
  | migrate => "migrate"
  | purgeTokens => "purge-tokens"

def summary : Command → String
  | migrate => "Apply pending database migrations"
  | purgeTokens => "Delete tokens that are past their expiry"

inductive Topic where
  | program
  | command (command : Command)
  | help
  deriving DecidableEq, Repr

def helpName : String := "help"

def programName : String := "authkeep"

def topics : List (String × Topic) :=
  all.map (fun c => (c.name, .command c)) ++ [(helpName, .help)]

namespace Topic

def summary : Topic → String
  | program => "Credential and identity lifecycle engine - signup, signin and self-service recovery"
  | command c => c.summary
  | help => "Print this message or the help of the given subcommand(s)"

def flags : Topic → List String
  | program => ["help", "version"]
  | command _ => ["help"]
  | help => []

/-- How the topic is invoked. Without a name that the program was called by, a command stands by
itself, and the program goes by its own name. -/
def usage (called : Option String) (flags : List String) (topic : Topic) : String :=
  let flags := String.join (flags.map (" --" ++ ·))
  let start := (called.map (· ++ " ")).getD ""
  match topic with
  | .program => called.getD programName ++ flags ++ " <COMMAND>"
  | command c => start ++ c.name ++ flags
  | help => start ++ helpName ++ " [COMMAND]..."

def columns (rows : List (String × String)) : String :=
  let width := rows.foldl (fun width (word, _) => max width word.length) 0
  String.join (rows.map fun (word, meaning) =>
    "  " ++ word ++ String.ofList (List.replicate (width - word.length + 2) ' ') ++ meaning ++ "\n")

def flagRow : String → String × String
  | "version" => ("-V, --version", "Print version")
  | flag => ("-h, --" ++ flag, "Print help")

def page (called : Option String) (topic : Topic) : String :=
  let rest := match topic with
    | .program =>
      "\nCommands:\n" ++ columns (topics.map fun (word, topic) => (word, topic.summary))
    | command _ => ""
    | help => "\nArguments:\n" ++
        columns [("[COMMAND]...", "Print help for the subcommand(s)")]
  let options := if topic.flags.isEmpty then ""
    else "\nOptions:\n" ++ columns (topic.flags.map flagRow)
  topic.summary ++ "\n\nUsage: " ++ topic.usage called [] ++ "\n" ++ rest ++ options

end Topic

end Command

end IdentityLifecycle
