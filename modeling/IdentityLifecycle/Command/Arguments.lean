import IdentityLifecycle.Command
import IdentityLifecycle.Text.Basic
import IdentityLifecycle.Text.Similarity

/-!
Reading the arguments of the program: a command, or a notice to the user in its place.
-/
namespace IdentityLifecycle

namespace Command

inductive Tip where
  | similarFlag (flag : String)
  /-- The argument names a command, but follows `--`. -/
  | dropDashes
  deriving DecidableEq, Repr

/-- What the user is told when no command is carried out. -/
inductive Notice where
  | version
  | help (topic : Topic)
  | missingCommand
  | unexpectedArgument (topic : Topic) (argument : String) (tip : Option Tip)
  | unknownCommand (topic : Topic) (word : String) (similar : List String)
  | unexpectedValue (topic : Topic) (flag value : String)
  deriving DecidableEq, Repr

namespace Notice

def versionText : String := "authkeep 0.1.0\n"

def quote (s : String) : String := "'" ++ s ++ "'"

def tipText (argument : String) : Tip → String
  | .similarFlag flag => "\n\n  tip: a similar argument exists: " ++ quote ("--" ++ flag)
  | .dropDashes =>
    "\n\n  tip: subcommand " ++ quote argument ++
      " exists; to use it, remove the '--' before it"

def similarText : List String → String
  | [] => ""
  | [word] => "\n\n  tip: a similar subcommand exists: " ++ quote word
  | words =>
    "\n\n  tip: some similar subcommands exist: " ++ ", ".intercalate (words.map quote)

def complaint (called : Option String) (topic : Topic) (flags : List String) (text : String) :
    String :=
  "error: " ++ text ++ "\n\nUsage: " ++ topic.usage called flags ++ "\n" ++
    if topic = .help then "" else "\nFor more information, try '--help'.\n"

def message (called : Option String) : Notice → String
  | version => versionText
  | help topic => topic.page called
  | missingCommand => Topic.program.page called
  | unexpectedArgument topic argument tip =>
    let flags := match tip with
      | some (.similarFlag flag) => [flag]
      | _ => []
    complaint called topic flags
      ("unexpected argument " ++ quote argument ++ " found" ++ (tip.map (tipText argument)).getD "")
  | unknownCommand topic word similar =>
    complaint called topic [] ("unrecognized subcommand " ++ quote word ++ similarText similar)
  | unexpectedValue topic flag value =>
    complaint called topic [flag] ("unexpected value " ++ quote value ++ " for " ++
      quote ("--" ++ flag) ++ " found; no more were expected")

def exitCode : Notice → Nat
  | version => 0
  | help _ => 0
  | _ => 2

end Notice

def flagNotice (topic : Topic) (flag : String) : Notice :=
  if flag = "version" then .version else .help topic

def splitValue (cs : List Char) : String × Option String :=
  match cs.span (· ≠ '=') with
  | (name, _ :: value) => (String.ofList name, some (String.ofList value))
  | (name, []) => (String.ofList name, none)

def readLong (topic : Topic) (cs : List Char) : Notice :=
  let (flag, value) := splitValue cs
  if topic.flags.contains flag then
    match value with
    | none => flagNotice topic flag
    | some value => .unexpectedValue topic flag value
  else
    .unexpectedArgument topic ("--" ++ flag)
      ((Text.alike flag topic.flags).getLast?.map .similarFlag)

def readShort (topic : Topic) (c : Char) : Notice :=
  match topic.flags.find? fun flag => (flagRow flag).toList.getD 1 ' ' = c with
  | some flag => flagNotice topic flag
  | none => .unexpectedArgument topic (String.ofList ['-', c]) none
where
  flagRow (flag : String) : String := (Topic.flagRow flag).1

def readWord (topic : Topic) (word : String) (dashed : Bool) : Notice :=
  match topic with
  | .program =>
    if dashed && (topics.lookup word).isSome then
      .unexpectedArgument topic word (some .dropDashes)
    else .unknownCommand topic word (Text.alike word (topics.map (·.1)))
  | topic => .unexpectedArgument topic word none

def readArgument (topic : Topic) (argument : String) (dashed : Bool) : Option Notice :=
  if dashed then some (readWord topic argument true)
  else match argument.toList with
    | ['-', '-'] => none
    | '-' :: '-' :: cs => some (readLong topic cs)
    | '-' :: c :: _ => some (readShort topic c)
    | _ => some (readWord topic argument false)

def readRest (command : Command) (dashed : Bool) : List String → Except Notice Command
  | [] => .ok command
  | argument :: rest =>
    match readArgument (.command command) argument dashed with
    | none => readRest command true rest
    | some notice => .error notice

def readHelp (topic : Topic) : List String → Notice
  | [] => .help topic
  | word :: rest =>
    match topic, topics.lookup word with
    | .program, some topic => readHelp topic rest
    | topic, _ => .unknownCommand topic word []

def readAll (dashed : Bool) : List String → Except Notice Command
  | [] => .error .missingCommand
  | argument :: rest =>
    match if dashed then none else topics.lookup argument with
    | some (.command command) => readRest command false rest
    | some _ => .error (readHelp .program rest)
    | none =>
      match readArgument .program argument dashed with
      | none => readAll true rest
      | some notice => .error notice

def nameOfPath? (path : String) : Option String :=
  match ((Text.split '/' path).filter fun part => part ≠ "" && part ≠ ".").getLast? with
  | some name => if name = ".." then none else some name
  | none => none

def ofArguments : List String → Except Notice Command
  | [] => .error .missingCommand
  | _ :: arguments => readAll false arguments

def calledName (arguments : List String) : Option String :=
  arguments.head?.bind nameOfPath?

end Command

end IdentityLifecycle
