import IdentityLifecycle.Command.Arguments
import IdentityLifecycle.Environment
import IdentityLifecycle.Log.Filter
import IdentityLifecycle.Settings.Load
import IdentityLifecycle.Startup

/-!
One run of the program: from its arguments, its environment and the files it finds to what it
prints, its exit code and the files it leaves.
-/
namespace IdentityLifecycle

structure Report where
  code : Nat
  /-- The text on the standard output, apart from log entries. -/
  output : String := ""
  entries : List Log.Entry := []
  format : LogFormat := .pretty
  errors : String := ""
  deriving DecidableEq, Repr

namespace Command

def environmentFilePath : String := ".env"

def filterVariable : String := "RUST_LOG"

def extendEnvironment (environment : Environment) (folder : Folder) : Environment :=
  match folder.text? environmentFilePath with
  | some content => EnvironmentFile.load content environment
  | none => environment

/-- The settings files are in JSON. Files of other formats are not looked for. -/
def sources (environment : Environment) (folder : Folder) : SettingsSources where
  defaultFile := folder.text? Settings.defaultPath
  localFile := folder.text? Settings.localPath
  environment := environment

/-- The filter that a variable asks for, or else the one of the settings, with complaints about
what is malformed in that one. -/
def logFilter (environment : Environment) (settings : LoggingSettings) :
    Log.Filter × List String :=
  match (environment.lookup filterVariable).bind Log.Filter.ofText? with
  | some filter => (filter, [])
  | none => Log.Filter.ofTextLeniently settings.level

def openingEntries (settings : Settings) (fault : Option SettingsError) : List Log.Entry :=
  { level := .debug
    source := .logging
    message := "Logging initialized"
    fields := [("level", .displayed settings.logging.level)] } ::
  match fault with
  | none => []
  | some e => [{
      level := .warn
      source := .commands
      message := "Failed to load configuration, using defaults"
      fields := [("error", .displayed e.message)] }]

def say (source : Log.Source) (message : String) (fields : List (String × Log.Value)) :
    Startup Unit :=
  Startup.during "" (Query.report { level := .info, source, message, fields })

def sweep (settings : Settings) (now : Instant) : Startup Unit := do
  let _ ← .ofExcept (Startup.buildService settings)
  let purged ← fun desk =>
    let (outcome, session) := Service.purgeExpiredTokens now (Startup.session settings desk)
    (outcome.mapError StartupFailure.ofIdentityError, session.desk)
  say .purgeCommand "Token sweep complete" [("purged", .integer purged)]

def act (settings : Settings) (now : Instant) : Command → Startup Unit
  | migrate => say .migrateCommand "Migrations complete" []
  | purgeTokens => sweep settings now

/-- Carries out a command and answers how it ended, the log, and the files afterwards. -/
def perform (command : Command) (settings : Settings) (folder : Folder) (now : Instant)
    (log : Log) : Except StartupFailure Unit × Log × Folder :=
  match Startup.during "failed to open the database"
      (Startup.openStore settings.database folder) { log } with
  | (.error e, desk) => (.error e, desk.log, folder)
  | (.ok location, desk) =>
    let work : Startup Unit := do
      Startup.migrateStore
      command.act settings now
    let (outcome, desk) := work desk
    (outcome, desk.log, folder.keep location desk.store.database)

/-- The settings, or the defaults and the reason why they are used. -/
def effectiveSettings (environment : Environment) (folder : Folder) :
    Settings × Option SettingsError :=
  match Settings.load (sources environment folder) with
  | .ok settings => (settings, none)
  | .error e => ({}, some e)

def runWith (command : Command) (environment : Environment) (folder : Folder)
    (now : Instant) : Report × Folder :=
  let (settings, fault) := effectiveSettings environment folder
  let (filter, complaints) := logFilter environment settings.logging
  let log : Log := { entries := openingEntries settings fault }
  let (outcome, log, folder) := command.perform settings folder now log
  let errors := String.join (complaints.map (· ++ "\n"))
  let entries := filter.apply log.entries
  match outcome with
  | .ok () => ({ code := 0, entries, format := settings.logging.format, errors }, folder)
  | .error e =>
    ({ code := 1, entries, format := settings.logging.format, errors := errors ++ e.report },
      folder)

def run (arguments : List String) (environment : Environment) (folder : Folder)
    (now : Instant) : Report × Folder :=
  match ofArguments arguments with
  | .ok command => command.runWith (extendEnvironment environment folder) folder now
  | .error notice =>
    let text := notice.message (calledName arguments)
    if notice.exitCode = 0 then ({ code := 0, output := text }, folder)
    else ({ code := notice.exitCode, errors := text }, folder)

end Command

end IdentityLifecycle
