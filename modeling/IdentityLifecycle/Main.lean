import IdentityLifecycle.Command.Run
import IdentityLifecycle.Log.Line
import IdentityLifecycle.Store.Snapshot
import Std.Time

/-!
The program: it gathers arguments, environment and files, and carries out what a run comes to.
-/
namespace IdentityLifecycle.Program

/-- A file that is no UTF-8 text counts as one that holds a null character. -/
def readText? (path : String) : IO (Option String) := do
  try
    let bytes ← IO.FS.readBinFile path
    return some ((String.fromUTF8? bytes).getD "\x00")
  catch _ => return none

def environment : IO Environment := do
  let content ← readText? "/proc/self/environ"
  return Text.split '\x00' (content.getD "") |>.filterMap fun entry =>
    match entry.toList.span (· ≠ '=') with
    | (name, _ :: value) => some (String.ofList name, String.ofList value)
    | _ => none

def settingsFiles : IO Folder := do
  let paths := [Settings.defaultPath, Settings.localPath, Command.environmentFilePath]
  let texts ← paths.filterMapM fun path => do
    return (← readText? path).map (path, ·)
  return Folder.ofTexts texts

def withDatabase (environment : Environment) (folder : Folder) : IO Folder := do
  let environment := Command.extendEnvironment environment folder
  let (settings, _) := Command.effectiveSettings environment folder
  let location := (Location.ofUrl settings.database.url).toOption
  match (location.bind (·.path)).bind folder.key? with
  | none => return folder
  | some key =>
    let current ← IO.currentDir
    let present ← (Folder.parents key).filterM fun (directory : String) =>
      (current / directory).isDir
    let folder := { folder with directories := folder.directories ++ present }
    match ← readText? key with
    | none => return folder
    | some text =>
      match Database.ofSnapshot text with
      | some db => return { folder with databases := [(key, db)] }
      | none => return { folder with texts := folder.texts ++ [(key, text)] }

def now : IO Instant := do
  return Instant.clamp (← Std.Time.Timestamp.now).toMillisecondsSinceUnixEpoch.val

def timeText (t : Instant) : String :=
  let stamp := Std.Time.Timestamp.ofMillisecondsSinceUnixEpoch (.ofInt t.toInt)
  let date := Std.Time.DateTime.ofTimestampWithZone stamp .UTC
  date.format "uuuu-MM-dd'T'HH:mm:ss.SSSSSS'Z'"

def printReport (report : Report) (time : String) : IO Unit := do
  IO.print report.output
  for entry in report.entries do
    match report.format with
    | .pretty => IO.println ("  " ++ time ++ "  " ++ entry.lineText ++ "\n")
    | .json => IO.println (entry.jsonText time)
  IO.eprint report.errors

def run (arguments : List String) : IO UInt32 := do
  let environment ← environment
  let folder ← withDatabase environment (← settingsFiles)
  let now ← now
  let called := (← IO.appPath).toString
  let (report, folder) := Command.run (called :: arguments) environment folder now
  for (path, db) in folder.databases do
    IO.FS.writeFile path db.toSnapshot
  printReport report (timeText now)
  return UInt32.ofNat report.code

end IdentityLifecycle.Program

def main (arguments : List String) : IO UInt32 := IdentityLifecycle.Program.run arguments
