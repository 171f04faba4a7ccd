import IdentityLifecycle.Service
import IdentityLifecycle.Store.Folder
import IdentityLifecycle.Store.Migration

/-!
Starting the engine: opening the database, bringing its schema up to date, and building the
service.
-/
namespace IdentityLifecycle

structure StartupFailure where
  activity : String
  causes : List String
  deriving DecidableEq, Repr

namespace StartupFailure

def chain (failure : StartupFailure) : List String := failure.activity :: failure.causes

/-- A failure that was met in the middle of the work speaks for itself. -/
def ofIdentityError (e : IdentityError) : StartupFailure where
  activity := e.message
  causes := e.chain.tail

def indent (first rest text : String) : String :=
  first ++ ("\n" ++ rest).intercalate (Text.split '\n' text)

def report (failure : StartupFailure) : String :=
  "Error: " ++ failure.activity ++
    (match failure.causes with
      | [] => ""
      | [cause] => "\n\nCaused by:\n" ++ indent "    " "    " cause
      | causes => "\n\nCaused by:\n" ++ "\n".intercalate (causes.mapIdx fun i cause =>
          indent ("    " ++ toString i ++ ": ") "       " cause)) ++ "\n"

end StartupFailure

abbrev Startup (α : Type) := Step Desk StartupFailure α

namespace Startup

def during {α : Type} (activity : String) (query : Query α) : Startup α := fun desk =>
  match query desk with
  | (.ok a, desk) => (.ok a, desk)
  | (.error e, desk) => (.error { activity, causes := e.chain }, desk)

def openStore (settings : DatabaseSettings) (folder : Folder) : Query Location := fun desk =>
  let opened := do
    let location ← Location.ofUrl settings.url
    return (location, ← folder.openDatabase location)
  match opened with
  | .error e => (.error (.connect e), desk)
  | .ok (location, database) =>
    let entry : Log.Entry := {
      level := .debug
      source := .store
      message := "Connected to database"
      fields := [("url", .displayed settings.url)] }
    (.ok location, {
      store := {
        database
        readOnly := location.readOnly || location.immutable
        scattered := !location.shared && settings.maxConnections ≠ 1 }
      log := desk.log.write entry })

def versionText : Option Int64 → String
  | some version => "Some(" ++ toString version ++ ")"
  | none => "None"

def migrateStore : Startup Unit := do
  let version ← during "failed to apply migrations" Migration.migrate
  during "" (Query.report {
    level := .info
    source := .engine
    message := "Database schema is up to date"
    fields := [("version", .displayed (versionText version))] })

def connect (settings : Settings) (folder : Folder) : Startup Location := do
  let location ← during "failed to open the database" (openStore settings.database folder)
  migrateStore
  return location

def buildHasher (settings : HasherSettings) : Except StartupFailure Hasher :=
  (Hasher.ofSettings settings).mapError fun e =>
    { activity := "invalid hasher configuration", causes := [e.message] }

def buildSite (settings : MailSettings) : Except StartupFailure SiteDomain :=
  (SiteDomain.ofString settings.domain).mapError fun e =>
    { activity := "invalid mail domain", causes := [e.message] }

def buildService (settings : Settings) : Except StartupFailure Service := do
  let hasher ← buildHasher settings.hasher
  let site ← buildSite settings.mail
  return { hasher, ledger := Ledger.ofSettings settings.tokens, site }

def session (settings : Settings) (desk : Desk) : Session where
  desk := desk
  cache := Cache.ofCapacity settings.cache.maxCapacity.toNat

end Startup

end IdentityLifecycle
