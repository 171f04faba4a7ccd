/-!
What the engine reports about its work.
-/
namespace IdentityLifecycle

namespace Log

inductive Level where
  | debug
  | info
  | warn
  deriving DecidableEq, Repr

def Level.name : Level → String
  | debug => "DEBUG"
  | info => "INFO"
  | warn => "WARN"

inductive Source where
  | engine
  | service
  | ledger
  | mailer
  | store
  | migrations
  | logging
  | commands
  | migrateCommand
  | purgeCommand
  deriving DecidableEq, Repr

def Source.target : Source → String
  | engine => "authkeep"
  | service => "authkeep::infrastructure::user::service"
  | ledger => "authkeep::infrastructure::token::ledger"
  | mailer => "authkeep::infrastructure::mail::log_mailer"
  | store => "authkeep::infrastructure::storage::store"
  | migrations => "authkeep::infrastructure::storage::migrations"
  | logging => "authkeep::infrastructure::logging"
  | commands => "authkeep::cli"
  | migrateCommand => "authkeep::cli::migrate"
  | purgeCommand => "authkeep::cli::purge_tokens"

inductive Value where
  | integer (n : Int)
  | text (s : String)
  | displayed (s : String)
  deriving DecidableEq, Repr

structure Span where
  name : String
  fields : List (String × String) := []
  deriving DecidableEq, Repr

structure Entry where
  level : Level
  source : Source
  message : String
  fields : List (String × Value) := []
  /-- The spans around the entry, the outermost first. -/
  spans : List Span := []
  deriving DecidableEq, Repr

end Log

/-- The entries written so far and the spans that are open. -/
structure Log where
  entries : List Log.Entry := []
  spans : List Log.Span := []
  deriving DecidableEq, Repr

def Log.write (log : Log) (entry : Log.Entry) : Log :=
  { log with entries := log.entries ++ [{ entry with spans := log.spans }] }

end IdentityLifecycle
