/-!
The settings of the engine, by section, with their defaults.
-/
namespace IdentityLifecycle

structure DatabaseSettings where
  url : String := "sqlite://authkeep.db"
  maxConnections : UInt32 := 5
  minConnections : UInt32 := 1
  acquireTimeoutSecs : UInt64 := 30
  /-- How long a locked database is waited for. -/
  busyTimeoutSecs : UInt64 := 5
  deriving DecidableEq, Repr

structure HasherSettings where
  timeCost : UInt32 := 4
  memoryKib : UInt32 := 65536
  parallelism : UInt32 := 4
  saltLength : UInt64 := 32
  keyLength : UInt64 := 256
  deriving DecidableEq, Repr

structure TokenSettings where
  signupTtlSecs : UInt64 := 43200
  resetTtlSecs : UInt64 := 3600
  /-- How many random bytes a token value is made from. -/
  tokenBytes : UInt64 := 32
  deriving DecidableEq, Repr

structure CacheSettings where
  maxCapacity : UInt64 := 10000
  deriving DecidableEq, Repr

structure MailSettings where
  /-- The host that links point at. -/
  domain : String := "localhost:3000"
  sender : String := "no-reply@localhost"
  deriving DecidableEq, Repr

inductive LogFormat where
  | pretty
  | json
  deriving DecidableEq, Repr

structure LoggingSettings where
  level : String := "info"
  format : LogFormat := .pretty
  deriving DecidableEq, Repr

structure Settings where
  database : DatabaseSettings := {}
  hasher : HasherSettings := {}
  tokens : TokenSettings := {}
  cache : CacheSettings := {}
  mail : MailSettings := {}
  logging : LoggingSettings := {}
  deriving DecidableEq, Repr

end IdentityLifecycle
