import IdentityLifecycle.Proofs.Maintenance
import IdentityLifecycle.Proofs.Reporting

/-!
# Keeping one database file up

The commands, and whoever adds rows for tokens to the file between their runs, find and leave a
database that is up to date from the first run on: the migrations do nothing more, and a sweep
deletes the rows that are past their expiry and no others.
-/

namespace IdentityLifecycle

/-! ### Databases that are up to date -/

namespace Database

def upToDate (users : List UserRow) (tokens : List TokenRow) : Database :=
  { (Migration.migrate {}).2.store.database with users := some users, tokens := some tokens }

inductive Ready : Database → Prop
  | blank : Ready {}
  | upToDate (users : List UserRow) (tokens : List TokenRow) : Ready (.upToDate users tokens)

def tokenRows (db : Database) : List TokenRow := db.tokens.getD []

def broughtTo (db : Database) (tokens : List TokenRow) : Database :=
  .upToDate (db.users.getD []) tokens

theorem upToDate_versions (users : List UserRow) (tokens : List TokenRow) :
    (upToDate users tokens).history.map (·.map (·.version)) = some [1, 2] := by
  with_unfolding_all rfl

section

variable {users : List UserRow} {tokens : List TokenRow} {row : TokenRow}

/-- A row from outside is added if it breaks no constraint. -/
theorem insertToken_of_free (hfree : TokenRow.fault? tokens row = none) :
    (upToDate users tokens).insertToken row = .ok (.upToDate users (tokens ++ [row])) := by
  simp only [insertToken, upToDate, hfree]

theorem insertToken_of_fault {e : DatabaseError} (hfault : TokenRow.fault? tokens row = some e) :
    (upToDate users tokens).insertToken row = .error e := by
  simp only [insertToken, upToDate, hfault]

end

end Database

/-! ### Files -/

namespace Location

theorem shared_of_ofName {name : String} {access : Access} {isUri : Bool} {location : Location}
    (hok : ofName name access isUri = .ok location) (hfile : location.path ≠ none) :
    location.shared = true := by
  unfold ofName at hok
  dsimp only at hok
  split at hok
  · cases hok
  · split at hok
    · cases hok
      exact absurd rfl hfile
    · cases hok
      rfl

/-- All connections to a file work on the same tables. -/
theorem shared_of_ofUrl {url : String} {location : Location} (hok : ofUrl url = .ok location)
    (hfile : location.path ≠ none) : location.shared = true := by
  obtain ⟨found, -, hok⟩ := bind_eq_ok.mp hok
  unfold ofDatabaseUrl at hok
  dsimp only at hok
  split at hok
  · exact shared_of_ofName hok hfile
  · split at hok
    · cases hok
    · split at hok
      · obtain ⟨target, -, hok⟩ := bind_eq_ok.mp hok
        exact shared_of_ofName hok hfile
      · exact shared_of_ofName hok hfile

end Location

namespace Folder

variable {folder : Folder} {location : Location} {key : String}

def tokenRows (folder : Folder) (key : String) : List TokenRow :=
  ((folder.databases.lookup key).getD {}).tokenRows

/-- Somebody opens the database at a location and adds a row for a token, if it takes the row. -/
def insertToken (folder : Folder) (location : Location) (row : TokenRow) : Folder :=
  match (folder.openDatabase location).bind (·.insertToken row) with
  | .ok db => folder.keep location db
  | .error _ => folder

theorem keep_eq (hkey : location.path.bind folder.key? = some key) (db : Database) :
    folder.keep location db = { folder with
      texts := folder.texts.filter (·.1 ≠ key)
      databases := (key, db) :: folder.databases.filter (·.1 ≠ key) } := by
  rw [keep, hkey]

/-- The last database that is kept at a location counts. -/
theorem keep_keep {db db' : Database} (hkey : location.path.bind folder.key? = some key)
    (hstays : location.path.bind (folder.keep location db).key? = some key) :
    (folder.keep location db).keep location db' = folder.keep location db' := by
  rw [keep_eq hstays, keep_eq hkey, keep_eq hkey]
  simp

theorem openDatabase_of_key {path : String} (hpath : location.path = some path)
    (hkey : folder.key? path = some key) :
    folder.openDatabase location = folder.openFile location key := by
  simp only [openDatabase, hpath, hkey]

/-- What was opened is the database in the folder, or an empty one. -/
theorem lookup_of_openDatabase {db : Database}
    (hkey : location.path.bind folder.key? = some key)
    (hopens : folder.openDatabase location = .ok db) :
    (folder.databases.lookup key).getD {} = db := by
  obtain ⟨path, hpath, hfound⟩ := Option.bind_eq_some_iff.mp hkey
  rw [openDatabase_of_key hpath hfound] at hopens
  unfold openFile at hopens
  dsimp only at hopens
  split at hopens
  · cases hopens
  · split at hopens
    · cases hopens
    · cases hkept : folder.databases.lookup key with
      | some kept =>
        rw [hkept] at hopens
        cases hopens
        rfl
      | none =>
        rw [hkept] at hopens
        -- a text is no database unless it is empty, and then it counts as a new one
        split at hopens
        · next heq => cases heq
        · split at hopens <;> cases hopens
          rfl
        · cases hopens
        · split at hopens <;> cases hopens
          rfl

/-- What is kept at a location where a database can be opened is found there. -/
theorem openDatabase_keep {db db' : Database} (hkey : location.path.bind folder.key? = some key)
    (hstays : location.path.bind (folder.keep location db').key? = some key)
    (hopens : folder.openDatabase location = .ok db) :
    (folder.keep location db').openDatabase location = .ok db' := by
  obtain ⟨path, hpath, hfound⟩ := Option.bind_eq_some_iff.mp hkey
  rw [hpath, Option.bind_some] at hstays
  rw [openDatabase_of_key hpath hfound] at hopens
  rw [openDatabase_of_key hpath hstays]
  unfold openFile hasDirectory at hopens ⊢
  rw [keep_directories, keep_self hkey]
  dsimp only at hopens ⊢
  split at hopens
  · cases hopens
  · next hfile =>
    rw [if_neg hfile]
    split at hopens
    · cases hopens
    · next hinside => rw [if_neg hinside]

end Folder

/-! ### What the commands report and do -/

def Migration.appliedEntry (m : Migration) : Log.Entry where
  level := .info
  source := .migrations
  message := "Applied migration"
  fields := [("version", .integer m.version.toInt), ("description", .text m.description)]

namespace Startup

def schemaEntry : Log.Entry where
  level := .info
  source := .engine
  message := "Database schema is up to date"
  fields := [("version", .displayed "Some(2)")]

theorem migrateStore_blank (log : Log) :
    migrateStore { log } = (.ok (), {
      store := { database := .upToDate [] [] }
      log := log.extend (Migration.schema.map (·.appliedEntry) ++ [schemaEntry]) }) := by
  have hwritten : log.extend (Migration.schema.map (·.appliedEntry) ++ [schemaEntry]) =
      ((Migration.schema.map (·.appliedEntry)).foldl Log.write log).write schemaEntry := by
    rw [Log.foldl_write, Log.write_eq, ← Log.extend_append]
    rfl
  rw [hwritten]
  with_unfolding_all rfl

theorem migrateStore_upToDate (users : List UserRow) (tokens : List TokenRow) (log : Log) :
    migrateStore { store := { database := .upToDate users tokens }, log } =
      (.ok (), {
        store := { database := .upToDate users tokens }, log := log.extend [schemaEntry] }) := by
  rw [log.extend_singleton rfl]
  with_unfolding_all rfl

def Preparing (entries : List Log.Entry) : Prop :=
  ∀ entry ∈ entries, entry.source ≠ .purgeCommand

instance decidablePreparing (entries : List Log.Entry) : Decidable (Preparing entries) :=
  inferInstanceAs (Decidable (∀ entry ∈ entries, _))

theorem Preparing.append {entries entries' : List Log.Entry} (h : Preparing entries)
    (h' : Preparing entries') : Preparing (entries ++ entries') :=
  List.forall_mem_append.mpr ⟨h, h'⟩

/-- Migrating leads to a database that is up to date, with the rows that were there. -/
theorem migrateStore_of_ready {db : Database} (hready : db.Ready) (log : Log) :
    ∃ more, Preparing more ∧ migrateStore { store := { database := db }, log } =
      (.ok (), { store := { database := db.broughtTo db.tokenRows }, log := log.extend more }) := by
  cases hready with
  | blank => exact ⟨_, by decide, migrateStore_blank log⟩
  | upToDate users tokens => exact ⟨_, by decide, migrateStore_upToDate users tokens log⟩

def connectedEntry (url : String) : Log.Entry where
  level := .debug
  source := .store
  message := "Connected to database"
  fields := [("url", .displayed url)]

theorem openStore_of_file {settings : DatabaseSettings} {folder : Folder} {location : Location}
    {db : Database} (hlocates : Location.ofUrl settings.url = .ok location)
    (hshared : location.shared = true)
    (hwritable : (location.readOnly || location.immutable) = false)
    (hopens : folder.openDatabase location = .ok db) (desk : Desk) :
    openStore settings folder desk =
      (.ok location, {
        store := { database := db }, log := desk.log.extend [connectedEntry settings.url] }) := by
  rw [Log.extend_singleton _ rfl]
  simp only [openStore, hlocates, hopens, bind, Except.bind, pure, Except.pure, hwritable, hshared,
    Bool.not_true, Bool.false_and]
  rfl

end Startup

namespace Command

def leaves (now : Instant) (tokens : List TokenRow) : Command → List TokenRow
  | migrate => tokens
  | purgeTokens => tokens.filter fun row => !row.isExpired now

def sweeping (now : Instant) (tokens : List TokenRow) : Command → List Log.Entry
  | migrate => []
  | purgeTokens => [(Service.said .info "Purged expired tokens" [("purged",
      .integer (tokens.countP (·.isExpired now)))]).inside { name := "purge_expired_tokens" }]

def closing (now : Instant) (tokens : List TokenRow) : Command → Log.Entry
  | migrate => { level := .info, source := .migrateCommand, message := "Migrations complete" }
  | purgeTokens => {
    level := .info
    source := .purgeCommand
    message := "Token sweep complete"
    fields := [("purged", .integer (tokens.countP (·.isExpired now)))] }

end Command

theorem Service.purgeExpiredTokens_upToDate (settings : Settings) (now : Instant)
    (users : List UserRow) (tokens : List TokenRow) (log : Log) :
    Service.purgeExpiredTokens now
        (Startup.session settings { store := { database := .upToDate users tokens }, log }) =
      (.ok (tokens.countP (·.isExpired now)), Startup.session settings {
        store := { database := .upToDate users (Command.purgeTokens.leaves now tokens) }
        log := log.extend (Command.purgeTokens.sweeping now tokens) }) := by
  with_unfolding_all rfl

namespace Command

variable {settings : Settings} {now : Instant}

/-- A sweep says how many tokens it has deleted. -/
theorem sweep_of_purged {service : Service} {desk : Desk} {n : Nat} {s : Session}
    (hbuilt : Startup.buildService settings = .ok service)
    (hpurge : Service.purgeExpiredTokens now (Startup.session settings desk) = (.ok n, s)) :
    sweep settings now desk =
      say .purgeCommand "Token sweep complete" [("purged", .integer n)] s.desk := by
  unfold sweep
  rw [hbuilt]
  refine (Step.bind_of_ok rfl _).trans (Step.bind_of_ok ?_ _)
  dsimp only
  rw [hpurge]
  rfl

theorem act_upToDate (command : Command) (now : Instant)
    (hbuilds : ∃ service, Startup.buildService settings = .ok service)
    (users : List UserRow) (tokens : List TokenRow) (log : Log) :
    command.act settings now { store := { database := .upToDate users tokens }, log } =
      (.ok (), {
        store := { database := .upToDate users (command.leaves now tokens) }
        log := log.extend (command.sweeping now tokens ++ [command.closing now tokens]) }) := by
  cases command with
  | migrate =>
    rw [sweeping, List.nil_append, log.extend_singleton rfl]
    rfl
  | purgeTokens =>
    obtain ⟨service, hbuilt⟩ := hbuilds
    rw [Log.extend_append, Log.extend_singleton _ rfl]
    exact sweep_of_purged hbuilt (Service.purgeExpiredTokens_upToDate settings now users tokens log)

/-- A command succeeds on a database that is ready, and closes with what it has done. -/
theorem perform_of_ready (command : Command) (now : Instant) {folder : Folder}
    {location : Location} {db : Database}
    (hlocates : Location.ofUrl settings.database.url = .ok location)
    (hfile : location.path ≠ none)
    (hwritable : (location.readOnly || location.immutable) = false)
    (hbuilds : ∃ service, Startup.buildService settings = .ok service)
    (hopens : folder.openDatabase location = .ok db) (hready : db.Ready) (log : Log) :
    ∃ more, Startup.Preparing more ∧ command.perform settings folder now log =
      (.ok (), log.extend (more ++ [command.closing now db.tokenRows]),
        folder.keep location (db.broughtTo (command.leaves now db.tokenRows))) := by
  have hshared := Location.shared_of_ofUrl hlocates hfile
  let opening := [Startup.connectedEntry settings.database.url]
  have hopen : Startup.during "failed to open the database"
      (Startup.openStore settings.database folder) { log } =
        (.ok location, { store := { database := db }, log := log.extend opening }) := by
    rw [Startup.during, Startup.openStore_of_file hlocates hshared hwritable hopens]
  obtain ⟨migrating, hmigrating, hmigrate⟩ :=
    Startup.migrateStore_of_ready hready (log.extend opening)
  have hact := command.act_upToDate now hbuilds (db.users.getD []) db.tokenRows
    ((log.extend opening).extend migrating)
  have hwork := (Step.bind_of_ok hmigrate fun _ => command.act settings now).trans hact
  refine ⟨opening ++ migrating ++ command.sweeping now db.tokenRows, ?_, ?_⟩
  · refine .append (.append (by simp [Startup.Preparing, opening, Startup.connectedEntry])
      hmigrating) ?_
    cases command <;> simp [Startup.Preparing, sweeping, Service.said, Log.Entry.inside]
  · unfold perform
    rw [hopen]
    dsimp only
    rw [hwork]
    simp only [Log.extend_append]
    rfl

end Command

/-- The last of some entries, the only one of its source, passes a filter that admits it. -/
theorem Log.Filter.apply_append_singleton {filter : Log.Filter} {entries : List Log.Entry}
    {entry : Log.Entry} (hbefore : ∀ other ∈ entries, other.source ≠ entry.source)
    (houtside : entry.spans = []) (hadmits : filter.admits entry = true) :
    (filter.apply (entries ++ [entry])).filter (·.source = entry.source) = [entry] := by
  have hnone : (filter.apply entries).filter (·.source = entry.source) = [] := by
    rw [List.filter_eq_nil_iff]
    intro passed hpassed
    obtain ⟨other, hother, rfl⟩ := List.mem_map.mp hpassed
    simpa using hbefore other (List.mem_filter.mp hother).1
  have hself : filter.apply [entry] = [entry] := by
    obtain ⟨level, source, message, fields, spans⟩ := entry
    obtain rfl : spans = [] := houtside
    simp [apply, hadmits]
  have happend : filter.apply (entries ++ [entry]) =
      filter.apply entries ++ filter.apply [entry] := by
    simp [apply]
  rw [happend, List.filter_append, hnone, hself]
  simp

/-! ### Runs of the program -/

namespace Command

/-- The settings are valid and name a file that can be written, in which nothing is stored yet or a
database that is up to date. The file is found under its path also once it is there, and is none of
those that the settings are read from. -/
structure Configured (environment : Environment) (folder : Folder) (settings : Settings)
    (location : Location) (key : String) : Prop where
  loads : Settings.load (sources (extendEnvironment environment folder) folder) = .ok settings
  builds : ∃ service, Startup.buildService settings = .ok service
  locates : Location.ofUrl settings.database.url = .ok location
  writable : (location.readOnly || location.immutable) = false
  finds : location.path.bind folder.key? = some key
  stays : ∀ db, location.path.bind (folder.keep location db).key? = some key
  apart : key ∉ [environmentFilePath, Settings.defaultPath, Settings.localPath]
  ready : ∃ db, folder.openDatabase location = .ok db ∧ db.Ready

/-- What the folder becomes: it stays as it was, or the file in it has a database that is up to
date. -/
inductive Stage (folder : Folder) (location : Location) : Folder → Database → Prop
  | start {db : Database} (hopens : folder.openDatabase location = .ok db) (hready : db.Ready) :
      Stage folder location folder db
  | kept (users : List UserRow) (tokens : List TokenRow) :
      Stage folder location (folder.keep location (.upToDate users tokens))
        (.upToDate users tokens)

/-- The settings of a run do not depend on what the file has. -/
theorem effectiveSettings_eq (environment : Environment) {folder folder' : Folder}
    (hsame : ∀ path ∈ [environmentFilePath, Settings.defaultPath, Settings.localPath],
      folder'.text? path = folder.text? path) :
    extendEnvironment environment folder' = extendEnvironment environment folder ∧
      ∀ environment, effectiveSettings environment folder' =
        effectiveSettings environment folder := by
  simp only [List.forall_mem_cons] at hsame
  obtain ⟨henvironment, hdefault, hlocal, -⟩ := hsame
  constructor
  · rw [extendEnvironment, henvironment, extendEnvironment]
  · intro environment
    rw [effectiveSettings, sources, hdefault, hlocal, effectiveSettings, sources]

theorem ofArguments_name (program : String) (command : Command) :
    ofArguments [program, command.name] = .ok command := by
  cases command <;> rfl

section Stages

variable {environment : Environment} {folder current : Folder} {settings : Settings}
  {location : Location} {key : String} {db : Database}

/-- At every stage the file opens as a database that is ready. -/
theorem Stage.opens (h : Configured environment folder settings location key)
    (hstage : Stage folder location current db) :
    current.openDatabase location = .ok db ∧ db.Ready := by
  cases hstage with
  | start hopens hready => exact ⟨hopens, hready⟩
  | kept users tokens =>
    obtain ⟨db, hopens, -⟩ := h.ready
    exact ⟨Folder.openDatabase_keep h.finds (h.stays _) hopens, .upToDate users tokens⟩

/-- What is kept does not depend on what was kept before. -/
theorem Stage.keep (h : Configured environment folder settings location key)
    (hstage : Stage folder location current db) (db' : Database) :
    current.keep location db' = folder.keep location db' := by
  cases hstage with
  | start hopens hready => rfl
  | kept users tokens => exact Folder.keep_keep h.finds (h.stays _)

theorem Stage.text? (h : Configured environment folder settings location key)
    (hstage : Stage folder location current db) :
    ∀ path ∈ [environmentFilePath, Settings.defaultPath, Settings.localPath],
      current.text? path = folder.text? path := by
  intro path hpath
  cases hstage with
  | start hopens hready => rfl
  | kept users tokens =>
    have hne : location.path.bind folder.key? ≠ some path := by
      rw [h.finds]
      rintro ⟨rfl⟩
      exact h.apart hpath
    exact (Folder.keep_other hne _).2

theorem Stage.tokenRows (h : Configured environment folder settings location key)
    (hstage : Stage folder location current db) : current.tokenRows key = db.tokenRows := by
  unfold Folder.tokenRows
  cases hstage with
  | start hopens hready => rw [Folder.lookup_of_openDatabase h.finds hopens]
  | kept users tokens =>
    rw [Folder.keep_self h.finds]
    rfl

/-- A run succeeds at every stage, and leaves the file up to date. -/
theorem Stage.run (h : Configured environment folder settings location key)
    (hstage : Stage folder location current db) (command : Command) (now : Instant) :
    ∃ report, Command.run ["authkeep", command.name] environment current now =
        (report, folder.keep location (db.broughtTo (command.leaves now db.tokenRows))) ∧
      report.code = 0 ∧
      (command = .purgeTokens →
        (logFilter (extendEnvironment environment folder) settings.logging).1.admits
          (purgeTokens.closing now db.tokenRows) = true →
        report.entries.filter (·.source = .purgeCommand) =
          [purgeTokens.closing now db.tokenRows]) := by
  obtain ⟨hopens, hready⟩ := hstage.opens h
  obtain ⟨hextended, hsettings⟩ := effectiveSettings_eq environment (hstage.text? h)
  have hfile : location.path ≠ none := by
    intro hnone
    have hfinds := h.finds
    rw [hnone] at hfinds
    cases hfinds
  have hloads : effectiveSettings (extendEnvironment environment current) current =
      (settings, none) := by
    rw [hextended, hsettings, effectiveSettings, h.loads]
  obtain ⟨more, hmore, hperform⟩ := command.perform_of_ready now h.locates hfile h.writable
    h.builds hopens hready { entries := openingEntries settings none }
  rw [hstage.keep h] at hperform
  have hrun : Command.run ["authkeep", command.name] environment current now =
      command.runWith (extendEnvironment environment current) current now := by
    rw [Command.run, ofArguments_name]
  refine ⟨(command.runWith (extendEnvironment environment current) current now).1, ?_, ?_, ?_⟩
  · rw [hrun]
    refine Prod.ext rfl ?_
    rw [runWith, hloads]
    dsimp only
    rw [hperform]
  · rw [runWith, hloads]
    dsimp only
    rw [hperform]
  · rintro rfl hadmits
    rw [runWith, hloads]
    dsimp only
    rw [hperform, hextended]
    -- the closing entry is the last of all, and the only one of the command itself
    have hentries : (Log.extend { entries := openingEntries settings none }
        (more ++ [purgeTokens.closing now db.tokenRows])).entries =
          openingEntries settings none ++ more ++ [purgeTokens.closing now db.tokenRows] := by
      simp [Log.extend]
    have hopening : Startup.Preparing (openingEntries settings none) := by
      simp [Startup.Preparing, openingEntries]
    have hbefore : ∀ entry ∈ openingEntries settings none ++ more,
        entry.source ≠ (purgeTokens.closing now db.tokenRows).source := hopening.append hmore
    dsimp only
    rw [hentries]
    exact Log.Filter.apply_append_singleton hbefore rfl hadmits

/-- Once the file is up to date, a row that breaks no constraint is added at the end. -/
theorem Stage.insertToken_of_free (h : Configured environment folder settings location key)
    {users : List UserRow} {tokens : List TokenRow} {row : TokenRow}
    (hstage : Stage folder location current (.upToDate users tokens))
    (hfree : TokenRow.fault? tokens row = none) :
    current.insertToken location row =
      folder.keep location (.upToDate users (tokens ++ [row])) := by
  rw [Folder.insertToken, (hstage.opens h).1, ← hstage.keep h]
  simp only [Except.bind, Database.insertToken_of_free hfree]

/-- Adding a row leads to a stage, whether the database takes the row or not. -/
theorem Stage.insertToken (h : Configured environment folder settings location key)
    (hstage : Stage folder location current db) (row : TokenRow) :
    ∃ db', Stage folder location (current.insertToken location row) db' := by
  obtain ⟨hopens, hready⟩ := hstage.opens h
  have hrefused : ∀ e, db.insertToken row = .error e →
      current.insertToken location row = current := by
    intro e he
    rw [Folder.insertToken, hopens]
    simp only [Except.bind, he]
  cases hready with
  | blank => exact ⟨{}, by rwa [hrefused _ rfl]⟩ -- no table for it yet
  | upToDate users tokens =>
    cases hfault : TokenRow.fault? tokens row with
    | none =>
      refine ⟨.upToDate users (tokens ++ [row]), ?_⟩
      rw [hstage.insertToken_of_free h hfault]
      exact .kept users (tokens ++ [row])
    | some e => exact ⟨_, by rwa [hrefused e (Database.insertToken_of_fault hfault)]⟩

end Stages

end Command

/-- What is done with the file: a command is run at an instant, or a row is added from outside. -/
inductive Deed where
  | run (command : Command) (now : Instant)
  | insert (row : TokenRow)

def Deed.perform (environment : Environment) (location : Location) (folder : Folder) :
    Deed → Folder
  | run command now => (Command.run ["authkeep", command.name] environment folder now).2
  | insert row => folder.insertToken location row

/-- Step of the invariant: a deed leads from one stage to the next. -/
theorem Command.Stage.perform {environment : Environment} {folder current : Folder}
    {settings : Settings} {location : Location} {key : String} {db : Database}
    (h : Configured environment folder settings location key)
    (hstage : Stage folder location current db) (deed : Deed) :
    ∃ db', Stage folder location (deed.perform environment location current) db' := by
  cases deed with
  | run command now =>
    obtain ⟨report, hrun, -⟩ := hstage.run h command now
    rw [Deed.perform, hrun]
    exact ⟨_, .kept _ _⟩
  | insert row => exact hstage.insertToken h row

/-- By induction on the deeds, the folder is always at some stage. -/
theorem Command.Configured.stage {environment : Environment} {folder : Folder}
    {settings : Settings} {location : Location} {key : String}
    (h : Configured environment folder settings location key) (deeds : List Deed) :
    ∃ db, Stage folder location (deeds.foldl (Deed.perform environment location) folder) db := by
  -- by induction on what is still to be done, from every stage
  suffices hsuffix : ∀ current db, Stage folder location current db →
      ∃ db', Stage folder location (deeds.foldl (Deed.perform environment location) current) db' by
    obtain ⟨db, hopens, hready⟩ := h.ready
    exact hsuffix folder db (.start hopens hready)
  induction deeds with
  | nil => exact fun current db hstage => ⟨db, hstage⟩
  | cons deed deeds ih =>
    intro current db hstage
    obtain ⟨db', hstage'⟩ := hstage.perform h deed
    exact ih _ db' hstage'

theorem TokenRow.isExpired_iff {row : TokenRow} {n : Int64} (hexpiry : row.expiresAt = .integer n)
    (now : Instant) : row.isExpired now = true ↔ n ≤ now := by
  simp [isExpired, hexpiry, Cell.atMost, Cell.exceeds]

/-- After any deeds a run ends with code 0 and leaves all migrations recorded once. Migrating leaves
the rows for tokens, and a sweep keeps those of them that are not past their expiry and says how
many it has deleted. -/
theorem runs_keep_file_up {environment : Environment} {folder : Folder} {settings : Settings}
    {location : Location} {key : String}
    (hconfigured : Command.Configured environment folder settings location key)
    (deeds : List Deed) (command : Command) (now : Instant) :
    let before := deeds.foldl (Deed.perform environment location) folder
    let outcome := Command.run ["authkeep", command.name] environment before now
    let filter := (Command.logFilter (Command.extendEnvironment environment folder)
      settings.logging).1
    let rows := before.tokenRows key
    let closing := Command.purgeTokens.closing now rows
    outcome.1.code = 0 ∧
      (∃ db, outcome.2.databases.lookup key = some db ∧
        db.history.map (·.map (·.version)) = some [1, 2] ∧
        (command = .migrate → db.tokens = some rows) ∧
        (command = .purgeTokens →
          db.tokens = some (rows.filter fun row => !row.isExpired now))) ∧
      (command = .purgeTokens → filter.admits closing = true →
        outcome.1.entries.filter (·.source = .purgeCommand) = [closing]) ∧
      ∀ (row : TokenRow) (n : Int64), row.expiresAt = .integer n →
        (row.isExpired now = true ↔ n ≤ now) := by
  intro before outcome filter rows closing
  obtain ⟨db, hstage⟩ := hconfigured.stage deeds
  obtain ⟨report, hrun, hcode, hreport⟩ := hstage.run hconfigured command now
  have hrows : rows = db.tokenRows := hstage.tokenRows hconfigured
  have houtcome : outcome = _ := hrun
  rw [houtcome]
  refine ⟨hcode, ⟨_, Folder.keep_self hconfigured.finds _, Database.upToDate_versions _ _, ?_, ?_⟩,
    ?_, fun _ _ hexpiry => TokenRow.isExpired_iff hexpiry now⟩
  · rintro rfl
    rw [hrows]
    rfl
  · rintro rfl
    rw [hrows]
    rfl
  · have hclosing : closing = Command.purgeTokens.closing now db.tokenRows := by
      rw [← hrows]
    rw [hclosing]
    exact hreport

/-- After two rows were added to a new database, one of them of a type that is none, the one that is
past its expiry is swept away. -/
theorem sweeps_one_of_two_rows :
    let environment : Environment := [("AUTHKEEP__DATABASE__URL", "sqlite://u.db")]
    let settings : Settings := { database := { url := "sqlite://u.db" } }
    let location : Location := { path := some "u.db" }
    let old : TokenRow := ⟨.text "a", "odd", .text "e", .integer 5⟩
    let new : TokenRow := ⟨.text "b", "signup", .text "e", .integer 9⟩
    let deeds : List Deed := [.run .migrate 1, .insert old, .insert new, .run .migrate 2]
    let before := deeds.foldl (Deed.perform environment location) {}
    let outcome := Command.run ["authkeep", Command.purgeTokens.name] environment before 5
    Command.Configured environment {} settings location "u.db" ∧
      before.tokenRows "u.db" = [old, new] ∧
      outcome.1.code = 0 ∧
      (∃ db, outcome.2.databases.lookup "u.db" = some db ∧ db.tokens = some [new]) ∧
      (outcome.1.entries.filter (·.source = .purgeCommand)).map (·.fields) =
        [[("purged", .integer 1)]] := by
  intro environment settings location old new deeds
  have hclosed : Settings.load { environment } = .ok settings ∧
      (Startup.buildService settings).toOption.isSome = true ∧
      Location.ofUrl "sqlite://u.db" = .ok location ∧
      (deeds.foldl (Deed.perform environment location) {}).tokenRows "u.db" = [old, new] ∧
      (Command.logFilter (Command.extendEnvironment environment {}) settings.logging).1.admits
        (Command.purgeTokens.closing 5 [old, new]) = true ∧
      Command.purgeTokens.leaves 5 [old, new] = [new] ∧
      (Command.purgeTokens.closing 5 [old, new]).fields = [("purged", .integer 1)] := by
    decide +kernel
  obtain ⟨hload, hbuilds, hlocates, hrows, hadmits, hleft, hcount⟩ := hclosed
  have hconfigured : Command.Configured environment {} settings location "u.db" := {
    loads := hload
    builds := by
      cases hcase : Startup.buildService settings with
      | error e =>
        rw [hcase] at hbuilds
        cases hbuilds
      | ok service => exact ⟨service, rfl⟩
    locates := hlocates
    writable := rfl
    finds := by decide +kernel
    stays := by
      intro db
      with_unfolding_all rfl
    apart := by decide
    ready := ⟨{}, by decide +kernel, .blank⟩ }
  obtain ⟨hcode, ⟨db, hkept, -, -, hswept⟩, hreported, -⟩ :=
    runs_keep_file_up hconfigured deeds .purgeTokens 5
  refine ⟨hconfigured, hrows, hcode, ⟨db, hkept, ?_⟩, ?_⟩
  · rw [hswept rfl, hrows]
    exact congrArg some hleft
  · rw [hrows] at hreported
    rw [hreported rfl hadmits, List.map_singleton, hcount]

end IdentityLifecycle
