import IdentityLifecycle.Command.Run
import IdentityLifecycle.Proofs.Holders
import IdentityLifecycle.Proofs.Layers
import IdentityLifecycle.Proofs.Settling

/-!
# The database that a command works on

A command that ends well has brought the schema of one database up to date, and perhaps swept its
tokens: the database that its settings name. Nothing else in the folder changes. Settings that do not
load are as if there were none, so the database is the default one then.
-/

namespace IdentityLifecycle

/-! ### Folders -/

namespace Folder

variable {folder : Folder} {location : Location} {key : String}

theorem keep_self (hkey : location.path.bind folder.key? = some key) (db : Database) :
    (folder.keep location db).databases.lookup key = some db := by
  simp [keep, hkey]

/-- A database is kept under its own name, and touches nothing under another. -/
theorem keep_other (hkey : location.path.bind folder.key? ≠ some key) (db : Database) :
    (folder.keep location db).databases.lookup key = folder.databases.lookup key ∧
      (folder.keep location db).text? key = folder.text? key := by
  unfold keep
  cases hfound : location.path.bind folder.key? with
  | none => exact ⟨rfl, rfl⟩
  | some kept =>
    have hne : key ≠ kept := fun heq => hkey (heq ▸ hfound)
    have hbeq : (key == kept) = false := beq_eq_false_iff_ne.mpr hne
    exact ⟨by simp only [List.lookup_cons, hbeq, lookup_filter_ne hne], lookup_filter_ne hne⟩

theorem keep_directories (folder : Folder) (location : Location) (db : Database) :
    (folder.keep location db).directories = folder.directories := by
  unfold keep
  split <;> rfl

end Folder

/-! ### Sweeping -/

namespace Procedure

variable {α : Type} {s s' : Session} {a : α}

theorem query_ok {q : Query α} (hok : query q s = (.ok a, s')) : q s.desk = (.ok a, s'.desk) := by
  unfold query at hok
  rcases hq : q s.desk with ⟨e | b, desk⟩
  · rw [hq] at hok
    cases hok
  · rw [hq] at hok
    cases hok
    rfl

theorem within_ok {span : Log.Span} {p : Procedure α} (hok : within span p s = (.ok a, s')) :
    ∃ t, p (s.inSpan span) = (.ok a, t) ∧
      s'.desk.store = t.desk.store := by
  have hanswer : (p (s.inSpan span)).1 = .ok a :=
    congrArg Prod.fst hok
  have hstore := congrArg (fun result => result.2.desk.store) hok
  exact ⟨_, Prod.ext hanswer rfl, hstore.symm⟩

end Procedure

/-- A sweep that succeeds has deleted just the expired rows, and answers how many. -/
theorem Service.purgeExpiredTokens_ok {now : Instant} {s s' : Session} {n : Nat}
    (hok : Service.purgeExpiredTokens now s = (.ok n, s')) :
    ∃ rows, s.desk.store.database.tokens = some rows ∧ n = rows.countP (·.isExpired now) ∧
      s'.desk.store.database =
        { s.desk.store.database with
          tokens := some (rows.filter fun row => !row.isExpired now) } := by
  obtain ⟨t, hwork, hstore⟩ := Procedure.within_ok hok
  obtain ⟨purged, mid, hunit, hrest⟩ := Step.bind_eq_ok.mp hwork
  cases hrest
  rw [hstore]
  obtain ⟨left, -, hquery, rfl⟩ := Procedure.asUnit_eq_ok hunit
  obtain ⟨rows, hrows, hcount, hdatabase⟩ := Query.deleteTokens_ok (Procedure.query_ok hquery)
  exact ⟨rows, hrows, hcount, hdatabase⟩

/-! ### Upkeep of a database -/

/-- Migrations that succeed make one database of another. -/
def Database.Migrates (before after : Database) : Prop :=
  ∃ (desk desk' : Desk) (version : Option Int64), desk.store.database = before ∧
    Migration.migrate desk = (.ok version, desk') ∧ desk'.store.database = after

inductive Command.Upkeep (now : Instant) : Command → Database → Database → Prop
  | migrated {before after : Database} (hmigrates : before.Migrates after) :
      Upkeep now .migrate before after
  | swept {before after : Database} {rows : List TokenRow} (hmigrates : before.Migrates after)
      (hrows : after.tokens = some rows) :
      Upkeep now .purgeTokens before
        { after with tokens := some (rows.filter fun row => !row.isExpired now) }

/-- The command has kept up the database that a URL names, and has changed nothing else. -/
structure Command.ActsOn (command : Command) (url : String) (now : Instant)
    (before after : Folder) : Prop where
  database : ∃ location opened kept, Location.ofUrl url = .ok location ∧
    before.openDatabase location = .ok opened ∧ command.Upkeep now opened kept ∧
    (∀ key, location.path.bind before.key? = some key → after.databases.lookup key = some kept) ∧
    ∀ key, location.path.bind before.key? ≠ some key →
      after.databases.lookup key = before.databases.lookup key ∧
        after.text? key = before.text? key
  directories : after.directories = before.directories

namespace Startup

variable {desk desk' : Desk} {folder : Folder}

theorem during_ok {α : Type} {activity : String} {query : Query α} {a : α}
    (hok : during activity query desk = (.ok a, desk')) : query desk = (.ok a, desk') := by
  unfold during at hok
  rcases hquery : query desk with ⟨e | b, mid⟩
  · rw [hquery] at hok
    cases hok
  · rw [hquery] at hok
    cases hok
    rfl

/-- What was opened is the database that the URL of the settings names. -/
theorem openStore_ok {settings : DatabaseSettings} {location : Location}
    (hok : openStore settings folder desk = (.ok location, desk')) :
    Location.ofUrl settings.url = .ok location ∧
      ∃ database, folder.openDatabase location = .ok database ∧ desk'.store = {
        database
        readOnly := location.readOnly || location.immutable
        scattered := !location.shared && settings.maxConnections ≠ 1 } := by
  unfold openStore at hok
  cases hlocation : Location.ofUrl settings.url with
  | error e =>
    rw [hlocation] at hok
    cases hok
  | ok found =>
    rw [hlocation] at hok
    cases hdatabase : folder.openDatabase found with
    | error e =>
      simp only [hdatabase, bind, Except.bind] at hok
      cases hok
    | ok database =>
      simp only [hdatabase, bind, Except.bind, pure, Except.pure] at hok
      cases hok
      exact ⟨rfl, database, hdatabase, rfl⟩

theorem migrateStore_ok (hok : migrateStore desk = (.ok (), desk')) :
    desk.store.database.Migrates desk'.store.database := by
  obtain ⟨version, mid, hmigrate, hok⟩ := Step.bind_eq_ok.mp hok
  cases hok
  exact ⟨desk, mid, version, rfl, during_ok hmigrate, rfl⟩

end Startup

namespace Command

variable {command : Command} {settings : Settings} {folder : Folder} {now : Instant}

/-- A command that succeeds has kept up the database. -/
theorem act_ok {before : Database} {desk desk' : Desk}
    (hmigrates : before.Migrates desk.store.database)
    (hok : command.act settings now desk = (.ok (), desk')) :
    command.Upkeep now before desk'.store.database := by
  cases command with
  | migrate =>
    cases hok
    exact .migrated hmigrates
  | purgeTokens =>
    obtain ⟨service, mid, hservice, hok⟩ := Step.bind_eq_ok.mp hok
    have hsame : mid = desk := (congrArg Prod.snd hservice).symm
    obtain ⟨purged, after, hpurge, hok⟩ := Step.bind_eq_ok.mp hok
    cases hok
    rw [hsame] at hpurge
    rcases hrun : Service.purgeExpiredTokens now (Startup.session settings desk) with ⟨e | n, t⟩
    · rw [hrun] at hpurge
      cases hpurge
    · rw [hrun] at hpurge
      cases hpurge
      obtain ⟨rows, hrows, -, hdatabase⟩ := Service.purgeExpiredTokens_ok hrun
      change Upkeep now .purgeTokens before t.desk.store.database
      rw [hdatabase]
      exact .swept hmigrates hrows

/-- It has done so with the database of its settings alone. -/
theorem perform_ok {log log' : Log} {after : Folder}
    (hok : command.perform settings folder now log = (.ok (), log', after)) :
    command.ActsOn settings.database.url now folder after := by
  unfold perform at hok
  split at hok
  · cases hok
  · next location desk hopen =>
    obtain ⟨hlocation, database, hopened, hstore⟩ :=
      Startup.openStore_ok (Startup.during_ok hopen)
    -- the folder keeps what the whole work leaves of the database, also of one that was just opened
    let work : Startup Unit := do
      Startup.migrateStore
      command.act settings now
    have houtcome : (work desk).1 = .ok () := congrArg Prod.fst hok
    have hafter : folder.keep location (work desk).2.store.database = after :=
      congrArg (fun result => result.2.2) hok
    have hwork : work desk = (.ok (), (work desk).2) := Prod.ext houtcome rfl
    obtain ⟨⟨⟩, mid, hmigrate, hact⟩ := Step.bind_eq_ok.mp hwork
    have hupkeep := act_ok (Startup.migrateStore_ok hmigrate) hact
    rw [hstore] at hupkeep
    rw [← hafter]
    exact {
      database := ⟨location, _, _, hlocation, hopened, hupkeep,
        fun key hkey => Folder.keep_self hkey _, fun key hkey => Folder.keep_other hkey _⟩
      directories := folder.keep_directories location _ }

theorem runWith_ok {environment : Environment}
    (hcode : (command.runWith environment folder now).1.code = 0) :
    command.ActsOn (effectiveSettings environment folder).1.database.url now folder
      (command.runWith environment folder now).2 := by
  unfold runWith at hcode ⊢
  rcases hsettings : effectiveSettings environment folder with ⟨settings, fault⟩
  rw [hsettings] at hcode
  dsimp only at hcode ⊢
  rcases hperform : command.perform settings folder now
    { entries := openingEntries settings fault } with ⟨e | ⟨⟩, log, after⟩
  · rw [hperform] at hcode
    exact nomatch hcode
  · exact perform_ok hperform

end Command

/-- A command that ends with code 0 has acted on the database of the settings that it has gone by, and
on nothing else. -/
theorem Command.run_actsOn {arguments : List String} {command : Command}
    {environment : Environment} {folder : Folder} {now : Instant}
    (hcommand : ofArguments arguments = .ok command)
    (hcode : (run arguments environment folder now).1.code = 0) :
    command.ActsOn
      (effectiveSettings (extendEnvironment environment folder) folder).1.database.url now folder
      (run arguments environment folder now).2 := by
  have hrun : run arguments environment folder now =
      command.runWith (extendEnvironment environment folder) folder now := by
    rw [run, hcommand]
  rw [hrun] at hcode ⊢
  exact runWith_ok hcode

/-- Without settings that load the database is the default one, whichever one the variables name. -/
theorem acts_on_default_of_load_error {arguments : List String} {command : Command}
    {environment : Environment} {folder : Folder} {now : Instant} {e : SettingsError}
    (hcommand : Command.ofArguments arguments = .ok command)
    (hcode : (Command.run arguments environment folder now).1.code = 0)
    (hload : Settings.load
      (Command.sources (Command.extendEnvironment environment folder) folder) = .error e) :
    command.ActsOn "sqlite://authkeep.db" now folder
      (Command.run arguments environment folder now).2 := by
  have hacts := Command.run_actsOn hcommand hcode
  rw [Command.effectiveSettings, hload] at hacts
  exact hacts

end IdentityLifecycle
