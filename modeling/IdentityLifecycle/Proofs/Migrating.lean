import IdentityLifecycle.Proofs.Carries
import IdentityLifecycle.Proofs.Records
import IdentityLifecycle.Proofs.Run
import IdentityLifecycle.Proofs.Settling

/-!
# Working through a list of migrations

A list is worked through in order: what is recorded is passed over, and what is not is applied
together with its record. The first migration that cannot be applied, or whose unit of work is not
committed, leaves the database as those before it have made it. If statements leave the table of
records alone, a list is taken up again where it stopped, and nothing is left to do of one that has
been worked through.
-/

namespace IdentityLifecycle.Migration

variable {db mid after start : Database} {m : Migration} {rows : List HistoryRow}
  {migrations pre post rest executed : List Migration} {desk : Desk} {settling : Settling}
  {cause : StoreError}

def IsRecorded (m : Migration) (db : Database) : Prop :=
  ∃ rows, recorded db = .ok rows ∧ m.version ∈ versions rows

def IsPending (m : Migration) (db : Database) : Prop :=
  ∃ rows, recorded db = .ok rows ∧ m.version ∉ versions rows

/-- Working through a list makes one database of another, under an engine that settles units so.
Those migrations are executed that are not recorded when their turn comes. -/
inductive Applies (settling : Settling) :
    Database → List Migration → List Migration → Database → Prop
  | done (db : Database) : Applies settling db [] [] db
  | skipped {db after : Database} {m : Migration} {rest executed : List Migration}
      (hrecorded : m.IsRecorded db) (hrest : Applies settling db rest executed after) :
      Applies settling db (m :: rest) executed after
  | executed {db mid after : Database} {m : Migration} {rest executed : List Migration}
      (hpending : m.IsPending db) (hexec : m.exec { database := db, settling } = .ok mid)
      (hrest : Applies settling mid rest executed after) :
      Applies settling db (m :: rest) (m :: executed) after

/-- Working through a list comes to a migration that cannot be applied, after those before it have
made `mid`. -/
structure Stops (settling : Settling) (db : Database) (pre : List Migration) (m : Migration)
    (executed : List Migration) (mid : Database) (cause : StoreError) : Prop where
  applies : Applies settling db pre executed mid
  pending : m.IsPending mid
  fails : m.exec { database := mid, settling } = .error cause

/-- What a run starts from: an empty table of records, where there was none, or the one that is
there. -/
inductive Starts (db : Database) : Database → List HistoryRow → Prop
  | empty (hnone : db.visible? Database.historyName = none)
      (hindex : db.hasIndex Database.historyName = false) :
      Starts db { db with history := some [], historyKeyed := true } []
  | found {rows : List HistoryRow} (hrows : recorded db = .ok rows) : Starts db db rows

def IsLatest (latest : Option Int64) (versions : List Int64) : Prop :=
  match latest with
  | none => versions = []
  | some v => v ∈ versions ∧ ∀ w ∈ versions, w ≤ v

/-! ### One migration -/

/-- The unit of work of a migration depends on the tables and on the engine alone. -/
theorem exec_eq (m : Migration) (store : Store) :
    m.exec store = m.exec { database := store.database, settling := store.settling } := rfl

theorem change_of_exec {store : Store} (hexec : m.exec store = .ok after) :
    m.change store.database = .ok after := by
  unfold exec at hexec
  split at hexec
  · cases hexec
  · next left hchange =>
    split at hexec <;> cases hexec
    exact hchange

/-- A migration is not applied because a statement or its record fails, or because it is not
committed. -/
theorem cause_of_exec {store : Store} (hexec : m.exec store = .error cause) :
    (∃ e, m.change store.database = .error e ∧ cause = .migration m.version e) ∨
      ∃ left e, m.change store.database = .ok left ∧
        (store.settlingOf left).commit = some e ∧ cause = .commit e := by
  unfold exec at hexec
  split at hexec
  · next e hchange =>
    cases hexec
    exact .inl ⟨e, hchange, rfl⟩
  · next left hchange =>
    split at hexec <;> cases hexec
    next e hcommit => exact .inr ⟨left, e, hchange, hcommit, rfl⟩

/-- A migration that is recorded is passed over. -/
theorem apply_of_recorded (hopened : desk.store.closed = false)
    (hrecorded : m.IsRecorded desk.store.database) : m.apply desk = (.ok false, desk) := by
  obtain ⟨rows, hrows, hmem⟩ := hrecorded
  have hany : rows.any (·.version = m.version) = true := any_version_iff.mpr hmem
  simp only [apply, hopened, hrows, hany]
  rfl

theorem any_version_of_not_mem {version : Int64} (hnew : version ∉ versions rows) :
    rows.any (·.version = version) = false :=
  Bool.eq_false_iff.mpr fun hany => hnew (any_version_iff.mp hany)

/-- One that is pending is applied, and leaves what its unit of work has made. -/
theorem apply_of_exec (hopen : desk.store.Open) (hpending : m.IsPending desk.store.database)
    (hexec : m.exec desk.store = .ok after) :
    ∃ next : Desk, m.apply desk = (.ok true, next) ∧
      next.store = { desk.store with database := after } := by
  obtain ⟨rows, hrows, hnew⟩ := hpending
  simp [apply, hopen.opened, hrows, any_version_of_not_mem hnew, hopen.writeBarrier, hexec]

theorem apply_of_exec_error (hopen : desk.store.Open) (hpending : m.IsPending desk.store.database)
    (hexec : m.exec desk.store = .error cause) : m.apply desk = (.error cause, desk) := by
  obtain ⟨rows, hrows, hnew⟩ := hpending
  simp [apply, hopen.opened, hrows, any_version_of_not_mem hnew, hopen.writeBarrier, hexec]

/-! ### Lists of migrations -/

/-- A list that can be worked through is, and the number of those executed is answered. -/
theorem applyAll_of_applies (happlies : Applies settling db migrations executed after) :
    ∀ desk : Desk, desk.store.Open → desk.store.settling = settling → desk.store.database = db →
      ∃ done : Desk, applyAll migrations desk = (.ok executed.length, done) ∧
        done.store = { desk.store with database := after } := by
  induction happlies with
  | done db =>
    rintro desk - - rfl
    exact ⟨desk, rfl, rfl⟩
  | skipped hrecorded hrest ih =>
    rintro desk hopen hsettling rfl
    obtain ⟨done, hdone, hstore⟩ := ih desk hopen hsettling rfl
    refine ⟨done, ?_, hstore⟩
    rw [applyAll, Step.bind_of_ok (apply_of_recorded hopen.opened hrecorded),
      Step.bind_of_ok hdone]
    rfl
  | @executed db mid after m rest executed hpending hexec hrest ih =>
    rintro desk hopen hsettling rfl
    rw [← hsettling, ← exec_eq] at hexec
    obtain ⟨next, hnext, hstore⟩ := apply_of_exec hopen hpending hexec
    have hopen' : next.store.Open := by
      rw [hstore]
      exact ⟨hopen.opened, hopen.unlocked, hopen.writable⟩
    obtain ⟨done, hdone, hstore'⟩ :=
      ih next hopen' (by rw [hstore]; exact hsettling) (by rw [hstore])
    refine ⟨done, ?_, by rw [hstore', hstore]⟩
    rw [applyAll, Step.bind_of_ok hnext, Step.bind_of_ok hdone]
    rfl

/-- A list is worked through in two parts as in one. -/
theorem applyAll_append {n : Nat} {next : Desk} (hpre : applyAll pre desk = (.ok n, next))
    (post : List Migration) :
    applyAll (pre ++ post) desk = (do return n + (← applyAll post) : Query Nat) next := by
  induction pre generalizing desk n with
  | nil =>
    cases hpre
    rw [List.nil_append, Step.bind_apply]
    rcases hpost : applyAll post next with ⟨e | k, done⟩
    · rfl
    · simp
  | cons m pre ih =>
    obtain ⟨applied, first, hfirst, hpre⟩ := Step.bind_eq_ok.mp hpre
    obtain ⟨more, last, hmore, hpre⟩ := Step.bind_eq_ok.mp hpre
    cases hpre
    rw [List.cons_append, applyAll, Step.bind_of_ok hfirst, Step.bind_apply, ih hmore,
      Step.bind_apply, Step.bind_apply]
    rcases applyAll post next with ⟨e | k, done⟩
    · rfl
    · cases applied with
      | false => rfl
      | true =>
        have hcount : more + k + 1 = more + 1 + k := by omega
        simp [hcount]

theorem applyAll_of_recorded (hopened : desk.store.closed = false)
    (hrecorded : ∀ m ∈ migrations, m.IsRecorded desk.store.database) :
    applyAll migrations desk = (.ok 0, desk) := by
  induction migrations with
  | nil => rfl
  | cons m rest ih =>
    obtain ⟨hfirst, hrest⟩ := List.forall_mem_cons.mp hrecorded
    rw [applyAll, Step.bind_of_ok (apply_of_recorded hopened hfirst), Step.bind_of_ok (ih hrest)]
    rfl

/-- A list is worked through, or it comes to a migration that cannot be applied. -/
theorem exists_applies (settling : Settling) (hrows : recorded db = .ok rows)
    (migrations : List Migration) :
    (∃ executed after, Applies settling db migrations executed after) ∨
      ∃ pre m post executed mid cause, migrations = pre ++ m :: post ∧
        Stops settling db pre m executed mid cause := by
  induction migrations generalizing db rows with
  | nil => exact .inl ⟨[], db, .done db⟩
  | cons m rest ih =>
    by_cases hmem : m.version ∈ versions rows
    · have hrecorded : m.IsRecorded db := ⟨rows, hrows, hmem⟩
      rcases ih hrows with ⟨executed, after, happlies⟩ |
        ⟨pre, m', post, executed, mid, cause, rfl, happlies, hpending, hfails⟩
      · exact .inl ⟨executed, after, .skipped hrecorded happlies⟩
      · exact .inr ⟨m :: pre, m', post, executed, mid, cause, rfl, .skipped hrecorded happlies,
          hpending, hfails⟩
    · have hpending : m.IsPending db := ⟨rows, hrows, hmem⟩
      cases hexec : m.exec { database := db, settling } with
      | error cause => exact .inr ⟨[], m, rest, [], db, cause, rfl, .done db, hpending, hexec⟩
      | ok next =>
        -- Its own record was added last, so whatever it did, the records can be read after it.
        obtain ⟨earlier, hnext⟩ := recorded_of_change (change_of_exec hexec)
        rcases ih hnext with ⟨executed, after, happlies⟩ |
          ⟨pre, m', post, executed, mid, cause, rfl, happlies, hnew, hfails⟩
        · exact .inl ⟨m :: executed, after, .executed hpending hexec happlies⟩
        · exact .inr ⟨m :: pre, m', post, m :: executed, mid, cause, rfl,
            .executed hpending hexec happlies, hnew, hfails⟩

/-- The records are those from before, and behind them one for each migration that was executed. -/
theorem Applies.recorded_eq (happlies : Applies settling db migrations executed after)
    (hleaves : ∀ m ∈ executed, m.LeavesRecords) :
    ∀ rows, recorded db = .ok rows → recorded after = .ok (rows ++ executed.map row) := by
  induction happlies with
  | done db =>
    intro rows hrows
    rwa [List.map_nil, List.append_nil]
  | skipped hrecorded hrest ih => exact ih hleaves
  | executed hpending hexec hrest ih =>
    intro rows hrows
    obtain ⟨hfirst, hmore⟩ := List.forall_mem_cons.mp hleaves
    rw [ih hmore _ (hfirst.recorded_change hrows (change_of_exec hexec)), List.map_cons,
      List.append_assoc, List.singleton_append]

theorem Applies.executed_subset (happlies : Applies settling db migrations executed after) :
    ∀ m ∈ executed, m ∈ migrations := by
  induction happlies with
  | done db => exact fun _ => id
  | skipped hrecorded hrest ih => exact fun m hm => .tail _ (ih m hm)
  | executed hpending hexec hrest ih =>
    intro m hm
    rcases List.mem_cons.mp hm with rfl | hm
    · exact List.mem_cons_self
    · exact .tail _ (ih m hm)

/-- Records are never lost, so that in the end every migration of the list has one. -/
theorem Applies.isRecorded (happlies : Applies settling db migrations executed after)
    (hleaves : ∀ m ∈ executed, m.LeavesRecords) :
    ∀ m ∈ migrations, m.IsRecorded after := by
  induction happlies with
  | done db => nofun
  | skipped hrecorded hrest ih =>
    refine List.forall_mem_cons.mpr ⟨?_, ih hleaves⟩
    obtain ⟨rows, hrows, hmem⟩ := hrecorded
    refine ⟨_, hrest.recorded_eq hleaves rows hrows, ?_⟩
    rw [versions, List.map_append]
    exact List.mem_append_left _ hmem
  | @executed db mid after m rest executed hpending hexec hrest ih =>
    obtain ⟨hfirst, hmore⟩ := List.forall_mem_cons.mp hleaves
    refine List.forall_mem_cons.mpr ⟨?_, ih hmore⟩
    obtain ⟨rows, hrows, -⟩ := hpending
    refine ⟨_, hrest.recorded_eq hmore _ (hfirst.recorded_change hrows (change_of_exec hexec)), ?_⟩
    simp [versions, row]

/-- In the end the versions are the old ones and those of the list. -/
theorem Applies.mem_versions_iff (happlies : Applies settling db migrations executed after)
    (hleaves : ∀ m ∈ executed, m.LeavesRecords) (hrows : recorded db = .ok rows) (v : Int64) :
    v ∈ versions (rows ++ executed.map row) ↔
      v ∈ versions rows ∨ ∃ m ∈ migrations, m.version = v := by
  have hafter := happlies.recorded_eq hleaves rows hrows
  constructor
  · intro hv
    rw [versions, List.map_append, List.mem_append, List.map_map] at hv
    refine hv.imp_right fun hv => ?_
    obtain ⟨m, hm, hversion⟩ := List.mem_map.mp hv
    exact ⟨m, happlies.executed_subset m hm, hversion⟩
  · rintro (hv | ⟨m, hm, rfl⟩)
    · rw [versions, List.map_append]
      exact List.mem_append_left _ hv
    · obtain ⟨found, hfound, hmem⟩ := happlies.isRecorded hleaves m hm
      cases hfound.symm.trans hafter
      exact hmem

/-! ### Runs -/

theorem Starts.recorded_eq (hstart : Starts db start rows) : recorded start = .ok rows := by
  cases hstart with
  | found hrows => exact hrows
  | empty hnone hindex =>
    obtain ⟨hshown, -⟩ := Option.or_eq_none_iff.mp hnone
    exact recorded_eq_ok.mpr ⟨hshown, rfl⟩

theorem ensureHistory_of_recorded (hopen : desk.store.Open)
    (hrows : recorded desk.store.database = .ok rows) : ensureHistory desk = (.ok (), desk) := by
  have hexec : SchemaStatement.createHistory.exec desk.store.database =
      .ok desk.store.database := by
    rw [SchemaStatement.exec, Database.createIfMissing, if_pos (hasTable_of_recorded hrows)]
  simp only [ensureHistory, hexec, hopen.writeBarrier]
  rw [if_neg (by simp [hopen.opened])]
  split <;> rfl

/-- Before anything else, the table of records is there. -/
theorem ensureHistory_of_starts (hopen : desk.store.Open) (hshared : desk.store.scattered = false)
    (hstart : Starts desk.store.database start rows) :
    ensureHistory desk = (.ok (), { desk with store.database := start }) := by
  cases hstart with
  | found hrows => exact ensureHistory_of_recorded hopen hrows
  | empty hnone hindex =>
    obtain ⟨-, hfind⟩ := Option.or_eq_none_iff.mp hnone
    obtain ⟨-, -, -, hcatalog, hreserved⟩ := historyName_plain
    have hexec : SchemaStatement.createHistory.exec desk.store.database =
        .ok { desk.store.database with history := some [], historyKeyed := true } := by
      simp [SchemaStatement.exec, Database.createIfMissing, Database.hasTable, Database.nameTaken?,
        Database.Place.find?, hfind, hcatalog, hreserved, hindex]
    simp [ensureHistory, hopen.opened, hexec, hopen.writeBarrier, hshared]

theorem run_of_recorded (hopen : desk.store.Open) (hrows : recorded desk.store.database = .ok rows)
    (migrations : List Migration) : run migrations desk = applyAll migrations desk := by
  rw [run, Step.bind_of_ok (ensureHistory_of_recorded hopen hrows)]

/-- The fold that finds the greatest version, from the greatest of those seen before. -/
theorem isLatest_foldl {latest : Option Int64} {seen : List Int64} (hseen : IsLatest latest seen)
    (rows : List HistoryRow) :
    IsLatest (rows.foldl (fun greatest row =>
      match greatest with
      | none => some row.version
      | some v => some (if v < row.version then row.version else v)) latest)
      (seen ++ versions rows) := by
  induction rows generalizing latest seen with
  | nil => rwa [versions, List.map_nil, List.append_nil]
  | cons row rows ih =>
    have hsplit : seen ++ versions (row :: rows) = (seen ++ [row.version]) ++ versions rows := by
      simp [versions]
    rw [hsplit, List.foldl_cons]
    -- The row moves to those seen, of which the fold now holds the greatest.
    refine ih ?_
    cases latest with
    | none =>
      obtain rfl : seen = [] := hseen
      simp [IsLatest]
    | some v =>
      obtain ⟨hmem, hmax⟩ := hseen
      dsimp only
      by_cases hlt : v < row.version
      · rw [if_pos hlt]
        refine ⟨by simp, ?_⟩
        intro w hw
        rcases List.mem_append.mp hw with hw | hw
        · exact Int64.le_trans (hmax w hw) (Int64.le_of_lt hlt)
        · rw [List.mem_singleton.mp hw]
          exact Int64.le_refl _
      · rw [if_neg hlt]
        refine ⟨List.mem_append_left _ hmem, ?_⟩
        intro w hw
        rcases List.mem_append.mp hw with hw | hw
        · exact hmax w hw
        · rw [List.mem_singleton.mp hw]
          exact Int64.not_lt.mp hlt

/-- The current version is the greatest of those recorded. -/
theorem currentVersion_of_recorded (hopen : desk.store.Open)
    (hrows : recorded desk.store.database = .ok rows) :
    ∃ latest, currentVersion desk = (.ok latest, desk) ∧ IsLatest latest (versions rows) := by
  have hnone : IsLatest none [] := rfl
  have hlatest := isLatest_foldl hnone rows
  rw [List.nil_append] at hlatest
  refine ⟨_, ?_, hlatest⟩
  rw [currentVersion, Step.bind_of_ok (ensureHistory_of_recorded hopen hrows),
    Step.bind_of_ok (Step.get_apply desk), hrows]
  rfl

theorem run_of_starts (hopen : desk.store.Open) (hshared : desk.store.scattered = false)
    (hstart : Starts desk.store.database start rows) (migrations : List Migration) :
    run migrations desk = applyAll migrations { desk with store.database := start } := by
  rw [run, Step.bind_of_ok (ensureHistory_of_starts hopen hshared hstart)]

structure Settles (migrations executed : List Migration) (rows : List HistoryRow) (done : Desk) :
    Prop where
  recorded : recorded done.store.database = .ok (rows ++ executed.map row)
  versions : ∀ v, v ∈ versions (rows ++ executed.map row) ↔
    v ∈ versions rows ∨ ∃ m ∈ migrations, m.version = v
  latest : ∃ latest, currentVersion done = (.ok latest, done) ∧
    IsLatest latest (Migration.versions (rows ++ executed.map row))
  again : run migrations done = (.ok 0, done)

/-- All that is known of a list that has been worked through. -/
theorem Applies.settles {done : Desk}
    (happlies : Applies settling db migrations executed done.store.database)
    (hleaves : ∀ m ∈ executed, m.LeavesRecords) (hrows : recorded db = .ok rows)
    (hopen : done.store.Open) : Settles migrations executed rows done := by
  have hafter := happlies.recorded_eq hleaves rows hrows
  refine ⟨hafter, happlies.mem_versions_iff hleaves hrows, currentVersion_of_recorded hopen hafter,
    ?_⟩
  rw [run_of_recorded hopen hafter]
  exact applyAll_of_recorded hopen.opened (happlies.isRecorded hleaves)

/-- What has been worked through before a failure is passed over by the next run. -/
theorem Stops.run_continues {failed : Desk} {repaired : Migration}
    (hstops : Stops settling db pre m executed failed.store.database cause)
    (hleaves : ∀ m ∈ executed, m.LeavesRecords) (hrows : recorded db = .ok rows)
    (hopen : failed.store.Open) (hrepaired : repaired.version = m.version) (post : List Migration) :
    repaired.IsPending failed.store.database ∧
      run (pre ++ repaired :: post) failed = run (repaired :: post) failed := by
  have hmid := hstops.applies.recorded_eq hleaves rows hrows
  have hpre := applyAll_of_recorded hopen.opened (hstops.applies.isRecorded hleaves)
  constructor
  · obtain ⟨found, hfound, hnew⟩ := hstops.pending
    exact ⟨found, hfound, by rwa [hrepaired]⟩
  · rw [run_of_recorded hopen hmid, run_of_recorded hopen hmid, applyAll_append hpre,
      Step.bind_apply]
    rcases applyAll (repaired :: post) failed with ⟨e | n, done⟩
    · rfl
    · simp

/-- Every list is worked through or comes to a migration that fails. A run that is through answers
how many migrations it has executed, and leaves nothing to do. One that fails leaves what those
before the failure have made, and the next one goes on from there. It fails with the version of the
migration if a statement or the record of that one fails, and otherwise because the engine has not
committed it. -/
theorem run_resumes (hopen : desk.store.Open) (hshared : desk.store.scattered = false)
    (hstart : Starts desk.store.database start rows) (migrations : List Migration) :
    let settling := desk.store.settling
    ((∃ executed after, Applies settling start migrations executed after) ∨
      ∃ pre m post executed mid cause, migrations = pre ++ m :: post ∧
        Stops settling start pre m executed mid cause) ∧
    (∀ executed after, Applies settling start migrations executed after →
      ∃ done, run migrations desk = (.ok executed.length, done) ∧
        done.store = { desk.store with database := after } ∧
        ((∀ m ∈ executed, m.LeavesRecords) → Settles migrations executed rows done)) ∧
    ∀ pre m post executed mid cause, migrations = pre ++ m :: post →
      Stops settling start pre m executed mid cause →
      ((∃ e, m.change mid = .error e ∧ cause = .migration m.version e) ∨
        ∃ left e, m.change mid = .ok left ∧
          (settling.commit.or (mid.brokenReference? left)) = some e ∧ cause = .commit e) ∧
      ∃ failed, run migrations desk = (.error cause, failed) ∧
        failed.store = { desk.store with database := mid } ∧
        ((∀ m ∈ executed, m.LeavesRecords) → ∀ repaired : Migration,
          repaired.version = m.version →
            repaired.IsPending mid ∧
              run (pre ++ repaired :: post) failed = run (repaired :: post) failed) := by
  intro settling
  have hopen' : ∀ db, { desk.store with database := db }.Open := fun _ =>
    ⟨hopen.opened, hopen.unlocked, hopen.writable⟩
  have hrun := run_of_starts hopen hshared hstart
  have hrows := hstart.recorded_eq
  refine ⟨exists_applies settling hrows migrations, ?_, ?_⟩
  · intro executed after happlies
    obtain ⟨done, hdone, hstore⟩ :=
      applyAll_of_applies happlies { desk with store.database := start } (hopen' start) rfl rfl
    refine ⟨done, by rw [hrun, hdone], hstore, fun hleaves => ?_⟩
    have hafter : done.store.database = after := by rw [hstore]
    rw [← hafter] at happlies
    have hdoneOpen : done.store.Open := by rw [hstore]; exact hopen' after
    exact happlies.settles hleaves hrows hdoneOpen
  · rintro pre m post executed mid cause rfl hstops
    refine ⟨cause_of_exec hstops.fails, ?_⟩
    obtain ⟨failed, hpre, hstore⟩ := applyAll_of_applies hstops.applies
      { desk with store.database := start } (hopen' start) rfl rfl
    -- The failed unit leaves the desk of those before it, from which the next run starts.
    have hmid : failed.store.database = mid := by rw [hstore]
    have hfailed : failed.store.Open := by rw [hstore]; exact hopen' mid
    have hfails : m.exec failed.store = .error cause := by
      rw [exec_eq, hstore]
      exact hstops.fails
    refine ⟨failed, ?_, hstore, fun hleaves repaired hrepaired => ?_⟩
    · rw [← hmid] at hstops
      rw [hrun, applyAll_append hpre, Step.bind_apply, applyAll, Step.bind_apply,
        apply_of_exec_error hfailed hstops.pending hfails]
    · rw [← hmid] at hstops ⊢
      exact hstops.run_continues hleaves hrows hfailed hrepaired post

def broken : Migration :=
  ⟨7, "Broken", [.text "CREATE TABLE ok_table (id INTEGER)", .text "NOT VALID SQL"]⟩

def forgetful : Migration :=
  ⟨2, "Forgetful", [.text "DROP TABLE _migrations",
    .text "CREATE TABLE _migrations (version INTEGER, description TEXT)"]⟩

theorem run_resumes_after_broken :
    ∃ failed : Desk,
      run (schema ++ [broken]) {} =
        (.error (.migration 7 (.complaint "near \"NOT\": syntax error")), failed) ∧
      recorded failed.store.database = .ok (schema.map row) ∧
      run (schema ++ [⟨7, "Repaired", []⟩]) failed = run [⟨7, "Repaired", []⟩] failed := by
  let start : Database := { history := some [] }
  let first : Database := { users := some [], history := some [⟨1, "Create users table"⟩] }
  let mid : Database := {
    users := some []
    tokens := some []
    history := some (schema.map row)
    indexes := [("idx_tokens_email_type", "tokens"), ("idx_tokens_expires_at", "tokens")] }
  have hsteps : recorded start = .ok [] ∧ recorded first = .ok [⟨1, "Create users table"⟩] ∧
      recorded mid = .ok (schema.map row) ∧ schema[0].exec { database := start } = .ok first ∧
      schema[1].exec { database := first } = .ok mid ∧
      broken.exec { database := mid } =
        .error (.migration 7 (.complaint "near \"NOT\": syntax error")) ∧
      Database.visible? {} Database.historyName = none := by
    decide +kernel
  obtain ⟨hstart, hfirst, hmid, hexec, hexec', hfails, hnone⟩ := hsteps
  have happlies : Applies {} start schema schema mid :=
    .executed ⟨[], hstart, nofun⟩ hexec <|
      .executed ⟨_, hfirst, by decide⟩ hexec' (.done mid)
  have hleaves : ∀ m ∈ schema, m.LeavesRecords := by
    refine List.forall_mem_cons.mpr ⟨leavesRecords_of_spares (by decide), ?_⟩
    exact List.forall_mem_singleton.mpr (leavesRecords_of_spares (by decide))
  have hopen : ({} : Desk).store.Open := ⟨rfl, rfl, rfl⟩
  obtain ⟨-, -, hstops⟩ := run_resumes hopen rfl (.empty hnone rfl) (schema ++ [broken])
  obtain ⟨-, failed, hfailed, hstore, hagain⟩ :=
    hstops schema broken [] schema mid _ rfl ⟨happlies, ⟨_, hmid, by decide⟩, hfails⟩
  refine ⟨failed, hfailed, ?_, (hagain hleaves ⟨7, "Repaired", []⟩ rfl).2⟩
  rw [hstore]
  exact hmid

/-- A migration that loses the records lets a second run find work again; where the table of
records cannot be read, a run fails though no migration does. -/
theorem run_repeats_after_forgetful :
    (run [⟨1, "Plain", []⟩, forgetful] {}).1 = .ok 2 ∧
      (run [⟨1, "Plain", []⟩, forgetful] (run [⟨1, "Plain", []⟩, forgetful] {}).2).1 = .ok 1 ∧
      (run [⟨1, "Plain", []⟩] { store.database.others := [(Database.historyName, [])] }).1 =
        .error (.query "failed to check migration status"
          (.complaint "no such column: version")) := by
  decide +kernel

end IdentityLifecycle.Migration
