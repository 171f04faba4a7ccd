import IdentityLifecycle.Store.Migration

/-!
# The table of records

What has been applied is recorded in a table that only a temporary one can hide. A statement on a
table of another name leaves it as it is, and so does a migration that has only such statements.
-/

namespace IdentityLifecycle

def Statement.table : Statement → TableName
  | createTable table _ _ => table
  | dropTable table _ => table
  | insertRow table _ => table

/-- The statement is known not to be on a table with the name of the table of records. -/
def SchemaStatement.sparesRecords : SchemaStatement → Bool
  | text statements => (Statement.ofText statements).all fun read =>
    match read with
    | .ok statement => !Database.sameName Database.historyName statement.table.name
    | .error _ => true
  | effect _ => false
  | _ => true

namespace Migration

variable {db after : Database} {m : Migration} {rows : List HistoryRow}

def row (m : Migration) : HistoryRow := ⟨m.version, m.description⟩

def versions (rows : List HistoryRow) : List Int64 := rows.map (·.version)

/-- The statements of the migration leave the table of records as it is. -/
def LeavesRecords (m : Migration) : Prop :=
  ∀ db rows after, recorded db = .ok rows →
    SchemaStatement.execAll m.statements db = .ok after → recorded after = .ok rows

/-! ### Reading and writing records -/

theorem historyName_plain :
    Database.sameName Database.historyName Database.usersName = false ∧
      Database.sameName Database.historyName Database.tokensName = false ∧
      Database.sameName Database.historyName Database.historyName = true ∧
      Database.Place.lasting.catalog? Database.historyName = none ∧
      Database.isReserved Database.historyName = false := by
  decide +kernel

/-- Only a temporary table can hide the table of records. -/
theorem visible?_historyName :
    db.visible? Database.historyName = some .history ↔
      db.findTemporary? Database.historyName = none ∧ db.history.isSome = true := by
  obtain ⟨husers, htokens, hself, -⟩ := historyName_plain
  unfold Database.visible? Database.findTemporary? Database.find?
  rw [husers, htokens, hself]
  by_cases hhidden : db.temporary.any (Database.sameName Database.historyName ·.1) = true
  · simp [hhidden]
  · cases db.history <;> simp [hhidden]

theorem historyOf_eq_ok {missing : String} :
    historyOf db missing = .ok rows ↔
      db.findTemporary? Database.historyName = none ∧ db.history = some rows := by
  unfold historyOf
  constructor
  · intro hok
    split at hok
    · next hvisible hhistory =>
      cases hok
      exact ⟨(visible?_historyName.mp hvisible).1, hhistory⟩
    · cases hok
    · cases hok
  · rintro ⟨hshown, hhistory⟩
    have hsome : db.history.isSome = true := by rw [hhistory]; rfl
    rw [visible?_historyName.mpr ⟨hshown, hsome⟩, hhistory]

/-- The records can be read if no temporary table hides them. -/
theorem recorded_eq_ok :
    recorded db = .ok rows ↔
      db.findTemporary? Database.historyName = none ∧ db.history = some rows :=
  historyOf_eq_ok

theorem any_version_iff {version : Int64} :
    rows.any (·.version = version) = true ↔ version ∈ versions rows := by
  simp [versions]

/-- A record takes its place among the others; only where the table has no key may there be one of
its version. -/
theorem insertHistory_eq_ok :
    db.insertHistory m.row rows = .ok after ↔
      (db.historyKeyed = true → m.version ∉ versions rows) ∧
        { db with history := some (rows ++ [m.row]) } = after := by
  unfold Database.insertHistory
  cases hkeyed : db.historyKeyed with
  | false => simp
  | true =>
    by_cases hmem : m.version ∈ versions rows
    · have hany : rows.any (·.version = m.row.version) = true := any_version_iff.mpr hmem
      simp [hany, hmem]
    · have hany : rows.any (·.version = m.row.version) = false :=
        Bool.eq_false_iff.mpr fun hany => hmem (any_version_iff.mp hany)
      simp [hany, hmem]

theorem record_eq_ok :
    m.record db = .ok after ↔
      ∃ rows, recorded db = .ok rows ∧ (db.historyKeyed = true → m.version ∉ versions rows) ∧
        { db with history := some (rows ++ [m.row]) } = after := by
  unfold record
  cases hfound : historyOf db _ with
  | error e =>
    refine iff_of_false nofun ?_
    rintro ⟨rows, hrows, -⟩
    rw [historyOf_eq_ok.mpr (recorded_eq_ok.mp hrows)] at hfound
    cases hfound
  | ok found =>
    have hfound := recorded_eq_ok.mpr (historyOf_eq_ok.mp hfound)
    constructor
    · intro hok
      exact ⟨found, hfound, insertHistory_eq_ok.mp hok⟩
    · rintro ⟨rows, hrows, hafter⟩
      cases hfound.symm.trans hrows
      exact insertHistory_eq_ok.mpr hafter

theorem hasTable_of_recorded (hrows : recorded db = .ok rows) :
    db.hasTable Database.historyName = true := by
  obtain ⟨hshown, hhistory⟩ := recorded_eq_ok.mp hrows
  have hsome : db.history.isSome = true := by rw [hhistory]; rfl
  have hvisible := visible?_historyName.mpr ⟨hshown, hsome⟩
  rw [Database.visible?, hshown, Option.none_or] at hvisible
  rw [Database.hasTable, hvisible]
  rfl

theorem change_eq_ok :
    m.change db = .ok after ↔
      ∃ mid, SchemaStatement.execAll m.statements db = .ok mid ∧ m.record mid = .ok after := by
  unfold change
  cases SchemaStatement.execAll m.statements db <;> simp [Except.bind]

/-- What a migration leaves has its record at the end, whatever its statements have done. -/
theorem recorded_of_change (hchange : m.change db = .ok after) :
    ∃ rows, recorded after = .ok (rows ++ [m.row]) := by
  obtain ⟨mid, -, hrecord⟩ := change_eq_ok.mp hchange
  obtain ⟨rows, hrows, -, rfl⟩ := record_eq_ok.mp hrecord
  exact ⟨rows, recorded_eq_ok.mpr ⟨(recorded_eq_ok.mp hrows).1, rfl⟩⟩

/-- A migration that leaves the records alone adds its own. -/
theorem LeavesRecords.recorded_change (hleaves : m.LeavesRecords) (hrows : recorded db = .ok rows)
    (hchange : m.change db = .ok after) : recorded after = .ok (rows ++ [m.row]) := by
  obtain ⟨mid, hstatements, hrecord⟩ := change_eq_ok.mp hchange
  obtain ⟨found, hfound, -, rfl⟩ := record_eq_ok.mp hrecord
  cases hfound.symm.trans (hleaves db rows mid hrows hstatements)
  exact recorded_eq_ok.mpr ⟨(recorded_eq_ok.mp hfound).1, rfl⟩

/-! ### Statements that leave the records alone -/

theorem eq_history_of_find? {name : String} (hfind : db.find? name = some .history) :
    Database.sameName name Database.historyName = true := by
  unfold Database.find? at hfind
  split at hfind
  · cases hfind
  split at hfind
  · cases hfind
  split at hfind
  · next hhistory => exact (Bool.and_eq_true_iff.mp hhistory).2
  split at hfind <;> cases hfind

theorem findTemporary?_eq_none_iff {name : String} :
    db.findTemporary? name = none ↔
      ∀ table ∈ db.temporary, Database.sameName name table.1 = false := by
  unfold Database.findTemporary?
  rw [ite_eq_right_iff]
  simp

theorem findTemporary?_ne_history (name : String) : db.findTemporary? name ≠ some .history := by
  unfold Database.findTemporary?
  split <;> nofun

theorem catalog?_ne_history (place : Database.Place) (name : String) :
    place.catalog? name ≠ some .history := by
  cases place <;> simp only [Database.Place.catalog?] <;> split <;> nofun

theorem eq_history_of_placeFind? {place : Database.Place} {name : String}
    (hfind : place.find? db name = some .history) :
    Database.sameName name Database.historyName = true := by
  unfold Database.Place.find? at hfind
  rcases Option.or_eq_some_iff.mp hfind with hcatalog | ⟨-, hfind⟩
  · exact absurd hcatalog (catalog?_ne_history place name)
  · cases place with
    | lasting => exact eq_history_of_find? hfind
    | temporary => exact absurd hfind (findTemporary?_ne_history name)

theorem eq_history_of_lookUp? {table : TableName} (hfind : db.lookUp? table = some .history) :
    Database.sameName table.name Database.historyName = true := by
  unfold Database.lookUp? at hfind
  split at hfind
  · obtain ⟨place, -, hfind⟩ := Option.bind_eq_some_iff.mp hfind
    exact eq_history_of_placeFind? hfind
  · rcases Option.or_eq_some_iff.mp hfind with hcatalog | ⟨-, hfind⟩
    · exact absurd hcatalog (catalog?_ne_history _ _)
    · rcases Option.or_eq_some_iff.mp hfind with hfind | ⟨-, hfind⟩
      · exact eq_history_of_placeFind? hfind
      · exact eq_history_of_find? hfind

theorem sameName_comm (a b : String) : Database.sameName a b = Database.sameName b a := by
  unfold Database.sameName
  exact Bool.beq_comm

theorem recorded_addTable {place : Database.Place} {name : String} (shape : TableShape)
    (hother : Database.sameName Database.historyName name = false)
    (hrows : recorded db = .ok rows) : recorded (db.addTable place name shape) = .ok rows := by
  obtain ⟨hshown, hhistory⟩ := recorded_eq_ok.mp hrows
  -- Only under its own name can a new table take the place of the records or hide them.
  cases place with
  | lasting =>
    have hplain : Database.isHistory name shape.columns = false := by
      rw [Database.isHistory, sameName_comm, hother, Bool.false_and]
    rw [Database.addTable, hplain]
    exact recorded_eq_ok.mpr ⟨hshown, hhistory⟩
  | temporary =>
    refine recorded_eq_ok.mpr ⟨findTemporary?_eq_none_iff.mpr fun kept hkept => ?_, hhistory⟩
    rcases List.mem_append.mp hkept with hkept | hkept
    · exact findTemporary?_eq_none_iff.mp hshown kept hkept
    · rw [List.mem_singleton.mp hkept]
      exact hother

theorem recorded_createTable {table : TableName} {ifMissing : Bool}
    {rest : Except DatabaseError TableShape}
    (hother : Database.sameName Database.historyName table.name = false)
    (hrows : recorded db = .ok rows) (hexec : db.createTable table ifMissing rest = .ok after) :
    recorded after = .ok rows := by
  unfold Database.createTable at hexec
  cases hplace : Database.placeOfNew table with
  | error e =>
    rw [hplace] at hexec
    cases hexec
  | ok place =>
    simp only [hplace, bind, Except.bind] at hexec
    split at hexec
    · cases rest with
      | error e => cases hexec
      | ok shape =>
        cases hexec
        exact hrows
    · split at hexec
      · cases hexec
      · cases rest with
        | error e => cases hexec
        | ok shape =>
          dsimp only at hexec
          split at hexec
          · cases hexec
          · cases hexec
            exact recorded_addTable shape hother hrows

/-- Dropping another table leaves the records. -/
theorem recorded_dropTable {table : TableName} {ifPresent : Bool}
    (hother : Database.sameName Database.historyName table.name = false)
    (hrows : recorded db = .ok rows) (hexec : db.dropTable table ifPresent = .ok after) :
    recorded after = .ok rows := by
  obtain ⟨hshown, hhistory⟩ := recorded_eq_ok.mp hrows
  unfold Database.dropTable at hexec
  split at hexec
  · split at hexec
    · cases hexec
      exact hrows
    · cases hexec
  · cases hexec
    exact recorded_eq_ok.mpr ⟨hshown, hhistory⟩
  · cases hexec
    exact recorded_eq_ok.mpr ⟨hshown, hhistory⟩
  · next hfind =>
    rw [sameName_comm, eq_history_of_lookUp? hfind] at hother
    cases hother
  · cases hexec
    exact recorded_eq_ok.mpr ⟨hshown, hhistory⟩
  · cases hexec
    refine recorded_eq_ok.mpr ⟨findTemporary?_eq_none_iff.mpr fun kept hkept => ?_, hhistory⟩
    exact findTemporary?_eq_none_iff.mp hshown kept (List.mem_filter.mp hkept).1
  · cases hexec

theorem recorded_insertRow {table : TableName} {value : Int64} (hrows : recorded db = .ok rows)
    (hexec : db.insertRow table value = .ok after) : recorded after = .ok rows := by
  obtain ⟨hshown, hhistory⟩ := recorded_eq_ok.mp hrows
  unfold Database.insertRow at hexec
  split at hexec <;> try cases hexec
  · split at hexec <;> cases hexec
    exact recorded_eq_ok.mpr ⟨hshown, hhistory⟩
  · refine recorded_eq_ok.mpr ⟨findTemporary?_eq_none_iff.mpr fun kept hkept => ?_, hhistory⟩
    obtain ⟨former, hformer, rfl⟩ := List.mem_map.mp hkept
    have hname := findTemporary?_eq_none_iff.mp hshown former hformer
    split <;> exact hname

/-- A statement on another table leaves the records as they are. -/
theorem recorded_statement {statement : Statement}
    (hother : Database.sameName Database.historyName statement.table.name = false)
    (hrows : recorded db = .ok rows) (hexec : statement.exec db = .ok after) :
    recorded after = .ok rows := by
  cases statement with
  | createTable table ifMissing rest => exact recorded_createTable hother hrows hexec
  | dropTable table ifPresent => exact recorded_dropTable hother hrows hexec
  | insertRow table value => exact recorded_insertRow hrows hexec

theorem recorded_text {statements : List (Except DatabaseError Statement)}
    (hspares : ∀ statement, .ok statement ∈ statements →
      Database.sameName Database.historyName statement.table.name = false)
    (hrows : recorded db = .ok rows)
    (hexec : statements.foldlM (fun db statement => statement.bind (·.exec db)) db = .ok after) :
    recorded after = .ok rows := by
  induction statements generalizing db with
  | nil =>
    cases hexec
    exact hrows
  | cons read rest ih =>
    rw [List.foldlM_cons] at hexec
    cases read with
    | error e => cases hexec
    | ok statement =>
      cases hfirst : statement.exec db with
      | error e =>
        simp [Except.bind, hfirst, bind] at hexec
      | ok next =>
        have hnext := recorded_statement (hspares statement List.mem_cons_self) hrows hfirst
        simp only [Except.bind, hfirst, bind] at hexec
        exact ih (fun other hmem => hspares other (.tail _ hmem)) hnext hexec

theorem recorded_createIfMissing {name : String} {add : Database → Database}
    (hadd : recorded (add db) = .ok rows) (hrows : recorded db = .ok rows)
    (hexec : db.createIfMissing name add = .ok after) : recorded after = .ok rows := by
  unfold Database.createIfMissing at hexec
  split at hexec
  · cases hexec
    exact hrows
  · split at hexec
    · cases hexec
    · cases hexec
      exact hadd

theorem recorded_createIndex {name table : String} {columns : List String}
    (hrows : recorded db = .ok rows) (hexec : db.createIndex name table columns = .ok after) :
    recorded after = .ok rows := by
  unfold Database.createIndex at hexec
  split at hexec
  · cases hexec
  next relation hfind =>
  dsimp only at hexec
  generalize (if relation = .temporary then Database.Place.temporary else .lasting) = place at hexec
  split at hexec
  · cases hexec
  split at hexec
  · cases hexec
    exact hrows
  split at hexec
  · cases hexec
  · cases hexec
    obtain ⟨hshown, hhistory⟩ := recorded_eq_ok.mp hrows
    split
    · exact hrows
    · exact recorded_eq_ok.mpr ⟨hshown, hhistory⟩

/-- A statement on another table leaves the records. -/
theorem recorded_exec {statement : SchemaStatement} (hspares : statement.sparesRecords = true)
    (hrows : recorded db = .ok rows) (hexec : statement.exec db = .ok after) :
    recorded after = .ok rows := by
  obtain ⟨hshown, hhistory⟩ := recorded_eq_ok.mp hrows
  cases statement with
  | createUsers =>
    rw [SchemaStatement.exec] at hexec
    refine recorded_createIfMissing ?_ hrows hexec
    exact recorded_eq_ok.mpr ⟨hshown, hhistory⟩
  | createTokens =>
    rw [SchemaStatement.exec] at hexec
    refine recorded_createIfMissing ?_ hrows hexec
    exact recorded_eq_ok.mpr ⟨hshown, hhistory⟩
  | createHistory =>
    rw [SchemaStatement.exec, Database.createIfMissing, if_pos (hasTable_of_recorded hrows)] at hexec
    cases hexec
    exact hrows
  | createIndex name table columns => exact recorded_createIndex hrows hexec
  | text statements =>
    refine recorded_text (fun statement hmem => ?_) hrows hexec
    have hother := List.all_eq_true.mp hspares _ hmem
    simpa using hother
  | effect change => cases hspares

/-- So do all statements of a list. -/
theorem recorded_execAll {statements : List SchemaStatement}
    (hspares : ∀ statement ∈ statements, statement.sparesRecords = true)
    (hrows : recorded db = .ok rows) (hexec : SchemaStatement.execAll statements db = .ok after) :
    recorded after = .ok rows := by
  induction statements generalizing db with
  | nil =>
    cases hexec
    exact hrows
  | cons statement rest ih =>
    obtain ⟨hfirst, hrest⟩ := List.forall_mem_cons.mp hspares
    cases hnext : statement.exec db with
    | error e =>
      rw [SchemaStatement.execAll, hnext] at hexec
      cases hexec
    | ok next =>
      rw [SchemaStatement.execAll, hnext] at hexec
      exact ih hrest (recorded_exec hfirst hrows hnext) hexec

/-- A migration whose statements can be read tampers with the records only by one on a table of
their name. -/
theorem leavesRecords_of_spares (hspares : ∀ statement ∈ m.statements,
    statement.sparesRecords = true) : m.LeavesRecords :=
  fun _ _ _ hrows hexec => recorded_execAll hspares hrows hexec

end Migration

end IdentityLifecycle
