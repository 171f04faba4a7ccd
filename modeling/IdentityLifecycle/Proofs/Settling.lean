import IdentityLifecycle.Service.Procedure

/-!
# How a unit of work settles

A unit starts on the committed tables of a store that is open and not locked. If it succeeds and is
committed, the store takes over its tables. If it fails, or the engine fails to commit it or to roll
it back, the store is exactly as it was.
-/

namespace IdentityLifecycle

structure Store.Open (store : Store) : Prop where
  opened : store.closed = false
  unlocked : store.locked = false
  writable : store.readOnly = false

/-- The store is open and takes changes, and nothing keeps a unit of work from being settled. -/
structure Store.Free (store : Store) : Prop extends store.Open where
  settling : store.settling = {}
  unreferred : store.database.referring = []

theorem Store.Open.writeBarrier {store : Store} (hopen : store.Open) :
    store.writeBarrier = none := by
  simp [Store.writeBarrier, hopen.unlocked, hopen.writable]

def Store.inUnit (store : Store) : Store :=
  { database := store.database, readOnly := store.readOnly }

theorem Store.Free.inUnit {store : Store} (hfree : store.Free) : store.inUnit.Free :=
  ⟨⟨rfl, rfl, hfree.writable⟩, rfl, hfree.unreferred⟩

def Session.inSpan (s : Session) (span : Log.Span) : Session :=
  { s with desk.log.spans := s.desk.log.spans ++ [span] }

def Session.inUnit (s : Session) : Session := { s with desk.store := s.desk.store.inUnit }

/-! ### What the engine may report -/

theorem Database.dangling_of_unreferred {db : Database} (h : db.referring = []) :
    db.dangling = 0 := by
  simp [Database.dangling, h]

/-- Only the engine itself can fail to settle a unit that leaves nothing that refers to tokens. -/
theorem Store.settlingOf_of_unreferred (store : Store) {left : Database}
    (h : left.referring = []) : store.settlingOf left = store.settling := by
  have hkept : store.database.brokenReference? left = none := by
    rw [Database.brokenReference?, Database.dangling_of_unreferred h]
    exact if_neg (Nat.not_lt_zero _)
  rw [Store.settlingOf, hkept, Option.or_none]

/-- A unit that leaves the references alone is committed. -/
theorem Store.Free.commits {store : Store} (hfree : store.Free) {left : Database}
    (hreferring : left.referring = store.database.referring) :
    (store.settlingOf left).commit = none := by
  rw [store.settlingOf_of_unreferred (hreferring.trans hfree.unreferred), hfree.settling]

theorem Store.Free.rollsBack {store : Store} (hfree : store.Free) :
    store.settling.rollback = none := by
  rw [hfree.settling]

theorem Store.begin_of_open {store : Store} (hclosed : store.closed = false)
    (hlocked : store.locked = false) :
    store.begin =
      .ok ({ database := store.database, readOnly := store.readOnly },
        { store with locked := true }) := by
  simp [Store.begin, hclosed, hlocked]

/-- A unit of work begins with the committed tables, and nobody else may write. -/
theorem Store.begin_eq_ok {store held : Store} {unit : WriteUnit}
    (hbegin : store.begin = .ok (unit, held)) :
    store.locked = false ∧ unit = { database := store.database, readOnly := store.readOnly } ∧
      held = { store with locked := true } := by
  unfold Store.begin at hbegin
  split at hbegin
  · cases hbegin
  split at hbegin
  · cases hbegin
  next hlocked =>
  cases hbegin
  exact ⟨eq_false_of_ne_true hlocked, rfl, rfl⟩

theorem Settling.entries_of_none {ε α : Type} [HasStoreError ε] {settling : Settling}
    (hrollback : settling.rollback = none) (outcome : Except ε α) :
    settling.entries outcome = [] := by
  cases outcome with
  | ok a => rfl
  | error e => rw [entries, hrollback, Option.toList_none, List.map_nil]

/-! ### The end of a unit -/

namespace WriteUnit

variable {store held : Store} {unit : WriteUnit}

/-- What the unit has changed becomes what is committed, and others may write again. -/
theorem commit_of_begin (hbegin : store.begin = .ok (unit, held)) (left : WriteUnit) :
    left.commit held = { store with database := left.database } := by
  obtain ⟨hunlocked, -, rfl⟩ := Store.begin_eq_ok hbegin
  rw [commit, ← hunlocked]

theorem rollback_of_begin (hbegin : store.begin = .ok (unit, held)) (left : WriteUnit) :
    left.rollback held = store := by
  obtain ⟨hunlocked, -, rfl⟩ := Store.begin_eq_ok hbegin
  rw [rollback, ← hunlocked]

variable {settling : Settling} {cause : DatabaseError}

theorem tryCommit_of_none (hcommit : settling.commit = none) (unit : WriteUnit) (store : Store) :
    unit.tryCommit store settling = (.ok (), unit.commit store) := by
  simp only [tryCommit, hcommit]

theorem tryCommit_of_some (hcommit : settling.commit = some cause) (unit : WriteUnit)
    (store : Store) :
    unit.tryCommit store settling = (.error (.commit cause), unit.rollback store) := by
  simp only [tryCommit, hcommit]

variable {ε α : Type} [HasStoreError ε]

theorem finish_ok_of_none (hcommit : settling.commit = none) (unit : WriteUnit) (store : Store)
    (a : α) :
    unit.finish store (.ok a : Except ε α) settling = (.ok a, unit.commit store) := by
  simp only [finish, tryCommit_of_none hcommit]
  rfl

theorem finish_ok_of_some (hcommit : settling.commit = some cause) (unit : WriteUnit)
    (store : Store) (a : α) :
    unit.finish store (.ok a : Except ε α) settling =
      (.error (HasStoreError.ofStoreError (.commit cause)), unit.rollback store) := by
  simp only [finish, tryCommit_of_some hcommit]
  rfl

theorem finish_error_of_none (hrollback : settling.rollback = none) (unit : WriteUnit)
    (store : Store) (e : ε) :
    unit.finish store (.error e : Except ε α) settling = (.error e, unit.rollback store) := by
  simp only [finish, hrollback]

/-- Where the engine fails to roll back, the first failure is only told of. -/
theorem finish_error_of_some (hrollback : settling.rollback = some cause) (unit : WriteUnit)
    (store : Store) (e : ε) :
    unit.finish store (.error e : Except ε α) settling =
      (.error (HasStoreError.ofStoreError (.rollback (HasStoreError.message e) cause)),
        unit.rollback store) := by
  simp only [finish, hrollback]

end WriteUnit

/-- The failure is that a unit of work was not committed. -/
def IdentityError.isUncommitted : IdentityError → Bool
  | store (.commit _) => true
  | _ => false

namespace Procedure

variable {α : Type} {s t : Session} {p : Procedure α} {cause : DatabaseError}

theorem within_of_apply {span : Log.Span} {outcome : Except IdentityError α}
    (hp : p (s.inSpan span) = (outcome, t)) :
    within span p s = (outcome, { t with desk.log.spans := s.desk.log.spans }) :=
  congrArg (fun result : Except IdentityError α × Session =>
    (result.1, { result.2 with desk.log.spans := s.desk.log.spans })) hp

theorem asUnit_of_closed (p : Procedure α) (hclosed : s.desk.store.closed = true) :
    asUnit p s = (.error (.store (.begin .poolClosed)), s) := by
  simp [asUnit, Store.begin, hclosed]

theorem asUnit_of_locked (p : Procedure α) (hclosed : s.desk.store.closed = false)
    (hlocked : s.desk.store.locked = true) :
    asUnit p s = (.error (.store (.begin .locked)), s) := by
  simp [asUnit, Store.begin, hclosed, hlocked]

section

variable (hclosed : s.desk.store.closed = false) (hlocked : s.desk.store.locked = false)
include hclosed hlocked

/-- A unit that was begun settles as its store does. -/
theorem asUnit_of_run {outcome : Except IdentityError α} (hrun : p s.inUnit = (outcome, t)) :
    asUnit p s =
      let settling := s.desk.store.settlingOf t.desk.store.database
      let left : WriteUnit := { database := t.desk.store.database, readOnly := s.desk.store.readOnly }
      let ended := left.finish { s.desk.store with locked := true } outcome settling
      (ended.1, { t with desk := {
        store := ended.2, log := (settling.entries outcome).foldl Log.write t.desk.log } }) := by
  simp only [Session.inUnit, Store.inUnit] at hrun
  simp only [asUnit, Store.begin_of_open hclosed hlocked, WriteUnit.store, hrun]
  rfl

/-- The end of a unit is only logged if its rollback fails. -/
theorem asUnit_log {outcome : Except IdentityError α} (hrun : p s.inUnit = (outcome, t))
    (hrollback : s.desk.store.settling.rollback = none) :
    (asUnit p s).2.desk.log = t.desk.log := by
  have hnone : (s.desk.store.settlingOf t.desk.store.database).rollback = none := hrollback
  rw [asUnit_of_run hclosed hlocked hrun]
  dsimp only
  rw [Settling.entries_of_none hnone]
  rfl

/-- A unit that succeeds and is committed leaves its tables. -/
theorem asUnit_of_ok {a : α} (hrun : p s.inUnit = (.ok a, t))
    (hcommit : (s.desk.store.settlingOf t.desk.store.database).commit = none) :
    asUnit p s =
      (.ok a, { t with desk.store := { s.desk.store with
        database := t.desk.store.database } }) := by
  have hbegin := Store.begin_of_open hclosed hlocked
  rw [asUnit_of_run hclosed hlocked hrun]
  dsimp only
  rw [WriteUnit.finish_ok_of_none hcommit, WriteUnit.commit_of_begin hbegin]
  rfl

/-- One that is not committed leaves the tables as they were. -/
theorem asUnit_of_uncommitted {a : α} (hrun : p s.inUnit = (.ok a, t))
    (hcommit : (s.desk.store.settlingOf t.desk.store.database).commit = some cause) :
    asUnit p s = (.error (.store (.commit cause)), { t with desk.store := s.desk.store }) := by
  have hbegin := Store.begin_of_open hclosed hlocked
  rw [asUnit_of_run hclosed hlocked hrun]
  dsimp only
  rw [WriteUnit.finish_ok_of_some hcommit, WriteUnit.rollback_of_begin hbegin]
  rfl

theorem asUnit_of_error {e : IdentityError} (hrun : p s.inUnit = (.error e, t))
    (hrollback : s.desk.store.settling.rollback = none) :
    asUnit p s = (.error e, { t with desk.store := s.desk.store }) := by
  have hbegin := Store.begin_of_open hclosed hlocked
  have hnone : (s.desk.store.settlingOf t.desk.store.database).rollback = none := hrollback
  rw [asUnit_of_run hclosed hlocked hrun]
  dsimp only
  rw [WriteUnit.finish_error_of_none hnone, WriteUnit.rollback_of_begin hbegin,
    Settling.entries_of_none hnone]
  rfl

/-- One that fails leaves the tables also where it is not rolled back. -/
theorem asUnit_of_unrolled {e : IdentityError} (hrun : p s.inUnit = (.error e, t))
    (hrollback : s.desk.store.settling.rollback = some cause) :
    ∃ log, asUnit p s =
      (.error (.store (.rollback e.message cause)),
        { t with desk := { store := s.desk.store, log } }) := by
  have hbegin := Store.begin_of_open hclosed hlocked
  have hsome : (s.desk.store.settlingOf t.desk.store.database).rollback = some cause := hrollback
  rw [asUnit_of_run hclosed hlocked hrun]
  dsimp only
  rw [WriteUnit.finish_error_of_some hsome, WriteUnit.rollback_of_begin hbegin]
  exact ⟨_, rfl⟩

end

/-- A unit is refused, or it fails, or it is not committed, and the store is as it was; or the store
takes over its tables. -/
theorem asUnit_cases (p : Procedure α) (s : Session) :
    (∃ e, e.isUncommitted = false ∧ asUnit p s = (.error e, s)) ∨
      (∃ cause e t log, p s.inUnit = (.error cause, t) ∧
        (cause.isUncommitted = false → e.isUncommitted = false) ∧
        asUnit p s = (.error e, { t with desk := { store := s.desk.store, log } })) ∨
      (∃ a t cause, p s.inUnit = (.ok a, t) ∧
        (s.desk.store.settlingOf t.desk.store.database).commit = some cause ∧
        asUnit p s = (.error (.store (.commit cause)), { t with desk.store := s.desk.store })) ∨
      ∃ a t, s.desk.store.closed = false ∧ p s.inUnit = (.ok a, t) ∧
        asUnit p s =
          (.ok a, { t with desk.store := { s.desk.store with
            database := t.desk.store.database } }) := by
  rcases hclosed : s.desk.store.closed with _ | _
  · rcases hlocked : s.desk.store.locked with _ | _
    · rcases hrun : p s.inUnit with ⟨e | a, t⟩
      · refine .inr (.inl ?_)
        rcases hrollback : s.desk.store.settling.rollback with _ | cause
        · exact ⟨e, e, t, _, rfl, id, asUnit_of_error hclosed hlocked hrun hrollback⟩
        · obtain ⟨log, hunit⟩ := asUnit_of_unrolled hclosed hlocked hrun hrollback
          exact ⟨e, _, t, log, rfl, fun _ => rfl, hunit⟩
      · rcases hcommit : (s.desk.store.settlingOf t.desk.store.database).commit with _ | cause
        · exact .inr (.inr (.inr ⟨a, t, rfl, rfl, asUnit_of_ok hclosed hlocked hrun hcommit⟩))
        · exact .inr (.inr (.inl ⟨a, t, cause, rfl, hcommit,
            asUnit_of_uncommitted hclosed hlocked hrun hcommit⟩))
    · exact .inl ⟨_, rfl, asUnit_of_locked p hclosed hlocked⟩
  · exact .inl ⟨_, rfl, asUnit_of_closed p hclosed⟩

/-- A unit that succeeds was run on an open store, which takes over its tables. -/
theorem asUnit_eq_ok {a : α} (hok : asUnit p s = (.ok a, t)) :
    ∃ left, s.desk.store.closed = false ∧ p s.inUnit = (.ok a, left) ∧
      t = { left with desk.store := { s.desk.store with
        database := left.desk.store.database } } := by
  rcases asUnit_cases p s with ⟨e, -, hcase⟩ | ⟨cause, e, left, log, -, -, hcase⟩ |
    ⟨b, left, cause, -, -, hcase⟩ | ⟨b, left, hopen, hrun, hcase⟩
  · rw [hcase] at hok
    cases hok
  · rw [hcase] at hok
    cases hok
  · rw [hcase] at hok
    cases hok
  · rw [hcase] at hok
    cases hok
    exact ⟨left, hopen, hrun, rfl⟩

end Procedure

end IdentityLifecycle
