import IdentityLifecycle.Proofs.RowStatements
import IdentityLifecycle.Proofs.Settling

/-!
# Units of work, statement by statement

Statements are tried one after the other. What they leave is put together from the statements and
their outcomes alone, and each of them meets what the earlier ones have left. A unit of work hands
that over when it is committed, and nothing when it is not, also if the engine fails to commit it or
to roll it back.
-/

namespace IdentityLifecycle

/-- A statement to be tried. If it fails, those behind it are tried only if that is ignored. -/
structure Attempt where
  statement : RowStatement
  ignored : Bool
  deriving DecidableEq, Repr

structure Trial where
  statement : RowStatement
  outcome : Except StoreError Reply

namespace Trial

def made (trial : Trial) : Bool := trial.statement.made trial.outcome

def leaves (trial : Trial) (db : Database) : Database :=
  if trial.made then trial.statement.effect db else db

end Trial

def Database.after (db : Database) (trials : List Trial) : Database :=
  trials.foldl (fun db trial => trial.leaves db) db

def Store.attempt (how : RowStatement → Query Reply) : List Attempt → Store → List Trial × Store
  | [], store => ([], store)
  | first :: rest, store =>
    let (outcome, after) := (how first.statement).on store
    let trial : Trial := { statement := first.statement, outcome }
    match outcome, first.ignored with
    | .error _, false => ([trial], after)
    | _, _ =>
      let (trials, last) := attempt how rest after
      (trial :: trials, last)

def Store.attemptReading : List Attempt → Store → List Trial × Store :=
  Store.attempt fun statement => statement.run.onConnection

def WriteUnit.attempt (unit : WriteUnit) (attempts : List Attempt) : List Trial × WriteUnit :=
  let (trials, left) := Store.attempt RowStatement.run attempts unit.store
  (trials, { unit with database := left.database })

def Trial.Follow (trials : List Trial) (attempts : List Attempt) : Prop :=
  ∃ tried rest, attempts = tried ++ rest ∧
    trials.map (·.statement) = tried.map (·.statement) ∧
    (rest = [] ∨ ∃ init last, tried = init ++ [last] ∧ last.ignored = false ∧
      ∃ done trial e, trials = done ++ [trial] ∧ trial.outcome = .error e)

/-- On the database that it has found, the statement ends as it does when it is tried alone. If it
fails, it has changed nothing, unless it is an update of a row that cannot be read afterwards. -/
structure Trial.Meets (trial : Trial) (how : RowStatement → Query Reply) (store : Store)
    (found : Database) : Prop where
  outcome : trial.outcome = ((how trial.statement).on { store with database := found }).1
  failure : ∀ e, trial.outcome = .error e →
    trial.leaves found = found ∨ trial.statement.Unreadable found

/-! ### Ways to run a statement -/

/-- A way to run statements is atomic if it makes the change of a statement, or leaves the store
alone. -/
structure RowStatement.Atomic (how : RowStatement → Query Reply) : Prop where
  makes : ∀ statement, (how statement).Makes statement.update?.isSome statement.effect
  unreadable : ∀ {statement : RowStatement} {desk : Desk} {e : StoreError},
    (how statement desk).1 = .error e → statement.made (.error e) = true →
      statement.Unreadable desk.store.database

namespace Query

theorem onConnection_cases {α : Type} (q : Query α) (desk : Desk) :
    q.onConnection desk = q desk ∨
      ∃ e, q.onConnection desk = (.error e, desk) ∧ e.isUnread = false := by
  unfold onConnection
  rw [Step.bind_apply]
  unfold connect
  split_ifs
  · exact .inr ⟨_, rfl, rfl⟩
  · exact .inl rfl

theorem Makes.onConnection {α : Type} {q : Query α} {late : Bool} {effect : Database → Database}
    (hq : q.Makes late effect) : q.onConnection.Makes late effect := by
  intro desk
  rcases q.onConnection_cases desk with hsame | ⟨e, herror, hearly⟩
  · rw [MakesOn, hsame]
    exact hq desk
  · exact makesOn_of_error herror (by rw [hearly, Bool.and_false])

end Query

namespace RowStatement

/-- Statements as such are atomic. -/
theorem atomic_run : Atomic run where
  makes := makes_run
  unreadable := unreadable_of_made

/-- So are statements on a connection of their own. -/
theorem Atomic.onConnection {how : RowStatement → Query Reply} (h : Atomic how) :
    Atomic fun statement => (how statement).onConnection where
  makes := fun statement => (h.makes statement).onConnection
  unreadable := by
    intro statement desk e herror hmade
    rcases (how statement).onConnection_cases desk with hsame | ⟨e', herror', hearly⟩
    · rw [hsame] at herror
      exact h.unreadable herror hmade
    · rw [herror'] at herror
      cases herror
      have hunread : e.isUnread = true := (Bool.and_eq_true_iff.mp hmade).2
      rw [hearly] at hunread
      cases hunread

end RowStatement

/-! ### A sequence of statements -/

namespace Store

variable {how : RowStatement → Query Reply}

theorem attempt_cons (how : RowStatement → Query Reply) (first : Attempt) (rest : List Attempt)
    (store : Store) {trial : Trial} {after : Store}
    (htrial : trial = ⟨first.statement, ((how first.statement).on store).1⟩)
    (hafter : after = ((how first.statement).on store).2) :
    (attempt how (first :: rest) store = ([trial], after) ∧ first.ignored = false ∧
        ∃ e, trial.outcome = .error e) ∨
      attempt how (first :: rest) store =
        (trial :: (attempt how rest after).1, (attempt how rest after).2) := by
  subst htrial hafter
  rw [attempt]
  rcases (how first.statement).on store with ⟨e | reply, after⟩
  · cases first.ignored with
    | false => exact .inl ⟨rfl, rfl, e, rfl⟩
    | true => exact .inr rfl
  · exact .inr rfl

theorem follow_attempt (how : RowStatement → Query Reply) (attempts : List Attempt)
    (store : Store) : Trial.Follow (attempt how attempts store).1 attempts := by
  induction attempts generalizing store with
  | nil => exact ⟨[], [], rfl, rfl, .inl rfl⟩
  | cons first rest ih =>
    rcases attempt_cons how first rest store rfl rfl with ⟨hstop, hignored, e, herror⟩ | hgo
    · rw [hstop]
      exact ⟨[first], rest, rfl, rfl, .inr ⟨[], first, rfl, hignored, [], _, e, rfl, herror⟩⟩
    · rw [hgo]
      obtain ⟨tried, untried, rfl, hstatements, hend⟩ := ih ((how first.statement).on store).2
      refine ⟨first :: tried, untried, rfl, congrArg (first.statement :: ·) hstatements, ?_⟩
      rcases hend with hall | ⟨init, last, rfl, hignored, done, trial, e, htrials, herror⟩
      · exact .inl hall
      · refine .inr ⟨first :: init, last, rfl, hignored,
          ⟨first.statement, ((how first.statement).on store).1⟩ :: done, trial, e, ?_, herror⟩
        rw [htrials]
        rfl

theorem on_of_makes {statement : RowStatement}
    (hmakes : (how statement).Makes statement.update?.isSome statement.effect) (store : Store) :
    ((how statement).on store).2 = { store with
      database := Trial.leaves ⟨statement, ((how statement).on store).1⟩ store.database } :=
  hmakes { store }

/-- A sequence of statements leaves what those that have made their change make of the database. -/
theorem attempt_leaves (hhow : RowStatement.Atomic how) (attempts : List Attempt) (store : Store) :
    (attempt how attempts store).2 =
      { store with database := store.database.after (attempt how attempts store).1 } := by
  induction attempts generalizing store with
  | nil => rfl
  | cons first rest ih =>
    have hon := on_of_makes (hhow.makes first.statement) store
    rcases attempt_cons how first rest store rfl rfl with ⟨hstop, -⟩ | hgo
    · rw [hstop, hon]
      rfl
    · rw [hgo, ih, hon]
      rfl

/-- Every statement meets what those before it have left. -/
theorem attempt_sees (hhow : RowStatement.Atomic how) (attempts : List Attempt) (store : Store)
    {before later : List Trial} {trial : Trial}
    (hsplit : (attempt how attempts store).1 = before ++ trial :: later) :
    trial.outcome =
      ((how trial.statement).on { store with database := store.database.after before }).1 := by
  induction attempts generalizing store before with
  | nil => simp [attempt] at hsplit
  | cons first rest ih =>
    have hon := on_of_makes (hhow.makes first.statement) store
    rcases attempt_cons how first rest store rfl rfl with ⟨hstop, -⟩ | hgo
    · rw [hstop] at hsplit
      obtain ⟨rfl, hlast⟩ | ⟨-, hnil⟩ := List.singleton_eq_append_iff.mp hsplit
      · rw [List.cons.injEq] at hlast
        rw [hlast.1]
        rfl
      · cases hnil
    · rw [hgo] at hsplit
      cases before with
      | nil =>
        rw [List.nil_append, List.cons.injEq] at hsplit
        rw [← hsplit.1]
        rfl
      | cons earliest before =>
        rw [List.cons_append, List.cons.injEq] at hsplit
        rw [ih _ hsplit.2, hon, ← hsplit.1]
        rfl

/-- By induction on the attempts, each statement meets what those before it have left. -/
theorem attempt_meets (hhow : RowStatement.Atomic how) (attempts : List Attempt) (store : Store)
    {before later : List Trial} {trial : Trial}
    (hsplit : (attempt how attempts store).1 = before ++ trial :: later) :
    trial.Meets how store (store.database.after before) := by
  have hsees := attempt_sees hhow attempts store hsplit
  refine ⟨hsees, fun e herror => ?_⟩
  by_cases hmade : trial.made = true
  · refine .inr (hhow.unreadable (hsees.symm.trans herror) ?_)
    rwa [Trial.made, herror] at hmade
  · exact .inl (if_neg hmade)

/-- A unit of work settles all or nothing, and what is done through a read handle is settled at
once. The outcome of a unit stays as it is, unless the engine fails to commit or to roll back: then
that failure takes its place. -/
theorem unit_settles {store held : Store} {unit : WriteUnit}
    (hbegin : store.begin = .ok (unit, held)) (attempts : List Attempt) :
    let trials := (unit.attempt attempts).1
    let left := (unit.attempt attempts).2
    let whole := { store with database := store.database.after trials }
    Trial.Follow trials attempts ∧
    (∀ before trial later, trials = before ++ trial :: later →
      trial.Meets RowStatement.run unit.store (store.database.after before)) ∧
    (∀ settling : Settling, settling.commit = none →
      left.tryCommit held settling = (.ok (), whole) ∧
      ∀ {ε α : Type} [HasStoreError ε] (a : α),
        left.finish held (.ok a : Except ε α) settling = (.ok a, whole)) ∧
    (∀ (settling : Settling) (cause : DatabaseError), settling.commit = some cause →
      left.tryCommit held settling = (.error (.commit cause), store) ∧
      ∀ {ε α : Type} [HasStoreError ε] (a : α), left.finish held (.ok a : Except ε α) settling =
        (.error (HasStoreError.ofStoreError (.commit cause)), store)) ∧
    (∀ settling : Settling, settling.rollback = none →
      ∀ {ε α : Type} [HasStoreError ε] (e : ε),
        left.finish held (.error e : Except ε α) settling = (.error e, store)) ∧
    (∀ (settling : Settling) (cause : DatabaseError), settling.rollback = some cause →
      ∀ {ε α : Type} [HasStoreError ε] (e : ε),
        left.finish held (.error e : Except ε α) settling =
          (.error (HasStoreError.ofStoreError (.rollback (HasStoreError.message e) cause)),
            store)) ∧
    left.rollback held = store ∧
    ∀ (reads : List Attempt) (shared : Store),
      let trials := (shared.attemptReading reads).1
      Trial.Follow trials reads ∧
      (∀ before trial later, trials = before ++ trial :: later →
        trial.Meets (·.run.onConnection) shared (shared.database.after before)) ∧
      (shared.attemptReading reads).2 =
        { shared with database := shared.database.after trials } := by
  intro trials left whole
  obtain ⟨-, hunit, -⟩ := begin_eq_ok hbegin
  have hdatabase : unit.store.database = store.database := by rw [hunit]; rfl
  have hleft : left.database = store.database.after trials := by
    have hleaves := attempt_leaves RowStatement.atomic_run attempts unit.store
    rw [hdatabase] at hleaves
    exact congrArg Store.database hleaves
  have hcommit : left.commit held = whole := by rw [WriteUnit.commit_of_begin hbegin, hleft]
  have hrollback : left.rollback held = store := WriteUnit.rollback_of_begin hbegin left
  refine ⟨follow_attempt _ attempts unit.store, ?_, ?_, ?_, ?_, ?_, hrollback,
    fun reads shared => ⟨follow_attempt _ reads shared, ?_, ?_⟩⟩
  · intro before trial later hsplit
    rw [← hdatabase]
    exact attempt_meets RowStatement.atomic_run attempts unit.store hsplit
  · intro settling hnone
    rw [WriteUnit.tryCommit_of_none hnone, hcommit]
    refine ⟨rfl, fun a => ?_⟩
    rw [WriteUnit.finish_ok_of_none hnone, hcommit]
  · intro settling cause hsome
    rw [WriteUnit.tryCommit_of_some hsome, hrollback]
    refine ⟨rfl, fun a => ?_⟩
    rw [WriteUnit.finish_ok_of_some hsome, hrollback]
  · intro settling hnone _ _ _ e
    rw [WriteUnit.finish_error_of_none hnone, hrollback]
  · intro settling cause hsome _ _ _ e
    rw [WriteUnit.finish_error_of_some hsome, hrollback]
  · intro before trial later hsplit
    exact attempt_meets RowStatement.atomic_run.onConnection reads shared hsplit
  · exact attempt_leaves RowStatement.atomic_run.onConnection reads shared

def oneUser (stamp : Cell) : Store where
  database := {
    users := some [⟨.text "u", .text "a@b", .text "n", ⟨[1], [2]⟩, stamp⟩]
    tokens := some [] }

theorem unit_settles_with_conflicts :
    (oneUser (.integer 0)).begin =
      .ok ({ database := (oneUser (.integer 0)).database },
        { oneUser (.integer 0) with locked := true }) ∧
    (({ database := (oneUser (.integer 0)).database } : WriteUnit).attempt [
        ⟨.createUser ⟨"v", "a@b", "m", ⟨[3], [4]⟩, 0⟩, true⟩,
        ⟨.createToken ⟨"t", .signup, "a@b", 9⟩, true⟩,
        ⟨.createToken ⟨"t", .passwordReset, "a@b", 8⟩, true⟩,
        ⟨.setUserVerified "a@b" 5, true⟩]).2.finish { oneUser (.integer 0) with locked := true }
          (.ok 7 : Except StoreError Nat) =
      (.ok 7, { oneUser (.integer 5) with
        database.tokens := some [⟨.text "t", "SIGNUP", .text "a@b", .integer 9⟩] }) := by
  have hbegin : (oneUser (.integer 0)).begin =
      .ok ({ database := (oneUser (.integer 0)).database },
        { oneUser (.integer 0) with locked := true }) := rfl
  obtain ⟨-, -, hcommitted, -⟩ := unit_settles hbegin [
    ⟨.createUser ⟨"v", "a@b", "m", ⟨[3], [4]⟩, 0⟩, true⟩,
    ⟨.createToken ⟨"t", .signup, "a@b", 9⟩, true⟩,
    ⟨.createToken ⟨"t", .passwordReset, "a@b", 8⟩, true⟩,
    ⟨.setUserVerified "a@b" 5, true⟩]
  refine ⟨hbegin, ((hcommitted {} rfl).2 7).trans ?_⟩
  rfl

/-- An update fails because the stamp of the updated user cannot be read, and the new password is
committed all the same. Where the engine fails to roll a unit back, that hides how the unit ended. -/
theorem failed_update_is_committed :
    let unit : WriteUnit := { database := (oneUser (.text "abc")).database }
    let held : Store := { oneUser (.text "abc") with locked := true }
    let worked := unit.attempt [⟨.updateUserPassword "a@b" ⟨[3], [4]⟩, true⟩]
    (oneUser (.text "abc")).begin = .ok (unit, held) ∧
    worked.1.map (·.outcome) = [.error (.query "failed to decode the user row"
      (.mismatchedColumn "verified_at" "INTEGER" "TEXT"))] ∧
    (worked.2.commit held).database.users =
      some [⟨.text "u", .text "a@b", .text "n", ⟨[3], [4]⟩, .text "abc"⟩] ∧
    (worked.2.commit held).database ≠ (oneUser (.text "abc")).database ∧
    (worked.2.finish held (.error (.conflict "no") : Except StoreError Nat)
        { rollback := some (.rejected 10 "disk I/O error") }).1 =
      .error (.rollback "no: unique constraint violated" (.rejected 10 "disk I/O error")) := by
  refine ⟨rfl, rfl, rfl, ?_, rfl⟩
  decide

end Store

end IdentityLifecycle
