import IdentityLifecycle.Proofs.RowStatements
import IdentityLifecycle.Proofs.Run
import IdentityLifecycle.Proofs.Settling
import IdentityLifecycle.Proofs.Sound

/-!
# Unique keys

Statements run one by one through a read handle or in units of work, which are committed or rolled
back. Whatever the grouping, ids and emails tell users apart and values tell tokens apart, in what
has been committed as well as in a unit that is still open. A user who was created is found, as
created, until an update or a rollback.
-/

namespace IdentityLifecycle

/-! ### Connections -/

/-- What has been committed, and the unit of work that is open. -/
structure Connections where
  store : Store
  unit? : Option WriteUnit := none

inductive Move where
  | perform (statement : RowStatement)
  | begin
  | commit
  /-- The unit of work is rolled back, or dropped. -/
  | rollBack
  deriving DecidableEq

namespace Move

def settles : Move → Bool
  | commit | rollBack => true
  | perform _ | begin => false

def updates (email : String) : Move → Bool
  | perform statement => statement.update?.any (·.1 = email)
  | begin | commit | rollBack => false

end Move

namespace Connections

def performReading (c : Connections) (statement : RowStatement) :
    Except StoreError Reply × Connections :=
  let (outcome, store) := statement.run.onConnection.on c.store
  (outcome, { c with store })

def perform (c : Connections) (statement : RowStatement) :
    Except StoreError Reply × Connections :=
  match c.unit? with
  | none => c.performReading statement
  | some unit =>
    let (outcome, left) := statement.run.on unit.store
    (outcome, { c with unit? := some { unit with database := left.database } })

def step (c : Connections) : Move → Connections
  | .perform statement => (c.perform statement).2
  | .begin =>
    match c.store.begin with
    | .error _ => c
    | .ok (unit, held) => { store := held, unit? := some unit }
  | .commit =>
    match c.unit? with
    | none => c
    | some unit => { store := unit.commit c.store }
  | .rollBack =>
    match c.unit? with
    | none => c
    | some unit => { store := unit.rollback c.store }

def run (c : Connections) (moves : List Move) : Connections := moves.foldl step c

end Connections

/-! ### What statements keep of tables -/

namespace Tables

structure Distinct (tables : Tables) : Prop where
  ids_nodup : (tables.users.map (·.id)).Nodup
  emails_nodup : (tables.users.map (·.email)).Nodup
  values_nodup : (tables.tokens.map (·.value)).Nodup

structure Has (tables : Tables) (user : User) : Prop where
  byEmail : tables.userWithEmail? user.email = some user
  byId : tables.userWithId? user.id = some user

variable {tables : Tables} {user : User}

theorem nodup_map_append {α β : Type} {column : α → β} {rows : List α} {new : α}
    (hold : (rows.map column).Nodup) (hnew : ∀ row ∈ rows, column row ≠ column new) :
    ((rows ++ [new]).map column).Nodup := by
  rw [List.map_append, List.nodup_append]
  refine ⟨hold, List.nodup_singleton _, ?_⟩
  intro entry hentry other hother
  obtain ⟨row, hrow, rfl⟩ := List.mem_map.mp hentry
  rw [List.map_singleton, List.mem_singleton] at hother
  rw [hother]
  exact hnew row hrow

namespace Distinct

theorem empty : Distinct {} where
  ids_nodup := List.nodup_nil
  emails_nodup := List.nodup_nil
  values_nodup := List.nodup_nil

theorem addUser (h : tables.Distinct)
    (hfree : ¬∃ other ∈ tables.users, other.id = user.id ∨ other.email = user.email) :
    (tables.addUser user).Distinct where
  ids_nodup := nodup_map_append h.ids_nodup fun other hother hsame =>
    hfree ⟨other, hother, .inl hsame⟩
  emails_nodup := nodup_map_append h.emails_nodup fun other hother hsame =>
    hfree ⟨other, hother, .inr hsame⟩
  values_nodup := h.values_nodup

theorem addToken (h : tables.Distinct) {token : Token}
    (hfree : ¬∃ other ∈ tables.tokens, other.value = token.value) :
    (tables.addToken token).Distinct where
  ids_nodup := h.ids_nodup
  emails_nodup := h.emails_nodup
  values_nodup := nodup_map_append h.values_nodup fun other hother hsame =>
    hfree ⟨other, hother, hsame⟩

theorem dropTokens (h : tables.Distinct) (drop : Token → Bool) :
    (tables.dropTokens drop).Distinct where
  ids_nodup := h.ids_nodup
  emails_nodup := h.emails_nodup
  values_nodup := h.values_nodup.sublist (List.filter_sublist.map _)

theorem changeUser (h : tables.Distinct) (email : String) {change : User → User}
    (hid : ∀ user, (change user).id = user.id)
    (hemail : ∀ user, (change user).email = user.email) :
    (tables.changeUser email change).Distinct where
  ids_nodup := by
    rw [map_changeUser _ hid]
    exact h.ids_nodup
  emails_nodup := by
    rw [map_changeUser _ hemail]
    exact h.emails_nodup
  values_nodup := h.values_nodup

theorem ending (h : tables.Distinct) (statement : RowStatement) :
    (statement.ending tables).2.Distinct := by
  cases statement with
  | userByEmail email => exact h
  | userById id => exact h
  | createUser user =>
    rw [RowStatement.ending]
    split
    · exact h
    · next hfree => exact h.addUser hfree
  | updateUserPassword email password => exact h.changeUser email (fun _ => rfl) fun _ => rfl
  | setUserVerified email now => exact h.changeUser email (by simp) (by simp)
  | createToken token =>
    rw [RowStatement.ending]
    split
    · exact h
    · next hfree => exact h.addToken hfree
  | liveToken value type now => exact h
  | deleteTokensFor email type => exact h.dropTokens _
  | deleteToken value => exact h.dropTokens _
  | purgeExpiredTokens now => exact h.dropTokens _
  | countUsers => exact h
  | countTokens email type => exact h

end Distinct

theorem find?_changeUser {change : User → User} {key : User → Bool} {email : String}
    (hkey : ∀ user, key (change user) = key user) (hne : user.email ≠ email)
    (hfound : tables.users.find? key = some user) :
    (tables.changeUser email change).users.find? key = some user := by
  have hsame : ∀ other : User, key (if other.email = email then change other else other) =
      key other := by
    intro other
    split
    · exact hkey other
    · rfl
  rw [changeUser, List.find?_map]
  simp only [Function.comp_def, hsame, hfound, Option.map_some, if_neg hne]

namespace Has

theorem addUser (h : tables.Has user) (new : User) : (tables.addUser new).Has user where
  byEmail := by
    rw [userWithEmail?, addUser_users, List.find?_append]
    exact congrArg (Option.or · _) h.byEmail
  byId := by
    rw [userWithId?, addUser_users, List.find?_append]
    exact congrArg (Option.or · _) h.byId

theorem changeUser (h : tables.Has user) {email : String} (hne : user.email ≠ email)
    {change : User → User} (hid : ∀ user, (change user).id = user.id)
    (hemail : ∀ user, (change user).email = user.email) :
    (tables.changeUser email change).Has user where
  byEmail := find?_changeUser (fun other => by rw [hemail]) hne h.byEmail
  byId := find?_changeUser (fun other => by rw [hid]) hne h.byId

theorem of_created {after : Tables}
    (hcreated : (RowStatement.createUser user).ending tables = (.ok .done, after)) :
    after.Has user := by
  rw [RowStatement.ending] at hcreated
  split at hcreated
  · cases hcreated
  next hfree =>
  cases hcreated
  refine ⟨?_, ?_⟩
  · have hnone : tables.users.find? (·.email = user.email) = none :=
      List.find?_eq_none.mpr fun other hother hsame =>
        hfree ⟨other, hother, .inr (of_decide_eq_true hsame)⟩
    simp [userWithEmail?, List.find?_append, hnone]
  · have hnone : tables.users.find? (·.id = user.id) = none :=
      List.find?_eq_none.mpr fun other hother hsame =>
        hfree ⟨other, hother, .inl (of_decide_eq_true hsame)⟩
    simp [userWithId?, List.find?_append, hnone]

theorem ending (h : tables.Has user) {statement : RowStatement}
    (hspared : (Move.perform statement).updates user.email = false) :
    (statement.ending tables).2.Has user := by
  cases statement with
  | userByEmail email => exact h
  | userById id => exact h
  | createUser new =>
    rw [RowStatement.ending]
    split
    · exact h
    · exact h.addUser new
  | updateUserPassword email password =>
    have hne : email ≠ user.email := by simpa [Move.updates, RowStatement.update?] using hspared
    exact h.changeUser hne.symm (fun _ => rfl) fun _ => rfl
  | setUserVerified email now =>
    have hne : email ≠ user.email := by simpa [Move.updates, RowStatement.update?] using hspared
    exact h.changeUser hne.symm (by simp) (by simp)
  | createToken token =>
    rw [RowStatement.ending]
    split
    · exact h
    · exact ⟨h.byEmail, h.byId⟩
  | liveToken value type now => exact h
  | deleteTokensFor email type => exact ⟨h.byEmail, h.byId⟩
  | deleteToken value => exact ⟨h.byEmail, h.byId⟩
  | purgeExpiredTokens now => exact ⟨h.byEmail, h.byId⟩
  | countUsers => exact h
  | countTokens email type => exact h

end Has

end Tables

/-! ### The tables that connections show -/

structure Pages where
  committed : Tables
  unit? : Option Tables := none

namespace Pages

def current (pages : Pages) : Tables := pages.unit?.getD pages.committed

def perform (pages : Pages) (statement : RowStatement) : Pages :=
  match pages.unit? with
  | none => { committed := (statement.ending pages.committed).2 }
  | some tables => { pages with unit? := some (statement.ending tables).2 }

def step (pages : Pages) : Move → Pages
  | .perform statement => pages.perform statement
  | .begin => { pages with unit? := some pages.current }
  | .commit => { committed := pages.current }
  | .rollBack => { committed := pages.committed }

def run (pages : Pages) (moves : List Move) : Pages := moves.foldl step pages

/-- The tables that the next statement meets have a property, and so have the committed ones, unless
they are behind a unit of work that is `pending`. -/
structure Keeps (pages : Pages) (P : Tables → Prop) (pending : Bool) : Prop where
  current : P pages.current
  committed : pending = false → P pages.committed

variable {pages : Pages} {P : Tables → Prop} {pending : Bool}

theorem current_perform (pages : Pages) (statement : RowStatement) :
    (pages.perform statement).current = (statement.ending pages.current).2 := by
  unfold perform current
  cases pages.unit? <;> rfl

theorem Keeps.perform (h : pages.Keeps P pending) {statement : RowStatement}
    (hP : ∀ tables, P tables → P (statement.ending tables).2) :
    (pages.perform statement).Keeps P pending where
  current := by
    rw [current_perform]
    exact hP pages.current h.current
  committed := by
    intro hsettled
    unfold Pages.perform
    cases pages.unit? with
    | none => exact hP pages.committed (h.committed hsettled)
    | some tables => exact h.committed hsettled

/-- One move keeps what its statement keeps. -/
theorem Keeps.step (h : pages.Keeps P pending) {move : Move}
    (hP : ∀ statement, move = .perform statement →
      ∀ tables, P tables → P (statement.ending tables).2)
    (hlasts : pending = true → move ≠ .rollBack) :
    (pages.step move).Keeps P (pending && !move.settles) := by
  cases move with
  | perform statement =>
    rw [Move.settles, Bool.not_false, Bool.and_true]
    exact h.perform (hP statement rfl)
  | begin =>
    rw [Move.settles, Bool.not_false, Bool.and_true]
    exact ⟨h.current, h.committed⟩
  | commit => exact ⟨h.current, fun _ => h.current⟩
  | rollBack =>
    have hsettled : pending = false := eq_false_of_ne_true fun hpending => hlasts hpending rfl
    exact ⟨h.committed hsettled, fun _ => h.committed hsettled⟩

/-- What every statement keeps is kept by a run that does not roll back the pending unit. -/
theorem Keeps.run (h : pages.Keeps P pending) {moves : List Move}
    (hP : ∀ statement, Move.perform statement ∈ moves →
      ∀ tables, P tables → P (statement.ending tables).2)
    (hlasts : pending = true → moves.find? Move.settles ≠ some .rollBack) :
    (pages.run moves).Keeps P (pending && (moves.find? Move.settles).isNone) := by
  induction moves generalizing pages pending with
  | nil => simpa [Pages.run] using h
  | cons move moves ih =>
    have hstep : (pages.step move).Keeps P (pending && !move.settles) := by
      refine h.step ?_ ?_
      · intro statement hmove
        exact hP statement (by simp [hmove])
      · rintro hpending rfl
        exact hlasts hpending rfl
    have hrest := ih hstep (fun statement hmem => hP statement (List.mem_cons_of_mem move hmem))
    cases hsettles : move.settles with
    | true =>
      have hkept : ((pages.step move).run moves).Keeps P false := by
        simpa [hsettles] using hrest
      rw [List.find?_cons_of_pos hsettles, Option.isNone_some, Bool.and_false]
      exact hkept
    | false =>
      have hsame : (move :: moves).find? Move.settles = moves.find? Move.settles :=
        List.find?_cons_of_neg (by simp [hsettles])
      rw [hsame] at hlasts ⊢
      simp only [hsettles, Bool.not_false, Bool.and_true] at hrest
      exact hrest hlasts

end Pages

/-! ### Connections and the tables that they show -/

theorem Query.on_onConnection {α : Type} {q : Query α} {store : Store}
    (hopened : store.closed = false) : q.onConnection.on store = q.on store := by
  unfold on
  rw [onConnection_of_open hopened]

/-- Looking a user up does not depend on who holds the right to write. -/
theorem Query.select_of_database (context : String) (p : UserRow → Bool) {desk desk' : Desk}
    (hsame : desk.store.database = desk'.store.database) :
    ((do let rows ← usersFor context; decodeUser (rows.find? p)) desk).1 =
      ((do let rows ← usersFor context; decodeUser (rows.find? p)) desk').1 := by
  simp only [Step.bind_apply, usersFor, hsame]
  cases desk'.store.database.users with
  | none => rfl
  | some rows =>
    dsimp only
    cases rows.find? p <;> rfl

namespace Connections

structure Shows (c : Connections) (pages : Pages) : Prop where
  store : { c.store with locked := false }.Holds pages.committed
  locked : c.store.locked = c.unit?.isSome
  unit : Option.Rel (fun unit tables => unit.store.Holds tables) c.unit? pages.unit?

variable {c : Connections} {pages : Pages}

theorem Shows.of_store {store : Store} {tables : Tables} (hstore : store.Holds tables) :
    ({ store } : Connections).Shows { committed := tables } where
  store := { hstore with unlocked := rfl }
  locked := hstore.unlocked
  unit := .none

theorem Shows.of_unit {store : Store} {unit : WriteUnit} {committed tables : Tables}
    (hstore : { store with locked := false }.Holds committed) (hlocked : store.locked = true)
    (hunit : unit.store.Holds tables) :
    ({ store, unit? := some unit } : Connections).Shows { committed, unit? := some tables } where
  store := hstore
  locked := hlocked
  unit := .some hunit

/-- Either no unit of work is open, or there is one with tables of its own. -/
theorem Shows.cases (h : c.Shows pages) :
    (∃ store tables, c = { store } ∧ pages = { committed := tables } ∧ store.Holds tables) ∨
      ∃ store unit committed tables, c = { store, unit? := some unit } ∧
        pages = { committed, unit? := some tables } ∧ store.locked = true ∧
        { store with locked := false }.Holds committed ∧ unit.store.Holds tables := by
  obtain ⟨store, unit?⟩ := c
  obtain ⟨committed, tables?⟩ := pages
  obtain ⟨hstore, hlocked, hunit⟩ := h
  cases hunit with
  | none =>
    refine .inl ⟨store, committed, rfl, rfl, ?_⟩
    exact { hstore with unlocked := hlocked }
  | some hunit => exact .inr ⟨store, _, committed, _, rfl, rfl, hlocked, hstore, hunit⟩

theorem perform_of_store {store : Store} (hopened : store.closed = false)
    (statement : RowStatement) :
    ({ store } : Connections).perform statement =
      ((statement.run.on store).1, { store := (statement.run.on store).2 }) := by
  simp only [perform, performReading, Query.on_onConnection hopened]

theorem holds_on (statement : RowStatement) {store : Store} {tables : Tables}
    (hstore : store.Holds tables) :
    (statement.run.on store).1 = (statement.ending tables).1 ∧
      (statement.run.on store).2.Holds (statement.ending tables).2 :=
  statement.carries_run tables { store } hstore

/-- A statement ends on the connections as it does on the pages. -/
theorem Shows.perform (h : c.Shows pages) (statement : RowStatement) :
    (c.perform statement).1 = (statement.ending pages.current).1 ∧
      (c.perform statement).2.Shows (pages.perform statement) := by
  rcases h.cases with ⟨store, tables, rfl, rfl, hstore⟩ |
    ⟨store, unit, committed, tables, rfl, rfl, hlocked, hstore, hunit⟩
  · obtain ⟨houtcome, hafter⟩ := holds_on statement hstore
    rw [perform_of_store hstore.opened]
    exact ⟨houtcome, .of_store hafter⟩
  · obtain ⟨houtcome, hafter⟩ := holds_on statement hunit
    refine ⟨houtcome, .of_unit hstore hlocked ?_⟩
    exact { hafter with opened := rfl, unlocked := rfl, writable := hunit.writable, settling := rfl }

/-- Step of the simulation: one move does to the connections what it does to the pages. -/
theorem Shows.step (h : c.Shows pages) (move : Move) : (c.step move).Shows (pages.step move) := by
  cases move with
  | perform statement => exact (h.perform statement).2
  | begin =>
    rcases h.cases with ⟨store, tables, rfl, rfl, hstore⟩ |
      ⟨store, unit, committed, tables, rfl, rfl, hlocked, hstore, hunit⟩
    · simp only [Connections.step, Store.begin_of_open hstore.opened hstore.unlocked]
      refine .of_unit ?_ rfl ?_
      · exact { hstore with unlocked := rfl }
      · exact { hstore with opened := rfl, unlocked := rfl, settling := rfl }
    · have hrefused : store.begin = .error (.begin .locked) := by
        have hopened : store.closed = false := hstore.opened
        simp [Store.begin, hopened, hlocked]
      simp only [Connections.step, hrefused]
      exact .of_unit hstore hlocked hunit
  | commit =>
    rcases h.cases with ⟨store, tables, rfl, rfl, hstore⟩ |
      ⟨store, unit, committed, tables, rfl, rfl, hlocked, hstore, hunit⟩
    · exact .of_store hstore
    · exact .of_store { hstore with
        users := hunit.users, tokens := hunit.tokens, unreferred := hunit.unreferred }
  | rollBack =>
    rcases h.cases with ⟨store, tables, rfl, rfl, hstore⟩ |
      ⟨store, unit, committed, tables, rfl, rfl, hlocked, hstore, hunit⟩
    · exact .of_store hstore
    · exact .of_store hstore

/-- By induction, so do any moves. -/
theorem Shows.run (h : c.Shows pages) (moves : List Move) :
    (c.run moves).Shows (pages.run moves) := by
  induction moves generalizing c pages with
  | nil => exact h
  | cons move moves ih => exact ih (h.step move)

/-! ### Failures -/

theorem update?_of_ending_error {statement : RowStatement} {tables : Tables} {e : StoreError}
    (herror : (statement.ending tables).1 = .error e) : statement.update? = none := by
  cases statement <;> first | rfl | cases herror

theorem on_of_error {statement : RowStatement} {store : Store} {tables : Tables} {e : StoreError}
    (hstore : store.Holds tables) (herror : (statement.run.on store).1 = .error e) :
    (statement.run.on store).2 = store := by
  have hending : (statement.ending tables).1 = .error e := by
    rw [← (holds_on statement hstore).1, herror]
  have hmakes : (statement.run.on store).2 = { store with
      database := if Query.made statement.update?.isSome (statement.run.on store).1 then
        statement.effect store.database else store.database } := statement.makes_run { store }
  rw [hmakes, herror, update?_of_ending_error hending]
  rfl

theorem Shows.perform_of_error (h : c.Shows pages) {statement : RowStatement} {e : StoreError}
    (herror : (c.perform statement).1 = .error e) : (c.perform statement).2 = c := by
  rcases h.cases with ⟨store, tables, rfl, rfl, hstore⟩ |
    ⟨store, unit, committed, tables, rfl, rfl, hlocked, hstore, hunit⟩
  · rw [perform_of_store hstore.opened] at herror ⊢
    rw [on_of_error hstore herror]
  · have hsame := on_of_error hunit herror
    simp only [Connections.perform, hsame]
    rfl

/-- A read handle changes nothing while a unit of work is open. -/
theorem Shows.performReading_of_unit (h : c.Shows pages) (hopen : c.unit?.isSome = true)
    (statement : RowStatement) : (c.performReading statement).2 = c := by
  have hlocked : c.store.locked = true := h.locked.trans hopen
  have hbarrier : c.store.writeBarrier = some .locked := by
    have hwritable : c.store.readOnly = false := h.store.writable
    simp [Store.writeBarrier, hlocked, hwritable]
  have hopened : c.store.closed = false := h.store.opened
  have hidle : statement.run.IdleOn { store := c.store } := statement.idleOn_run hbarrier
  have hsame : (statement.run.on c.store).2 = c.store := hidle
  simp only [performReading, Query.on_onConnection hopened, hsame]

/-! ### The keys -/

/-- What the keys are good for: they tell rows apart, a new row is refused if and only if it repeats
one, and a user who was created is found by either of them. -/
structure KeysHold (c : Connections) (pages : Pages) : Prop where
  committed : pages.committed.Distinct
  current : pages.current.Distinct
  createUser : ∀ user, (c.perform (.createUser user)).1 =
    if ∃ other ∈ pages.current.users, other.id = user.id ∨ other.email = user.email then
      .error (.conflict "failed to create the user")
    else .ok .done
  createToken : ∀ token, (c.perform (.createToken token)).1 =
    if ∃ other ∈ pages.current.tokens, other.value = token.value then
      .error (.conflict "failed to create the token")
    else .ok .done
  failed : ∀ statement e, (c.perform statement).1 = .error e → (c.perform statement).2 = c
  reading : c.unit?.isSome = true → ∀ statement, (c.performReading statement).2 = c
  created : ∀ user after, c.perform (.createUser user) = (.ok .done, after) →
    ∀ later, (∀ move ∈ later, move.updates user.email = false) →
      (c.unit?.isSome = true → later.find? Move.settles ≠ some .rollBack) →
      ((after.run later).perform (.userByEmail user.email)).1 = .ok (.user (some user)) ∧
      ((after.run later).perform (.userById user.id)).1 = .ok (.user (some user)) ∧
      (c.unit? = none ∨ later.find? Move.settles = some .commit →
        ((after.run later).performReading (.userByEmail user.email)).1 = .ok (.user (some user)) ∧
        ((after.run later).performReading (.userById user.id)).1 = .ok (.user (some user)))

theorem Shows.performReading_user (h : c.Shows pages) {q : Query (Option User)}
    {found : Option User} (hfound : (q { store := c.store }).1 = .ok found)
    {statement : RowStatement} (hrun : statement.run = q.replying .user) :
    (c.performReading statement).1 = .ok (.user found) := by
  have hopened : c.store.closed = false := h.store.opened
  simp only [performReading]
  rw [Query.on_onConnection hopened, hrun, Query.on, Query.replying, Query.return_apply, hfound]
  rfl

theorem Shows.performReading_userByEmail (h : c.Shows pages) (email : String) :
    (c.performReading (.userByEmail email)).1 =
      .ok (.user (pages.committed.userWithEmail? email)) := by
  refine h.performReading_user ?_ rfl
  rw [← (Query.userByEmail_carries email pages.committed { store := _ } h.store).1]
  exact Query.select_of_database _ _ rfl

theorem Shows.performReading_userById (h : c.Shows pages) (id : String) :
    (c.performReading (.userById id)).1 = .ok (.user (pages.committed.userWithId? id)) := by
  refine h.performReading_user ?_ rfl
  rw [← (Query.userById_carries id pages.committed { store := _ } h.store).1]
  exact Query.select_of_database _ _ rfl

/-- A user who was created is in the tables that the next statement meets, and in the committed ones
unless the user was created in a unit of work. -/
theorem Shows.keeps_created (h : c.Shows pages) {user : User} {after : Connections}
    (hcreated : c.perform (.createUser user) = (.ok .done, after)) :
    (pages.perform (.createUser user)).Keeps (·.Has user) c.unit?.isSome := by
  have hending : (RowStatement.createUser user).ending pages.current =
      (.ok .done, ((RowStatement.createUser user).ending pages.current).2) := by
    rw [← Prod.eta ((RowStatement.createUser user).ending pages.current),
      ← (h.perform (.createUser user)).1, hcreated]
  have hhas := Tables.Has.of_created hending
  rcases h.cases with ⟨store, tables, rfl, rfl, hstore⟩ |
    ⟨store, unit, committed, tables, rfl, rfl, hlocked, hstore, hunit⟩
  · exact ⟨hhas, fun _ => hhas⟩
  · exact ⟨hhas, fun hnone => absurd hnone (by simp)⟩

/-- Where keys are distinct, they are good for all that they are meant for. -/
theorem Shows.keysHold (h : c.Shows pages) (hcommitted : pages.committed.Distinct)
    (hcurrent : pages.current.Distinct) : c.KeysHold pages where
  committed := hcommitted
  current := hcurrent
  createUser := by
    intro user
    rw [(h.perform _).1, RowStatement.ending]
    split <;> rfl
  createToken := by
    intro token
    rw [(h.perform _).1, RowStatement.ending]
    split <;> rfl
  failed := fun statement e herror => h.perform_of_error herror
  reading := fun hopen statement => h.performReading_of_unit hopen statement
  created := by
    intro user after hcreated later hspared hlasts
    have hafter : after.Shows (pages.perform (.createUser user)) := by
      have hshows := (h.perform (.createUser user)).2
      rwa [hcreated] at hshows
    have hlater := hafter.run later
    have hkept := (h.keeps_created hcreated).run
      (fun statement hmem tables hhas => Tables.Has.ending hhas (hspared _ hmem)) hlasts
    refine ⟨?_, ?_, fun hsettled => ?_⟩
    · rw [(hlater.perform _).1, RowStatement.ending, hkept.current.byEmail]
    · rw [(hlater.perform _).1, RowStatement.ending, hkept.current.byId]
    · have hcommitted := hkept.committed (by rcases hsettled with hnone | hcommit <;> simp [*])
      rw [hlater.performReading_userByEmail, hlater.performReading_userById, hcommitted.byEmail,
        hcommitted.byId]
      exact ⟨rfl, rfl⟩

/-- On a store that was empty at first, the keys hold whatever statements are performed, in
whatever units of work. -/
theorem unique_keys {start : Store} (hstart : start.Holds {}) (moves : List Move) :
    (run { store := start } moves).Shows (Pages.run { committed := {} } moves) ∧
      (run { store := start } moves).KeysHold (Pages.run { committed := {} } moves) := by
  have hshows := (Shows.of_store hstart).run moves
  have hempty : ({ committed := {} } : Pages).Keeps Tables.Distinct false :=
    ⟨.empty, fun _ => .empty⟩
  have hdistinct : (Pages.run { committed := {} } moves).Keeps Tables.Distinct (false && _) :=
    hempty.run (fun statement _ tables h => h.ending statement) (by simp)
  exact ⟨hshows, hshows.keysHold (hdistinct.committed rfl) hdistinct.current⟩

/-- A user with an empty hash and a stamp before the epoch is found again after the unit of work
that created it was committed and another one was rolled back. -/
theorem unique_keys_of_migrated :
    (Migration.migrate {}).2.store.Holds {} ∧
      ∃ after, (run { store := (Migration.migrate {}).2.store } [.begin]).perform
          (.createUser ⟨"u", "ü@b", "", ⟨[], [0]⟩, -1⟩) = (.ok .done, after) ∧
        ((after.run [.commit, .begin, .perform (.setUserVerified "c@d" 5), .rollBack]).perform
          (.userByEmail "ü@b")).1 = .ok (.user (some ⟨"u", "ü@b", "", ⟨[], [0]⟩, -1⟩)) := by
  obtain ⟨-, hkeys⟩ := unique_keys Store.migrated_holds [.begin]
  have hcreated := hkeys.createUser ⟨"u", "ü@b", "", ⟨[], [0]⟩, -1⟩
  rw [if_neg (by simp [Pages.run, Pages.step, Pages.current])] at hcreated
  obtain ⟨hfound, -⟩ := hkeys.created _ _ (Prod.ext hcreated rfl)
    [.commit, .begin, .perform (.setUserVerified "c@d" 5), .rollBack]
    (by simp [Move.updates, RowStatement.update?]) (by simp [Move.settles])
  exact ⟨Store.migrated_holds, _, Prod.ext hcreated rfl, hfound⟩

end Connections

end IdentityLifecycle
