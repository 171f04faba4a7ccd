import IdentityLifecycle.Proofs.Settling
import IdentityLifecycle.Proofs.Statements
import IdentityLifecycle.Service

/-!
# Units of work on tables of users and tokens

What an operation can see of a session, the log apart, is a view: the tables, the cache and the
mails that were handed over. A unit of work is described by how it ends on given tables.
-/

namespace IdentityLifecycle

structure View where
  tables : Tables
  cache : Cache
  postings : List Posting := []

structure Session.Shows (s : Session) (view : View) : Prop where
  tables : s.desk.store.Holds view.tables
  cache : s.cache = view.cache
  postings : s.postings = view.postings

theorem Session.Shows.inUnit {s : Session} {view : View} (hs : s.Shows view) :
    s.inUnit.Shows view :=
  ⟨{ hs.tables with opened := rfl, unlocked := rfl, settling := rfl }, hs.cache, hs.postings⟩

open Step (Carries)

variable {view after : View}

namespace Procedure

variable {α : Type}

/-- What a query does to the tables is what it does to the session. -/
theorem query_carries_ok {q : Query α} {a : α} {tables : Tables}
    (hq : Carries Desk.Holds q view.tables (.ok a) tables) :
    Carries Session.Shows (query q) view (.ok a) { view with tables } := by
  intro s hs
  obtain ⟨hok, hdesk⟩ := hq s.desk hs.tables
  unfold query
  generalize q s.desk = result at hok hdesk ⊢
  obtain ⟨_, desk⟩ := result
  subst hok
  exact ⟨rfl, ⟨hdesk, hs.cache, hs.postings⟩⟩

theorem query_carries_error {q : Query α} {e : StoreError} {tables : Tables}
    (hq : Carries Desk.Holds q view.tables (.error e) tables) :
    Carries Session.Shows (query q) view (.error (.store e)) { view with tables } := by
  intro s hs
  obtain ⟨herror, hdesk⟩ := hq s.desk hs.tables
  unfold query
  generalize q s.desk = result at herror hdesk ⊢
  obtain ⟨_, desk⟩ := result
  subst herror
  exact ⟨rfl, ⟨hdesk, hs.cache, hs.postings⟩⟩

theorem report_carries (entry : Log.Entry) (view : View) :
    Carries Session.Shows (report entry) view (.ok ()) view :=
  query_carries_ok (Query.report_carries entry view.tables)

theorem onCache_carries (change : Cache → Cache) (view : View) :
    Carries Session.Shows (onCache change) view (.ok ())
      { view with cache := change view.cache } :=
  fun _ hs => ⟨rfl, ⟨hs.tables, congrArg change hs.cache, hs.postings⟩⟩

theorem within_carries {p : Procedure α} {outcome : Except IdentityError α} (span : Log.Span)
    (hp : Carries Session.Shows p view outcome after) :
    Carries Session.Shows (within span p) view outcome after := by
  intro s hs
  obtain ⟨houtcome, hs'⟩ := hp (s.inSpan span)
    ⟨hs.tables, hs.cache, hs.postings⟩
  exact ⟨houtcome, ⟨hs'.tables, hs'.cache, hs'.postings⟩⟩

theorem send_carries_ok {mailer : Mailer} {mail : Mail} {entries : List Log.Entry}
    (haccept : mailer mail = .ok entries) (view : View) :
    Carries Session.Shows (send mailer mail) view (.ok ())
      { view with postings := view.postings ++ [{ mail, accepted := true }] } := by
  intro s hs
  simp only [send, haccept]
  exact ⟨trivial, ⟨hs.tables, hs.cache, congrArg (· ++ _) hs.postings⟩⟩

theorem send_carries_error {mailer : Mailer} {mail : Mail} {e : MailError}
    (hrefuse : mailer mail = .error e) (view : View) :
    Carries Session.Shows (send mailer mail) view (.error (.mail e))
      { view with postings := view.postings ++ [{ mail, accepted := false }] } := by
  intro s hs
  simp only [send, hrefuse]
  exact ⟨trivial, ⟨hs.tables, hs.cache, congrArg (· ++ _) hs.postings⟩⟩

end Procedure

/-! ### What a unit comes to -/

/-- How a unit of work ends: with its answer and the tables it leaves, or with an error. The mails
are those that it handed over. -/
structure Work (α : Type) where
  result : Except IdentityError (α × Tables)
  postings : List Posting := []

namespace Work

variable {α : Type}

def fail (e : IdentityError) : Work α := { result := .error e }

def done (a : α) (tables : Tables) : Work α := { result := .ok (a, tables) }

def answer (work : Work α) : Except IdentityError α := work.result.map (·.1)

def tables (work : Work α) (before : Tables) : Tables :=
  match work.result with
  | .ok (_, tables) => tables
  | .error _ => before

end Work

/-- The procedure does the work, whatever else the session shows. -/
def Procedure.Does {α : Type} (p : Procedure α) (tables : Tables) (work : Work α) : Prop :=
  ∀ (cache : Cache) (postings : List Posting), ∃ left : Tables,
    Carries Session.Shows p { tables, cache, postings } work.answer
      { tables := left, cache, postings := postings ++ work.postings } ∧
    ∀ a tables', work.result = .ok (a, tables') → left = tables'

namespace Procedure

variable {α β : Type}

theorem Does.of_ok {p : Procedure α} {tables tables' : Tables} {a : α} {handed : List Posting}
    (hp : ∀ cache postings, Carries Session.Shows p { tables, cache, postings } (.ok a)
      { tables := tables', cache, postings := postings ++ handed }) :
    p.Does tables { result := .ok (a, tables'), postings := handed } := by
  intro cache postings
  refine ⟨tables', hp cache postings, ?_⟩
  intro b tables'' heq
  simp only [Except.ok.injEq, Prod.mk.injEq] at heq
  exact heq.2

theorem Does.of_error {p : Procedure α} {tables left : Tables} {e : IdentityError}
    {handed : List Posting}
    (hp : ∀ cache postings, Carries Session.Shows p { tables, cache, postings } (.error e)
      { tables := left, cache, postings := postings ++ handed }) :
    p.Does tables { result := .error e, postings := handed } := by
  intro cache postings
  exact ⟨left, hp cache postings, fun _ _ heq => nomatch heq⟩

theorem Does.of_done {p : Procedure α} {tables tables' : Tables} {a : α}
    (hp : ∀ cache postings, Carries Session.Shows p { tables, cache, postings } (.ok a)
      { tables := tables', cache, postings }) :
    p.Does tables (.done a tables') := by
  apply Does.of_ok
  intro cache postings
  rw [List.append_nil]
  exact hp cache postings

theorem Does.of_fail {p : Procedure α} {tables left : Tables} {e : IdentityError}
    (hp : ∀ cache postings, Carries Session.Shows p { tables, cache, postings } (.error e)
      { tables := left, cache, postings }) :
    p.Does tables (.fail e) := by
  apply Does.of_error
  intro cache postings
  rw [List.append_nil]
  exact hp cache postings

theorem Does.fail (e : IdentityError) (tables : Tables) :
    Does (.fail e : Procedure α) tables (.fail e) :=
  .of_fail fun _ _ => .fail e _

theorem Does.ofOption_some {e : IdentityError} (a : α) (tables : Tables) :
    Does (.ofOption e (some a)) tables (.done a tables) :=
  .of_done fun _ _ => .pure a _

theorem Does.fail_bind (e : IdentityError) (next : α → Procedure β) (tables : Tables) :
    Does (.fail e >>= next) tables (.fail e) :=
  .of_fail fun _ _ => .bind_error (.fail e _) next

theorem Does.some_bind {e : IdentityError} {a : α} {next : α → Procedure β} {tables : Tables}
    {work : Work β} (hnext : (next a).Does tables work) :
    Does (.ofOption e (some a) >>= next) tables work := by
  intro cache postings
  obtain ⟨left, hcarries, hleft⟩ := hnext cache postings
  exact ⟨left, .bind_ok (.ofOption_some a _) hcarries, hleft⟩

theorem Does.query {q : Query α} {a : α} {tables tables' : Tables}
    (hq : Carries Desk.Holds q tables (.ok a) tables') :
    Does (query q) tables (.done a tables') :=
  .of_done fun _ _ => query_carries_ok hq

/-- After a query, the work is that of what follows it. -/
theorem Does.query_bind {q : Query α} {a : α} {next : α → Procedure β} {tables tables' : Tables}
    {work : Work β} (hq : Carries Desk.Holds q tables (.ok a) tables')
    (hnext : (next a).Does tables' work) : Does (Procedure.query q >>= next) tables work := by
  intro cache postings
  obtain ⟨left, hcarries, hleft⟩ := hnext cache postings
  have hquery : Carries Session.Shows (Procedure.query q) { tables, cache, postings } (.ok a)
      { tables := tables', cache, postings } := query_carries_ok hq
  exact ⟨left, .bind_ok hquery hcarries, hleft⟩

theorem Does.query_bind_error {q : Query α} {e : StoreError} {tables left : Tables}
    (hq : Carries Desk.Holds q tables (.error e) left) (next : α → Procedure β) :
    Does (Procedure.query q >>= next) tables (.fail (.store e)) :=
  .of_fail fun _ _ => .bind_error (query_carries_error hq) next

theorem Does.recover_bind {q : Query α} {a : α} {handle : IdentityError → Except IdentityError α}
    {next : α → Procedure β} {tables tables' : Tables} {work : Work β}
    (hq : Carries Desk.Holds q tables (.ok a) tables') (hnext : (next a).Does tables' work) :
    Does ((Procedure.query q).recover handle >>= next) tables work := by
  intro cache postings
  obtain ⟨left, hcarries, hleft⟩ := hnext cache postings
  exact ⟨left, .bind_ok (.recover_ok (query_carries_ok hq) handle) hcarries, hleft⟩

theorem Does.recover_bind_error {q : Query α} {e : StoreError} {e' : IdentityError}
    {handle : IdentityError → Except IdentityError α} {tables left : Tables}
    (hq : Carries Desk.Holds q tables (.error e) left) (hhandle : handle (.store e) = .error e')
    (next : α → Procedure β) :
    Does ((Procedure.query q).recover handle >>= next) tables (.fail e') := by
  apply Does.of_fail
  intro cache postings
  refine .bind_error ?_ next
  rw [← hhandle]
  exact .recover_error (query_carries_error hq) handle

/-- A unit that does some work settles it: the tables change only if it succeeds. -/
theorem Does.asUnit_carries {p : Procedure α} {work : Work α} (hp : p.Does view.tables work) :
    Carries Session.Shows (asUnit p) view work.answer
      { view with
        tables := work.tables view.tables, postings := view.postings ++ work.postings } := by
  obtain ⟨left, hcarries, hleft⟩ := hp view.cache view.postings
  intro s hs
  have hclosed := hs.tables.opened
  have hlocked := hs.tables.unlocked
  obtain ⟨hanswer, hshows⟩ := hcarries s.inUnit hs.inUnit
  rcases hrun : p s.inUnit with ⟨outcome, t⟩
  rw [hrun] at hanswer hshows
  rcases hresult : work.result with e | ⟨a, tables'⟩
  · have hwork : work.answer = .error e := by simp [Work.answer, hresult, Except.map]
    have hsame : work.tables view.tables = view.tables := by simp [Work.tables, hresult]
    obtain rfl : outcome = .error e := hanswer.trans hwork
    have hrollback : s.desk.store.settling.rollback = none := by rw [hs.tables.settling]
    rw [asUnit_of_error hclosed hlocked hrun hrollback, hwork, hsame]
    exact ⟨rfl, ⟨hs.tables, hshows.cache, hshows.postings⟩⟩
  · have hwork : work.answer = .ok a := by simp [Work.answer, hresult, Except.map]
    have htables : work.tables view.tables = left := by
      simp [Work.tables, hresult, hleft a tables' hresult]
    obtain rfl : outcome = .ok a := hanswer.trans hwork
    have hcommit : (s.desk.store.settlingOf t.desk.store.database).commit = none := by
      rw [Store.settlingOf_of_unreferred _ hshows.tables.unreferred, hs.tables.settling]
    rw [asUnit_of_ok hclosed hlocked hrun hcommit, hwork, htables]
    exact ⟨rfl, ⟨{ hs.tables with
      users := hshows.tables.users
      tokens := hshows.tables.tokens
      unreferred := hshows.tables.unreferred }, hshows.cache, hshows.postings⟩⟩

end Procedure

end IdentityLifecycle
