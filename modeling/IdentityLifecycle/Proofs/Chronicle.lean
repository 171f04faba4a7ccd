import IdentityLifecycle.Proofs.Effects
import IdentityLifecycle.Proofs.Run

/-!
# Chronicles

A chronicle relates the events of a run to the tables they lead to. What is said about runs is
proved by induction on it: an event either failed, or succeeded with one of the effects.
-/

namespace IdentityLifecycle

inductive Chronicle (service : Service) (start : Tables) : List Event → Tables → Prop
  | start : Chronicle service start [] start
  | failed {events : List Event} {tables : Tables} {request : Request} {e : IdentityError}
      {mails : List Posting} (hearlier : Chronicle service start events tables) :
      Chronicle service start (⟨request, .error e, mails⟩ :: events) tables
  | done {events : List Event} {before after : Tables} {request : Request} {answer : Answer}
      {mails : List Posting} (hearlier : Chronicle service start events before)
      (heffect : Effect service request.around before request.call answer mails after) :
      Chronicle service start (⟨request, .ok answer, mails⟩ :: events) after

namespace Service

variable (service : Service)

/-- Serving a request leads where the ending of its call says. -/
theorem serve_shows (request : Request) {s : Session} {view : View} (hs : s.Shows view) :
    (service.serve request s).2.Shows (request.call.ending service request.around view).2 :=
  (request.call.perform_ends service request.around view s hs).2

/-- The answer is the one of the ending. -/
theorem serve_answer (request : Request) {s : Session} {view : View} (hs : s.Shows view) :
    (service.serve request s).1.answer =
      (request.call.ending service request.around view).1 :=
  (request.call.perform_ends service request.around view s hs).1

/-- A request that fails leaves the tables. -/
theorem serve_failed (request : Request) {s : Session} {view : View} (hs : s.Shows view)
    {e : IdentityError} (herror : (service.serve request s).1.answer = .error e) :
    ∃ after, (service.serve request s).2.Shows after ∧ after.tables = view.tables := by
  rw [service.serve_answer request hs] at herror
  exact ⟨_, service.serve_shows request hs,
    (request.call.ending_effect service request.around view).failed e herror⟩

/-- A request that succeeds has one of the effects. -/
theorem serve_done (request : Request) {s : Session} {view : View} (hs : s.Shows view)
    {answer : Answer} (hok : (service.serve request s).1.answer = .ok answer) :
    ∃ after, (service.serve request s).2.Shows after ∧
      Effect service request.around view.tables request.call answer
        (service.serve request s).1.postings after.tables := by
  have hshows := service.serve_shows request hs
  rw [service.serve_answer request hs] at hok
  obtain ⟨mails, hmails, heffect⟩ :=
    (request.call.ending_effect service request.around view).done answer hok
  have hpostings : (service.serve request s).1.postings = mails := by
    calc
      (service.serve request s).1.postings =
          (service.serve request s).2.postings.drop s.postings.length := rfl
      _ = (view.postings ++ mails).drop view.postings.length := by
        rw [hshows.postings, hs.postings, hmails]
      _ = mails := List.drop_left
  exact ⟨_, hshows, hpostings ▸ heffect⟩

/-- What a served request adds to a chronicle. -/
theorem serve_chronicle {start : Tables} {events : List Event} {s : Session} {view : View}
    (request : Request) (hs : s.Shows view) (hevents : Chronicle service start events view.tables) :
    ∃ after, (service.serve request s).2.Shows after ∧
      Chronicle service start ((service.serve request s).1 :: events) after.tables := by
  have hevent : (service.serve request s).1 =
      ⟨request, (service.serve request s).1.answer, (service.serve request s).1.postings⟩ := rfl
  rw [hevent]
  cases hanswer : (service.serve request s).1.answer with
  | error e =>
    obtain ⟨after, hshows, htables⟩ := service.serve_failed request hs hanswer
    exact ⟨after, hshows, htables ▸ .failed hevents⟩
  | ok answer =>
    obtain ⟨after, hshows, heffect⟩ := service.serve_done request hs hanswer
    exact ⟨after, hshows, .done hevents heffect⟩

/-- What a run has done to the tables is the chronicle of its events. -/
theorem run_chronicle {start : Session} {view : View} (hstart : start.Shows view)
    (requests : List Request) :
    ∃ after, (service.run start requests).2.Shows after ∧
      Chronicle service view.tables (service.run start requests).1 after.tables := by
  induction requests with
  | nil => exact ⟨view, hstart, .start⟩
  | cons request earlier ih =>
    obtain ⟨before, hshows, hevents⟩ := ih
    exact service.serve_chronicle request hshows hevents

/-- Every run from a fresh session has a chronicle that starts with empty tables. -/
theorem run_fresh_chronicle (cache : Cache) (requests : List Request) :
    ∃ after, (service.run (.fresh cache) requests).2.Shows after ∧
      Chronicle service {} (service.run (.fresh cache) requests).1 after.tables :=
  service.run_chronicle (Session.fresh_shows cache) requests

end Service

namespace Chronicle

variable {service : Service} {start tables : Tables}

/-- A chronicle can be resumed in the middle. -/
theorem split {later earlier : List Event}
    (h : Chronicle service start (later ++ earlier) tables) :
    ∃ middle, Chronicle service start earlier middle ∧ Chronicle service middle later tables := by
  induction later generalizing tables with
  | nil => exact ⟨tables, h, .start⟩
  | cons event later ih =>
    cases h with
    | failed hearlier =>
      obtain ⟨middle, hbefore, hafter⟩ := ih hearlier
      exact ⟨middle, hbefore, .failed hafter⟩
    | done hearlier heffect =>
      obtain ⟨middle, hbefore, hafter⟩ := ih hearlier
      exact ⟨middle, hbefore, .done hafter heffect⟩

end Chronicle

end IdentityLifecycle
