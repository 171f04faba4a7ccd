import IdentityLifecycle.Cache
import IdentityLifecycle.Mail.Mailer
import IdentityLifecycle.Service.Error
import IdentityLifecycle.Store

/-!
The state that the service works on, and its elementary steps.
-/
namespace IdentityLifecycle

structure Posting where
  mail : Mail
  accepted : Bool
  deriving DecidableEq, Repr

structure Session where
  desk : Desk := {}
  cache : Cache
  postings : List Posting := []

abbrev Procedure (α : Type) := Step Session IdentityError α

namespace Procedure

variable {α : Type}

def query (query : Query α) : Procedure α := fun s =>
  match query s.desk with
  | (.ok a, desk) => (.ok a, { s with desk })
  | (.error e, desk) => (.error (.store e), { s with desk })

def validate (outcome : Except ValidationError α) : Procedure α :=
  .ofExcept (outcome.mapError .validation)

def hashing (outcome : Except HashError α) : Procedure α := .ofExcept (outcome.mapError .hash)

def onCache (change : Cache → Cache) : Procedure Unit :=
  .update fun s => { s with cache := change s.cache }

def report (entry : Log.Entry) : Procedure Unit := query (Query.report entry)

def send (mailer : Mailer) (mail : Mail) : Procedure Unit := fun s =>
  match mailer mail with
  | .error e =>
    (.error (.mail e), { s with postings := s.postings ++ [{ mail, accepted := false }] })
  | .ok entries =>
    (.ok (), { s with
      desk.log := entries.foldl Log.write s.desk.log
      postings := s.postings ++ [{ mail, accepted := true }] })

def within (span : Log.Span) (procedure : Procedure α) : Procedure α := fun s =>
  let outer := s.desk.log.spans
  let (outcome, s) := procedure { s with desk.log.spans := outer ++ [span] }
  (outcome, { s with desk.log.spans := outer })

/-- Does `procedure` as one unit of work: its changes of the tables stay if it succeeds and can be
committed, and are gone otherwise. -/
def asUnit (procedure : Procedure α) : Procedure α := fun s =>
  match s.desk.store.begin with
  | .error e => (.error (.store e), s)
  | .ok (unit, store) =>
    let (outcome, s) := procedure { s with desk.store := unit.store }
    let left : WriteUnit := { unit with database := s.desk.store.database }
    let settling := store.settlingOf left.database
    let log := (settling.entries outcome).foldl Log.write s.desk.log
    let (outcome, store) := left.finish store outcome settling
    (outcome, { s with desk := { store, log } })

end Procedure

end IdentityLifecycle
