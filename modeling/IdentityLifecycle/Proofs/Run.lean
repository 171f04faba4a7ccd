import IdentityLifecycle.Proofs.Ending
import IdentityLifecycle.Store.Migration

/-!
# Runs of the service

A run serves requests one after the other, from a database that has just been migrated. It keeps an
event for each request. Requests and events stand in lists with the latest first.
-/

namespace IdentityLifecycle

structure Request where
  call : Call
  around : Surroundings

structure Event where
  request : Request
  answer : Except IdentityError Answer
  postings : List Posting

namespace Event

/-- The account that a call has changed, or has issued a token for. A call that failed has none. -/
def account? (event : Event) : Option String :=
  match event.answer with
  | .error _ => none
  | .ok answer =>
    match event.request.call, answer with
    | .signup email _ _, _ => (normalizeEmail email).toOption
    | .resendSignupToken email, _ => (normalizeEmail email).toOption
    | .resetPassword email, _ => (normalizeEmail email).toOption
    | .changePassword email _, _ => (normalizeEmail email).toOption
    | .validateSignupToken _, .user user => some user.email
    | .changePasswordWithToken _ _, .user user => some user.email
    | _, _ => none

theorem account?_of_error {event : Event} {e : IdentityError} (herror : event.answer = .error e) :
    event.account? = none := by
  unfold account?
  rw [herror]

end Event

def Session.fresh (cache : Cache) : Session := { desk := (Migration.migrate {}).2, cache }

theorem Store.migrated_holds : (Migration.migrate {}).2.store.Holds {} := by
  have hmigrated :
      (Migration.migrate {}).2.store.database.users = some [] ∧
        (Migration.migrate {}).2.store.database.tokens = some [] ∧
        (Migration.migrate {}).2.store.closed = false ∧
        (Migration.migrate {}).2.store.locked = false ∧
        (Migration.migrate {}).2.store.readOnly = false ∧
        (Migration.migrate {}).2.store.settling = {} ∧
        (Migration.migrate {}).2.store.database.referring = [] := by
    decide +kernel
  obtain ⟨husers, htokens, hopened, hunlocked, hwritable, hsettling, hunreferred⟩ := hmigrated
  exact ⟨husers, htokens, hopened, hunlocked, hwritable, hsettling, hunreferred⟩

theorem Session.fresh_shows (cache : Cache) :
    (Session.fresh cache).Shows { tables := {}, cache } :=
  ⟨Store.migrated_holds, rfl, rfl⟩

namespace Service

variable (service : Service)

def serve (request : Request) (s : Session) : Event × Session :=
  let (answer, after) := request.call.perform service request.around s
  ({ request, answer, postings := after.postings.drop s.postings.length }, after)

def run (start : Session) : List Request → List Event × Session
  | [] => ([], start)
  | request :: earlier =>
    let (events, s) := run start earlier
    let (event, after) := service.serve request s
    (event :: events, after)

theorem run_cons (start : Session) (request : Request) (earlier : List Request) :
    service.run start (request :: earlier) =
      ((service.serve request (service.run start earlier).2).1 :: (service.run start earlier).1,
        (service.serve request (service.run start earlier).2).2) := rfl

theorem run_requests (start : Session) (requests : List Request) :
    (service.run start requests).1.map (·.request) = requests := by
  induction requests with
  | nil => rfl
  | cons request earlier ih =>
    rw [run_cons, List.map_cons, ih]
    rfl

/-- What holds of all requests holds of the requests in all events. -/
theorem forall_run_events {start : Session} {requests : List Request} {p : Request → Prop}
    (hrequests : ∀ request ∈ requests, p request) :
    ∀ event ∈ (service.run start requests).1, p event.request := by
  intro event hevent
  have hmem := List.mem_map_of_mem (f := fun event : Event => event.request) hevent
  rw [run_requests] at hmem
  exact hrequests _ hmem

end Service

/-! ### A small service

Keys of four bytes and token values of two characters, for statements about particular runs.
-/

instance decidableEqExcept {α ε : Type} [DecidableEq α] [DecidableEq ε] : DecidableEq (Except ε α)
  | .ok a, .ok b => decidable_of_iff (a = b) ⟨congrArg Except.ok, Except.ok.inj⟩
  | .error e, .error e' => decidable_of_iff (e = e') ⟨congrArg Except.error, Except.error.inj⟩
  | .ok _, .error _ => isFalse (by simp)
  | .error _, .ok _ => isFalse (by simp)

def Service.small : Service where
  hasher := { settings := {
    timeCost := 1, memoryKib := 8, parallelism := 1, saltLength := 8, keyLength := 4 } }
  ledger := .ofSettings { tokenBytes := 1 }
  site := { host := "localhost" }

def Request.at (now : Instant) (call : Call) : Request where
  call
  around := {
    now, later := now, userId := "u", salt := fun _ => 0, token := fun _ => 0, mailer := .accepting }

def Request.joining : List Request :=
  [.at 2 (.validateSignupToken "AA"), .at 1 (.signup "a@b" "n" "p")]

end IdentityLifecycle
