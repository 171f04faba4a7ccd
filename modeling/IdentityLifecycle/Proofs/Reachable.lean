import IdentityLifecycle.Proofs.Chronicle
import IdentityLifecycle.Proofs.Hashing
import IdentityLifecycle.Proofs.Sound

/-!
# Reachable sessions

What services can bring about, one after the other, on a database that was empty at first. Such a
database holds tables of users and tokens, and every password in it was made by a hasher.
-/

namespace IdentityLifecycle

/-! ### The tables that a store holds -/

theorem User.decode_row (user : User) : user.row.decode = .ok user := rfl

def Store.tables (store : Store) : Tables where
  users := (store.database.users.getD []).filterMap (·.decode.toOption)
  tokens := (store.database.tokens.getD []).filterMap (·.decode.toOption)

theorem Store.Holds.tables_eq {store : Store} {tables : Tables} (h : store.Holds tables) :
    store.tables = tables := by
  have huser : (fun row : UserRow => row.decode.toOption) ∘ User.row = some := by
    funext user
    rw [Function.comp_apply, user.decode_row]
    rfl
  have htoken : (fun row : TokenRow => row.decode.toOption) ∘ Token.row = some := by
    funext token
    rw [Function.comp_apply, token.decode_row]
    rfl
  rw [Store.tables, h.users, h.tokens, Option.getD_some, Option.getD_some, List.filterMap_map,
    List.filterMap_map, huser, htoken, List.filterMap_some, List.filterMap_some]

/-! ### Passwords that were made by a hasher -/

/-- Every stored password was made by a hasher. -/
def Tables.Hashed (tables : Tables) : Prop := ∀ user ∈ tables.users, Hasher.Stored user.password

namespace Tables.Hashed

variable {tables : Tables}

theorem changeUser (h : tables.Hashed) {change : User → User} (email : String)
    (hchange : ∀ user, Hasher.Stored user.password → Hasher.Stored (change user).password) :
    (tables.changeUser email change).Hashed := by
  intro user huser
  obtain ⟨old, hold, rfl⟩ := mem_changeUser.mp huser
  split
  · exact hchange old (h old hold)
  · exact h old hold

theorem withPassword (h : tables.Hashed) (email : String) {hashed : HashedPassword}
    (hstored : Hasher.Stored hashed) :
    (tables.changeUser email (·.withPassword hashed)).Hashed :=
  h.changeUser email fun _ _ => hstored

end Tables.Hashed

/-- Hashing a valid password is a matter of the length of salts alone. -/
theorem Service.hashing_succeeds_iff {service : Service} {around : Surroundings} {password : String}
    (hpassword : validatePassword password = .ok ()) :
    (∃ hashed, service.hashing around password = .ok hashed) ↔
      Hasher.minSaltLength ≤ service.hasher.saltLength ∧
        service.hasher.saltLength ≤ Hasher.maxInputLength := by
  obtain ⟨hne, hlength⟩ := validatePassword_eq_ok.mp hpassword
  have hbytes : utf8 password ≠ [] := fun hnil => hne (utf8_eq_nil.mp hnil)
  have hshort : (utf8 password).length ≤ Hasher.maxInputLength :=
    Nat.le_trans hlength (by decide)
  calc
    (∃ hashed, service.hashing around password = .ok hashed) ↔
        ∃ hashed, service.hasher.generateHash (utf8 password) none around.salt = .ok hashed :=
      exists_congr fun _ => mapError_eq_ok
    _ ↔ _ := Hasher.generateHash_succeeds_iff
    _ ↔ _ := by simp only [hbytes, hshort, ne_eq, not_false_eq_true, true_and]

theorem Service.stored_of_hashing {service : Service} {around : Surroundings} {password : String}
    {hashed : HashedPassword} (hchecked : service.hasher.Checked)
    (hok : service.hashing around password = .ok hashed) : Hasher.Stored hashed :=
  Hasher.stored_of_generateHash hchecked (mapError_eq_ok.mp hok)

/-- A checked hasher keeps to what can be stored. -/
theorem Effect.hashed {service : Service} {around : Surroundings} {before after : Tables}
    {call : Call} {answer : Answer} {mails : List Posting}
    (heffect : Effect service around before call answer mails after)
    (hchecked : service.hasher.Checked) (h : before.Hashed) : after.Hashed := by
  cases heffect with
  | read hcall => exact h
  | registered hnew hemail hid hroom =>
    obtain ⟨-, -, -, hhashed, -⟩ := Service.newUser_eq_ok.mp hnew
    exact Tables.forall_addUser h (Service.stored_of_hashing hchecked hhashed)
  | issued hnormal huser hsuits hroom => exact h
  | confirmed hvalue htoken huser =>
    refine Tables.Hashed.changeUser h _ fun user hstored => ?_
    rw [User.stamp_password]
    exact hstored
  | recovered hnew htoken huser =>
    obtain ⟨-, -, hhashed⟩ := Service.newPasswordWithToken_eq_ok.mp hnew
    exact Tables.Hashed.withPassword h _ (Service.stored_of_hashing hchecked hhashed)
  | changed hnew huser =>
    obtain ⟨-, -, hhashed⟩ := Service.newPassword_eq_ok.mp hnew
    exact Tables.Hashed.withPassword h _ (Service.stored_of_hashing hchecked hhashed)
  | purged => exact h

theorem Chronicle.hashed {service : Service} {start tables : Tables} {events : List Event}
    (hchronicle : Chronicle service start events tables) (hchecked : service.hasher.Checked)
    (hstart : start.Hashed) : tables.Hashed := by
  induction hchronicle with
  | start => exact hstart
  | failed hearlier ih => exact ih
  | done hearlier heffect ih => exact heffect.hashed hchecked ih

/-! ### Sessions -/

/-- Services have worked on the database, each with a hasher that was checked and a cache of its
own, and have served any requests. -/
inductive Session.Reachable : Session → Prop
  | fresh (cache : Cache) : Reachable (.fresh cache)
  | served {s : Session} {service : Service} (hs : Reachable s)
      (hchecked : service.hasher.Checked) (request : Request) :
      Reachable (service.serve request s).2
  | cached {s : Session} (hs : Reachable s) (cache : Cache) : Reachable { s with cache }

/-- Whatever a run from the start leads to is reachable. -/
theorem Service.run_reachable {service : Service} (hchecked : service.hasher.Checked)
    (cache : Cache) (requests : List Request) :
    (service.run (.fresh cache) requests).2.Reachable := by
  induction requests with
  | nil => exact .fresh cache
  | cons request earlier ih => exact .served ih hchecked request

theorem Service.small_checked : Service.small.hasher.Checked :=
  ⟨Service.small.hasher.settings, by decide +kernel⟩

def Session.view (s : Session) : View where
  tables := s.desk.store.tables
  cache := s.cache
  postings := s.postings

/-- A session shows one view only. -/
theorem Session.Shows.view_eq {s : Session} {view : View} (hs : s.Shows view) : s.view = view := by
  rw [Session.view, hs.tables.tables_eq, hs.cache, hs.postings]

namespace Session.Reachable

variable {s : Session}

theorem shows_hashed (hs : s.Reachable) : s.Shows s.view ∧ s.view.tables.Hashed := by
  have hview : ∃ view : View, s.Shows view ∧ view.tables.Hashed := by
    induction hs with
    | fresh cache => exact ⟨_, fresh_shows cache, fun _ huser => nomatch huser⟩
    | @served s service hs hchecked request ih =>
      obtain ⟨view, hshows, hhashed⟩ := ih
      have hstart : Chronicle service view.tables [] view.tables := .start
      obtain ⟨after, hafter, hchronicle⟩ := service.serve_chronicle request hshows hstart
      exact ⟨after, hafter, hchronicle.hashed hchecked hhashed⟩
    | cached hs cache ih =>
      obtain ⟨view, hshows, hhashed⟩ := ih
      exact ⟨{ view with cache }, ⟨hshows.tables, rfl, hshows.postings⟩, hhashed⟩
  obtain ⟨view, hshows, hhashed⟩ := hview
  rw [hshows.view_eq]
  exact ⟨hshows, hhashed⟩

theorem shows (hs : s.Reachable) : s.Shows s.view := hs.shows_hashed.1

theorem hashed (hs : s.Reachable) : s.desk.store.tables.Hashed := hs.shows_hashed.2

end Session.Reachable

end IdentityLifecycle
