import IdentityLifecycle.Proofs.Alike
import IdentityLifecycle.Proofs.Issuing
import IdentityLifecycle.Proofs.Redeeming

/-!
# Users whom the tables have

What adds or changes a user answers just the user whom a look-up finds from then on. It acts on the
email it was given, or on that of the token it used up.
-/

namespace IdentityLifecycle

/-- Whoever is looked for by the email of the user is the user. -/
def Database.Has (db : Database) (user : User) : Prop :=
  db.owner? "failed to get the user by email" user.email = .ok (some user)

theorem Database.has_iff {db : Database} {user : User} :
    db.Has user ↔ ∃ rows, db.users = some rows ∧
      ∃ row, rows.find? (·.hasEmail user.email) = some row ∧ row.decode = .ok user :=
  owner?_eq_ok_some

theorem Database.Has.knows {db : Database} {user : User} (hhas : db.Has user) :
    db.Knows user.toPublic := by
  obtain ⟨rows, hrows, row, hfind, hdecode⟩ := has_iff.mp hhas
  exact ⟨rows, hrows, row, List.mem_of_find?_eq_some hfind, UserRow.public?_of_decode hdecode⟩

theorem UserRow.email_of_decode {row : UserRow} {user : User} {email : String}
    (hdecode : row.decode = .ok user) (hemail : row.hasEmail email = true) : user.email = email := by
  obtain ⟨-, hread, -⟩ := decode_eq_ok.mp hdecode
  have hcell : row.email = .text email := of_decide_eq_true hemail
  rw [hcell] at hread
  exact (Except.ok.inj hread).symm

/-! ### Statements -/

namespace Query

variable {desk : Desk} {user : User}

/-- Whoever the tables have is found by the email. -/
theorem userByEmail_of_has (hhas : desk.store.database.Has user) :
    userByEmail user.email desk = (.ok (some user), desk) := by
  rw [userByEmail_apply, hhas]

/-- A change of users answers the user as a look-up from then on does. -/
theorem has_of_updateUser {context email : String} {change : UserRow → UserRow}
    (hok : (updateUser context email change desk).1 = .ok (some user)) :
    user.email = email ∧ (updateUser context email change desk).2.store.database.Has user := by
  rcases updateUser_cases context email change desk with ⟨e, herror⟩ | ⟨rows, -, hchanged⟩
  · rw [herror] at hok
    cases hok
  · dsimp only at hchanged
    rw [hchanged] at hok ⊢
    rw [readsOnly_decodeUser]
    obtain ⟨row, hfind, hdecode⟩ := decodeUser_eq_ok hok
    have hemail := List.find?_some hfind
    obtain rfl := UserRow.email_of_decode hdecode hemail
    exact ⟨rfl, Database.has_iff.mpr ⟨_, rfl, row, hfind, hdecode⟩⟩

/-- A user who was added is found from then on. -/
theorem has_of_createUser (hok : (createUser user desk).1 = .ok ()) :
    (createUser user desk).2.store.database.Has user := by
  rcases createUser_cases user desk with ⟨e, herror⟩ | ⟨rows, -, hfault, hadded⟩
  · rw [herror] at hok
    cases hok
  · rw [hadded]
    have hfree : rows.find? (·.hasEmail user.email) = none := by
      refine List.find?_eq_none.mpr fun row hrow hemail => ?_
      exact (UserRow.keys_free_of_fault? hfault).1 row hrow (of_decide_eq_true hemail)
    have hnew : [user.row].find? (·.hasEmail user.email) = some user.row := by
      rw [List.find?_cons_of_pos]
      exact decide_eq_true rfl
    refine Database.has_iff.mpr ⟨_, rfl, user.row, ?_, rfl⟩
    rw [List.find?_append, hfree, hnew, Option.none_or]

/-- A token is used up if it was there. -/
theorem token?_of_consume {value : String} {type : TokenType} {now : Instant}
    {found : Option Token} (hok : (Ledger.consume value type now desk).1 = .ok found) :
    desk.store.database.token? value type now = .ok found := by
  rw [Ledger.consume, Step.bind_apply, peek_apply] at hok
  cases htoken : desk.store.database.token? value type now with
  | error e =>
    rw [htoken] at hok
    cases hok
  | ok peeked =>
    rw [htoken] at hok
    cases peeked with
    | none => exact hok
    | some token =>
      obtain ⟨deleted, mid, -, hrest⟩ := Step.bind_eq_ok.mp (Prod.ext hok rfl)
      obtain ⟨reported, left, -, hanswer⟩ := Step.bind_eq_ok.mp hrest
      exact congrArg Prod.fst hanswer

end Query

/-! ### Units of work -/

namespace Service

open Procedure

variable (service : Service) (around : Surroundings)

theorem ensures_mailSignupToken (user : User) (email name : String) :
    Ensures (·.database.Has user) (service.mailSignupToken around email name) fun _ store =>
      store.database.Has user := by
  refine .bind (Q := fun _ store => store.database.Has user)
    (.query fun desk hhas token hissue => ?_) fun token => ?_
  · obtain ⟨-, rows, -, hstore⟩ := Ledger.issue_eq_ok (Prod.ext hissue rfl)
    rw [hstore]
    exact hhas
  · intro s hhas _ _
    unfold send
    cases around.mailer (Mail.signup service.site email name token.value) <;> exact hhas

theorem ensures_register (user : User) :
    Ensures (fun _ => True) (service.register around user) fun _ store =>
      store.database.Has user := by
  refine .bind (.trivial _ _) fun _ => .guard ?_
  have hcreate : Ensures (fun _ => True) (query (Query.createUser user)) fun _ store =>
      store.database.Has user :=
    .query fun _ _ _ => Query.has_of_createUser
  refine .bind (hcreate.recover fun e a => ?_) fun _ =>
    service.ensures_mailSignupToken around user user.email user.name
  split <;> exact fun h => nomatch h

theorem ensures_redeem (db : Database) (value context : String) (type : TokenType)
    (now : Instant) (orphaned : IdentityError) (change : UserRow → UserRow) :
    Ensures (·.database = db)
      (redeem value type now orphaned (Query.updateUser context · change)) fun user store =>
        (∃ token, db.token? value type now = .ok (some token) ∧ token.email = user.email) ∧
          store.database.Has user := by
  refine .bind (Q := fun found _ => ∀ token, found = some token →
    db.token? value type now = .ok (some token)) (.query fun desk hdb found hok => ?_) fun found => ?_
  · rintro token rfl
    rw [← hdb]
    exact Query.token?_of_consume hok
  · refine .bind .ofOption fun token => ?_
    refine .bind (.query fun desk htoken found hok => ?_) fun found => .ofOption
    rintro user rfl
    obtain ⟨hemail, hhas⟩ := Query.has_of_updateUser hok
    exact ⟨⟨token, htoken, hemail.symm⟩, hhas⟩

theorem ensures_verify (db : Database) (value : String) :
    Ensures (·.database = db) (verify around value) fun user store =>
      (∃ token, db.token? value .signup around.now = .ok (some token) ∧ token.email = user.email) ∧
        store.database.Has user :=
  ensures_redeem db value _ .signup around.now .invalidToken _

theorem ensures_replacePasswordWithToken (db : Database) (now : Instant) (value : String)
    (hashed : HashedPassword) :
    Ensures (·.database = db) (replacePasswordWithToken now value hashed) fun user store =>
      (∃ token, db.token? value .passwordReset now = .ok (some token) ∧ token.email = user.email) ∧
        store.database.Has user :=
  ensures_redeem db value _ .passwordReset now .emailNotFound _

theorem ensures_replacePassword (email : String) (hashed : HashedPassword) :
    Ensures (fun _ => True) (replacePassword email hashed) fun user store =>
      user.email = email ∧ store.database.Has user := by
  refine .bind (Q := fun found store => ∀ user, found = some user →
    user.email = email ∧ store.database.Has user) (.query fun desk _ found hok => ?_) fun found =>
    .bind .ofOption fun user => ?_
  · rintro user rfl
    exact Query.has_of_updateUser hok
  · refine .bind (Q := fun _ store => user.email = email ∧ store.database.Has user)
      (.query fun desk hhas n hok => ?_) fun _ => ?_
    · obtain ⟨rows, -, -, hdatabase⟩ := Query.deleteTokens_ok (Prod.ext hok rfl)
      rw [Query.deleteTokensFor, hdatabase]
      exact hhas
    · intro s hhas a ha
      cases ha
      exact hhas

end Service

end IdentityLifecycle
