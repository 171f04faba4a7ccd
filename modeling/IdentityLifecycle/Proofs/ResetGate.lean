import IdentityLifecycle.Proofs.Hashing
import IdentityLifecycle.Proofs.Redeeming

/-!
# The check of a reset token and the change that it guards

A reset token is looked at before a password is hashed, and used up afterwards. On one and the same
database both agree. What happens to the database in between is met by the unit of work alone, which
looks the token up again.
-/

namespace IdentityLifecycle

def Database.resetGate (db : Database) (value : String) (now : Instant) :
    Except IdentityError Unit :=
  if value = "" then .error .invalidToken
  else (db.holder? value .passwordReset now "failed to get the user by email" .emailNotFound).map
    fun _ => ()

/-- The rows that redeeming meets are there and can be read. -/
structure Database.Legible (db : Database) (value : String) (type : TokenType) (now : Instant) :
    Prop where
  tokens : ∃ rows, db.tokens = some rows ∧
    ∀ row ∈ rows, row.isLiveAs value type now = true → ∃ token, row.decode = .ok token
  owners : ∃ users, db.users = some users ∧ ∀ token, db.token? value type now = .ok (some token) →
    ∀ owner ∈ users, owner.hasEmail token.email = true → ∃ user, owner.decode = .ok user

theorem Database.Legible.holder? {db : Database} {value context : String} {type : TokenType}
    {now : Instant} {orphaned e : IdentityError} (hlegible : db.Legible value type now)
    (herror : db.holder? value type now context orphaned = .error e) :
    e = .invalidToken ∨ e = orphaned := by
  obtain ⟨⟨rows, hrows, hread⟩, ⟨users, husers, hread'⟩⟩ := hlegible
  unfold Database.holder? at herror
  rcases htoken : db.token? value type now with cause | _ | token
  · unfold Database.token? at htoken
    rw [hrows] at htoken
    cases hfind : rows.find? (·.isLiveAs value type now) with
    | none => simp [hfind] at htoken
    | some row =>
      have hlive := List.find?_some hfind
      obtain ⟨token, hdecode⟩ := hread row (List.mem_of_find?_eq_some hfind) hlive
      simp [hfind, hdecode, Except.map] at htoken
  · rw [htoken] at herror
    cases herror
    exact .inl rfl
  · rcases howner : db.owner? context token.email with cause | _ | user
    · unfold Database.owner? at howner
      rw [husers] at howner
      cases hfind : users.find? (·.hasEmail token.email) with
      | none => simp [hfind] at howner
      | some owner =>
        have hemail := List.find?_some hfind
        obtain ⟨user, hdecode⟩ :=
          hread' token htoken owner (List.mem_of_find?_eq_some hfind) hemail
        simp [hfind, hdecode, Except.map, Except.mapError] at howner
    · simp only [htoken, howner] at herror
      cases herror
      exact .inr rfl
    · simp [htoken, howner] at herror

namespace Procedure

variable {α : Type}

theorem validate_of_ok {outcome : Except ValidationError α} {a : α} (hok : outcome = .ok a)
    (s : Session) : validate outcome s = (.ok a, s) := by
  rw [hok]
  rfl

end Procedure

namespace Service

open Procedure

variable {service : Service} {around : Surroundings} {s : Session} {value password : String}
  {now : Instant} {meanwhile : Store → Store} {hashed : HashedPassword}

def checkHolder (now : Instant) (value : String) : Procedure Unit := do
  query Query.connect
  let token ← .ofOption .invalidToken (← query (Ledger.peek value .passwordReset now))
  let _ ← .ofOption .emailNotFound (← query (Query.userByEmail token.email))

/-- The check looks for the holder of the token, and changes nothing. -/
theorem checkHolder_apply (hopened : s.desk.store.closed = false) :
    checkHolder now value s =
      ((s.desk.store.database.holder? value .passwordReset now "failed to get the user by email"
        .emailNotFound).map fun _ => (), s) := by
  have hconnect : Query.connect s.desk = (.ok (), s.desk) := by
    simp [Query.connect, hopened]
  have hpeek := Query.peek_apply value .passwordReset now s.desk
  rw [checkHolder, Step.bind_of_ok (query_of_ok hconnect)]
  unfold Database.holder?
  rcases htoken : s.desk.store.database.token? value .passwordReset now with cause | _ | token
  · rw [htoken] at hpeek
    rw [Step.bind_apply, query_of_error hpeek]
    rfl
  · rw [htoken] at hpeek
    rw [Step.bind_of_ok (query_of_ok hpeek)]
    rfl
  · rw [htoken] at hpeek
    rw [Step.bind_of_ok (query_of_ok hpeek)]
    have howner := Query.userByEmail_apply token.email s.desk
    change (query (Query.userByEmail token.email) >>= fun user =>
      Step.ofOption .emailNotFound user >>= fun _ => pure ()) s = _
    rcases hfound : s.desk.store.database.owner? "failed to get the user by email" token.email
      with cause | _ | user
    · rw [hfound] at howner
      rw [Step.bind_apply, query_of_error howner]
      simp only [hfound]
      rfl
    · rw [hfound] at howner
      rw [Step.bind_of_ok (query_of_ok howner)]
      simp only [hfound]
      rfl
    · rw [hfound] at howner
      rw [Step.bind_of_ok (query_of_ok howner)]
      simp only [hfound]
      rfl

theorem resetPasswordToken_apply (hopened : s.desk.store.closed = false) :
    resetPasswordToken now value s = (s.desk.store.database.resetGate value now, s) := by
  unfold Database.resetGate
  by_cases hempty : value = ""
  · rw [if_pos hempty, hempty]
    rfl
  · have hcheck : resetPasswordToken now value = within { name := "reset_password_token" }
        (checkHolder now value) := by
      unfold resetPasswordToken checkHolder
      rw [if_neg hempty]
    have hinside := @checkHolder_apply
      { s with desk.log.spans := s.desk.log.spans ++ [{ name := "reset_password_token" }] }
      value now hopened
    rw [if_neg hempty, hcheck, within_of_apply hinside]

/-! ### The change, with something happening before its unit of work -/

def finishChange (around : Surroundings) (value : String) (hashed : HashedPassword) :
    Procedure PublicUser := do
  let user ← asUnit (replacePasswordWithToken around.later value hashed)
  onCache (·.store user.toPublic)
  say .info "Password changed with reset token" [("user_id", .displayed user.id)]
  return user.toPublic

def changeInside (service : Service) (around : Surroundings) (meanwhile : Store → Store)
    (value password : String) : Procedure PublicUser := do
  validate (validatePassword password)
  resetPasswordToken around.now value
  let hashed ← service.hashPassword around password
  .update fun s => { s with desk.store := meanwhile s.desk.store }
  finishChange around value hashed

/-- The change of a password with `meanwhile` done to the store after the check and before the unit
of work. -/
def changePasswordWithTokenAmid (service : Service) (around : Surroundings)
    (meanwhile : Store → Store) (value password : String) : Procedure PublicUser :=
  within { name := "change_password_with_token" }
    (service.changeInside around meanwhile value password)

/-- The change is the one amid which nothing is done. -/
theorem changePasswordWithToken_eq_amid (service : Service) (around : Surroundings)
    (value password : String) :
    service.changePasswordWithToken around value password =
      service.changePasswordWithTokenAmid around id value password := rfl

def amid (s : Session) (store : Store) : Session :=
  { s with
    desk := {
      store
      log := { s.desk.log with
        spans := s.desk.log.spans ++ [{ name := "change_password_with_token" }] } } }

theorem hashPassword_of_ok
    (hhash : service.hasher.generateHash (utf8 password) none around.salt = .ok hashed)
    (s : Session) : service.hashPassword around password s = (.ok hashed, s) := by
  unfold hashPassword
  rw [hhash]
  rfl

theorem changeAmid_of_refused {e : IdentityError} (hopened : s.desk.store.closed = false)
    (hpassword : validatePassword password = .ok ())
    (hgate : s.desk.store.database.resetGate value around.now = .error e) :
    service.changePasswordWithTokenAmid around meanwhile value password s = (.error e, s) := by
  have hcheck : resetPasswordToken around.now value (amid s s.desk.store) =
      (.error e, amid s s.desk.store) := by
    rw [← hgate]
    exact resetPasswordToken_apply hopened
  have hinside : service.changeInside around meanwhile value password (amid s s.desk.store) =
      (.error e, amid s s.desk.store) := by
    rw [changeInside, Step.bind_of_ok (validate_of_ok hpassword _), Step.bind_apply, hcheck]
  rw [changePasswordWithTokenAmid, within_of_apply hinside]
  rfl

/-- Once the check has passed, the unit of work decides. -/
theorem changeAmid_of_passed (hopened : s.desk.store.closed = false)
    (hpassword : validatePassword password = .ok ())
    (hhash : service.hasher.generateHash (utf8 password) none around.salt = .ok hashed)
    (hgate : s.desk.store.database.resetGate value around.now = .ok ()) :
    service.changePasswordWithTokenAmid around meanwhile value password s =
      within { name := "change_password_with_token" } (finishChange around value hashed)
        { s with desk.store := meanwhile s.desk.store } := by
  have hcheck : resetPasswordToken around.now value (amid s s.desk.store) =
      (.ok (), amid s s.desk.store) := by
    rw [← hgate]
    exact resetPasswordToken_apply hopened
  have hinside : service.changeInside around meanwhile value password (amid s s.desk.store) =
      finishChange around value hashed (amid s (meanwhile s.desk.store)) := by
    rw [changeInside, Step.bind_of_ok (validate_of_ok hpassword _), Step.bind_of_ok hcheck,
      Step.bind_of_ok (hashPassword_of_ok hhash _)]
    rfl
  rw [changePasswordWithTokenAmid, within, within]
  change (match service.changeInside around meanwhile value password (amid s s.desk.store) with
    | (outcome, t) => (outcome, { t with desk.log.spans := s.desk.log.spans })) = _
  rw [hinside]
  rfl

theorem finishChange_answer (around : Surroundings) (value : String) (hashed : HashedPassword)
    (u : Session) :
    (finishChange around value hashed u).1 =
      (asUnit (replacePasswordWithToken around.later value hashed) u).1.map User.toPublic := by
  rw [finishChange, Step.bind_apply]
  rcases asUnit (replacePasswordWithToken around.later value hashed) u with ⟨e | user, t⟩
  · rfl
  · rfl

/-- Past the gate, the unit of work alone decides the answer. -/
theorem changeAmid_answer (hopened : s.desk.store.closed = false)
    (hpassword : validatePassword password = .ok ())
    (hhash : service.hasher.generateHash (utf8 password) none around.salt = .ok hashed)
    (hgate : s.desk.store.database.resetGate value around.now = .ok ()) :
    (service.changePasswordWithTokenAmid around meanwhile value password s).1 =
      (asUnit (replacePasswordWithToken around.later value hashed)
        (amid s (meanwhile s.desk.store))).1.map User.toPublic := by
  rw [changeAmid_of_passed hopened hpassword hhash hgate]
  exact finishChange_answer around value hashed (amid s (meanwhile s.desk.store))

theorem transactional_finishChange (around : Surroundings) (value : String)
    (hashed : HashedPassword) : Transactional false (finishChange around value hashed) :=
  .bind_infallible (contained_replacePasswordWithToken around.later value hashed).asUnit
    fun user => infallible_finish user _ _

/-- If the check passes, so does the change, unless the tables or the time are different by then. -/
theorem change_ok_of_gate (hfree : s.desk.store.Free)
    (hpassword : validatePassword password = .ok ())
    (hhash : service.hasher.generateHash (utf8 password) none around.salt = .ok hashed)
    (hclock : around.later = around.now)
    (hgate : s.desk.store.database.resetGate value around.now = .ok ()) :
    ∃ user, (service.changePasswordWithToken around value password s).1 = .ok user := by
  have hanswer := @changeAmid_answer service around s value password id hashed hfree.opened
    hpassword hhash hgate
  have hfound : ∃ token user, s.desk.store.database.holder? value .passwordReset around.now
      "failed to get the user by email" .emailNotFound = .ok (token, user) := by
    unfold Database.resetGate at hgate
    split at hgate
    · cases hgate
    · cases hholder : s.desk.store.database.holder? value .passwordReset around.now
          "failed to get the user by email" .emailNotFound with
      | error e =>
        rw [hholder] at hgate
        cases hgate
      | ok holder => exact ⟨holder.1, holder.2, rfl⟩
  obtain ⟨token, user, hholder⟩ := hfound
  have hholder' := Database.holder?_ok_of_ok hholder "failed to update the user password"
    .emailNotFound
  obtain ⟨changed, after, -, hunit, -⟩ :=
    @asUnit_redeem_of_holder (amid s s.desk.store) value _ .passwordReset around.now .emailNotFound
      _ token user hfree (UserRow.keeps_password hashed) hholder'
  refine ⟨changed.toPublic, ?_⟩
  rw [changePasswordWithToken_eq_amid, hanswer, hclock, replacePasswordWithToken_eq_redeem, id,
    hunit]
  rfl

/-- At one time, the change fails as the gate does, or both succeed. -/
theorem resetGate_cases (hfree : s.desk.store.Free)
    (hpassword : validatePassword password = .ok ())
    (hhash : service.hasher.generateHash (utf8 password) none around.salt = .ok hashed)
    (hclock : around.later = around.now) (value : String) :
    (∃ e, s.desk.store.database.resetGate value around.now = .error e ∧
      (service.changePasswordWithToken around value password s).1 = .error e) ∨
    ∃ user, s.desk.store.database.resetGate value around.now = .ok () ∧
      (service.changePasswordWithToken around value password s).1 = .ok user := by
  cases hgate : s.desk.store.database.resetGate value around.now with
  | error e =>
    refine .inl ⟨e, rfl, ?_⟩
    rw [changePasswordWithToken_eq_amid, changeAmid_of_refused hfree.opened hpassword hgate]
  | ok passed =>
    obtain ⟨user, hok⟩ := change_ok_of_gate hfree hpassword hhash hclock hgate
    exact .inr ⟨user, rfl, hok⟩

/-- Where what is met can be read, the gate is shut for two reasons only. -/
theorem resetGate_error_of_legible {db : Database} {e : IdentityError}
    (hlegible : db.Legible value .passwordReset now) (herror : db.resetGate value now = .error e) :
    e = .invalidToken ∨ e = .emailNotFound := by
  unfold Database.resetGate at herror
  split at herror
  · cases herror
    exact .inl rfl
  · cases hholder : db.holder? value .passwordReset now "failed to get the user by email"
        .emailNotFound with
    | error cause =>
      rw [hholder] at herror
      cases herror
      exact hlegible.holder? hholder
    | ok holder =>
      rw [hholder] at herror
      cases herror

/-- Any number of checks leaves the session as it is. -/
theorem foldl_checks (hopened : s.desk.store.closed = false) (checks : List (Instant × String)) :
    checks.foldl (fun t check => (resetPasswordToken check.1 check.2 t).2) s = s := by
  induction checks with
  | nil => rfl
  | cons check checks ih => rw [List.foldl_cons, resetPasswordToken_apply hopened, ih]

/-- A token that is dead by the time of the unit of work is refused there, whatever the check
said. -/
theorem changeAmid_of_dead {current : Store} {rows : List TokenRow}
    (hopened : s.desk.store.closed = false) (hcurrent : current.Free)
    (hpassword : validatePassword password = .ok ())
    (hhash : service.hasher.generateHash (utf8 password) none around.salt = .ok hashed)
    (hgate : s.desk.store.database.resetGate value around.now = .ok ())
    (hrows : current.database.tokens = some rows)
    (hdead : ∀ row ∈ rows, row.isLiveAs value .passwordReset around.later = false) :
    (service.changePasswordWithTokenAmid around (fun _ => current) value password s).1 =
        .error .invalidToken ∧
      { s with desk.store := current }.Untouched
        (service.changePasswordWithTokenAmid around (fun _ => current) value password s).2 := by
  have hholder : current.database.holder? value .passwordReset around.later
      "failed to update the user password" .emailNotFound = .error .invalidToken := by
    have hfind : rows.find? (·.isLiveAs value .passwordReset around.later) = none :=
      List.find?_eq_none.mpr fun row hrow => by simp [hdead row hrow]
    simp [Database.holder?, Database.token?, hrows, hfind]
  have hunit : (asUnit (replacePasswordWithToken around.later value hashed) (amid s current)).1 =
      .error .invalidToken := by
    rw [replacePasswordWithToken_eq_redeem]
    exact answer_of_no_holder hcurrent (UserRow.keeps_password hashed)
      (fun _ => IdentityError.noConfusion) hholder
  have hrefused : (service.changePasswordWithTokenAmid around (fun _ => current) value password
      s).1 = .error .invalidToken := by
    rw [changeAmid_answer hopened hpassword hhash hgate, hunit]
    rfl
  refine ⟨hrefused, ?_⟩
  rw [changeAmid_of_passed hopened hpassword hhash hgate] at hrefused ⊢
  have hchange := (transactional_finishChange around value hashed).within
    { name := "change_password_with_token" }
  exact (hchange.left _ _ hrefused).untouched rfl

/-- The check of a reset token and the change that it guards. -/
theorem change_agrees_with_gate (hfree : s.desk.store.Free)
    (hpassword : validatePassword password = .ok ())
    (hhash : service.hasher.generateHash (utf8 password) none around.salt = .ok hashed)
    (value : String) :
    -- At one time, on one database, the two agree, down to the error.
    (around.later = around.now →
      ((∃ user, (service.changePasswordWithToken around value password s).1 = .ok user) ↔
        (resetPasswordToken around.now value s).1 = .ok ()) ∧
      ∀ e, (service.changePasswordWithToken around value password s).1 = .error e ↔
        (resetPasswordToken around.now value s).1 = .error e) ∧
    (s.desk.store.database.Legible value .passwordReset around.now →
      ∀ e, (resetPasswordToken around.now value s).1 = .error e →
        e = .invalidToken ∨ e = .emailNotFound) ∧
    -- Checks leave everything as it is.
    (∀ checks : List (Instant × String),
      checks.foldl (fun t check => (resetPasswordToken check.1 check.2 t).2) s = s) ∧
    -- Whatever the store has become after the check, the unit of work decides.
    service.changePasswordWithToken around value password =
      service.changePasswordWithTokenAmid around id value password ∧
    ∀ current : Store, (resetPasswordToken around.now value s).1 = .ok () →
      (service.changePasswordWithTokenAmid around (fun _ => current) value password s).1 =
        (asUnit (replacePasswordWithToken around.later value hashed)
          (amid s current)).1.map User.toPublic ∧
      ∀ rows, current.Free → current.database.tokens = some rows →
        (∀ row ∈ rows, row.isLiveAs value .passwordReset around.later = false) →
        (service.changePasswordWithTokenAmid around (fun _ => current) value password s).1 =
            .error .invalidToken ∧
          { s with desk.store := current }.Untouched
            (service.changePasswordWithTokenAmid around (fun _ => current) value password s).2 := by
  rw [resetPasswordToken_apply hfree.opened]
  refine ⟨fun hclock => ?_, fun hlegible e herror => resetGate_error_of_legible hlegible herror,
    foldl_checks hfree.opened, rfl, fun current hgate => ⟨?_, ?_⟩⟩
  · rcases resetGate_cases hfree hpassword hhash hclock value with
      ⟨e, hgate, hchange⟩ | ⟨user, hgate, hchange⟩
    · rw [hgate, hchange]
      exact ⟨iff_of_false nofun nofun, fun _ => by simp⟩
    · rw [hgate, hchange]
      exact ⟨iff_of_true ⟨user, rfl⟩ rfl, fun _ => iff_of_false nofun nofun⟩
  · exact changeAmid_answer hfree.opened hpassword hhash hgate
  · intro rows hcurrent hrows hdead
    exact changeAmid_of_dead hfree.opened hcurrent hpassword hhash hgate hrows hdead

theorem change_agrees_with_gate_of_live :
    (resetPasswordToken 5 "r" (ofStamp (.integer 0))).1 = .ok () ∧
      (∃ user, (small.changePasswordWithToken (Request.at 5 .purgeExpiredTokens).around "r" "secret"
        (ofStamp (.integer 0))).1 = .ok user) ∧
      (small.changePasswordWithTokenAmid (Request.at 5 .purgeExpiredTokens).around
        (fun _ => { database.tokens := some [] }) "r" "secret" (ofStamp (.integer 0))).1 =
          .error .invalidToken := by
  obtain ⟨hpassword, hgate⟩ : validatePassword "secret" = .ok () ∧
      (resetPasswordToken 5 "r" (ofStamp (.integer 0))).1 = .ok () := by
    decide +kernel
  obtain ⟨hashed, hhash⟩ : ∃ hashed, small.hasher.generateHash (utf8 "secret") none
      (Request.at 5 .purgeExpiredTokens).around.salt = .ok hashed :=
    Hasher.generateHash_succeeds_iff.mpr (by decide)
  obtain ⟨hagree, -, -, -, hlater⟩ :=
    change_agrees_with_gate (s := ofStamp (.integer 0)) ⟨⟨rfl, rfl, rfl⟩, rfl, rfl⟩ hpassword hhash "r"
  obtain ⟨-, hdead⟩ := hlater { database.tokens := some [] } hgate
  obtain ⟨hrefused, -⟩ := hdead [] ⟨⟨rfl, rfl, rfl⟩, rfl, rfl⟩ rfl nofun
  exact ⟨hgate, (hagree rfl).1.mpr hgate, hrefused⟩

/-- Where a table is missing, or the stamp of the owner cannot be read, both fail with an error of
the store. -/
theorem gate_and_change_of_store_errors :
    ((resetPasswordToken 5 "r" { cache := .unbounded }).1 =
        .error (.store (.query "failed to get the token" (.noSuchTable "tokens"))) ∧
      (small.changePasswordWithToken (Request.at 5 .purgeExpiredTokens).around "r" "secret"
        { cache := .unbounded }).1 =
        .error (.store (.query "failed to get the token" (.noSuchTable "tokens")))) ∧
    (resetPasswordToken 5 "r" (ofStamp (.text "abc"))).1 =
        .error (.store (.query "failed to decode the user row"
          (.mismatchedColumn "verified_at" "INTEGER" "TEXT"))) ∧
      (small.changePasswordWithToken (Request.at 5 .purgeExpiredTokens).around "r" "secret"
        (ofStamp (.text "abc"))).1 =
        .error (.store (.query "failed to decode the user row"
          (.mismatchedColumn "verified_at" "INTEGER" "TEXT"))) := by
  decide +kernel

end Service

end IdentityLifecycle
