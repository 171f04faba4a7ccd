import IdentityLifecycle.Proofs.Chronicle
import IdentityLifecycle.Proofs.Masking
import IdentityLifecycle.Proofs.Reporting

/-!
# The log keeps secrets

With a mailer that writes mails to the log, what a call reports is determined by its public part,
the public rows before it and its answer, but for the link of a mail. So two runs that differ in
secrets only, and whose requests are answered alike, write the same but for those links.
-/

namespace IdentityLifecycle

open Step (Logs)

/-! ### Hidden links -/

namespace Log

def Entry.showsLink (entry : Entry) : Bool :=
  entry.level = .debug && entry.source = .mailer && entry.message = "Mail link"

def hideField : String × Value → String × Value
  | (name, value) => if name = "link" then (name, .text "") else (name, value)

def Entry.hideLink (entry : Entry) : Entry :=
  { entry with fields := if entry.showsLink then entry.fields.map hideField else entry.fields }

theorem Entry.hideLink_of_level {entry : Entry} (hlevel : entry.level ≠ .debug) :
    entry.hideLink = entry := by
  simp [hideLink, showsLink, hlevel]

def hidden (log : Log) : Log := { log with entries := log.entries.map (·.hideLink) }

theorem hidden_extend (log : Log) (entries : List Entry) :
    (log.extend entries).hidden = log.hidden.extend (entries.map (·.hideLink)) := by
  simp only [hidden, extend, List.map_append, List.map_map]
  rfl

/-- Links are shown for debugging only. -/
theorem filter_hideLink (entries : List Entry) :
    (entries.map (·.hideLink)).filter (·.level ≠ .debug) = entries.filter (·.level ≠ .debug) := by
  rw [List.filter_map]
  refine (List.map_congr_left fun entry hentry => ?_).trans (List.map_id _)
  have hlevel := (List.mem_filter.mp hentry).2
  exact Entry.hideLink_of_level (of_decide_eq_true hlevel)

end Log

/-! ### What a call tells -/

namespace Service

variable (service : Service) (sender : String)

def mailed (type : TokenType) (email name : String) (rows : Tables) : List Log.Entry :=
  (Ledger.issuedEntry email type (rows.tokens.countP (·.isFor email type)) ::
    ((Mailer.logging sender (.forToken service.site type email name "")).toOption.getD []).map
      (·.bare)).map (·.hideLink)

def signedUp (userId email name : String) (rows : Tables) : List Log.Entry :=
  Log.given ((normalizeEmail email).mapError .validation) fun email =>
    Log.given ((validateName name).mapError .validation) fun name =>
      service.mailed sender .signup email name rows ++
        [said .info "User signed up" [("user_id", .displayed userId)]]

def reissued (type : TokenType) (message email : String) (rows : Tables) : List Log.Entry :=
  Log.given ((normalizeEmail email).mapError .validation) fun email =>
    match rows.userWithEmail? email with
    | none => []
    | some user => service.mailed sender type email user.name rows ++ [said .debug message]

def redeemed (type : TokenType) (message : String) (owner : PublicUser) : List Log.Entry :=
  [Ledger.consumedEntry { value := "", type, email := owner.email, expiresAt := 0 },
    said .info message [("user_id", .displayed owner.id)]]

def signedIn {α : Type} (email : String) (rows : Tables) (answer : Except IdentityError α) :
    List Log.Entry :=
  Log.given ((normalizeEmail email).mapError fun _ => .invalidCredentials) fun email =>
    match rows.userWithEmail? email with
    | none => []
    | some user =>
      match answer with
      | .ok _ => [said .info "User signed in" [("user_id", .displayed user.id)]]
      | .error .invalidCredentials => [said .debug "Password mismatch"]
      | .error _ => []

def passwordChanged (email : String) (rows : Tables) : List Log.Entry :=
  Log.given ((normalizeEmail email).mapError .validation) fun email =>
    match rows.userWithEmail? email with
    | none => []
    | some user => [said .info "Password changed" [("user_id", .displayed user.id)]]

end Service

namespace Ending

variable {α β : Type} {view : View}

/-- An ending that is an answer tells of it, and one that is an error was not told of. -/
def Tells (ending : Ending α) (entries : List Log.Entry) (told : α → List Log.Entry) : Prop :=
  entries.map (·.hideLink) = Log.given ending.1 told

theorem Tells.given {checks : Except IdentityError α} {next : α → Ending β}
    {entries : α → List Log.Entry} {told : β → List Log.Entry}
    (hnext : ∀ a, checks = .ok a → (next a).Tells (entries a) told) :
    (Ending.given checks view next).Tells (Log.given checks entries) told := by
  cases checks with
  | error e => rfl
  | ok a => exact hnext a rfl

theorem Tells.unit {work : Work α} {answer : α → β} {refresh : α → Cache → Cache}
    {entries : List Log.Entry} {rest : α → List Log.Entry} {told : β → List Log.Entry}
    (hfailed : ∀ e, work.result = .error e → entries = [])
    (hdone : ∀ a after, work.result = .ok (a, after) →
      (entries ++ rest a).map (·.hideLink) = told (answer a)) :
    (view.unit work answer refresh).Tells (entries ++ Log.given work.answer rest) told := by
  unfold View.unit Work.answer
  cases hresult : work.result with
  | error e =>
    rw [hfailed e hresult]
    rfl
  | ok result => exact hdone result.1 result.2 hresult

/-- Work that has failed with nothing reported. -/
theorem Tells.unit_of_error {work : Work α} {answer : α → β} {refresh : α → Cache → Cache}
    {e : IdentityError} (herror : work.result = .error e) (rest : α → List Log.Entry)
    (told : β → List Log.Entry) :
    (view.unit work answer refresh).Tells ([] ++ Log.given work.answer rest) told := by
  refine .unit (fun _ _ => rfl) fun a after hok => ?_
  rw [herror] at hok
  cases hok

end Ending

namespace Service

open Ending

variable {service : Service} {around : Surroundings} {sender : String} {tables : Tables}

/-- The reports of two mails that differ in the link only. -/
theorem hidden_logging (sender : String) {mail other : Mail}
    (hsubject : mail.subject = other.subject) (hrecipients : mail.recipients = other.recipients)
    (htemplate : mail.template = other.template) :
    (((Mailer.logging sender mail).toOption.getD []).map (·.bare)).map (·.hideLink) =
      (((Mailer.logging sender other).toOption.getD []).map (·.bare)).map (·.hideLink) := by
  obtain ⟨subject, recipients, template, name, link⟩ := mail
  obtain rfl := hsubject
  obtain rfl := hrecipients
  obtain rfl := htemplate
  rfl

theorem mailingLog_of_error {type : TokenType} {email name : String} {e : IdentityError}
    (hmailer : around.mailer = .logging sender)
    (herror : (service.mailing around type email name tables).result = .error e) :
    service.mailingLog around type email name tables = [] := by
  refine if_neg fun hroom => ?_
  have haccept : around.mailer (.forToken service.site type email name
      (service.ledger.generateValue around.token)) = Mailer.logging sender _ := congrFun hmailer _
  rw [mailing_of_room hroom haccept] at herror
  cases herror

theorem mailingLog_of_ok {type : TokenType} {email name : String} {a : Unit} {after : Tables}
    (hmailer : around.mailer = .logging sender)
    (hok : (service.mailing around type email name tables).result = .ok (a, after)) :
    (service.mailingLog around type email name tables).map (·.hideLink) =
      service.mailed sender type email name tables := by
  obtain ⟨hroom, -, -⟩ := mailing_ok hok
  unfold mailingLog mailed
  dsimp only
  rw [if_pos hroom, hmailer, List.map_cons, List.map_cons]
  refine congrArg _ ?_
  cases type with
  | signup => exact hidden_logging sender rfl rfl rfl
  | passwordReset => exact hidden_logging sender rfl rfl rfl

theorem mailing_tells {α : Type} {type : TokenType} {email name : String} {view : View}
    {answer : Unit → α} {refresh : Unit → Cache → Cache} (hmailer : around.mailer = .logging sender)
    {entry : Log.Entry} (hentry : entry.hideLink = entry) :
    (view.unit (service.mailing around type email name tables) answer refresh).Tells
      (service.mailingLog around type email name tables ++
        Log.given (service.mailing around type email name tables).answer fun _ => [entry])
      fun _ => service.mailed sender type email name tables ++ [entry] := by
  refine .unit (fun _ => mailingLog_of_error hmailer) fun a after hok => ?_
  rw [List.map_append, mailingLog_of_ok hmailer hok, List.map_singleton, hentry]

theorem signup_tells (hmailer : around.mailer = .logging sender) (email name password : String)
    (view : View) :
    (service.signupEnding around email name password view).Tells
      (service.signupLog around email name password view.tables)
      fun _ => service.signedUp sender around.userId email name view.tables := by
  refine .given fun user hnew => ?_
  obtain ⟨hnormal, hvalid, -, -, hid, -⟩ := newUser_eq_ok.mp hnew
  simp only [signedUp, hnormal, hvalid, Except.mapError, Log.given_ok, ← hid]
  by_cases htaken :
      view.tables.userWithEmail? user.email ≠ none ∨ view.tables.userWithId? user.id ≠ none
  · rw [service.registering_of_taken around htaken, service.registeringLog_of_taken around htaken]
    exact .unit_of_error rfl _ _
  · simp only [ne_eq, not_or, Decidable.not_not] at htaken
    obtain ⟨hemail, hid⟩ := htaken
    rw [service.registering_of_free around hemail hid,
      service.registeringLog_of_free around hemail hid]
    exact mailing_tells hmailer rfl

theorem resendSignupToken_tells (hmailer : around.mailer = .logging sender) (email : String)
    (view : View) :
    (service.resendSignupTokenEnding around email view).Tells
      (service.resendSignupTokenLog around email view.tables)
      fun _ => service.reissued sender .signup "Signup token resent" email view.tables := by
  refine .given fun normal hnormal => ?_
  simp only [reissued, hnormal, Log.given_ok]
  unfold reissuing reissuingLog
  cases view.tables.userWithEmail? normal with
  | none => exact .unit_of_error rfl _ _
  | some user =>
    by_cases hverified : user.isVerified
    · simp only [hverified, if_true]
      exact .unit_of_error rfl _ _
    · simp only [hverified]
      exact mailing_tells hmailer rfl

theorem resetPassword_tells (hmailer : around.mailer = .logging sender) (email : String)
    (view : View) :
    (service.resetPasswordEnding around email view).Tells
      (service.resetPasswordLog around email view.tables)
      fun _ => service.reissued sender .passwordReset "Password reset requested" email
        view.tables := by
  refine .given fun normal hnormal => ?_
  simp only [reissued, hnormal, Log.given_ok]
  unfold issuingReset issuingResetLog
  cases view.tables.userWithEmail? normal with
  | none => exact .unit_of_error rfl _ _
  | some user =>
    by_cases hverified : user.isVerified
    · simp only [hverified, if_true]
      exact mailing_tells hmailer rfl
    · simp only [hverified]
      exact .unit_of_error rfl _ _

/-- Tokens of tidy tables have owners, so one that is used up is told of with its owner. -/
theorem redeeming_tells {type : TokenType} {value message : String} {now : Instant}
    {change : User → User} {refresh : User → Cache → Cache} (orphaned : IdentityError)
    (hemail : ∀ user, (change user).email = user.email) {view : View} (h : view.tables.Tidy) :
    (view.unit (redeeming value type now change orphaned view.tables) User.toPublic refresh).Tells
      (redeemingLog value type now view.tables ++
        Log.given (redeeming value type now change orphaned view.tables).answer fun user =>
          [said .info message [("user_id", .displayed user.id)]])
      (redeemed type message) := by
  unfold redeemingLog
  cases htoken : view.tables.liveToken? value type now with
  | none =>
    rw [redeeming_of_none change orphaned htoken]
    exact .unit_of_error rfl _ _
  | some token =>
    obtain ⟨hmem, -, htype, -⟩ := Tables.of_liveToken?_eq_some htoken
    obtain ⟨owner, howner⟩ := h.owner hmem
    obtain ⟨-, hsame⟩ := Tables.of_userWithEmail?_eq_some howner
    refine .unit (fun e herror => ?_) fun user after hok => ?_
    · rw [redeeming_of_owner hemail orphaned htoken howner] at herror
      cases herror
    · rw [redeeming_of_owner hemail orphaned htoken howner] at hok
      cases hok
      simp only [redeemed, User.toPublic, hemail, hsame, ← htype]
      rfl

theorem validateSignupToken_tells (value : String) {view : View} (h : view.tables.Tidy) :
    (validateSignupTokenEnding around value view).Tells
      (validateSignupTokenLog around value view.tables) (redeemed .signup "User verified") := by
  unfold validateSignupTokenEnding validateSignupTokenLog
  by_cases hvalue : value = ""
  · simp only [if_pos hvalue]
    rfl
  · simp only [if_neg hvalue]
    exact redeeming_tells _ (by simp) h

theorem changePasswordWithToken_tells (value password : String) {view : View}
    (h : view.tables.Tidy) :
    (service.changePasswordWithTokenEnding around value password view).Tells
      (service.changePasswordWithTokenLog around value password view.tables)
      (redeemed .passwordReset "Password changed with reset token") :=
  .given fun hashed _ => redeeming_tells _ (fun user => user.withPassword_email hashed) h

theorem changePassword_tells (email password : String) (view : View) :
    (service.changePasswordEnding around email password view).Tells
      (service.changePasswordLog around email password view.tables)
      fun _ => passwordChanged email view.tables := by
  refine .given fun checked hnew => ?_
  obtain ⟨hnormal, -, -⟩ := newPassword_eq_ok.mp hnew
  simp only [passwordChanged, hnormal, Except.mapError, Log.given_ok]
  rw [← List.nil_append (Log.given _ _)]
  refine .unit (fun _ _ => rfl) fun changed after hok => ?_
  obtain ⟨user, huser, rfl, -, -⟩ := replacing_ok hok
  rw [huser]
  rfl

theorem purgeExpiredTokens_tells (now : Instant) (view : View) :
    (view.unit (purging now view.tables) id fun _ => id).Tells
      (purgeExpiredTokensLog now view.tables) fun n =>
        [said .info "Purged expired tokens" [("purged", .integer n)]] := rfl

theorem signedIn_map {α β : Type} (f : α → β) (email : String) (rows : Tables)
    (answer : Except IdentityError α) :
    signedIn email rows (answer.map f) = signedIn email rows answer := by
  cases answer with
  | error e => cases e <;> simp only [signedIn, Except.map]
  | ok a => simp only [signedIn, Except.map]

/-- What signing in writes depends on its answer and the stored user's public part only. -/
theorem signin_tells (email password : String) (view : View) :
    (service.signinLog email password view.tables).map (·.hideLink) =
      signedIn email view.tables (service.signinEnding email password view).1 := by
  unfold signinLog signinEnding authenticate signedIn
  cases (normalizeEmail email).mapError fun _ => IdentityError.invalidCredentials with
  | error e => rfl
  | ok normal =>
    simp only [Log.given_ok, bind, Except.bind]
    cases view.tables.userWithEmail? normal with
    | none => rfl
    | some user =>
      by_cases hverified : user.isVerified
      · simp only [hverified, if_true]
        rcases service.hasher.compare user.password.hash user.password.salt (utf8 password) with
          (_ | _ | _ | _ | _) | _ <;> rfl
      · simp only [hverified]
        rfl

end Service

def Call.told (service : Service) (sender userId : String) (rows : Tables) :
    Call → Except IdentityError Answer → List Log.Entry
  | signup email name _, answer =>
    (Log.given answer fun _ => service.signedUp sender userId email name rows).map
      (·.inside (Service.emailSpan "signup" email))
  | signin email _, answer =>
    (Service.signedIn email rows answer).map (·.inside (Service.emailSpan "signin" email))
  | resendSignupToken email, answer =>
    (Log.given answer fun _ =>
      service.reissued sender .signup "Signup token resent" email rows).map
      (·.inside (Service.emailSpan "resend_signup_token" email))
  | validateSignupToken _, answer =>
    (Log.given answer (ofOwner (Service.redeemed .signup "User verified"))).map
      (·.inside { name := "validate_signup_token" })
  | resetPassword email, answer =>
    (Log.given answer fun _ =>
      service.reissued sender .passwordReset "Password reset requested" email rows).map
      (·.inside (Service.emailSpan "reset_password" email))
  | changePasswordWithToken _ _, answer =>
    (Log.given answer
      (ofOwner (Service.redeemed .passwordReset "Password changed with reset token"))).map
      (·.inside { name := "change_password_with_token" })
  | changePassword email _, answer =>
    (Log.given answer fun _ => Service.passwordChanged email rows).map
      (·.inside (Service.emailSpan "change_password" email))
  | purgeExpiredTokens, answer =>
    (Log.given answer ofCount).map (·.inside { name := "purge_expired_tokens" })
  | resetPasswordToken _, _ | getUser _, _ | getUserByEmail _, _ | remember _, _ => []
where
  ofOwner (told : PublicUser → List Log.Entry) : Answer → List Log.Entry
    | .user owner => told owner
    | _ => []
  ofCount : Answer → List Log.Entry
    | .count n => [Service.said .info "Purged expired tokens" [("purged", .integer n)]]
    | _ => []

theorem Ending.Tells.answering {α : Type} {ending : Ending α} {entries : List Log.Entry}
    (f : α → Answer) (told : Answer → List Log.Entry) (span : Log.Span)
    (h : ending.Tells entries fun a => told (f a)) :
    (entries.map (·.inside span)).map (·.hideLink) =
      (Log.given (ending.map f).1 told).map (·.inside span) := by
  have hgiven : Log.given (ending.map f).1 told = Log.given ending.1 fun a => told (f a) := by
    obtain ⟨e | a, after⟩ := ending <;> rfl
  rw [hgiven, ← h, List.map_map, List.map_map]
  rfl

/-- What a call reports, with links hidden, is what it tells. -/
theorem Call.log_tells (service : Service) {around : Surroundings} {sender : String}
    (hmailer : around.mailer = .logging sender) (call : Call) {view : View}
    (h : view.tables.Tidy) :
    (call.log service around view.tables).map (·.hideLink) =
      call.told service sender around.userId view.tables (call.ending service around view).1 := by
  cases call with
  | signup email name password =>
    exact Ending.Tells.answering _
      (fun _ => service.signedUp sender around.userId email name view.tables) _
      (Service.signup_tells hmailer email name password view)
  | signin email password =>
    simp only [log, told, ending, Ending.map, Service.signedIn_map, ← Service.signin_tells,
      List.map_map]
    rfl
  | resendSignupToken email =>
    exact Ending.Tells.answering _ (fun _ => service.reissued sender .signup _ email view.tables) _
      (Service.resendSignupToken_tells hmailer email view)
  | validateSignupToken token =>
    exact Ending.Tells.answering .user (told.ofOwner (Service.redeemed .signup "User verified")) _
      (Service.validateSignupToken_tells token h)
  | resetPassword email =>
    exact Ending.Tells.answering _
      (fun _ => service.reissued sender .passwordReset _ email view.tables) _
      (Service.resetPassword_tells hmailer email view)
  | changePasswordWithToken token password =>
    exact Ending.Tells.answering .user (told.ofOwner (Service.redeemed .passwordReset _)) _
      (Service.changePasswordWithToken_tells token password h)
  | changePassword email password =>
    exact Ending.Tells.answering _ (fun _ => Service.passwordChanged email view.tables) _
      (Service.changePassword_tells email password view)
  | purgeExpiredTokens =>
    exact Ending.Tells.answering .count told.ofCount _
      (Service.purgeExpiredTokens_tells around.now view)
  | resetPasswordToken _ | getUser _ | getUserByEmail _ | remember _ => rfl

/-! ### What the tables without secrets tell -/

namespace Service

variable (service : Service) (sender : String) (rows : Tables)

theorem mailed_masked (type : TokenType) (email name : String) :
    service.mailed sender type email name rows.masked =
      service.mailed sender type email name rows := by
  rw [mailed, rows.masked_countP fun _ => rfl]
  rfl

theorem signedUp_masked (userId email name : String) :
    service.signedUp sender userId email name rows.masked =
      service.signedUp sender userId email name rows := by
  simp only [signedUp, mailed_masked]

theorem reissued_masked (type : TokenType) (message email : String) :
    service.reissued sender type message email rows.masked =
      service.reissued sender type message email rows := by
  unfold reissued
  refine congrArg (Log.given _) (funext fun normal => ?_)
  rw [rows.masked_userWithEmail?]
  cases rows.userWithEmail? normal with
  | none => rfl
  | some user => exact congrArg (· ++ _) (service.mailed_masked sender rows _ _ _)

theorem signedIn_masked {α : Type} (email : String) (answer : Except IdentityError α) :
    signedIn email rows.masked answer = signedIn email rows answer := by
  unfold signedIn
  refine congrArg (Log.given _) (funext fun normal => ?_)
  rw [rows.masked_userWithEmail?]
  cases rows.userWithEmail? normal <;> rfl

theorem passwordChanged_masked (email : String) :
    passwordChanged email rows.masked = passwordChanged email rows := by
  unfold passwordChanged
  refine congrArg (Log.given _) (funext fun normal => ?_)
  rw [rows.masked_userWithEmail?]
  cases rows.userWithEmail? normal <;> rfl

end Service

/-- What a call tells does not depend on what is masked. -/
theorem Call.told_masked (service : Service) (sender userId : String) (rows : Tables) (call : Call)
    (answer : Except IdentityError Answer) :
    call.masked.told service sender userId rows.masked answer =
      call.told service sender userId rows answer := by
  cases call <;> simp only [masked, told, Service.signedUp_masked, Service.reissued_masked,
    Service.signedIn_masked, Service.passwordChanged_masked]

/-! ### Outlines of runs -/

/-- Rows without secrets, and a log without links. -/
structure Outline where
  rows : Tables
  log : Log

def Event.masked (event : Event) : Request × Except IdentityError Answer :=
  (event.request.masked, event.answer)

def Outline.add (service : Service) (sender : String)
    (event : Request × Except IdentityError Answer) (outline : Outline) : Outline where
  rows := event.1.call.leaves service event.1.around outline.rows event.2
  log := outline.log.extend
    (event.1.call.told service sender event.1.around.userId outline.rows event.2)

def Session.Outlined (s : Session) (outline : Outline) : Prop :=
  ∃ view, s.Shows view ∧ view.tables.Tidy ∧ view.tables.masked = outline.rows ∧
    s.log.hidden = outline.log

theorem Session.fresh_outlined (cache : Cache) :
    (Session.fresh cache).Outlined ⟨{}, (Migration.migrate {}).2.log.hidden⟩ :=
  ⟨_, fresh_shows cache, .empty, rfl, rfl⟩

namespace Service

variable (service : Service) {sender : String}

/-- Serving a request adds to the outline what its public part and its answer determine. -/
theorem serve_outlined {request : Request} (hmailer : request.around.mailer = .logging sender)
    {s : Session} {outline : Outline} (hs : s.Outlined outline) :
    (service.serve request s).2.Outlined
      (outline.add service sender (service.serve request s).1.masked) := by
  obtain ⟨view, hshows, htidy, hrows, hlog⟩ := hs
  have hleaves := request.call.ending_masked service request.around htidy
  have htells := request.call.log_tells service hmailer htidy
  have hwritten : (service.serve request s).2.log =
      s.log.extend (request.call.log service request.around view.tables) :=
    request.call.perform_logs service request.around view s hshows
  have hmasked : (service.serve request s).1.masked =
      (request.masked, (request.call.ending service request.around view).1) :=
    congrArg (request.masked, ·) (service.serve_answer request hshows)
  rw [hmasked]
  refine ⟨_, service.serve_shows request hshows, request.call.ending_tidy _ _ htidy, ?_, ?_⟩
  · rw [hleaves, hrows, ← Call.leaves_masked, Outline.add, Request.masked]
  · rw [hwritten, Log.hidden_extend, hlog, htells, ← Call.told_masked, hrows, Outline.add,
      Request.masked]
    rfl

/-- By induction on the requests, outlines tell all that is written. -/
theorem run_outlined {start : Session} {outline : Outline} (hstart : start.Outlined outline)
    {requests : List Request}
    (hmailer : ∀ request ∈ requests, request.around.mailer = .logging sender) :
    (service.run start requests).2.Outlined
      (((service.run start requests).1.map Event.masked).foldr (Outline.add service sender)
        outline) := by
  induction requests with
  | nil => exact hstart
  | cons request earlier ih =>
    have hearlier := ih fun other hother => hmailer other (List.mem_cons_of_mem _ hother)
    exact service.serve_outlined (hmailer request List.mem_cons_self) hearlier

theorem run_masked (start : Session) (requests : List Request) :
    (service.run start requests).1.map Event.masked =
      (requests.map Request.masked).zip ((service.run start requests).1.map (·.answer)) := by
  have hrequests : requests.map Request.masked =
      (service.run start requests).1.map fun event => event.request.masked := by
    have hmapped := congrArg (List.map Request.masked) (service.run_requests start requests)
    rw [List.map_map] at hmapped
    exact hmapped.symm
  rw [hrequests, List.zip_map']
  rfl

end Service

/-- Two runs that differ in passwords, salts, token values and presented tokens, and whose requests
are answered alike, write the same to the log, but for the links of mails, which are written for
debugging only. -/
theorem logs_keep_secrets (service : Service) {sender : String} (cache : Cache)
    {requests requests' : List Request}
    (hmailer : ∀ request ∈ requests, request.around.mailer = .logging sender)
    (hsame : requests'.map Request.masked = requests.map Request.masked)
    (hanswers : (service.run (.fresh cache) requests').1.map (·.answer) =
      (service.run (.fresh cache) requests).1.map (·.answer)) :
    let log := (service.run (.fresh cache) requests).2.log
    let log' := (service.run (.fresh cache) requests').2.log
    log'.entries.filter (·.level ≠ .debug) = log.entries.filter (·.level ≠ .debug) ∧
      log'.entries.map (·.hideLink) = log.entries.map (·.hideLink) := by
  have hmailer' : ∀ request ∈ requests', request.around.mailer = .logging sender := by
    intro request hrequest
    have hmasked := List.mem_map_of_mem (f := Request.masked) hrequest
    rw [hsame] at hmasked
    obtain ⟨other, hother, heq⟩ := List.mem_map.mp hmasked
    have hmailers := congrArg (·.around.mailer) heq
    exact hmailers.symm.trans (hmailer other hother)
  have hevents : (service.run (.fresh cache) requests').1.map Event.masked =
      (service.run (.fresh cache) requests).1.map Event.masked := by
    rw [service.run_masked, service.run_masked, hsame, hanswers]
  -- both logs are the one that the public events outline
  obtain ⟨-, -, -, -, hlog⟩ := service.run_outlined (Session.fresh_outlined cache) hmailer
  obtain ⟨-, -, -, -, hlog'⟩ := service.run_outlined (Session.fresh_outlined cache) hmailer'
  rw [hevents, ← hlog] at hlog'
  intro log log'
  have hentries : log'.entries.map (·.hideLink) = log.entries.map (·.hideLink) :=
    congrArg Log.entries hlog'
  refine ⟨?_, hentries⟩
  rw [← Log.filter_hideLink, hentries, Log.filter_hideLink]

/-- Someone signs up, confirms the address, and replaces the password with a token, with a mailer
that writes to the log. All random bytes are the same one, so that both tokens have one value. -/
def Request.recovering (byte : UInt8) (value password : String) : List Request :=
  [.changePasswordWithToken value password, .resetPassword "a@b", .validateSignupToken value,
    .signup "a@b" "n" password].map fun (call : Call) =>
    { call
      around := {
        now := 1, later := 1, userId := "u", salt := fun _ => byte, token := fun _ => byte
        mailer := .logging "s" } }

/-- Other passwords, salts and token values, of which the logs show the links only. -/
theorem recovered_logs_keep_secrets :
    let requests := Request.recovering 0 "AA" "p"
    let requests' := Request.recovering 4 "BA" "q"
    let answers := [.ok (.user ⟨"u", "n", "a@b"⟩), .ok .done, .ok (.user ⟨"u", "n", "a@b"⟩),
      .ok .done]
    let log := (Service.small.run (.fresh .unbounded) requests).2.log
    let log' := (Service.small.run (.fresh .unbounded) requests').2.log
    (∀ request ∈ requests, request.around.mailer = .logging "s") ∧
      requests'.map Request.masked = requests.map Request.masked ∧
      (Service.small.run (.fresh .unbounded) requests').1.map (·.answer) = answers ∧
      (Service.small.run (.fresh .unbounded) requests).1.map (·.answer) = answers ∧
      log'.entries ≠ log.entries ∧
      log'.entries.filter (·.level ≠ .debug) = log.entries.filter (·.level ≠ .debug) ∧
      log'.entries.map (·.hideLink) = log.entries.map (·.hideLink) := by
  intro requests requests' answers log log'
  have hmailer : ∀ request ∈ requests, request.around.mailer = .logging "s" := by
    simp [requests, Request.recovering]
  have hruns :
      (Service.small.run (.fresh .unbounded) requests').1.map (·.answer) = answers ∧
      (Service.small.run (.fresh .unbounded) requests).1.map (·.answer) = answers ∧
      log'.entries ≠ log.entries := by
    decide +kernel
  obtain ⟨hanswers', hanswers, hlinks⟩ := hruns
  exact ⟨hmailer, rfl, hanswers', hanswers, hlinks,
    logs_keep_secrets .small .unbounded hmailer rfl (hanswers'.trans hanswers.symm)⟩

end IdentityLifecycle
