import IdentityLifecycle.Proofs.Failure
import IdentityLifecycle.Proofs.Reachable
import IdentityLifecycle.Proofs.SiteUrls
import IdentityLifecycle.Proofs.TokenValue

/-!
# Mails and their tokens

A call that mails a token succeeds just if its one mail was accepted and its unit of work is
committed, and then the value in the mail is that of the one token of its slot. A mail that was
accepted before its unit failed to be committed has a token that is stored nowhere. All other calls
hand over nothing.
-/

namespace IdentityLifecycle

/-! ### The link of a token -/

namespace TokenType

def template : TokenType → MailTemplate
  | signup => .signup
  | passwordReset => .passwordReset

def path : TokenType → String
  | signup => "signup"
  | passwordReset => "reset-password"

end TokenType

namespace Mail

variable (site : SiteDomain) (type : TokenType) (email name : String) {value : String}

theorem recipients_forToken : (forToken site type email name value).recipients = [email] := by
  cases type <;> rfl

theorem template_forToken : (forToken site type email name value).template = type.template := by
  cases type <;> rfl

theorem link_forToken (hne : value ≠ "") (hfree : '/' ∉ value.toList) :
    (forToken site type email name value).link =
      site.url [] ++ ("auth/" ++ type.path ++ "/") ++ value := by
  have hpath : type.path ≠ "" ∧ '/' ∉ type.path.toList := by
    cases type <;> decide
  calc
    (forToken site type email name value).link = site.url ["auth", type.path, value] := by
      cases type <;> rfl
    _ = site.url [] ++ "/".intercalate ["auth", type.path, value] := by
      apply site.url_of_plain
      simp only [List.forall_mem_cons]
      exact ⟨by decide, hpath, ⟨hne, hfree⟩, by simp⟩
    _ = site.url [] ++ ("auth/" ++ type.path ++ "/") ++ value := by
      rw [String.append_assoc]
      rfl

/-- Behind the last slash of the link stands the value. -/
theorem afterLast_link_forToken (hne : value ≠ "") (hfree : '/' ∉ value.toList) :
    Text.afterLast '/' (forToken site type email name value).link = value := by
  rw [link_forToken site type email name hne hfree, ← String.append_assoc]
  exact Text.afterLast_append _ hfree

/-- An empty value leaves no part of the link to itself. -/
theorem afterLast_link_forToken_empty :
    Text.afterLast '/' (forToken site type email name "").link = type.path := by
  have hsegments : SiteDomain.pathSegments ["auth", type.path, ""] = ["auth", type.path] := by
    cases type <;> decide +kernel
  have hfree : '/' ∉ type.path.toList := by
    cases type <;> decide
  have hlink : (forToken site type email name "").link =
      site.url [] ++ "auth" ++ String.singleton '/' ++ type.path := by
    calc
      (forToken site type email name "").link = site.url ["auth", type.path, ""] := by
        cases type <;> rfl
      _ = site.url [] ++ ("auth" ++ "/" ++ type.path) := by
        rw [site.url_eq_append, hsegments]
        rfl
      _ = _ := by
        simp only [String.append_assoc]
        rfl
  rw [hlink, Text.afterLast_append _ hfree]

end Mail

/-! ### Calls that mail -/

theorem Call.mails?_asking (type : TokenType) (email : String) :
    (Call.asking type email).mails? = some (type, email) := by
  cases type <;> rfl

theorem Call.ReadsOnly.mails?_eq_none {call : Call} (hcall : call.ReadsOnly) :
    call.mails? = none := by
  cases call <;> first | rfl | cases hcall

namespace Event

def accepted (event : Event) : List Mail := (event.postings.filter (·.accepted)).map (·.mail)

end Event

namespace Tables

/-- A new token is the only one of its slot. -/
theorem filter_isFor_replaceToken (tables : Tables) (token : Token) :
    (tables.replaceToken token).tokens.filter (·.isFor token.email token.type) = [token] := by
  have hself : token.isFor token.email token.type = true := Token.isFor_iff.mpr ⟨rfl, rfl⟩
  simp [replaceToken, addToken, dropTokens, List.filter_filter, hself]

end Tables

/-- The mail carries the value of the one token of a type that is stored for its one recipient. -/
structure Mail.Delivers (mail : Mail) (type : TokenType) (recipient : String) (tables : Tables) :
    Prop where
  recipients : mail.recipients = [recipient]
  template : mail.template = type.template
  token : ∃ token, tables.tokens.filter (·.isFor recipient type) = [token] ∧
    token.value = Text.afterLast '/' mail.link

variable {service : Service} {around : Surroundings} {before after : Tables} {call : Call}
  {type : TokenType} {email : String}

/-- The mail for a token delivers it, once the token is stored. -/
theorem Mail.delivers_forToken (service : Service) (around : Surroundings)
    (hbytes : 1 ≤ service.ledger.tokenBytes) (type : TokenType) (email name : String)
    (before : Tables) :
    (forToken service.site type email name (service.ledger.generateValue around.token)).Delivers
      type email (before.replaceToken (service.tokenFor around type email)) where
  recipients := recipients_forToken _ _ _ _
  template := template_forToken _ _ _ _
  token := by
    refine ⟨_, before.filter_isFor_replaceToken (service.tokenFor around type email), ?_⟩
    have hne := Ledger.generateValue_ne_empty hbytes around.token
    have hfree := service.ledger.slash_not_mem_generateValue around.token
    exact (afterLast_link_forToken service.site type email name hne hfree).symm

/-- A call that has succeeded in mailing a token has mailed one, and that is stored. -/
theorem Effect.mails {answer : Answer} {mails : List Posting}
    (heffect : Effect service around before call answer mails after)
    (hcall : call.mails? = some (type, email)) (hbytes : 1 ≤ service.ledger.tokenBytes) :
    ∃ normal mail, normalizeEmail email = .ok normal ∧ mails = [⟨mail, true⟩] ∧
      mail.Delivers type normal after := by
  cases heffect with
  | @registered email name password user hnew hemail hid hroom =>
    obtain ⟨hnormal, -⟩ := Service.newUser_eq_ok.mp hnew
    cases hcall
    exact ⟨user.email, _, hnormal, rfl, Mail.delivers_forToken service around hbytes _ _ _ _⟩
  | @issued email normal type user hnormal huser hsuits hroom =>
    rw [Call.mails?_asking] at hcall
    cases hcall
    exact ⟨normal, _, hnormal, rfl, Mail.delivers_forToken service around hbytes _ _ _ _⟩
  | read hread =>
    rw [hread.mails?_eq_none] at hcall
    cases hcall
  | confirmed => cases hcall
  | recovered => cases hcall
  | changed => cases hcall
  | purged => cases hcall

/-! ### Calls that hand over nothing -/

namespace Service

end Service

/-- What a request is answered depends on the engine only where its unit of work is settled. -/
theorem Service.serve_settles (service : Service) (request : Request) {s : Session} {view : View}
    (hs : s.Shows view) (settling : Settling) :
    Procedure.Settles settling request.call.mails?.isSome
      (request.call.perform service request.around s)
      (request.call.perform service request.around (s.settledBy settling)) :=
  (request.call.transactional_perform service request.around).settles s settling
    ⟨hs.tables.settling, hs.tables.unreferred⟩

end IdentityLifecycle
