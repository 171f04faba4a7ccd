import IdentityLifecycle.Json.Value
import IdentityLifecycle.Mail.Site

/-!
Mails that carry a link.
-/
namespace IdentityLifecycle

inductive MailTemplate where
  | signup
  | passwordReset
  deriving DecidableEq, Repr

def MailTemplate.name : MailTemplate → String
  | signup => "signup"
  | passwordReset => "password_reset"

structure Mail where
  subject : String
  recipients : List String
  template : MailTemplate
  name : String
  link : String
  deriving DecidableEq, Repr

namespace Mail

def signup (site : SiteDomain) (email name token : String) : Mail where
  subject := "Confirm your email address"
  recipients := [email]
  template := .signup
  name := name
  link := site.url ["auth", "signup", token]

def passwordReset (site : SiteDomain) (email name token : String) : Mail where
  subject := "Change your password"
  recipients := [email]
  template := .passwordReset
  name := name
  link := site.url ["auth", "reset-password", token]

def toJsonText (mail : Mail) : String :=
  let recipients := [','].intercalate (mail.recipients.map Json.stringText)
  String.ofList ("\x7b\"subject\":".toList ++ Json.stringText mail.subject ++ ",\"to\":[".toList ++
    recipients ++ "],\"template\":".toList ++ Json.stringText mail.template.name ++
    ",\"data\":\x7b\"name\":".toList ++ Json.stringText mail.name ++ ",\"url\":".toList ++
    Json.stringText mail.link ++ ['\x7d', '\x7d'])

end Mail

inductive MailError where
  | render (template message : String)
  | delivery (message : String)
  deriving DecidableEq, Repr

def MailError.message : MailError → String
  | render template message => "failed to render template " ++ template ++ ": " ++ message
  | delivery message => "failed to deliver mail: " ++ message

end IdentityLifecycle
