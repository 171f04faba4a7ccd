import IdentityLifecycle.Log
import IdentityLifecycle.Mail

/-!
Those who take mails for delivery.
-/
namespace IdentityLifecycle

abbrev Mailer := Mail → Except MailError (List Log.Entry)

namespace Mailer

def accepting : Mailer := fun _ => .ok []

def refusing (e : MailError) : Mailer := fun _ => .error e

def unrenderable (reason : String) : Mailer := fun mail =>
  .error (.render mail.template.name reason)

/-- Writes every mail to the log; the link only in an entry of its own, for debugging. -/
def logging (sender : String) : Mailer := fun mail =>
  let recipients := "[" ++ ", ".intercalate (mail.recipients.map Text.quoted) ++ "]"
  .ok [
    { level := .info
      source := .mailer
      message := "Mail sent"
      fields := [("from", .displayed sender), ("to", .displayed recipients),
        ("subject", .text mail.subject), ("template", .text mail.template.name)] },
    { level := .debug
      source := .mailer
      message := "Mail link"
      fields := [("template", .text mail.template.name), ("link", .text mail.link)] }]

end Mailer

end IdentityLifecycle
