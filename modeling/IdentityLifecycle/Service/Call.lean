import IdentityLifecycle.Service

/-!
The operations of the service as values.
-/
namespace IdentityLifecycle

inductive Call where
  | signup (email name password : String)
  | signin (email password : String)
  | resendSignupToken (email : String)
  | validateSignupToken (token : String)
  | resetPassword (email : String)
  | resetPasswordToken (token : String)
  | changePasswordWithToken (token password : String)
  | changePassword (email password : String)
  | getUser (id : String)
  | getUserByEmail (email : String)
  | remember (user : PublicUser)
  | purgeExpiredTokens
  deriving DecidableEq, Repr

inductive Answer where
  | done
  | user (user : PublicUser)
  | count (n : Nat)
  deriving DecidableEq, Repr

def Procedure.answering {α : Type} (f : α → Answer) (procedure : Procedure α) :
    Procedure Answer := do
  return f (← procedure)

def Call.perform (service : Service) (around : Surroundings) : Call → Procedure Answer
  | signup email name password =>
    (service.signup around email name password).answering fun _ => .done
  | signin email password => (service.signin email password).answering .user
  | resendSignupToken email => (service.resendSignupToken around email).answering fun _ => .done
  | validateSignupToken token => (Service.validateSignupToken around token).answering .user
  | resetPassword email => (service.resetPassword around email).answering fun _ => .done
  | resetPasswordToken token =>
    (Service.resetPasswordToken around.now token).answering fun _ => .done
  | changePasswordWithToken token password =>
    (service.changePasswordWithToken around token password).answering .user
  | changePassword email password =>
    (service.changePassword around email password).answering fun _ => .done
  | getUser id => (Service.getUser id).answering .user
  | getUserByEmail email => (Service.getUserByEmail email).answering .user
  | remember user => (Service.remember user).answering fun _ => .done
  | purgeExpiredTokens => (Service.purgeExpiredTokens around.now).answering .count

end IdentityLifecycle
