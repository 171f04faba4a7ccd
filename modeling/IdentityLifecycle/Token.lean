import IdentityLifecycle.Basic
import IdentityLifecycle.Text.Quoted

/-!
Single-use tokens, each issued for one purpose and one email address, until an instant.
-/
namespace IdentityLifecycle

/-! ### URL-safe base64, without padding -/

namespace Text.Base64

def digit (n : Nat) : Char :=
  if n < 26 then Char.ofNat (n + 65)
  else if n < 52 then Char.ofNat (n + 71)
  else if n < 62 then Char.ofNat (n - 4)
  else if n = 62 then '-'
  else '_'

/-- Three bytes become four digits; one or two bytes at the end become two or three. -/
def encode : List UInt8 → List Char
  | [] => []
  | [a] => [digit (a.toNat / 4), digit (a.toNat % 4 * 16)]
  | [a, b] =>
    [digit (a.toNat / 4), digit (a.toNat % 4 * 16 + b.toNat / 16), digit (b.toNat % 16 * 4)]
  | a :: b :: c :: rest =>
    digit (a.toNat / 4) :: digit (a.toNat % 4 * 16 + b.toNat / 16) ::
      digit (b.toNat % 16 * 4 + c.toNat / 64) :: digit (c.toNat % 64) :: encode rest

def isDigit (c : Char) : Bool :=
  c.isAlphanum || c == '-' || c == '_'

end Text.Base64

/-! ### Tokens -/

inductive TokenType where
  | signup
  | passwordReset
  deriving DecidableEq, Repr

namespace TokenType

def text : TokenType → String
  | signup => "SIGNUP"
  | passwordReset => "RESET_PASSWORD"

def describe : TokenType → String
  | signup => "Signup"
  | passwordReset => "PasswordReset"

def ofText (s : String) : Except String TokenType :=
  if s = "SIGNUP" then .ok signup
  else if s = "RESET_PASSWORD" then .ok passwordReset
  else .error ("unknown token type '" ++ s ++ "'")

theorem ofText_text (type : TokenType) : ofText type.text = .ok type := by
  cases type <;> rfl

end TokenType

structure Token where
  value : String
  type : TokenType
  email : String
  expiresAt : Instant
  deriving DecidableEq, Repr

namespace Token

/-- A token is live strictly before its expiry. -/
def isLive (token : Token) (now : Instant) : Bool := now < token.expiresAt

def describe (token : Token) : String :=
  "Token \x7b value: \"<redacted>\", token_type: " ++ token.type.describe ++ ", email: " ++
    Text.quoted token.email ++ ", expires_at: " ++ toString token.expiresAt ++ " \x7d"

def valueOfBytes (bytes : Bytes) : String := String.ofList (Text.Base64.encode bytes)

end Token

end IdentityLifecycle
