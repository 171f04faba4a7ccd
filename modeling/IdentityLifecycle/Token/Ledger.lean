import IdentityLifecycle.Settings
import IdentityLifecycle.Store.Query

/-!
The ledger of tokens: it issues them, finds them while they are live, and uses them up.
-/
namespace IdentityLifecycle

def saturatingMul (a b : UInt64) : UInt64 :=
  if a.toNat * b.toNat < UInt64.size then a * b else UInt64.ofNat (UInt64.size - 1)

/-- A lifetime of seconds in milliseconds, or the longest lifetime if that is out of range. -/
def lifetimeOfSeconds (seconds : UInt64) : Instant :=
  (int64OfInt (saturatingMul seconds 1000).toNat).getD Int64.maxValue

structure Ledger where
  /-- How many random bytes a token value is made from. -/
  tokenBytes : Nat
  signupLifetime : Instant
  resetLifetime : Instant
  deriving DecidableEq, Repr

namespace Ledger

def ofSettings (settings : TokenSettings) : Ledger where
  tokenBytes := settings.tokenBytes.toNat
  signupLifetime := lifetimeOfSeconds settings.signupTtlSecs
  resetLifetime := lifetimeOfSeconds settings.resetTtlSecs

def lifetime (ledger : Ledger) : TokenType → Instant
  | .signup => ledger.signupLifetime
  | .passwordReset => ledger.resetLifetime

def generateValue (ledger : Ledger) (random : ByteSource) : String :=
  Token.valueOfBytes (random.take ledger.tokenBytes)

/-- Puts one new token in the place of all tokens of the type for the email. -/
def issue (ledger : Ledger) (email : String) (type : TokenType) (now : Instant)
    (random : ByteSource) : Query Token := do
  let superseded ← Query.deleteTokensFor email type
  let token : Token := {
    value := ledger.generateValue random
    type := type
    email := email
    expiresAt := now.after (ledger.lifetime type) }
  Query.createToken token
  Query.report {
    level := .debug
    source := .ledger
    message := "Issued token"
    fields := [("email", .text email), ("token_type", .displayed type.text),
      ("superseded", .integer superseded)] }
  return token

def peek (value : String) (type : TokenType) (now : Instant) : Query (Option Token) := do
  return (← Query.liveToken value type now).filter (·.isLive now)

def consume (value : String) (type : TokenType) (now : Instant) : Query (Option Token) := do
  match ← peek value type now with
  | none => return none
  | some token =>
    let _ ← Query.deleteToken token.value
    Query.report {
      level := .debug
      source := .ledger
      message := "Consumed token"
      fields := [("email", .text token.email), ("token_type", .displayed type.text)] }
    return some token

def describe (ledger : Ledger) : String :=
  "TokenLedger \x7b generator: TokenGenerator \x7b token_bytes: " ++ toString ledger.tokenBytes ++
    " \x7d, signup_ttl_ms: " ++ toString ledger.signupLifetime ++ ", reset_ttl_ms: " ++
    toString ledger.resetLifetime ++ " \x7d"

end Ledger

end IdentityLifecycle
