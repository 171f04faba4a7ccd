import IdentityLifecycle.Token.Ledger

/-!
# Expiry of tokens

A token issued at a time that is not negative expires its lifetime later, or at the last instant if
that is out of range: nothing wraps around.
-/

namespace IdentityLifecycle

theorem toInt_clampInt {n : Int} (hnonneg : 0 ≤ n) :
    (clampInt n).toInt = min n Int64.maxValue.toInt := by
  have hmin : Int64.minValue.toInt = -2 ^ 63 := rfl
  have hmax : Int64.maxValue.toInt = 2 ^ 63 - 1 := rfl
  unfold clampInt
  rw [if_neg (by omega)]
  by_cases hlarge : Int64.maxValue.toInt < n
  · rw [if_pos hlarge]
    omega
  · rw [if_neg hlarge]
    rw [Int64.toInt_ofInt_of_le (by omega) (by omega)]
    omega

/-- The product stops at the greatest word. -/
theorem toNat_saturatingMul (a b : UInt64) :
    (saturatingMul a b).toNat = min (a.toNat * b.toNat) (UInt64.size - 1) := by
  unfold saturatingMul
  by_cases hfits : a.toNat * b.toNat < UInt64.size
  · rw [if_pos hfits, UInt64.toNat_mul, Nat.mod_eq_of_lt hfits]
    omega
  · have hlast : (UInt64.ofNat (UInt64.size - 1)).toNat = UInt64.size - 1 := rfl
    rw [if_neg hfits, hlast]
    omega

/-- A lifetime has a thousand milliseconds for each second, or stops at the greatest signed word. -/
theorem toInt_lifetimeOfSeconds (seconds : UInt64) :
    (lifetimeOfSeconds seconds).toInt = min (1000 * (seconds.toNat : Int)) Int64.maxValue.toInt := by
  have hmin : Int64.minValue.toInt = -2 ^ 63 := rfl
  have hmax : Int64.maxValue.toInt = 2 ^ 63 - 1 := rfl
  have hmillis : (saturatingMul seconds 1000).toNat = min (seconds.toNat * 1000) (2 ^ 64 - 1) :=
    toNat_saturatingMul seconds 1000
  unfold lifetimeOfSeconds int64OfInt
  -- The second step sees whatever the first one has cut off as too large as well.
  by_cases hlarge : Int64.maxValue.toInt < (saturatingMul seconds 1000).toNat
  · rw [if_neg (by simp; omega), Option.getD_none]
    omega
  · rw [if_pos (by simp; omega), Option.getD_some,
      Int64.toInt_ofInt_of_le (by omega) (by omega)]
    omega

def TokenSettings.ttlSecs (settings : TokenSettings) : TokenType → UInt64
  | .signup => settings.signupTtlSecs
  | .passwordReset => settings.resetTtlSecs

theorem Ledger.lifetime_ofSettings (settings : TokenSettings) (type : TokenType) :
    (ofSettings settings).lifetime type = lifetimeOfSeconds (settings.ttlSecs type) := by
  cases type <;> rfl

/-- The expiry of a token, as an integer. -/
theorem Ledger.toInt_expiry (settings : TokenSettings) (type : TokenType) {now : Instant}
    (hnow : 0 ≤ now) :
    (now.after ((ofSettings settings).lifetime type)).toInt =
      min (now.toInt + 1000 * (settings.ttlSecs type).toNat) Int64.maxValue.toInt := by
  have hnonneg : 0 ≤ now.toInt := Int64.le_iff_toInt_le.mp hnow
  have hlast : 0 ≤ Int64.maxValue.toInt := by decide
  have hlifetime := toInt_lifetimeOfSeconds (settings.ttlSecs type)
  rw [lifetime_ofSettings, Instant.after, toInt_clampInt (by omega), hlifetime]
  omega

/-- A token is live until its lifetime is over or the last instant is reached. -/
theorem Ledger.lt_expiry_iff (settings : TokenSettings) (type : TokenType) {now later : Instant}
    (hnow : 0 ≤ now) :
    later < now.after ((ofSettings settings).lifetime type) ↔
      later.toInt < now.toInt + 1000 * (settings.ttlSecs type).toNat ∧ later < Int64.maxValue := by
  rw [Int64.lt_iff_toInt_lt, Int64.lt_iff_toInt_lt, toInt_expiry settings type hnow]
  omega

end IdentityLifecycle
