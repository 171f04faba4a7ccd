import IdentityLifecycle.Proofs.Hashing

/-!
# What hashing and comparing answer

Hashing fails on an empty password and on a salt of the wrong length, and otherwise makes the key
of the password under the salt. Comparing looks at the hash, the salt and the password in this
order before it derives a key, and accepts just the passwords that have the given one.
-/

namespace IdentityLifecycle.Hasher

variable {hasher : Hasher} {settings : HasherSettings} {password other salt : Bytes}
  {supplied : Option Bytes} {random : ByteSource}

theorem settings_eq (hok : ofSettings settings = .ok hasher) : hasher.settings = settings := by
  unfold ofSettings at hok
  repeat
    split at hok
    · cases hok
  cases hok
  rfl

theorem length_key (hok : ofSettings settings = .ok hasher) (password salt : Bytes) :
    (hasher.key password salt).length = settings.keyLength.toNat := by
  rw [key, Hash.length_argon2id, keyLength, settings_eq hok]

theorem key_ne_nil (hok : ofSettings settings = .ok hasher) (password salt : Bytes) :
    hasher.key password salt ≠ [] := by
  intro hnil
  have hlength := Hash.length_argon2id hasher.costs hasher.keyLength password salt
  have hfour := four_le_keyLength hok
  rw [key] at hnil
  rw [hnil, List.length_nil] at hlength
  omega

/-! ### The salt -/

theorem effectiveSalt_of_supplied (hne : salt ≠ []) :
    hasher.effectiveSalt (some salt) random = salt := by
  cases salt with
  | nil => exact absurd rfl hne
  | cons b bs => rfl

theorem effectiveSalt_of_drawn (hnone : ∀ s, supplied = some s → s = []) :
    hasher.effectiveSalt supplied random = random.take hasher.saltLength := by
  cases supplied with
  | none => rfl
  | some s =>
    obtain rfl := hnone s rfl
    rfl

/-! ### Keys, hashes and comparisons of passwords that are not too long -/

/-- Of a password that is not too long, only the length of the salt decides whether a key is
derived. -/
theorem derive_of_length (hpassword : password.length ≤ maxInputLength) (salt : Bytes) :
    hasher.derive password salt =
      if salt.length < minSaltLength ∨ maxInputLength < salt.length then .error .invalidSalt
      else .ok (hasher.key password salt) := by
  have hshort : ¬maxInputLength < password.length := Nat.not_lt.mpr hpassword
  unfold derive refusal?
  by_cases hwrong : salt.length < minSaltLength ∨ maxInputLength < salt.length
  · simp [hshort, hwrong]
  · simp [hshort, hwrong]

/-- What comes of hashing a password that is not too long. -/
theorem generateHash_of_length (hpassword : password.length ≤ maxInputLength)
    (hsalt : hasher.effectiveSalt supplied random = salt) :
    hasher.generateHash password supplied random =
      if password = [] then .error .invalidPassword
      else if salt.length < minSaltLength ∨ maxInputLength < salt.length then .error .invalidSalt
      else .ok ⟨hasher.key password salt, salt⟩ := by
  rw [generateHash_eq_derive, hsalt, derive_of_length hpassword]
  by_cases hwrong : salt.length < minSaltLength ∨ maxInputLength < salt.length
  · rw [if_pos hwrong, if_pos hwrong]
    exact congrArg (ite (password = []) _) (ite_self _)
  · have hne : salt ≠ [] := by
      rintro rfl
      exact hwrong (.inl (by decide))
    rw [if_neg hwrong, if_neg hwrong, if_neg hne]
    rfl

theorem generateHash_eq_ok_iff (hpassword : password.length ≤ maxInputLength)
    (hsalt : hasher.effectiveSalt supplied random = salt) {hashed : HashedPassword} :
    hasher.generateHash password supplied random = .ok hashed ↔
      password ≠ [] ∧ minSaltLength ≤ salt.length ∧ salt.length ≤ maxInputLength ∧
        hashed = ⟨hasher.key password salt, salt⟩ := by
  rw [generateHash_of_length hpassword hsalt]
  by_cases hempty : password = []
  · simp [hempty]
  · rw [if_neg hempty]
    by_cases hwrong : salt.length < minSaltLength ∨ maxInputLength < salt.length
    · rw [if_pos hwrong]
      refine iff_of_false nofun ?_
      rintro ⟨-, hmin, hmax, -⟩
      exact hwrong.elim (Nat.not_lt.mpr hmin) (Nat.not_lt.mpr hmax)
    · obtain ⟨hmin, hmax⟩ := not_or.mp hwrong
      rw [if_neg hwrong]
      simp [hempty, Nat.not_lt.mp hmin, Nat.not_lt.mp hmax, eq_comm]

/-- Nothing but an empty password and the length of the salt is complained about. -/
theorem eq_of_generateHash_error (hpassword : password.length ≤ maxInputLength) {e : HashError}
    (herror : hasher.generateHash password supplied random = .error e) :
    e = if password = [] then .invalidPassword else .invalidSalt := by
  rw [generateHash_of_length hpassword rfl] at herror
  by_cases hempty : password = []
  · rw [if_pos hempty] at herror ⊢
    cases herror
    rfl
  · rw [if_neg hempty] at herror ⊢
    split at herror
    · cases herror
      rfl
    · cases herror

/-- What comes of a comparison, in the order in which its parts are checked. -/
theorem compare_of_length (hpassword : password.length ≤ maxInputLength)
    (hsalt : salt.length ≤ maxInputLength) (hash : Bytes) :
    hasher.compare hash salt password =
      if hash = [] then .error .invalidHash
      else if salt = [] then .error .invalidSalt
      else if password = [] then .error .invalidPassword
      else if salt.length < minSaltLength then .error .invalidSalt
      else if hash = hasher.key password salt then .ok ()
      else .error .passwordNotMatch := by
  have hlimit : ¬maxInputLength < salt.length := Nat.not_lt.mpr hsalt
  simp only [compare, List.isEmpty_iff, derive_of_length hpassword, hlimit, or_false]
  by_cases hshort : salt.length < minSaltLength
  · rw [if_pos hshort, if_pos hshort]
  · rw [if_neg hshort, if_neg hshort]
    simp only [eq_comm]

/-- A hash that has been made compares equal with just the passwords that have the same key. -/
theorem compare_key (hok : ofSettings settings = .ok hasher)
    (hother : other.length ≤ maxInputLength) (hmin : minSaltLength ≤ salt.length)
    (hmax : salt.length ≤ maxInputLength) (password : Bytes) :
    hasher.compare (hasher.key password salt) salt other = .ok () ↔
      other ≠ [] ∧ hasher.key other salt = hasher.key password salt := by
  have hsalt : salt ≠ [] := by
    rintro rfl
    exact absurd hmin (by decide)
  rw [compare_of_length hother hmax, if_neg (key_ne_nil hok password salt), if_neg hsalt]
  by_cases hempty : other = []
  · rw [if_pos hempty]
    exact iff_of_false nofun (fun h => h.1 hempty)
  · rw [if_neg hempty, if_neg (Nat.not_lt.mpr hmin)]
    by_cases hsame : hasher.key password salt = hasher.key other salt
    · rw [if_pos hsame]
      exact iff_of_true rfl ⟨hempty, hsame.symm⟩
    · rw [if_neg hsame]
      exact iff_of_false nofun (fun h => hsame h.2.symm)

/-- Hashing and comparing for one effective salt, and comparing for any bytes. -/
theorem generateHash_compare_exact (hok : ofSettings settings = .ok hasher)
    (hpassword : password.length ≤ maxInputLength) (hother : other.length ≤ maxInputLength)
    (hsalt : hasher.effectiveSalt supplied random = salt) :
    (∀ s, s ≠ [] → supplied = some s → salt = s) ∧
    ((∀ s, supplied = some s → s = []) →
      salt = random.take settings.saltLength.toNat ∧
        salt.length = settings.saltLength.toNat) ∧
    ((∃ hashed, hasher.generateHash password supplied random = .ok hashed) ↔
      password ≠ [] ∧ 8 ≤ salt.length ∧ salt.length ≤ 0xFFFFFFFF) ∧
    (∀ e, hasher.generateHash password supplied random = .error e →
      e = if password = [] then .invalidPassword else .invalidSalt) ∧
    (∀ hashed, hasher.generateHash password supplied random = .ok hashed →
      hashed.salt = salt ∧ hashed.hash.length = settings.keyLength.toNat ∧
        (hasher.compare hashed.hash hashed.salt other = .ok () ↔
          other ≠ [] ∧ hasher.key other salt = hasher.key password salt) ∧
        hasher.compare hashed.hash hashed.salt password = .ok ()) ∧
    ∀ hash given candidate : Bytes, given.length ≤ maxInputLength →
      candidate.length ≤ maxInputLength →
      hasher.compare hash given candidate =
        if hash = [] then .error .invalidHash
        else if given = [] then .error .invalidSalt
        else if candidate = [] then .error .invalidPassword
        else if given.length < 8 then .error .invalidSalt
        else if hash = hasher.key candidate given then .ok ()
        else .error .passwordNotMatch := by
  have hmade := @generateHash_eq_ok_iff hasher password salt supplied random hpassword hsalt
  refine ⟨?_, ?_, ?_, fun e herror => eq_of_generateHash_error hpassword herror, ?_,
    fun hash given candidate hgiven hcandidate => compare_of_length hcandidate hgiven hash⟩
  · rintro s hne rfl
    rw [← hsalt, effectiveSalt_of_supplied hne]
  · intro hnone
    have hdrawn : salt = random.take settings.saltLength.toNat := by
      rw [← hsalt, effectiveSalt_of_drawn hnone, saltLength, settings_eq hok]
    exact ⟨hdrawn, by rw [hdrawn, ByteSource.length_take]⟩
  · constructor
    · rintro ⟨hashed, hhashed⟩
      obtain ⟨hne, hmin, hmax, -⟩ := hmade.mp hhashed
      exact ⟨hne, hmin, hmax⟩
    · rintro ⟨hne, hmin, hmax⟩
      exact ⟨_, hmade.mpr ⟨hne, hmin, hmax, rfl⟩⟩
  · intro hashed hhashed
    obtain ⟨hne, hmin, hmax, rfl⟩ := hmade.mp hhashed
    exact ⟨rfl, length_key hok password salt, compare_key hok hother hmin hmax password,
      (compare_key hok hpassword hmin hmax password).mpr ⟨hne, rfl⟩⟩

theorem generateHash_compare_with_given_salt :
    ∃ hashed, Hasher.generateHash ⟨{}⟩ [1] (some [1, 2, 3, 4, 5, 6, 7, 8]) (fun _ => 0) =
        .ok hashed ∧
      hashed.salt = [1, 2, 3, 4, 5, 6, 7, 8] ∧ hashed.hash.length = 256 ∧
      Hasher.compare ⟨{}⟩ hashed.hash hashed.salt [1] = .ok () := by
  have hok : ofSettings {} = .ok ⟨{}⟩ := rfl
  have hpassword : [(1 : UInt8)].length ≤ maxInputLength := by decide
  have hother : [(2 : UInt8)].length ≤ maxInputLength := by decide
  have hsalt : effectiveSalt ⟨{}⟩ (some [1, 2, 3, 4, 5, 6, 7, 8]) (fun _ => 0) =
      [1, 2, 3, 4, 5, 6, 7, 8] := rfl
  obtain ⟨-, -, hsucceeds, -, hmade, -⟩ := generateHash_compare_exact hok hpassword hother hsalt
  obtain ⟨hashed, hhashed⟩ := hsucceeds.mpr ⟨by decide, by decide, by decide⟩
  obtain ⟨hsalt, hlength, -, hcompare⟩ := hmade hashed hhashed
  exact ⟨hashed, hhashed, hsalt, hlength, hcompare⟩

/-- The checks of a hasher do not look at the length of its salts. One that is longer than the key
derivation takes is refused once it is drawn. -/
theorem generateHash_refuses_long_salt :
    ∃ hasher, ofSettings { saltLength := 0x100000000 } = .ok hasher ∧
      8 ≤ (hasher.effectiveSalt none fun _ => 0).length ∧
      hasher.generateHash [1] none (fun _ => 0) = .error .invalidSalt := by
  refine ⟨⟨{ saltLength := 0x100000000 }⟩, rfl, ?_, rfl⟩
  rw [length_effectiveSalt]
  decide

end IdentityLifecycle.Hasher
