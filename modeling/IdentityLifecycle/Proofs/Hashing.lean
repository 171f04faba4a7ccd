import IdentityLifecycle.Hasher
import IdentityLifecycle.User.Validation

/-!
# Hashing of passwords

Keys have the length that was asked for, so a key is never empty. A stored password compares equal
with just those passwords that have the same key under its salt, and every other one is refused as
the wrong password.
-/

namespace IdentityLifecycle

namespace Hash

/-! ### Lengths of hashes -/

theorem length_bytesOfWord (word : UInt64) : (bytesOfWord word).length = 8 := by
  simp [bytesOfWord]

namespace Blake2b

theorem length_hash (size : Nat) (message : Bytes) :
    (hash size message).length = min size 64 := by
  have hwords : ∀ words : Vector UInt64 8, (words.toList.flatMap bytesOfWord).length = 64 := by
    intro words
    rw [List.length_flatMap, List.map_congr_left fun word _ => length_bytesOfWord word]
    simp [List.map_const']
  unfold hash
  rw [List.length_take, hwords]

end Blake2b

namespace Argon2id

theorem length_hashChain {rest : Nat} (hrest : rest ≤ 64) (links : Nat) (v : Bytes) :
    (hashChain rest links v).length = 32 * links + rest := by
  induction links generalizing v with
  | zero =>
    rw [hashChain, Blake2b.length_hash]
    omega
  | succ links ih =>
    rw [hashChain, List.length_append, List.length_take, Blake2b.length_hash, ih]
    omega

theorem length_longHash (size : Nat) (message : Bytes) : (longHash size message).length = size := by
  unfold longHash
  by_cases hshort : size ≤ 64
  · rw [if_pos hshort, Blake2b.length_hash]
    omega
  · have hrest : size - 32 * ((size - 1) / 32 - 1) ≤ 64 := by omega
    rw [if_neg hshort, List.length_append, List.length_take, Blake2b.length_hash,
      length_hashChain hrest]
    omega

end Argon2id

/-- A hash has the size that was asked for. -/
theorem length_argon2id (costs : Argon2id.Costs) (size : Nat) (password salt : Bytes) :
    (argon2id costs size password salt).length = size :=
  Argon2id.length_longHash size _

end Hash

/-! ### Texts and random bytes -/

theorem length_utf8 (s : String) : (utf8 s).length = s.utf8ByteSize := rfl

theorem utf8_eq_nil {s : String} : utf8 s = [] ↔ s = "" := by
  rw [← List.length_eq_zero_iff, length_utf8, String.utf8ByteSize_eq_zero_iff]

theorem ByteSource.length_take (source : ByteSource) (n : Nat) : (source.take n).length = n := by
  simp [take]

theorem validatePassword_eq_ok {password : String} :
    validatePassword password = .ok () ↔
      password ≠ "" ∧ password.utf8ByteSize ≤ maxPasswordLength := by
  unfold validatePassword
  by_cases hempty : password = ""
  · simp [hempty]
  · by_cases hlong : maxPasswordLength < password.utf8ByteSize
    · simp only [hempty, hlong, if_true, if_false]
      simp [hlong]
    · simp only [hempty, hlong, if_false]
      simp [hempty]
      omega

namespace Hasher

variable {hasher : Hasher}

theorem four_le_keyLength {settings : HasherSettings} (hok : ofSettings settings = .ok hasher) :
    4 ≤ hasher.keyLength := by
  unfold ofSettings at hok
  repeat
    split at hok
    · cases hok
  next _ _ _ _ hshort _ =>
    cases hok
    simpa [keyLength, UInt64.lt_iff_toNat_lt] using hshort

/-- A key is derived just if both lengths are in range. -/
theorem refusal?_eq_none {passwordLength saltLength : Nat} :
    refusal? passwordLength saltLength = none ↔
      passwordLength ≤ maxInputLength ∧ minSaltLength ≤ saltLength ∧
        saltLength ≤ maxInputLength := by
  unfold refusal?
  generalize maxInputLength = limit
  by_cases hpassword : limit < passwordLength
  · rw [if_pos hpassword]
    exact iff_of_false (Option.some_ne_none _) fun h => Nat.not_lt.mpr h.1 hpassword
  · rw [if_neg hpassword]
    by_cases hsalt : saltLength < minSaltLength ∨ limit < saltLength
    · simp [hsalt]
      omega
    · simp [hsalt]
      omega

/-- When a key is derived, and which. -/
theorem derive_eq_ok {password salt key : Bytes} :
    hasher.derive password salt = .ok key ↔
      password.length ≤ maxInputLength ∧ minSaltLength ≤ salt.length ∧
        salt.length ≤ maxInputLength ∧ hasher.key password salt = key := by
  unfold derive
  cases hrefusal : refusal? password.length salt.length with
  | some e =>
    refine iff_of_false (fun hok => nomatch hok) ?_
    rintro ⟨hpassword, hmin, hmax, -⟩
    rw [refusal?_eq_none.mpr ⟨hpassword, hmin, hmax⟩] at hrefusal
    cases hrefusal
  | none =>
    obtain ⟨hpassword, hmin, hmax⟩ := refusal?_eq_none.mp hrefusal
    simp [hpassword, hmin, hmax]

/-- With an eligible salt it is only the length of the password that counts. -/
theorem derive_of_salt {salt : Bytes} (hmin : minSaltLength ≤ salt.length)
    (hmax : salt.length ≤ maxInputLength) (password : Bytes) :
    hasher.derive password salt =
      if maxInputLength < password.length then .error .invalidPassword
      else .ok (hasher.key password salt) := by
  unfold derive refusal?
  by_cases hlong : maxInputLength < password.length
  · rw [if_pos hlong, if_pos hlong]
  · simp only [hlong, if_false, Nat.not_lt.mpr hmin, Nat.not_lt.mpr hmax, decide_false,
      Bool.or_self, Bool.false_eq_true]

theorem length_effectiveSalt (hasher : Hasher) (supplied : Option Bytes) (random : ByteSource) :
    (hasher.effectiveSalt supplied random).length = hasher.effectiveSaltLength supplied := by
  unfold effectiveSalt effectiveSaltLength
  split
  · rfl
  · exact ByteSource.length_take _ _

/-- Hashing goes step by step: an empty password, an empty salt, and then what the derivation of
the key says. -/
theorem generateHash_eq_derive (hasher : Hasher) (password : Bytes) (supplied : Option Bytes)
    (random : ByteSource) :
    let salt := hasher.effectiveSalt supplied random
    hasher.generateHash password supplied random =
      if password = [] then .error .invalidPassword
      else if salt = [] then .error .invalidSalt
      else (hasher.derive password salt).map fun hash => { hash, salt } := by
  intro salt
  have hlength : salt.length = hasher.effectiveSaltLength supplied :=
    hasher.length_effectiveSalt supplied random
  simp only [generateHash, derive, ← hlength, List.isEmpty_iff, List.length_eq_zero_iff]
  cases refusal? password.length salt.length <;> rfl

theorem generateHash_eq_ok {password : Bytes} {random : ByteSource} {hashed : HashedPassword} :
    hasher.generateHash password none random = .ok hashed ↔
      password ≠ [] ∧ hashed.salt = random.take hasher.saltLength ∧
        hasher.derive password hashed.salt = .ok hashed.hash := by
  obtain ⟨hash, salt⟩ := hashed
  have hdrawn : hasher.effectiveSalt none random = random.take hasher.saltLength := rfl
  rw [generateHash_eq_derive, hdrawn]
  by_cases hempty : password = []
  · simp [hempty]
  rw [if_neg hempty]
  constructor
  · intro hok
    split at hok
    · cases hok
    cases hderive : hasher.derive password (random.take hasher.saltLength) with
    | error e =>
      rw [hderive] at hok
      cases hok
    | ok key =>
      rw [hderive] at hok
      cases hok
      exact ⟨hempty, rfl, hderive⟩
  · rintro ⟨-, rfl, hderive⟩
    have hsalt : random.take hasher.saltLength ≠ [] := by
      intro hnil
      obtain ⟨-, hmin, -⟩ := derive_eq_ok.mp hderive
      have hshort : minSaltLength ≤ ([] : Bytes).length := hnil ▸ hmin
      exact absurd hshort (by decide)
    rw [if_neg hsalt, hderive]
    rfl

/-- A password can be hashed if it is not empty and the lengths are in range, whatever the random
bytes are. -/
theorem generateHash_succeeds_iff {password : Bytes} {random : ByteSource} :
    (∃ hashed, hasher.generateHash password none random = .ok hashed) ↔
      password ≠ [] ∧ password.length ≤ maxInputLength ∧ minSaltLength ≤ hasher.saltLength ∧
        hasher.saltLength ≤ maxInputLength := by
  constructor
  · rintro ⟨hashed, hok⟩
    obtain ⟨hne, hsalt, hderive⟩ := generateHash_eq_ok.mp hok
    obtain ⟨hlength, hmin, hmax, -⟩ := derive_eq_ok.mp hderive
    rw [hsalt, ByteSource.length_take] at hmin hmax
    exact ⟨hne, hlength, hmin, hmax⟩
  · rintro ⟨hne, hlength, hmin, hmax⟩
    have hderive : hasher.derive password (random.take hasher.saltLength) =
        .ok (hasher.key password (random.take hasher.saltLength)) := by
      rw [derive_eq_ok, ByteSource.length_take]
      exact ⟨hlength, hmin, hmax, rfl⟩
    exact ⟨⟨_, _⟩, generateHash_eq_ok.mpr ⟨hne, rfl, hderive⟩⟩

/-- Where one password can be hashed, so can others. -/
theorem generateHash_ok_of_ok {password other : Bytes} {random : ByteSource}
    {hashed : HashedPassword} (hok : hasher.generateHash password none random = .ok hashed)
    (hne : other ≠ []) (hlength : other.length ≤ maxInputLength) (random' : ByteSource) :
    ∃ hashed', hasher.generateHash other none random' = .ok hashed' := by
  obtain ⟨-, -, hsalt⟩ := generateHash_succeeds_iff.mp ⟨hashed, hok⟩
  exact generateHash_succeeds_iff.mpr ⟨hne, hlength, hsalt⟩

def Checked (hasher : Hasher) : Prop := ∃ settings, ofSettings settings = .ok hasher

/-- A hash and a salt that a hasher can have made. -/
structure Stored (hashed : HashedPassword) : Prop where
  hash_ne_nil : hashed.hash ≠ []
  minSalt : minSaltLength ≤ hashed.salt.length
  maxSalt : hashed.salt.length ≤ maxInputLength

theorem Stored.salt_ne_nil {hashed : HashedPassword} (h : Stored hashed) : hashed.salt ≠ [] := by
  intro hnil
  have hmin := h.minSalt
  rw [hnil] at hmin
  exact absurd hmin (by decide)

/-- What a checked hasher makes can be stored. -/
theorem stored_of_generateHash {hashed : HashedPassword} {password : Bytes} {random : ByteSource}
    (hchecked : hasher.Checked) (hok : hasher.generateHash password none random = .ok hashed) :
    Stored hashed := by
  obtain ⟨settings, hsettings⟩ := hchecked
  obtain ⟨-, -, hderive⟩ := generateHash_eq_ok.mp hok
  obtain ⟨-, hmin, hmax, hkey⟩ := derive_eq_ok.mp hderive
  refine ⟨?_, hmin, hmax⟩
  intro hnil
  have hlength := Hash.length_argon2id hasher.costs hasher.keyLength password hashed.salt
  have hfour := four_le_keyLength hsettings
  rw [key] at hkey
  rw [hkey, hnil, List.length_nil] at hlength
  omega

/-- The password is not empty and has the stored key under the stored salt. -/
def Opens (hasher : Hasher) (hashed : HashedPassword) (password : Bytes) : Prop :=
  password ≠ [] ∧ hasher.derive password hashed.salt = .ok hashed.hash

theorem not_opens_nil (hasher : Hasher) (hashed : HashedPassword) : ¬hasher.Opens hashed [] :=
  fun h => h.1 rfl

/-- A stored password is matched by what opens it, and by nothing else. -/
theorem compare_eq_ok_iff_opens {hashed : HashedPassword} {password : Bytes}
    (hstored : Stored hashed) :
    hasher.compare hashed.hash hashed.salt password = .ok () ↔ hasher.Opens hashed password := by
  unfold compare Opens
  by_cases hempty : password = []
  · simp [hstored.hash_ne_nil, hstored.salt_ne_nil, hempty]
  · simp only [List.isEmpty_iff, hstored.hash_ne_nil, hstored.salt_ne_nil, hempty, if_false]
    cases hasher.derive password hashed.salt with
    | error e => simp
    | ok candidate => simp [hempty]

/-- A password that does not open a stored one is refused as such, and not because of what is
stored. -/
theorem compare_of_not_opens {hashed : HashedPassword} {password : Bytes}
    (hstored : Stored hashed) (hwrong : ¬hasher.Opens hashed password) :
    hasher.compare hashed.hash hashed.salt password = .error .passwordNotMatch ∨
      hasher.compare hashed.hash hashed.salt password = .error .invalidPassword := by
  have hrefused : hasher.compare hashed.hash hashed.salt password ≠ .ok () :=
    mt (compare_eq_ok_iff_opens hstored).mp hwrong
  unfold compare at hrefused ⊢
  by_cases hempty : password = []
  · simp [hstored.hash_ne_nil, hstored.salt_ne_nil, hempty]
  · simp only [List.isEmpty_iff, hstored.hash_ne_nil, hstored.salt_ne_nil, hempty, if_false]
      at hrefused ⊢
    rw [derive_of_salt hstored.minSalt hstored.maxSalt] at hrefused ⊢
    by_cases hlong : maxInputLength < password.length
    · simp [hlong]
    · simp only [hlong, if_false] at hrefused ⊢
      by_cases hkey : hasher.key password hashed.salt = hashed.hash
      · simp [hkey] at hrefused
      · simp [hkey]

theorem compare_eq_ok {hashed : HashedPassword} {password other : Bytes} {random : ByteSource}
    {settings : HasherSettings} (hsettings : ofSettings settings = .ok hasher)
    (hok : hasher.generateHash password none random = .ok hashed) :
    hasher.compare hashed.hash hashed.salt other = .ok () ↔
      other ≠ [] ∧ hasher.derive other hashed.salt = hasher.derive password hashed.salt := by
  obtain ⟨-, -, hderive⟩ := generateHash_eq_ok.mp hok
  rw [hderive]
  exact compare_eq_ok_iff_opens (stored_of_generateHash ⟨settings, hsettings⟩ hok)

end Hasher

end IdentityLifecycle
