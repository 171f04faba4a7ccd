import IdentityLifecycle.Proofs.Refreshing

/-!
# Users who are remembered

A user who was resolved elsewhere is filed with the email as it is spelled there, but an email is
looked for as it is kept. So the id finds the user in any case, and the email does if that is the
spelling in which it is kept.
-/

namespace IdentityLifecycle

variable {s : Session} {user : PublicUser} {spelling normal : String}

namespace Service

/-- Whom a look-up finds whatever the tables hold, the cache has. -/
theorem getUserByEmail_on_any_desk_iff (hnormal : normalizeEmail spelling = .ok normal) :
    (∀ desk, getUserByEmail spelling { s with desk } = (.ok user, { s with desk })) ↔
      s.cache.load (.email normal) = some user := by
  constructor
  · intro hfound
    let blank : Session := { s with desk.store := { database := { users := some [] } } }
    have hblank : lookUp (.email normal) (Query.userByEmail normal) blank = (.ok user, blank) := by
      rw [← getUserByEmail_of_ok hnormal]
      exact hfound blank.desk
    cases hload : blank.cache.load (.email normal) with
    | none =>
      -- without an entry the look-up comes to the tables, and these have no users
      rw [lookUp_of_none hload] at hblank
      cases hblank
    | some found =>
      rw [lookUp_of_some hload] at hblank
      cases hblank
      rfl
  · intro hload desk
    rw [getUserByEmail_of_ok hnormal]
    exact lookUp_of_some (s := { s with desk }) hload _

end Service

/-- An entry by email is found under the spelling that it was filed with, or was there before. -/
theorem Cache.load_store_email_iff {cache : Cache} (hroom : cache.HasRoom user) :
    (cache.store user).load (.email normal) = some user ↔
      normal = user.email ∨ cache.load (.email normal) = some user := by
  rw [load_store_of_room hroom]
  by_cases hkept : normal = user.email
  · simp [hkept]
  · simp [hkept]

/-- Right after a user was remembered, the id finds the user whatever the tables hold. The email does
so just if it is spelled as it is kept, or led to this user before. If it is spelled otherwise, the
entry for its kept spelling is as it was, and no look-up asks for the one that was filed. -/
theorem remembered_found_iff (hnormal : normalizeEmail user.email = .ok normal)
    (hroom : s.cache.HasRoom user) :
    ∃ after, Service.remember user s = (.ok (), after) ∧
      (∀ desk, Service.getUser user.id { after with desk } = (.ok user, { after with desk })) ∧
      ((∀ desk, Service.getUserByEmail user.email { after with desk } =
          (.ok user, { after with desk })) ↔
        normal = user.email ∨ s.cache.load (.email normal) = some user) ∧
      (normal ≠ user.email →
        after.cache.load (.email normal) = s.cache.load (.email normal) ∧
        after.cache.load (.email user.email) = some user ∧
        ∀ spelling, normalizeEmail spelling ≠ .ok user.email) := by
  refine ⟨{ s with cache := s.cache.store user }, rfl, ?_, ?_, ?_⟩
  · intro desk
    have hrefreshed : { s with desk }.Refreshed { s with desk, cache := s.cache.store user } user :=
      Session.refreshed_of_store hroom rfl
    exact hrefreshed.getUser
  · rw [Service.getUserByEmail_on_any_desk_iff hnormal]
    exact Cache.load_store_email_iff hroom
  · intro hother
    have hload := Cache.load_store_of_room hroom
    refine ⟨by simp [hload, hother], by simp [hload], ?_⟩
    intro spelling hspelling
    rw [normalizeEmail_idempotent hspelling] at hnormal
    cases hnormal
    exact hother rfl

theorem remembered_found_over_others :
    let user : PublicUser := ⟨"u", "new", "a@b"⟩
    ∃ after, Service.remember user .outdated = (.ok (), after) ∧
      Service.getUser "u" after = (.ok user, after) ∧
      Service.getUserByEmail "a@b" after = (.ok user, after) := by
  intro user
  have hnormal : normalizeEmail user.email = .ok "a@b" := by decide +kernel
  have hroom : Session.outdated.cache.HasRoom user :=
    Cache.hasRoom_of_length (Cache.keeps_of_keepOldest rfl) (by decide) _
  obtain ⟨after, hremember, hid, hemail, -⟩ := remembered_found_iff hnormal hroom
  exact ⟨after, hremember, hid after.desk, hemail.mpr (.inl rfl) after.desk⟩

/-- An email that is not spelled as it is kept does not find the user who was remembered with it. -/
theorem remembered_not_found_as_spelled :
    let user : PublicUser := ⟨"u", "n", "A@b"⟩
    let s : Session := {
      desk.store.database := { users := some [], tokens := some [] }
      cache := .unbounded }
    normalizeEmail user.email = .ok "a@b" ∧ s.cache.HasRoom user ∧
      (Service.remember user s).1 = .ok () ∧
      (Service.getUser user.id (Service.remember user s).2).1 = .ok user ∧
      (Service.getUserByEmail user.email (Service.remember user s).2).1 = .error .userNotFound := by
  refine ⟨by decide +kernel, ⟨_, fun _ _ _ _ _ => rfl, Nat.le_refl _⟩, ?_⟩
  decide +kernel

end IdentityLifecycle
