import IdentityLifecycle.Cache
import IdentityLifecycle.Proofs.Lookup

/-!
# Entries of a cache

What a cache answers after an entry was filed, and what can be said of all its entries at any time:
that each is filed under a key of its own and is about a user who is known.
-/

namespace IdentityLifecycle

def IdentityKey.Names : IdentityKey → PublicUser → Prop
  | .id text, user => user.id = text
  | .email text, user => user.email = text

namespace Cache

variable {cache : Cache} {key other : IdentityKey} {user found : PublicUser}

/-! ### Looking entries up -/

theorem lookup_put (entries : CacheEntries) (key other : IdentityKey) (user : PublicUser) :
    (put entries key user).lookup other =
      if other = key then some user else entries.lookup other := by
  unfold put
  cases hfound : entries.lookup key with
  | none =>
    by_cases hother : other = key
    · simp [hother]
    · have hne : (other == key) = false := beq_eq_false_iff_ne.mpr hother
      simp [hother, List.lookup_cons, hne]
  | some old => simp [lookup_replace, hfound]

theorem load_insert (cache : Cache) (key other : IdentityKey) (user : PublicUser) :
    (cache.insert key user).load other =
      if cache.evict cache.changes (put cache.entries key user) other then
        if other = key then some user else cache.load other
      else none := by
  unfold load insert
  rw [lookup_filter, lookup_put]

/-- An entry that is found after a change is the new one or was there before. -/
theorem of_load_insert (hfound : (cache.insert key user).load other = some found) :
    (other = key ∧ found = user) ∨ cache.load other = some found := by
  rw [load_insert] at hfound
  split at hfound
  · split at hfound
    · next hsame =>
      cases hfound
      exact .inl ⟨hsame, rfl⟩
    · exact .inr hfound
  · cases hfound

theorem storeIfAbsent_of_none (hnone : cache.load key = none) (user : PublicUser) :
    cache.storeIfAbsent key user = (user, cache.insert key user) := by
  rw [storeIfAbsent, hnone]

theorem storeIfAbsent_of_some (hsome : cache.load key = some found) (user : PublicUser) :
    cache.storeIfAbsent key user = (found, cache) := by
  rw [storeIfAbsent, hsome]

/-! ### Room -/

def Keeps (cache : Cache) (capacity : Nat) : Prop :=
  ∀ changes (entries : CacheEntries), entries.length ≤ capacity →
    ∀ entry ∈ entries, cache.evict changes entries entry.1 = true

/-- A cache of some capacity gives nothing up as long as its entries fit. -/
theorem keeps_of_keepOldest {capacity : Nat} (hevict : cache.evict = keepOldest capacity) :
    cache.Keeps capacity := by
  intro changes entries hlength entry hentry
  have hnone : entries.length - capacity = 0 := by omega
  rw [hevict, keepOldest, hnone, List.drop_zero]
  exact List.any_eq_true.mpr ⟨entry, hentry, decide_eq_true rfl⟩

def filed (entries : CacheEntries) (user : PublicUser) : CacheEntries :=
  put (put entries (.id user.id) user) (.email user.email) user

def HasRoom (cache : Cache) (user : PublicUser) : Prop :=
  ∃ capacity, cache.Keeps capacity ∧ (filed cache.entries user).length ≤ capacity

theorem length_put (entries : CacheEntries) (key : IdentityKey) (user : PublicUser) :
    entries.length ≤ (put entries key user).length ∧
      (put entries key user).length ≤ entries.length + 1 := by
  unfold put
  split <;> simp

theorem hasRoom_of_length {capacity : Nat} (hkeeps : cache.Keeps capacity)
    (hlength : cache.entries.length + 2 ≤ capacity) (user : PublicUser) : cache.HasRoom user := by
  have hid := (length_put cache.entries (.id user.id) user).2
  have hemail := (length_put (put cache.entries (.id user.id) user) (.email user.email) user).2
  refine ⟨capacity, hkeeps, ?_⟩
  rw [filed]
  omega

/-- An entry that fits in is simply put among the others. -/
theorem insert_of_keeps {capacity : Nat} (hkeeps : cache.Keeps capacity)
    (hlength : (put cache.entries key user).length ≤ capacity) :
    cache.insert key user =
      { cache with entries := put cache.entries key user, changes := cache.changes + 1 } := by
  rw [insert, List.filter_eq_self.mpr (hkeeps cache.changes _ hlength)]

/-- With room for both entries of a user, filing the user touches no other entry. -/
theorem store_of_room (hroom : cache.HasRoom user) :
    cache.store user =
      { cache with entries := filed cache.entries user, changes := cache.changes + 2 } := by
  obtain ⟨capacity, hkeeps, hlength⟩ := hroom
  have hfirst : (put cache.entries (.id user.id) user).length ≤ capacity :=
    Nat.le_trans (length_put _ (.email user.email) user).1 hlength
  rw [store, insert_of_keeps hkeeps hfirst]
  exact insert_of_keeps (fun changes => hkeeps changes) hlength

/-- A user who fits in is found under both keys, and nothing else is different. -/
theorem load_store_of_room (hroom : cache.HasRoom user) (key : IdentityKey) :
    (cache.store user).load key =
      if key = .email user.email ∨ key = .id user.id then some user else cache.load key := by
  rw [store_of_room hroom, load, filed, lookup_put, lookup_put, ← ite_or]
  rfl

/-! ### Entries that are lost -/

def keeping (cache : Cache) (keep : IdentityKey → Bool) : Cache :=
  { cache with entries := cache.entries.filter fun entry => keep entry.1 }

/-- What was kept is found as before, and nothing else is. -/
theorem load_keeping (cache : Cache) (keep : IdentityKey → Bool) (key : IdentityKey) :
    (cache.keeping keep).load key = if keep key then cache.load key else none :=
  lookup_filter cache.entries keep key

/-! ### No cache -/

/-- A cache that gives up every entry at once, so that it has none. -/
structure Absent (cache : Cache) : Prop where
  entries : cache.entries = []
  evict : ∀ changes entries key, cache.evict changes entries key = false

def absent : Cache := { evict := fun _ _ _ => false }

theorem absent_absent : absent.Absent := ⟨rfl, fun _ _ _ => rfl⟩

namespace Absent

theorem load (h : cache.Absent) (key : IdentityKey) : cache.load key = none := by
  rw [Cache.load, h.entries]
  rfl

theorem insert (h : cache.Absent) (key : IdentityKey) (user : PublicUser) :
    (cache.insert key user).Absent where
  entries := by simp [Cache.insert, h.evict]
  evict := h.evict

theorem storeIfAbsent (h : cache.Absent) (key : IdentityKey) (user : PublicUser) :
    (cache.storeIfAbsent key user).1 = user ∧ (cache.storeIfAbsent key user).2.Absent := by
  rw [storeIfAbsent_of_none (h.load key)]
  exact ⟨rfl, h.insert key user⟩

theorem store (h : cache.Absent) (user : PublicUser) : (cache.store user).Absent :=
  (h.insert _ _).insert _ _

end Absent

/-! ### What holds of each entry -/

def Each (cache : Cache) (P : IdentityKey → PublicUser → Prop) : Prop :=
  ∀ key user, cache.load key = some user → P key user

namespace Each

variable {P P' : IdentityKey → PublicUser → Prop}

theorem of_empty (hentries : cache.entries = []) : cache.Each P := by
  intro key user hload
  rw [load, hentries] at hload
  cases hload

theorem mono (h : cache.Each P) (hP : ∀ key user, P key user → P' key user) : cache.Each P' :=
  fun key user hload => hP key user (h key user hload)

theorem keeping (h : cache.Each P) (keep : IdentityKey → Bool) : (cache.keeping keep).Each P := by
  intro key user hload
  rw [load_keeping] at hload
  split at hload
  · exact h key user hload
  · cases hload

theorem insert (h : cache.Each P) (hnew : P key user) : (cache.insert key user).Each P := by
  intro other found hload
  rcases of_load_insert hload with ⟨rfl, rfl⟩ | hload
  · exact hnew
  · exact h other found hload

theorem store (h : cache.Each P) (hid : P (.id user.id) user)
    (hemail : P (.email user.email) user) :
    (cache.store user).Each P :=
  (h.insert hid).insert hemail

/-- The user whom the entry then has and all entries have the property. -/
theorem storeIfAbsent (h : cache.Each P) (hnew : P key user) :
    P key (cache.storeIfAbsent key user).1 ∧ (cache.storeIfAbsent key user).2.Each P := by
  cases hload : cache.load key with
  | none =>
    rw [storeIfAbsent_of_none hload]
    exact ⟨hnew, h.insert hnew⟩
  | some found =>
    rw [storeIfAbsent_of_some hload]
    exact ⟨h key found hload, h⟩

end Each

/-- Every entry is filed under a key of its own, and is about a user who is known. -/
def Coherent (cache : Cache) (known : PublicUser → Prop) : Prop :=
  ∀ key user, cache.load key = some user → key.Names user ∧ known user

namespace Coherent

variable {known known' : PublicUser → Prop}

theorem of_empty (hentries : cache.entries = []) : cache.Coherent known :=
  Each.of_empty hentries

theorem mono (h : cache.Coherent known) (hknown : ∀ user, known user → known' user) :
    cache.Coherent known' :=
  Each.mono h fun _ user hentry => ⟨hentry.1, hknown user hentry.2⟩

theorem keeping (h : cache.Coherent known) (keep : IdentityKey → Bool) :
    (cache.keeping keep).Coherent known :=
  Each.keeping h keep

theorem insert (h : cache.Coherent known) (hnames : key.Names user) (huser : known user) :
    (cache.insert key user).Coherent known :=
  Each.insert h ⟨hnames, huser⟩

theorem store (h : cache.Coherent known) (huser : known user) :
    (cache.store user).Coherent known :=
  Each.store h ⟨rfl, huser⟩ ⟨rfl, huser⟩

theorem storeIfAbsent (h : cache.Coherent known) (hnames : key.Names user) (huser : known user) :
    (cache.storeIfAbsent key user).2.Coherent known :=
  (Each.storeIfAbsent h ⟨hnames, huser⟩).2

end Coherent

end Cache

end IdentityLifecycle
