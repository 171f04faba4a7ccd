import IdentityLifecycle.Step

/-!
# Steps on two levels

A relation ties the states of a computation to simpler ones. What a step does is then stated on the
simpler states: where it starts, how it ends, and where that leaves it.
-/

namespace IdentityLifecycle

theorem mapError_eq_ok {α ε ε' : Type} {f : ε → ε'} {outcome : Except ε α} {a : α} :
    outcome.mapError f = .ok a ↔ outcome = .ok a := by
  cases outcome with
  | error e => constructor <;> rintro ⟨⟩
  | ok b => constructor <;> rintro ⟨⟩ <;> rfl

theorem bind_eq_ok {α β ε : Type} {first : Except ε α} {next : α → Except ε β} {b : β} :
    (first >>= next) = .ok b ↔ ∃ a, first = .ok a ∧ next a = .ok b := by
  cases first with
  | error e => simp [bind, Except.bind]
  | ok a => simp [bind, Except.bind]

theorem mapError_eq_error {α ε ε' : Type} {f : ε → ε'} {outcome : Except ε α} {e : ε'} :
    outcome.mapError f = .error e ↔ ∃ cause, outcome = .error cause ∧ f cause = e := by
  cases outcome with
  | error cause =>
    constructor
    · rintro ⟨⟩
      exact ⟨cause, rfl, rfl⟩
    · rintro ⟨_, ⟨⟩, rfl⟩
      rfl
  | ok a =>
    constructor
    · rintro ⟨⟩
    · rintro ⟨_, ⟨⟩, -⟩

theorem bind_eq_error {α β ε : Type} {first : Except ε α} {next : α → Except ε β} {e : ε} :
    (first >>= next) = .error e ↔
      first = .error e ∨ ∃ a, first = .ok a ∧ next a = .error e := by
  cases first with
  | error e' => simp [bind, Except.bind]
  | ok a => simp [bind, Except.bind]

namespace Step

variable {σ τ ε α β : Type} {R : σ → τ → Prop}

/-- After a step that succeeds, the next one goes on from where it has led. -/
theorem bind_of_ok {step : Step σ ε α} {s s' : σ} {a : α} (hstep : step s = (.ok a, s'))
    (next : α → Step σ ε β) : (step >>= next) s = next a s' := by
  rw [bind_apply, hstep]

theorem bind_eq_ok {step : Step σ ε α} {next : α → Step σ ε β} {s s' : σ} {b : β} :
    (step >>= next) s = (.ok b, s') ↔
      ∃ a mid, step s = (.ok a, mid) ∧ next a mid = (.ok b, s') := by
  rw [bind_apply]
  rcases step s with ⟨e | a, mid⟩
  · simp
  · constructor
    · intro hnext
      exact ⟨a, mid, rfl, hnext⟩
    · rintro ⟨_, _, ⟨⟩, hnext⟩
      exact hnext

/-- From every state that is related to `t`, the step ends with `outcome` in one related to
`t'`. -/
def Carries (R : σ → τ → Prop) (step : Step σ ε α) (t : τ) (outcome : Except ε α) (t' : τ) : Prop :=
  ∀ s, R s t → (step s).1 = outcome ∧ R (step s).2 t'

theorem Carries.pure (a : α) (t : τ) : Carries R (pure a : Step σ ε α) t (.ok a) t :=
  fun _ hs => ⟨rfl, hs⟩

theorem Carries.fail (e : ε) (t : τ) : Carries R (fail e : Step σ ε α) t (.error e) t :=
  fun _ hs => ⟨rfl, hs⟩

theorem Carries.ofExcept (outcome : Except ε α) (t : τ) :
    Carries R (ofExcept outcome) t outcome t :=
  fun _ hs => ⟨rfl, hs⟩

theorem Carries.ofOption_some {e : ε} (a : α) (t : τ) :
    Carries R (ofOption e (some a)) t (.ok a) t :=
  .pure a t

theorem Carries.ofOption_none (e : ε) (t : τ) :
    Carries R (ofOption e (none : Option α)) t (.error e) t :=
  .fail e t

/-- Parts in a row are carried if each of them is. -/
theorem Carries.bind_ok {step : Step σ ε α} {next : α → Step σ ε β} {t t₁ t₂ : τ} {a : α}
    {outcome : Except ε β} (hstep : Carries R step t (.ok a) t₁)
    (hnext : Carries R (next a) t₁ outcome t₂) : Carries R (step >>= next) t outcome t₂ := by
  intro s hs
  obtain ⟨hok, hs₁⟩ := hstep s hs
  rw [bind_apply]
  generalize step s = result at hok hs₁ ⊢
  obtain ⟨_, s₁⟩ := result
  subst hok
  exact hnext s₁ hs₁

/-- Where the first part fails, nothing is asked of the others. -/
theorem Carries.bind_error {step : Step σ ε α} {t t₁ : τ} {e : ε}
    (hstep : Carries R step t (.error e) t₁) (next : α → Step σ ε β) :
    Carries R (step >>= next) t (.error e) t₁ := by
  intro s hs
  obtain ⟨herror, hs₁⟩ := hstep s hs
  rw [bind_apply]
  generalize step s = result at herror hs₁ ⊢
  obtain ⟨_, s₁⟩ := result
  subst herror
  exact ⟨rfl, hs₁⟩

theorem Carries.recover_ok {step : Step σ ε α} {t t₁ : τ} {a : α}
    (hstep : Carries R step t (.ok a) t₁) (handle : ε → Except ε α) :
    Carries R (step.recover handle) t (.ok a) t₁ := by
  intro s hs
  obtain ⟨hok, hs₁⟩ := hstep s hs
  unfold recover
  generalize step s = result at hok hs₁ ⊢
  obtain ⟨_, s₁⟩ := result
  subst hok
  exact ⟨rfl, hs₁⟩

theorem Carries.recover_error {step : Step σ ε α} {t t₁ : τ} {e : ε}
    (hstep : Carries R step t (.error e) t₁) (handle : ε → Except ε α) :
    Carries R (step.recover handle) t (handle e) t₁ := by
  intro s hs
  obtain ⟨herror, hs₁⟩ := hstep s hs
  unfold recover
  generalize step s = result at herror hs₁ ⊢
  obtain ⟨_, s₁⟩ := result
  subst herror
  exact ⟨rfl, hs₁⟩

end Step

end IdentityLifecycle
