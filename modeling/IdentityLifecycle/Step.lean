/-!
Computations that change a state and may fail.
-/
namespace IdentityLifecycle

/-- A computation on a state; what it changed before it failed stays changed. -/
def Step (σ ε α : Type) : Type := σ → Except ε α × σ

namespace Step

variable {σ ε α β : Type}

def run (step : Step σ ε α) (s : σ) : Except ε α × σ := step s

instance : Monad (Step σ ε) where
  pure a := fun s => (.ok a, s)
  bind step next := fun s =>
    match step s with
    | (.ok a, s) => next a s
    | (.error e, s) => (.error e, s)

def fail (e : ε) : Step σ ε α := fun s => (.error e, s)

def get : Step σ ε σ := fun s => (.ok s, s)

def update (f : σ → σ) : Step σ ε Unit := fun s => (.ok (), f s)

def ofExcept (outcome : Except ε α) : Step σ ε α := fun s => (outcome, s)

def ofOption (e : ε) : Option α → Step σ ε α
  | some a => pure a
  | none => fail e

def recover (step : Step σ ε α) (handle : ε → Except ε α) : Step σ ε α := fun s =>
  match step s with
  | (.ok a, s) => (.ok a, s)
  | (.error e, s) => (handle e, s)

@[simp] theorem pure_apply (a : α) (s : σ) : (pure a : Step σ ε α) s = (.ok a, s) := rfl

@[simp] theorem fail_apply (e : ε) (s : σ) : (fail e : Step σ ε α) s = (.error e, s) := rfl

@[simp] theorem get_apply (s : σ) : (get : Step σ ε σ) s = (.ok s, s) := rfl

@[simp] theorem update_apply (f : σ → σ) (s : σ) :
    (update f : Step σ ε Unit) s = (.ok (), f s) := rfl

@[simp] theorem ofExcept_apply (outcome : Except ε α) (s : σ) :
    (ofExcept outcome : Step σ ε α) s = (outcome, s) := rfl

theorem bind_apply (step : Step σ ε α) (next : α → Step σ ε β) (s : σ) :
    (step >>= next) s =
      match step s with
      | (.ok a, s) => next a s
      | (.error e, s) => (.error e, s) := rfl

end Step

end IdentityLifecycle
