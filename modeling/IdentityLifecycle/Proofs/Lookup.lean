import Mathlib.Data.List.Basic

/-!
# Entries under keys

What a look-up finds after some entries were dropped, or one was replaced.
-/

namespace IdentityLifecycle

variable {α β : Type} [DecidableEq α] [BEq α] [LawfulBEq α]

omit [DecidableEq α] in
/-- Look-ups in a list of which some keys were left out. -/
theorem lookup_filter (entries : List (α × β)) (keep : α → Bool) (key : α) :
    (entries.filter fun entry => keep entry.1).lookup key =
      if keep key then entries.lookup key else none := by
  induction entries with
  | nil => simp
  | cons entry entries ih =>
    obtain ⟨first, value⟩ := entry
    by_cases hfirst : key = first
    · subst hfirst
      by_cases hkeep : keep key = true
      · simp [hkeep]
      · simp [hkeep, ih]
    · have hne : (key == first) = false := beq_eq_false_iff_ne.mpr hfirst
      by_cases hkeep : keep first = true
      · simp [hkeep, List.lookup_cons, hne, ih]
      · simp [hkeep, List.lookup_cons, hne, ih]

theorem lookup_filter_ne {entries : List (α × β)} {key gone : α} (hne : key ≠ gone) :
    (entries.filter fun entry => entry.1 ≠ gone).lookup key = entries.lookup key := by
  have hfilter := lookup_filter entries (fun key => decide (key ≠ gone)) key
  rwa [if_pos (decide_eq_true hne)] at hfilter

/-- Look-ups in a list in which an entry was replaced. -/
theorem lookup_replace (entries : List (α × β)) (key other : α) (value : β) :
    (entries.map fun entry => if entry.1 = key then (key, value) else entry).lookup other =
      if other = key then (entries.lookup key).map fun _ => value else entries.lookup other := by
  induction entries with
  | nil => simp
  | cons entry entries ih =>
    obtain ⟨first, old⟩ := entry
    by_cases hfirst : first = key
    · subst hfirst
      by_cases hother : other = first
      · simp [hother]
      · have hne : (other == first) = false := beq_eq_false_iff_ne.mpr hother
        simpa [hother, List.lookup_cons, hne] using ih
    · have hne : (key == first) = false := beq_eq_false_iff_ne.mpr (Ne.symm hfirst)
      by_cases hother : other = first
      · subst hother
        simp [hfirst]
      · have hne' : (other == first) = false := beq_eq_false_iff_ne.mpr hother
        simpa [hfirst, List.lookup_cons, hne, hne'] using ih

end IdentityLifecycle
