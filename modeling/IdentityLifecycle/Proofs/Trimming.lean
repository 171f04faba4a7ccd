import IdentityLifecycle.Text.Basic
import Mathlib.Data.List.DropRight
import Mathlib.Data.List.TakeDrop

/-!
# What trimming leaves

Taking the members of `p` from the ends of a text leaves the one part of it that has only members
around it and neither begins nor ends with one. So trimming twice is trimming once, and what is put
around a text from among the members makes no difference.
-/

namespace IdentityLifecycle.Text

variable {p : Char → Bool} {s core : String}

/-! ### The end of a text -/

theorem toList_trimEnd (p : Char → Bool) (s : String) :
    (trimEnd p s).toList = s.toList.rdropWhile p := by
  rw [trimEnd, String.toList_ofList]
  rfl

theorem rdropWhile_append_of_pos {cs after : List Char} (hafter : ∀ c ∈ after, p c = true) :
    (cs ++ after).rdropWhile p = cs.rdropWhile p := by
  unfold List.rdropWhile
  rw [List.reverse_append, List.dropWhile_append_of_pos (by simpa using hafter)]

theorem rdropWhile_of_last {cs : List Char} (hlast : ∀ c ∈ cs.getLast?, p c = false) :
    cs.rdropWhile p = cs := by
  rw [List.rdropWhile_eq_self_iff]
  intro hne
  rw [hlast _ (List.getLast?_eq_some_getLast hne)]
  exact Bool.false_ne_true

theorem last_rdropWhile (p : Char → Bool) (cs : List Char) :
    ∀ c ∈ (cs.rdropWhile p).getLast?, p c = false := by
  intro c hc
  have hne : cs.rdropWhile p ≠ [] := by
    intro hnil
    rw [hnil] at hc
    cases hc
  rw [List.getLast?_eq_some_getLast hne, Option.mem_some_iff] at hc
  rw [← hc]
  exact Bool.eq_false_iff.mpr (List.rdropWhile_last_not p cs hne)

theorem trimEnd_eq_iff :
    trimEnd p s = core ↔
      (∃ after, s.toList = core.toList ++ after ∧ ∀ c ∈ after, p c = true) ∧
        ∀ c ∈ core.toList.getLast?, p c = false := by
  constructor
  · rintro rfl
    rw [toList_trimEnd]
    refine ⟨⟨s.toList.rtakeWhile p, ?_, ?_⟩, last_rdropWhile p s.toList⟩
    · rw [List.rdropWhile_append_rtakeWhile]
    · exact fun c hc => List.mem_rtakeWhile_imp hc
  · rintro ⟨⟨after, hs, hafter⟩, hlast⟩
    apply String.toList_injective
    calc
      (trimEnd p s).toList = (core.toList ++ after).rdropWhile p := by rw [toList_trimEnd, hs]
      _ = core.toList.rdropWhile p := rdropWhile_append_of_pos hafter
      _ = core.toList := rdropWhile_of_last hlast

/-! ### Both ends -/

/-- `core` is what is left of a text when the members of `p` are taken from its ends. -/
structure Stripped (p : Char → Bool) (s core : String) : Prop where
  around : ∃ before after, s.toList = before ++ core.toList ++ after ∧
    (∀ c ∈ before, p c = true) ∧ ∀ c ∈ after, p c = true
  first : ∀ c ∈ core.toList.head?, p c = false
  last : ∀ c ∈ core.toList.getLast?, p c = false

theorem dropWhile_of_first {cs : List Char} (hfirst : ∀ c ∈ cs.head?, p c = false) :
    cs.dropWhile p = cs := by
  cases cs with
  | nil => rfl
  | cons c cs => exact List.dropWhile_cons_of_neg (by simp [hfirst c rfl])

theorem first_dropWhile (p : Char → Bool) (cs : List Char) :
    ∀ c ∈ (cs.dropWhile p).head?, p c = false := by
  intro c hc
  have hnot := List.head?_dropWhile_not p cs
  rw [Option.mem_def.mp hc] at hnot
  simpa using hnot

/-- Trimming takes off the members of `p` at both ends, and only those. -/
theorem stripped_trim (p : Char → Bool) (s : String) : Stripped p s (trim p s) := by
  have hcore : (trim p s).toList = (s.toList.dropWhile p).rdropWhile p := by
    rw [trim, String.toList_ofList]
    rfl
  constructor
  · refine ⟨s.toList.takeWhile p, (s.toList.dropWhile p).rtakeWhile p, ?_, ?_, ?_⟩
    · rw [hcore, List.append_assoc, List.rdropWhile_append_rtakeWhile,
        List.takeWhile_append_dropWhile]
    · exact fun c hc => List.mem_takeWhile_imp hc
    · exact fun c hc => List.mem_rtakeWhile_imp hc
  · intro c hc
    obtain ⟨rest, hrest⟩ := List.rdropWhile_prefix p (s.toList.dropWhile p)
    apply first_dropWhile p s.toList c
    rw [← hrest, ← hcore, List.head?_append, Option.mem_def.mp hc]
    rfl
  · rw [hcore]
    exact last_rdropWhile p _

theorem Stripped.trim_eq (h : Stripped p s core) : trim p s = core := by
  obtain ⟨before, after, hs, hbefore, hafter⟩ := h.around
  apply String.toList_injective
  calc
    (trim p s).toList = ((before ++ core.toList ++ after).dropWhile p).rdropWhile p := by
      rw [trim, String.toList_ofList, hs]
      rfl
    _ = ((core.toList ++ after).dropWhile p).rdropWhile p := by
      rw [List.append_assoc, List.dropWhile_append_of_pos hbefore]
    _ = core.toList := by
      by_cases hempty : core.toList = []
      · rw [hempty, List.nil_append, List.rdropWhile_eq_nil_iff]
        exact fun c hc => hafter c (List.dropWhile_subset p hc)
      · have hfirst : ∀ c ∈ (core.toList ++ after).head?, p c = false := by
          rw [List.head?_append_of_ne_nil _ hempty]
          exact h.first
        rw [dropWhile_of_first hfirst, rdropWhile_append_of_pos hafter, rdropWhile_of_last h.last]

/-- A text that neither begins nor ends with a member is left alone. -/
theorem trim_of_ends (hfirst : ∀ c ∈ s.toList.head?, p c = false)
    (hlast : ∀ c ∈ s.toList.getLast?, p c = false) : trim p s = s := by
  apply Stripped.trim_eq
  exact ⟨⟨[], [], by simp⟩, hfirst, hlast⟩

/-- A text that was trimmed is trimmed. -/
theorem trim_trim (p : Char → Bool) (s : String) : trim p (trim p s) = trim p s :=
  trim_of_ends (stripped_trim p s).first (stripped_trim p s).last

theorem trim_of_free (hfree : ∀ c ∈ s.toList, p c = false) : trim p s = s :=
  trim_of_ends (fun c hc => hfree c (List.mem_of_mem_head? hc))
    fun c hc => hfree c (List.mem_of_mem_getLast? hc)

/-- Members that are put around a text are taken off again with those that it had. -/
theorem trim_of_around {t : String} {before after : List Char}
    (ht : t.toList = before ++ s.toList ++ after) (hbefore : ∀ c ∈ before, p c = true)
    (hafter : ∀ c ∈ after, p c = true) : trim p t = trim p s := by
  obtain ⟨first, last, hs, hfirst, hlast⟩ := (stripped_trim p s).around
  apply Stripped.trim_eq
  refine ⟨⟨before ++ first, last ++ after, ?_, ?_, ?_⟩, (stripped_trim p s).first,
    (stripped_trim p s).last⟩
  · rw [ht, hs]
    simp only [List.append_assoc]
  · exact List.forall_mem_append.mpr ⟨hbefore, hfirst⟩
  · exact List.forall_mem_append.mpr ⟨hlast, hafter⟩

end IdentityLifecycle.Text
