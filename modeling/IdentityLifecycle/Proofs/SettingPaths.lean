import IdentityLifecycle.Proofs.Canonical
import IdentityLifecycle.Settings.Load

/-!
# The paths of settings

A name without points is the path of one entry, unless it ends in an index. The two parts of a
variable's name become the path of an entry of a section, or they are no path and name an entry
that no section has.
-/

namespace IdentityLifecycle

namespace Text

theorem mem_lowercase {c : Char} {name : String} (hlower : IsLower c) (hc : c ∈ name.toList) :
    c ∈ (lowercase name).toList := by
  have hafter : ∀ (cs before : List Char), c ∈ cs → c ∈ lowerAfter before cs := by
    intro cs
    induction cs with
    | nil => exact fun _ hc => hc
    | cons d cs ih =>
      intro before hc
      rw [lowerAfter, List.mem_append]
      rcases List.mem_cons.mp hc with rfl | hc
      · rw [if_neg hlower.1, hlower.2]
        exact .inl (List.mem_singleton.mpr rfl)
      · exact .inr (ih _ hc)
  rw [lowercase, String.toList_ofList]
  exact hafter _ _ hc

end Text

namespace Node

variable {path : String} {cs name rest : List Char} {steps : List PathStep}

def Unindexed (path : String) : Prop := ∀ index, PathStep.item index ∉ pathOfText path

def StepName (name : List Char) : Prop := name ≠ [] ∧ '.' ∉ name

theorem eq_append_of_span (hspan : cs.span isNameChar = (name, rest)) :
    cs = name ++ rest ∧ '.' ∉ name := by
  rw [List.span_eq_takeWhile_dropWhile, Prod.mk.injEq] at hspan
  obtain ⟨rfl, rfl⟩ := hspan
  refine ⟨List.takeWhile_append_dropWhile.symm, fun hmem => ?_⟩
  exact absurd (List.mem_takeWhile_imp hmem) (by decide)

/-- The steps behind the first one are names, each after a point. -/
theorem readSteps_eq_some {fuel : Nat} (hread : readSteps fuel cs = some steps)
    (hindex : ∀ index, PathStep.item index ∉ steps) :
    ∃ names : List (List Char), (∀ name ∈ names, StepName name) ∧
      cs = names.flatMap ('.' :: ·) ∧ steps = names.map entryNamed := by
  fun_induction readSteps fuel cs generalizing steps with
  | case1 =>
    cases hread
    exact ⟨[], by simp, rfl, rfl⟩
  | case4 fuel cs name rest hname hspan ih =>
    obtain ⟨more, hmore, rfl⟩ := Option.map_eq_some_iff.mp hread
    obtain ⟨names, hnames, hrest, rfl⟩ :=
      ih hmore fun index hmem => hindex index (List.mem_cons_of_mem _ hmem)
    obtain ⟨rfl, hpoint⟩ := eq_append_of_span hspan
    refine ⟨name :: names, List.forall_mem_cons.mpr ⟨⟨hname, hpoint⟩, hnames⟩, ?_, rfl⟩
    rw [List.flatMap_cons, ← hrest]
    rfl
  | case5 =>
    obtain ⟨more, -, rfl⟩ := Option.map_eq_some_iff.mp hread
    exact absurd List.mem_cons_self (hindex _)
  | case2 | case3 | case6 | case7 => cases hread

/-- A text that cannot be read as a path names one entry as it is. -/
theorem pathOfText_eq (path : String) :
    pathOfText path = [.entry (Text.lowercase path)] ∨
      ∃ first rest steps, '.' ∉ first ∧ path.toList = first ++ rest ∧
        readSteps rest.length rest = some steps ∧ pathOfText path = entryNamed first :: steps := by
  have hwhole : [entryNamed path.toList] = [.entry (Text.lowercase path)] := by
    rw [entryNamed, String.ofList_toList]
  unfold pathOfText
  split
  · exact .inl hwhole
  · next first rest hname hspan =>
    split
    · next steps hread =>
      obtain ⟨hsplit, hpoint⟩ := eq_append_of_span hspan
      exact .inr ⟨first, rest, steps, hpoint, hsplit, hread, rfl⟩
    · exact .inl hwhole

/-- A text without indices is names with points between them, or it names one entry as it is. -/
theorem pathOfText_cases (hpath : Unindexed path) :
    pathOfText path = [.entry (Text.lowercase path)] ∨
      ∃ (first : List Char) (names : List (List Char)), '.' ∉ first ∧
        (∀ name ∈ names, StepName name) ∧ path.toList = first ++ names.flatMap ('.' :: ·) ∧
        pathOfText path = (first :: names).map entryNamed := by
  rcases pathOfText_eq path with hwhole | ⟨first, rest, steps, hpoint, hsplit, hread, hsteps⟩
  · exact .inl hwhole
  · unfold Unindexed at hpath
    rw [hsteps] at hpath ⊢
    obtain ⟨names, hnames, rfl, rfl⟩ :=
      readSteps_eq_some hread fun index hmem => hpath index (List.mem_cons_of_mem _ hmem)
    exact .inr ⟨first, names, hpoint, hnames, hsplit, rfl⟩

theorem bracket_of_readSteps {fuel : Nat} {index : Int} (hread : readSteps fuel cs = some steps)
    (hindex : .item index ∈ steps) : '[' ∈ cs := by
  fun_induction readSteps fuel cs generalizing steps with
  | case1 =>
    cases hread
    cases hindex
  | case4 fuel cs name rest hname hspan ih =>
    obtain ⟨more, hmore, rfl⟩ := Option.map_eq_some_iff.mp hread
    obtain ⟨rfl, -⟩ := eq_append_of_span hspan
    rcases List.mem_cons.mp hindex with heq | hindex
    · cases heq
    · exact .tail _ (List.mem_append_right _ (ih hmore hindex))
  | case5 => exact List.mem_cons_self
  | case2 | case3 | case6 | case7 => cases hread

/-- An index stands in square brackets. -/
theorem unindexed_of_no_bracket (hbracket : '[' ∉ path.toList) : Unindexed path := by
  intro index hindex
  rcases pathOfText_eq path with hwhole | ⟨first, rest, steps, -, hsplit, hread, hsteps⟩
  · rw [hwhole, List.mem_singleton] at hindex
    cases hindex
  · rw [hsteps] at hindex
    rcases List.mem_cons.mp hindex with heq | hindex
    · cases heq
    · rw [hsplit] at hbracket
      exact hbracket (List.mem_append_right _ (bracket_of_readSteps hread hindex))

/-- A name without points is the path of one entry. -/
theorem pathOfText_name (hpoint : '.' ∉ path.toList) (hpath : Unindexed path) :
    pathOfText path = [.entry (Text.lowercase path)] := by
  rcases pathOfText_cases hpath with hwhole | ⟨first, names, -, -, hsplit, hsteps⟩
  · exact hwhole
  · cases names with
    | nil =>
      rw [hsteps, List.map_singleton, entryNamed, ← String.ofList_toList (s := path), hsplit]
      simp
    | cons name names =>
      rw [hsplit] at hpoint
      simp at hpoint

end Node

namespace Settings

open Node

variable {cs front back : List Char}

/-! ### The names of variables -/

/-- A part of a variable's name: two underscores in a row would part it. -/
def NamePart (cs : List Char) : Prop := '.' ∉ cs ∧ ¬['_', '_'] <:+: cs

theorem NamePart.tail {c : Char} (h : NamePart (c :: cs)) : NamePart cs :=
  ⟨fun hmem => h.1 (.tail c hmem), fun hdouble => h.2 (List.infix_cons hdouble)⟩

theorem pathOfVariable_cons {c : Char} (hpart : ¬['_', '_'] <+: c :: cs) :
    pathOfVariable (c :: cs) = c :: pathOfVariable cs := by
  rw [pathOfVariable]
  rintro tail rfl rfl
  exact hpart ⟨tail, rfl⟩

/-- A part of a name has no two underscores in a row, and stays as it is. -/
theorem pathOfVariable_part (h : NamePart cs) : pathOfVariable cs = cs := by
  induction cs with
  | nil => rfl
  | cons c cs ih =>
    rw [pathOfVariable_cons fun hfront => h.2 hfront.isInfix, ih h.tail]

/-- Two parts are parted by one point, or by two in a row. -/
theorem pathOfVariable_parts (hfront : NamePart front) (hback : NamePart back) :
    ∃ first rest, pathOfVariable (front ++ '_' :: '_' :: back) = first ++ '.' :: rest ∧
      '.' ∉ first ∧ ('.' ∉ rest ∨ ∃ tail, rest = '.' :: tail) := by
  induction front with
  | nil =>
    exact ⟨[], back, by simp [pathOfVariable, pathOfVariable_part hback], by simp, .inl hback.1⟩
  | cons c front ih =>
    by_cases hends : c = '_' ∧ front = []
    · obtain ⟨rfl, rfl⟩ := hends
      refine ⟨[], pathOfVariable ('_' :: back), by simp [pathOfVariable], by simp, ?_⟩
      by_cases hstarts : ['_', '_'] <+: '_' :: back
      · obtain ⟨tail, htail⟩ := hstarts
        rw [← htail]
        exact .inr ⟨_, rfl⟩
      · rw [pathOfVariable_cons hstarts, pathOfVariable_part hback]
        left
        simpa using hback.1
    · have hnone : ¬['_', '_'] <+: c :: (front ++ '_' :: '_' :: back) := by
        rintro ⟨tail, htail⟩
        cases front with
        | nil =>
          cases htail
          exact hends ⟨rfl, rfl⟩
        | cons d front =>
          cases htail
          exact hfront.2 ⟨[], front, rfl⟩
      obtain ⟨first, rest, hpath, hpoint, hrest⟩ := ih hfront.tail
      refine ⟨c :: first, rest, ?_, ?_, hrest⟩
      · rw [List.cons_append, pathOfVariable_cons hnone, hpath]
        rfl
      · have hc := hfront.1
        simp only [List.mem_cons, not_or] at hc ⊢
        exact ⟨hc.1, hpoint⟩

/-- What a text was before its points were written. -/
theorem expand_pathOfVariable (hpoint : '.' ∉ cs) :
    (pathOfVariable cs).flatMap (fun c => if c = '.' then ['_', '_'] else [c]) = cs := by
  fun_induction pathOfVariable cs with
  | case1 cs ih =>
    simp only [List.mem_cons, not_or] at hpoint
    rw [List.flatMap_cons, ih hpoint.2.2]
    rfl
  | case2 c cs _ ih =>
    simp only [List.mem_cons, not_or] at hpoint
    rw [List.flatMap_cons, ih hpoint.2, if_neg (Ne.symm hpoint.1)]
    rfl
  | case3 => rfl

theorem mem_pathOfVariable {c : Char} (hc : c ∈ pathOfVariable cs) : c = '.' ∨ c ∈ cs := by
  fun_induction pathOfVariable cs with
  | case1 cs ih =>
    rcases List.mem_cons.mp hc with hc | hc
    · exact .inl hc
    · exact (ih hc).imp_right fun hmem => .tail _ (.tail _ hmem)
  | case2 d cs _ ih =>
    rcases List.mem_cons.mp hc with rfl | hc
    · exact .inr List.mem_cons_self
    · exact (ih hc).imp_right fun hmem => .tail _ hmem
  | case3 => cases hc

/-- The first point of a text splits it in one way. -/
theorem append_point_inj {first first' rest rest' : List Char} (hfirst : '.' ∉ first)
    (hfirst' : '.' ∉ first') (hsame : first ++ '.' :: rest = first' ++ '.' :: rest') :
    first = first' ∧ rest = rest' := by
  induction first generalizing first' with
  | nil =>
    cases first' with
    | nil => exact ⟨rfl, (List.cons.inj hsame).2⟩
    | cons c first' =>
      obtain ⟨rfl, -⟩ := List.cons.inj hsame
      exact absurd List.mem_cons_self hfirst'
  | cons c first ih =>
    cases first' with
    | nil =>
      obtain ⟨rfl, -⟩ := List.cons.inj hsame
      exact absurd List.mem_cons_self hfirst
    | cons d first' =>
      obtain ⟨rfl, htail⟩ := List.cons.inj hsame
      obtain ⟨rfl, hrest⟩ := ih (List.not_mem_of_not_mem_cons hfirst)
        (List.not_mem_of_not_mem_cons hfirst') htail
      exact ⟨rfl, hrest⟩

/-- The path of a variable whose name has two parts. -/
theorem pathOfText_variable (hfront : NamePart front) (hback : NamePart back)
    (hlower : ∀ c ∈ front ++ '_' :: '_' :: back, Text.IsLower c) {path : String}
    (hpath : path = String.ofList (pathOfVariable (front ++ '_' :: '_' :: back)))
    (hindex : Unindexed path) :
    (pathOfText path = [.entry path] ∧ '.' ∈ path.toList) ∨
      ∃ first second : String, pathOfText path = [.entry first, .entry second] ∧
        path = first ++ "." ++ second := by
  obtain ⟨x, rest, hparts, hpoint, hrest⟩ := pathOfVariable_parts hfront hback
  have hlist : path.toList = x ++ '.' :: rest := by rw [hpath, String.toList_ofList, hparts]
  have hsame : ∀ part : List Char, (∀ c ∈ part, c ∈ path.toList) →
      Text.lowercase (String.ofList part) = String.ofList part := by
    intro part hmem
    rw [Text.lowercase, String.toList_ofList, Text.lowerAfter_of_isLower]
    intro c hc
    have hpart := hmem c hc
    rw [hpath, String.toList_ofList] at hpart
    rcases mem_pathOfVariable hpart with rfl | hc
    · exact Text.isLower_of_ascii (by decide) (by decide)
    · exact hlower c hc
  rcases pathOfText_cases hindex with hwhole | ⟨first, names, hfirst, hnames, hsplit, hsteps⟩
  · left
    have hlow := hsame path.toList fun c hc => hc
    rw [String.ofList_toList] at hlow
    rw [hwhole, hlow, hlist]
    exact ⟨rfl, by simp⟩
  · right
    rw [hsplit] at hlist
    obtain _ | ⟨name, _ | ⟨other, more⟩⟩ := names
    · rw [List.flatMap_nil, List.append_nil] at hlist
      rw [hlist] at hfirst
      simp at hfirst
    · have hlist' : path.toList = first ++ '.' :: name := by simpa using hsplit
      have hmem : ∀ c, c ∈ first ∨ c ∈ name → c ∈ path.toList := by
        intro c hc
        rw [hlist', List.mem_append, List.mem_cons]
        tauto
      refine ⟨.ofList first, .ofList name, ?_, ?_⟩
      · rw [hsteps, List.map_cons, List.map_singleton, entryNamed, entryNamed,
          hsame first fun c hc => hmem c (.inl hc), hsame name fun c hc => hmem c (.inr hc)]
      · rw [← String.toList_inj, hlist']
        simp
    · -- the second of two points in a row would stand behind an empty name
      obtain ⟨hname, -⟩ := List.forall_mem_cons.mp hnames
      obtain ⟨-, rfl⟩ := append_point_inj hpoint hfirst hlist.symm
      rcases hrest with hnone | ⟨tail, htail⟩
      · simp at hnone
      · cases name with
        | nil => exact absurd rfl hname.1
        | cons c name =>
          cases htail
          simp [StepName] at hname

end Settings

end IdentityLifecycle
