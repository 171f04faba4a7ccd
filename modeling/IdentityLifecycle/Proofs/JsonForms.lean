import IdentityLifecycle.Proofs.JsonGrammar
import Mathlib.Tactic.FinCases

/-!
# JSON values by their form

A value is passed over whatever it is, up to the mark behind it: whether its strings are spellings
of texts and how large its numbers are does not matter.
-/

namespace IdentityLifecycle.Json

/-- The parts of a text that hold values: a value, and what stands between the brackets of an array
or the braces of an object. -/
inductive Part
  | value
  | items
  | members

inductive Form : Part → List Char → Prop
  | null : Form .value ['n', 'u', 'l', 'l']
  | yes : Form .value ['t', 'r', 'u', 'e']
  | no : Form .value ['f', 'a', 'l', 's', 'e']
  | number {cs : List Char} (hnumber : NumberForm cs) : Form .value cs
  | string {body : List Char} (hbody : StringForm body) : Form .value ('"' :: body ++ ['"'])
  | emptyArray {blanks : List Char} (hblanks : Blanks blanks) : Form .value ('[' :: blanks ++ [']'])
  | array {items : List Char} (hitems : Form .items items) : Form .value ('[' :: items ++ [']'])
  | emptyObject {blanks : List Char} (hblanks : Blanks blanks) :
      Form .value ('\x7b' :: blanks ++ ['\x7d'])
  | object {members : List Char} (hmembers : Form .members members) :
      Form .value ('\x7b' :: members ++ ['\x7d'])
  | item {before value after : List Char} (hbefore : Blanks before) (hvalue : Form .value value)
      (hafter : Blanks after) : Form .items (before ++ value ++ after)
  | items {before value after rest : List Char} (hbefore : Blanks before)
      (hvalue : Form .value value) (hafter : Blanks after) (hrest : Form .items rest) :
      Form .items (before ++ value ++ after ++ ',' :: rest)
  | member {before body after between value behind : List Char} (hbefore : Blanks before)
      (hbody : StringForm body) (hafter : Blanks after) (hbetween : Blanks between)
      (hvalue : Form .value value) (hbehind : Blanks behind) :
      Form .members (before ++ '"' :: body ++ '"' :: after ++ ':' :: between ++ value ++ behind)
  | members {before body after between value behind rest : List Char} (hbefore : Blanks before)
      (hbody : StringForm body) (hafter : Blanks after) (hbetween : Blanks between)
      (hvalue : Form .value value) (hbehind : Blanks behind) (hrest : Form .members rest) :
      Form .members
        (before ++ '"' :: body ++ '"' :: after ++ ':' :: between ++ value ++ behind ++ ',' :: rest)

theorem stops_cons {c : Char} (hc : isDigit c = false ∧ c ≠ '.' ∧ c ≠ 'e' ∧ c ≠ 'E')
    (rest : List Char) : Stops (c :: rest) := by
  rintro _ ⟨rfl⟩
  exact hc

theorem stops_append {blanks rest : List Char} (hblanks : Blanks blanks) (hrest : Stops rest) :
    Stops (blanks ++ rest) := by
  apply head?_append_of _ hrest
  intro c hc
  rcases hblanks c (List.mem_of_mem_head? hc) with rfl | rfl | rfl | rfl <;> decide

def numberMarks : List Char := ['-', '0', '1', '2', '3', '4', '5', '6', '7', '8', '9']

theorem toNat_of_isDigit {c : Char} (hc : isDigit c = true) : 48 ≤ c.toNat ∧ c.toNat ≤ 57 := by
  simpa [isDigit, Char.le_def, UInt32.le_iff_toNat_le] using hc

theorem mem_numberMarks_of_isDigit {c : Char} (hc : isDigit c = true) : c ∈ numberMarks := by
  have hcodes : ∀ n < 58, 48 ≤ n → Char.ofNat n ∈ numberMarks := by decide
  obtain ⟨hlower, hupper⟩ := toNat_of_isDigit hc
  rw [← Char.ofNat_toNat c]
  exact hcodes c.toNat (by omega) hlower

/-- A number starts with a digit or with a minus sign. -/
theorem first_number {cs : List Char} (h : NumberForm cs) :
    ∃ c tail, cs = c :: tail ∧ c ∈ numberMarks := by
  obtain @⟨sign, whole, fraction, exponent, hsign, hwhole, -, -⟩ := h
  rcases hsign with rfl | rfl
  · cases whole with
    | nil =>
      rcases hwhole with h | h
      · cases h
      · exact absurd rfl h.1.1
    | cons c whole =>
      refine ⟨c, _, rfl, ?_⟩
      rcases hwhole with h | h
      · cases h
        decide
      · exact mem_numberMarks_of_isDigit (h.1.2 c List.mem_cons_self)
  · exact ⟨'-', _, rfl, by decide⟩

/-- A value starts with a mark of its own, which is no blank and closes nothing. -/
theorem first_value {cs : List Char} (h : Form .value cs) :
    ∃ c tail, cs = c :: tail ∧ isBlank c = false ∧ c ≠ ']' := by
  cases h with
  | number hnumber =>
    obtain ⟨c, tail, rfl, hc⟩ := first_number hnumber
    refine ⟨c, tail, rfl, ?_⟩
    fin_cases hc <;> decide
  | _ => exact ⟨_, _, rfl, by decide, by decide⟩

theorem skipBlanks_value {blanks cs : List Char} (hblanks : Blanks blanks) (h : Form .value cs)
    (rest : List Char) : skipBlanks (blanks ++ cs ++ rest) = cs ++ rest := by
  obtain ⟨c, tail, rfl, hc, -⟩ := first_value h
  rw [List.append_assoc, skipBlanks_append hblanks, List.cons_append, skipBlanks_cons hc]

/-- What passing over a part of a text comes to, given enough fuel. -/
def Part.Passed (cs : List Char) : Part → Prop
  | .value => ∀ fuel blanks rest, 2 * cs.length ≤ fuel → Blanks blanks → Stops rest →
      skipValue fuel (blanks ++ cs ++ rest) = some rest
  | .items => ∀ fuel rest, 2 * cs.length < fuel → skipItems fuel (cs ++ ']' :: rest) = some rest
  | .members => ∀ fuel rest, 2 * cs.length < fuel →
      skipMembers fuel (cs ++ '\x7d' :: rest) = some rest

/-- Numbers are passed over. -/
theorem skipValue_number {cs : List Char} (h : NumberForm cs) : Part.value.Passed cs := by
  intro fuel blanks rest hfuel hblanks hrest
  obtain ⟨text, htext⟩ := readNumberText_append h hrest
  have hskip := skipBlanks_value hblanks (.number h) rest
  obtain ⟨c, tail, rfl, hc⟩ := first_number h
  cases fuel with
  | zero => simp at hfuel
  | succ fuel =>
    rw [skipValue, hskip]
    fin_cases hc <;> exact congrArg (Option.map Prod.snd) htext

theorem skipItems_cons {fuel : Nat} {before value after rest : List Char}
    (hvalue : Part.value.Passed value) (hfuel : 2 * value.length ≤ fuel) (hbefore : Blanks before)
    (hafter : Blanks after) (hrest : Stops rest) :
    skipItems (fuel + 1) (before ++ value ++ after ++ rest) =
      match skipBlanks rest with
      | ']' :: rest => some rest
      | ',' :: rest => skipItems fuel rest
      | _ => none := by
  have hstop := stops_append hafter hrest
  rw [List.append_assoc, skipItems, hvalue fuel before _ hfuel hbefore hstop]
  simp only [bind, Option.bind_some, skipBlanks_append hafter]
  rfl

theorem skipMembers_cons {fuel : Nat} {before body after between value behind rest : List Char}
    (hbody : StringForm body) (hvalue : Part.value.Passed value) (hfuel : 2 * value.length ≤ fuel)
    (hbefore : Blanks before) (hafter : Blanks after) (hbetween : Blanks between)
    (hbehind : Blanks behind) (hrest : Stops rest) :
    skipMembers (fuel + 1)
        (before ++ '"' :: body ++ '"' :: after ++ ':' :: between ++ value ++ behind ++ rest) =
      match skipBlanks rest with
      | '\x7d' :: rest => some rest
      | ',' :: rest => skipMembers fuel rest
      | _ => none := by
  have hstop := stops_append hbehind hrest
  have hpassed := hvalue fuel between _ hfuel hbetween hstop
  simp only [List.append_assoc, List.cons_append] at hpassed ⊢
  rw [skipMembers, skipBlanks_append hbefore, skipBlanks_cons rfl]
  simp only [skipString_of_form hbody, bind, Option.bind_some, skipBlanks_append hafter,
    skipBlanks_cons (show isBlank ':' = false from rfl), hpassed, skipBlanks_append hbehind]
  rfl

/-- No array that has items closes at once. -/
theorem first_items {cs : List Char} (h : Form .items cs) (rest : List Char) :
    ∃ c tail, skipBlanks (cs ++ rest) = c :: tail ∧ c ≠ ']' := by
  cases h with
  | item hbefore hvalue | items hbefore hvalue =>
    obtain ⟨c, tail, rfl, hblank, hc⟩ := first_value hvalue
    simp only [List.append_assoc, List.cons_append]
    rw [skipBlanks_append hbefore, skipBlanks_cons hblank]
    exact ⟨c, _, rfl, hc⟩

/-- An object that has members starts with the name of one. -/
theorem first_members {cs : List Char} (h : Form .members cs) (rest : List Char) :
    ∃ tail, skipBlanks (cs ++ rest) = '"' :: tail := by
  cases h with
  | member hbefore | members hbefore =>
    simp only [List.append_assoc, List.cons_append]
    rw [skipBlanks_append hbefore, skipBlanks_cons rfl]
    exact ⟨_, rfl⟩

/-- A part of a text is passed over up to the mark behind it. -/
theorem Form.passed {part : Part} {cs : List Char} (h : Form part cs) : part.Passed cs := by
  induction h with
  | number hnumber => exact skipValue_number hnumber
  | null | yes | no =>
    intro fuel blanks rest hfuel hblanks hrest
    obtain ⟨fuel, rfl⟩ : ∃ k, fuel = k + 1 := ⟨fuel - 1, by simp at hfuel; omega⟩
    rw [skipValue, skipBlanks_value hblanks (by constructor) rest]
    rfl
  | @string body hbody =>
    intro fuel blanks rest hfuel hblanks hrest
    obtain ⟨fuel, rfl⟩ : ∃ k, fuel = k + 1 := ⟨fuel - 1, by simp at hfuel; omega⟩
    have hskip := skipBlanks_value hblanks (.string hbody) rest
    rw [skipValue, hskip]
    simpa using skipString_of_form hbody rest
  | emptyArray hinside =>
    intro fuel blanks rest hfuel hblanks hrest
    obtain ⟨fuel, rfl⟩ : ∃ k, fuel = k + 1 := ⟨fuel - 1, by simp at hfuel; omega⟩
    rw [skipValue, skipBlanks_value hblanks (.emptyArray hinside) rest]
    simp [skipBlanks_append hinside, skipBlanks_cons (show isBlank ']' = false from rfl)]
  | @array items hitems ih =>
    intro fuel blanks rest hfuel hblanks hrest
    obtain ⟨fuel, rfl⟩ : ∃ k, fuel = k + 1 := ⟨fuel - 1, by simp at hfuel; omega⟩
    obtain ⟨c, tail, hfirst, hc⟩ := first_items hitems (']' :: rest)
    have hpassed := ih fuel rest (by simp at hfuel; omega)
    rw [skipValue, skipBlanks_value hblanks (.array hitems) rest]
    simp only [List.append_assoc, List.cons_append, List.nil_append, hfirst]
    split
    · next heq =>
      cases heq
      exact absurd rfl hc
    · exact hpassed
  | emptyObject hinside =>
    intro fuel blanks rest hfuel hblanks hrest
    obtain ⟨fuel, rfl⟩ : ∃ k, fuel = k + 1 := ⟨fuel - 1, by simp at hfuel; omega⟩
    rw [skipValue, skipBlanks_value hblanks (.emptyObject hinside) rest]
    simp [skipBlanks_append hinside, skipBlanks_cons (show isBlank '\x7d' = false from rfl)]
  | @object members hmembers ih =>
    intro fuel blanks rest hfuel hblanks hrest
    obtain ⟨fuel, rfl⟩ : ∃ k, fuel = k + 1 := ⟨fuel - 1, by simp at hfuel; omega⟩
    obtain ⟨tail, hfirst⟩ := first_members hmembers ('\x7d' :: rest)
    have hpassed := ih fuel rest (by simp at hfuel; omega)
    rw [skipValue, skipBlanks_value hblanks (.object hmembers) rest]
    simp only [List.append_assoc, List.cons_append, List.nil_append, hfirst]
    exact hpassed
  | item hbefore hvalue hafter ih =>
    intro fuel rest hfuel
    obtain ⟨fuel, rfl⟩ : ∃ k, fuel = k + 1 := ⟨fuel - 1, by omega⟩
    simp only [List.length_append] at hfuel
    rw [skipItems_cons ih (by omega) hbefore hafter (stops_cons (by decide) rest),
      skipBlanks_cons rfl]
    rfl
  | items hbefore hvalue hafter hrest ih ih' =>
    intro fuel rest hfuel
    obtain ⟨fuel, rfl⟩ : ∃ k, fuel = k + 1 := ⟨fuel - 1, by omega⟩
    simp only [List.length_append, List.length_cons] at hfuel
    rw [List.append_assoc, List.cons_append,
      skipItems_cons ih (by omega) hbefore hafter (stops_cons (by decide) _), skipBlanks_cons rfl]
    exact ih' fuel rest (by omega)
  | member hbefore hbody hafter hbetween hvalue hbehind ih =>
    intro fuel rest hfuel
    obtain ⟨fuel, rfl⟩ : ∃ k, fuel = k + 1 := ⟨fuel - 1, by omega⟩
    simp only [List.length_append, List.length_cons] at hfuel
    rw [skipMembers_cons hbody ih (by omega) hbefore hafter hbetween hbehind
      (stops_cons (by decide) rest), skipBlanks_cons rfl]
    rfl
  | members hbefore hbody hafter hbetween hvalue hbehind hrest ih ih' =>
    intro fuel rest hfuel
    obtain ⟨fuel, rfl⟩ : ∃ k, fuel = k + 1 := ⟨fuel - 1, by omega⟩
    simp only [List.length_append, List.length_cons] at hfuel
    rw [List.append_assoc, List.cons_append, skipMembers_cons hbody ih (by omega) hbefore hafter
      hbetween hbehind (stops_cons (by decide) _), skipBlanks_cons rfl]
    exact ih' fuel rest (by omega)

/-! ### Strings, objects and arrays of strings -/

def StringText (value : List Char) (s : String) : Prop :=
  ∃ body, Spells body s.toList ∧ value = '"' :: body ++ ['"']

structure Member where
  name : String
  value : List Char

inductive MemberText : Member → List Char → Prop
  | mk {before body after between value behind : List Char} {name : String}
      (hbefore : Blanks before) (hbody : Spells body name.toList) (hafter : Blanks after)
      (hbetween : Blanks between) (hvalue : Form .value value) (hbehind : Blanks behind) :
      MemberText ⟨name, value⟩
        (before ++ '"' :: body ++ '"' :: after ++ ':' :: between ++ value ++ behind)

inductive MembersText : List Member → List Char → Prop
  | one {m : Member} {text : List Char} (hm : MemberText m text) : MembersText [m] text
  | cons {m : Member} {ms : List Member} {text rest : List Char} (hm : MemberText m text)
      (hms : MembersText ms rest) : MembersText (m :: ms) (text ++ ',' :: rest)

inductive ObjectText : List Member → List Char → Prop
  | empty {inside : List Char} (hinside : Blanks inside) :
      ObjectText [] ('\x7b' :: inside ++ ['\x7d'])
  | members {ms : List Member} {inside : List Char} (hms : MembersText ms inside) :
      ObjectText ms ('\x7b' :: inside ++ ['\x7d'])

inductive StringsText : List String → List Char → Prop
  | one {before value behind : List Char} {s : String} (hbefore : Blanks before)
      (hvalue : StringText value s) (hbehind : Blanks behind) :
      StringsText [s] (before ++ value ++ behind)
  | cons {before value behind rest : List Char} {s : String} {ss : List String}
      (hbefore : Blanks before) (hvalue : StringText value s) (hbehind : Blanks behind)
      (hrest : StringsText ss rest) :
      StringsText (s :: ss) (before ++ value ++ behind ++ ',' :: rest)

def Around (value text : List Char) : Prop :=
  ∃ before behind, Blanks before ∧ Blanks behind ∧ text = before ++ value ++ behind

theorem form_of_stringText {value : List Char} {s : String} (h : StringText value s) :
    Form .value value := by
  obtain ⟨body, hbody, rfl⟩ := h
  exact .string (stringForm_of_spells hbody)

theorem stringText_stringText (s : String) : StringText (stringText s) s :=
  ⟨_, spells_escaped s.toList, rfl⟩

theorem memberText_of_form {value : List Char} (hvalue : Form .value value) (name : String) :
    MemberText ⟨name, value⟩ (stringText name ++ ':' :: value) := by
  have htext := MemberText.mk blanks_nil (spells_escaped name.toList) blanks_nil blanks_nil hvalue
    blanks_nil
  simpa [stringText] using htext

theorem memberText_stringText (name s : String) :
    MemberText ⟨name, stringText s⟩ (stringText name ++ ':' :: stringText s) :=
  memberText_of_form (form_of_stringText (stringText_stringText s)) name

theorem MembersText.form {ms : List Member} {text : List Char} (h : MembersText ms text) :
    Form .members text := by
  induction h with
  | one hm =>
    obtain ⟨hbefore, hbody, hafter, hbetween, hvalue, hbehind⟩ := hm
    exact .member hbefore (stringForm_of_spells hbody) hafter hbetween hvalue hbehind
  | cons hm _ ih =>
    obtain ⟨hbefore, hbody, hafter, hbetween, hvalue, hbehind⟩ := hm
    exact .members hbefore (stringForm_of_spells hbody) hafter hbetween hvalue hbehind ih

/-- The text of an object is of the form of a value. -/
theorem ObjectText.form {ms : List Member} {text : List Char} (h : ObjectText ms text) :
    Form .value text := by
  cases h with
  | empty hinside => exact .emptyObject hinside
  | members hms => exact .object hms.form

/-- A value that starts with a quote is a string. -/
theorem stringForm_of_quote {tail : List Char} (h : Form .value ('"' :: tail)) :
    ∃ body, StringForm body ∧ tail = body ++ ['"'] := by
  generalize hvalue : '"' :: tail = value at h
  cases h with
  | number hnumber =>
    obtain ⟨c, rest, rfl, hc⟩ := first_number hnumber
    cases hvalue
    exact absurd hc (by decide)
  | string hbody =>
    cases hvalue
    exact ⟨_, hbody, rfl⟩
  | _ => cases hvalue

theorem MembersText.length_le {ms : List Member} {text : List Char} (h : MembersText ms text) :
    ms.length ≤ text.length := by
  induction h with
  | one hm =>
    cases hm
    simp only [List.length_append, List.length_cons, List.length_nil]
    omega
  | cons hm _ ih =>
    simp only [List.length_append, List.length_cons]
    omega

theorem MembersText.first {ms : List Member} {text : List Char} (h : MembersText ms text)
    (rest : List Char) : ∃ tail, skipBlanks (text ++ rest) = '"' :: tail :=
  first_members h.form rest

end IdentityLifecycle.Json
