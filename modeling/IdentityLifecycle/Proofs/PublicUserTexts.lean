import IdentityLifecycle.Proofs.Effects
import IdentityLifecycle.Proofs.JsonForms
import IdentityLifecycle.User.Json

/-!
# The texts of a public user

A user is read from an object that gives each of the three fields once, as a string, in any order
and among any other members, and from an array of the three strings. What is written for a user is
such an object.
-/

namespace IdentityLifecycle.PublicUser

open Json

/-! ### Fields -/

inductive Field
  | id
  | name
  | email

def Field.text : Field → String
  | id => "id"
  | name => "name"
  | email => "email"

def get (user : PublicUser) : Field → String
  | .id => user.id
  | .name => user.name
  | .email => user.email

namespace Draft

def get (draft : Draft) : Field → Option String
  | .id => draft.id
  | .name => draft.name
  | .email => draft.email

def put (draft : Draft) (field : Field) (s : String) : Draft :=
  match field with
  | .id => { draft with id := some s }
  | .name => { draft with name := some s }
  | .email => { draft with email := some s }

end Draft

theorem Field.text_injective : Function.Injective Field.text := by
  intro field other hsame
  cases field <;> cases other <;> first | rfl | exact absurd hsame (by decide)

variable {draft : Draft} {user : PublicUser} {field other : Field}

theorem Draft.get_put_self (s : String) : (draft.put field s).get field = some s := by
  cases field <;> rfl

theorem Draft.get_put_of_ne (s : String) (hne : other ≠ field) :
    (draft.put field s).get other = draft.get other := by
  cases field <;> cases other <;> first | rfl | exact absurd rfl hne

/-- A draft can be finished if it has all fields. -/
theorem Draft.finish_eq_ok :
    draft.finish = .ok user ↔ ∀ field, draft.get field = some (user.get field) := by
  obtain ⟨id, name, email⟩ := draft
  obtain ⟨uid, uname, uemail⟩ := user
  constructor
  · intro hok field
    cases id <;> cases name <;> cases email <;> cases hok
    cases field <;> rfl
  · intro hfields
    have hid : id = some uid := hfields .id
    have hname : name = some uname := hfields .name
    have hemail : email = some uemail := hfields .email
    rw [hid, hname, hemail]
    rfl

/-! ### One member -/

theorem readText_quote {blanks : List Char} (hblanks : Blanks blanks) (rest : List Char) :
    readText (blanks ++ '"' :: rest) =
      match readString rest with
      | some (s, rest) => .ok (String.ofList s, rest)
      | none => .error .malformed := by
  rw [readText, skipBlanks_append hblanks, skipBlanks_cons rfl]
  rfl

theorem readText_other {blanks : List Char} {c : Char} (hblanks : Blanks blanks)
    (hblank : isBlank c = false) (hc : c ≠ '"') (rest : List Char) :
    readText (blanks ++ c :: rest) = .error (mismatch (c :: rest) "a string") := by
  rw [readText, skipBlanks_append hblanks, skipBlanks_cons hblank]
  split
  · next heq =>
    cases heq
    exact absurd rfl hc
  · rfl

/-- A value is read as a text exactly if it is a string that spells it out. -/
theorem readText_value {blanks value rest rest' : List Char} {s : String} (hblanks : Blanks blanks)
    (hvalue : Form .value value) :
    readText (blanks ++ value ++ rest) = .ok (s, rest') ↔ rest' = rest ∧ StringText value s := by
  obtain ⟨c, tail, rfl, hblank, -⟩ := first_value hvalue
  rw [List.append_assoc, List.cons_append]
  by_cases hc : c = '"'
  · subst hc
    obtain ⟨body, hbody, rfl⟩ := stringForm_of_quote hvalue
    rw [readText_quote hblanks, List.append_assoc, List.singleton_append]
    constructor
    · intro hok
      cases hread : readString (body ++ '"' :: rest) with
      | none =>
        rw [hread] at hok
        cases hok
      | some result =>
        rw [hread] at hok
        cases hok
        obtain ⟨hrest, hspells⟩ := readString_form hbody hread
        exact ⟨hrest, body, by rwa [String.toList_ofList], rfl⟩
    · rintro ⟨rfl, spelled, hspells, hsame⟩
      simp only [List.cons_append, List.cons.injEq, true_and, List.append_cancel_right_eq] at hsame
      rw [hsame, readString_of_spells hspells]
      simp
  · rw [readText_other hblanks hblank hc]
    constructor
    · rintro ⟨⟩
    · rintro ⟨-, body, -, hsame⟩
      cases hsame
      exact absurd rfl hc

/-- A member of a known name is read once, and only as a text. -/
theorem Draft.readMember_field_eq_ok {cs cs' rest : List Char} {next : Draft}
    (hcolon : readMember.afterColon cs = some cs') :
    draft.readMember field.text cs = .ok (next, rest) ↔
      draft.get field = none ∧ ∃ s, readText cs' = .ok (s, rest) ∧ next = draft.put field s := by
  have hread : draft.readMember field.text cs =
      if (draft.get field).isSome then
        .error (.wrongForm ("duplicate field `" ++ field.text ++ "`"))
      else (readText cs').map fun r => (draft.put field r.1, r.2) := by
    cases field <;> simp only [readMember, hcolon] <;> rfl
  rw [hread]
  cases draft.get field with
  | some s => simp
  | none =>
    rw [Option.isSome_none, if_neg (by decide)]
    cases readText cs' with
    | error fault => simp [Except.map]
    | ok result =>
      obtain ⟨s, tail⟩ := result
      simp only [Except.map, Except.ok.injEq, Prod.mk.injEq, true_and]
      constructor
      · rintro ⟨rfl, rfl⟩
        exact ⟨s, ⟨rfl, rfl⟩, rfl⟩
      · rintro ⟨_, ⟨rfl, rfl⟩, rfl⟩
        exact ⟨rfl, rfl⟩

/-- A member of another name is passed over. -/
theorem Draft.readMember_other_eq_ok {cs cs' rest : List Char} {name : String} {next : Draft}
    (hother : ∀ field : Field, name ≠ field.text) (hcolon : readMember.afterColon cs = some cs') :
    draft.readMember name cs = .ok (next, rest) ↔
      skipValue (2 * cs'.length + 2) cs' = some rest ∧ next = draft := by
  have hid : name ≠ "id" := hother .id
  have hname : name ≠ "name" := hother .name
  have hemail : name ≠ "email" := hother .email
  rw [readMember, if_neg hid, if_neg hname, if_neg hemail, hcolon]
  dsimp only
  cases skipValue (2 * cs'.length + 2) cs' with
  | none => simp
  | some tail => simp [and_comm, eq_comm]

def Draft.Takes (draft : Draft) (m : Member) (next : Draft) : Prop :=
  (∃ field s, m.name = field.text ∧ draft.get field = none ∧ StringText m.value s ∧
    next = draft.put field s) ∨
  ((∀ field : Field, m.name ≠ field.text) ∧ next = draft)

/-- A member is read whatever blanks stand in it. -/
theorem Draft.readMember_eq_ok {after between tail rest : List Char} {m : Member} {next : Draft}
    (hafter : Blanks after) (hbetween : Blanks between) (hvalue : Form .value m.value)
    (htail : Stops tail) :
    draft.readMember m.name (after ++ ':' :: (between ++ m.value ++ tail)) = .ok (next, rest) ↔
      rest = tail ∧ draft.Takes m next := by
  have hcolon : readMember.afterColon (after ++ ':' :: (between ++ m.value ++ tail)) =
      some (between ++ m.value ++ tail) := by
    rw [readMember.afterColon, skipBlanks_append hafter, skipBlanks_cons rfl]
    rfl
  by_cases hname : ∃ field : Field, m.name = field.text
  · obtain ⟨field, hfield⟩ := hname
    rw [hfield, readMember_field_eq_ok hcolon]
    simp only [readText_value hbetween hvalue]
    constructor
    · rintro ⟨hnone, s, ⟨rfl, hs⟩, rfl⟩
      exact ⟨rfl, .inl ⟨field, s, hfield, hnone, hs, rfl⟩⟩
    · rintro ⟨rfl, ⟨other, s, hother, hnone, hs, rfl⟩ | ⟨hother, -⟩⟩
      · obtain rfl := Field.text_injective (hfield.symm.trans hother)
        exact ⟨hnone, s, ⟨rfl, hs⟩, rfl⟩
      · exact absurd hfield (hother field)
  · push Not at hname
    have hskip : skipValue (2 * (between ++ m.value ++ tail).length + 2)
        (between ++ m.value ++ tail) = some tail := by
      apply hvalue.passed _ _ _ _ hbetween htail
      simp only [List.length_append]
      omega
    rw [readMember_other_eq_ok hname hcolon, hskip]
    constructor
    · rintro ⟨⟨⟩, rfl⟩
      exact ⟨rfl, .inr ⟨hname, rfl⟩⟩
    · rintro ⟨rfl, ⟨field, -, hfield, -⟩ | ⟨-, rfl⟩⟩
      · exact absurd hfield (hname field)
      · exact ⟨rfl, rfl⟩

/-! ### All members -/

variable {m : Member} {ms : List Member} {name s : String} {found : Option String}

def Gives (ms : List Member) (name s : String) : Prop :=
  ∃ m, ms.filter (·.name = name) = [m] ∧ StringText m.value s

/-- Either `s` was found under the name and no member repeats it, or the members give it. -/
def Fills (found : Option String) (ms : List Member) (name s : String) : Prop :=
  match found with
  | some t => t = s ∧ ∀ m ∈ ms, m.name ≠ name
  | none => Gives ms name s

theorem fills_nil : Fills found [] name s ↔ found = some s := by
  cases found <;> simp [Fills, Gives]

theorem fills_cons_of_ne (hne : m.name ≠ name) :
    Fills found (m :: ms) name s ↔ Fills found ms name s := by
  cases found with
  | some t => simp [Fills, hne]
  | none => simp [Fills, Gives, hne]

theorem fills_cons_self (hsame : m.name = name) :
    Fills found (m :: ms) name s ↔
      found = none ∧ StringText m.value s ∧ Fills (some s) ms name s := by
  cases found with
  | some t =>
    constructor
    · rintro ⟨-, hothers⟩
      exact absurd hsame (hothers m List.mem_cons_self)
    · rintro ⟨⟨⟩, -⟩
  | none =>
    have hothers : ms.filter (·.name = name) = [] ↔ ∀ m ∈ ms, m.name ≠ name := by
      simp [List.filter_eq_nil_iff]
    simp only [Fills, Gives, ← hothers]
    rw [List.filter_cons_of_pos (by simpa using hsame)]
    constructor
    · rintro ⟨m', hfilter, hs⟩
      obtain ⟨rfl, hnil⟩ := List.cons.inj hfilter
      exact ⟨trivial, hs, trivial, hnil⟩
    · rintro ⟨-, hs, -, hnil⟩
      exact ⟨m, by rw [hnil], hs⟩

/-- What was read so far and the members to come give each field of the user once. -/
def Draft.Completes (draft : Draft) (ms : List Member) (user : PublicUser) : Prop :=
  ∀ field, Fills (draft.get field) ms field.text (user.get field)

theorem Draft.completes_nil : draft.Completes [] user ↔ draft.finish = .ok user := by
  simp only [Completes, fills_nil, finish_eq_ok]

theorem Draft.completes_cons :
    draft.Completes (m :: ms) user ↔ ∃ next, draft.Takes m next ∧ next.Completes ms user := by
  have hne : ∀ {field other}, m.name = Field.text field → other ≠ field → m.name ≠ other.text :=
    fun hfield hother hsame => hother (Field.text_injective (hsame.symm.trans hfield))
  constructor
  · intro hcompletes
    by_cases hname : ∃ field : Field, m.name = field.text
    · obtain ⟨field, hfield⟩ := hname
      obtain ⟨hnone, hs, hfilled⟩ := (fills_cons_self hfield).mp (hcompletes field)
      refine ⟨_, .inl ⟨field, _, hfield, hnone, hs, rfl⟩, fun other => ?_⟩
      by_cases hother : other = field
      · rwa [hother, get_put_self]
      · rw [get_put_of_ne _ hother]
        exact (fills_cons_of_ne (hne hfield hother)).mp (hcompletes other)
    · push Not at hname
      exact ⟨draft, .inr ⟨hname, rfl⟩, fun field =>
        (fills_cons_of_ne (hname field)).mp (hcompletes field)⟩
  · rintro ⟨next, ⟨field, s, hfield, hnone, hs, rfl⟩ | ⟨hother, rfl⟩, hcompletes⟩ other
    · by_cases hother : other = field
      · have hfilled := hcompletes other
        rw [hother, get_put_self] at hfilled
        obtain rfl := hfilled.1
        rw [hother]
        exact (fills_cons_self hfield).mpr ⟨hnone, hs, hfilled⟩
      · have hfilled := hcompletes other
        rw [get_put_of_ne _ hother] at hfilled
        exact (fills_cons_of_ne (hne hfield hother)).mpr hfilled
    · exact (fills_cons_of_ne (hother other)).mpr (hcompletes other)

/-- What follows a member: another one, or the end of the object. -/
theorem readMembers_member {fuel : Nat} {text tail rest : List Char} (hm : MemberText m text)
    (htail : Stops tail) :
    readMembers (fuel + 1) draft (text ++ tail) = .ok (user, rest) ↔
      ∃ next, draft.Takes m next ∧
        (match skipBlanks tail with
          | '\x7d' :: rest => do return (← next.finish, rest)
          | ',' :: rest => readMembers fuel next rest
          | _ => .error .malformed) = .ok (user, rest) := by
  obtain @⟨before, body, after, between, value, behind, name, hbefore, hbody, hafter, hbetween,
    hvalue, hbehind⟩ := hm
  have htake : ∀ next left,
      draft.readMember name (after ++ ':' :: (between ++ value ++ (behind ++ tail))) =
        .ok (next, left) ↔ left = behind ++ tail ∧ draft.Takes ⟨name, value⟩ next :=
    fun _ _ => Draft.readMember_eq_ok (m := ⟨name, value⟩) hafter hbetween hvalue
      (stops_append hbehind htail)
  simp only [List.append_assoc, List.cons_append] at htake ⊢
  rw [readMembers, skipBlanks_append hbefore, skipBlanks_cons rfl]
  simp only [readString_of_spells hbody, String.ofList_toList]
  constructor
  · intro hok
    cases hread :
      draft.readMember name (after ++ ':' :: (between ++ (value ++ (behind ++ tail)))) with
    | error fault =>
      rw [hread] at hok
      cases hok
    | ok result =>
      obtain ⟨next, left⟩ := result
      obtain ⟨rfl, htakes⟩ := (htake _ _).mp hread
      rw [hread] at hok
      refine ⟨next, htakes, ?_⟩
      simp only [bind, Except.bind, skipBlanks_append hbehind] at hok ⊢
      exact hok
  · rintro ⟨next, htakes, hok⟩
    rw [(htake next _).mpr ⟨rfl, htakes⟩]
    simp only [bind, Except.bind, skipBlanks_append hbehind] at hok ⊢
    exact hok

/-- The members up to the closing brace are read exactly if they complete the draft. -/
theorem readMembers_eq_ok {text rest rest' : List Char} (hms : MembersText ms text) :
    ∀ {fuel : Nat} {draft : Draft}, ms.length ≤ fuel →
      (readMembers fuel draft (text ++ '\x7d' :: rest) = .ok (user, rest') ↔
        rest' = rest ∧ draft.Completes ms user) := by
  induction hms with
  | one hm =>
    intro fuel draft hfuel
    obtain ⟨fuel, rfl⟩ : ∃ k, fuel = k + 1 := ⟨fuel - 1, by simp at hfuel; omega⟩
    rw [readMembers_member hm (stops_cons (by decide) rest), Draft.completes_cons,
      skipBlanks_cons rfl]
    simp only [Draft.completes_nil]
    constructor
    · rintro ⟨next, htakes, hok⟩
      cases hfinish : next.finish with
      | error fault =>
        rw [hfinish] at hok
        cases hok
      | ok u =>
        rw [hfinish] at hok
        cases hok
        exact ⟨rfl, next, htakes, hfinish⟩
    · rintro ⟨rfl, next, htakes, hfinish⟩
      refine ⟨next, htakes, ?_⟩
      rw [hfinish]
      rfl
  | cons hm hms ih =>
    intro fuel draft hfuel
    obtain ⟨fuel, rfl⟩ : ∃ k, fuel = k + 1 := ⟨fuel - 1, by simp at hfuel; omega⟩
    rw [List.append_assoc, List.cons_append, readMembers_member hm (stops_cons (by decide) _),
      Draft.completes_cons, skipBlanks_cons rfl]
    simp only [ih (Nat.le_of_succ_le_succ hfuel)]
    constructor
    · rintro ⟨next, htakes, rfl, hcompletes⟩
      exact ⟨rfl, next, htakes, hcompletes⟩
    · rintro ⟨rfl, next, htakes, hcompletes⟩
      exact ⟨next, htakes, rfl, hcompletes⟩

/-! ### Whole texts -/

/-- From an empty draft, the members must give each field once. -/
theorem Draft.completes_new :
    Completes ⟨none, none, none⟩ ms user ↔
      ∀ field : Field, Gives ms field.text (user.get field) := by
  apply forall_congr'
  intro field
  cases field <;> rfl

/-- An object is read as a user if and only if its members give each field once. -/
theorem read_object {object before rest rest' : List Char} (hbefore : Blanks before)
    (hobject : ObjectText ms object) :
    read (before ++ object ++ rest) = .ok (user, rest') ↔
      rest' = rest ∧ ∀ field : Field, Gives ms field.text (user.get field) := by
  rw [← Draft.completes_new]
  cases hobject with
  | @empty inside hinside =>
    have hread : read (before ++ ('\x7b' :: inside ++ ['\x7d']) ++ rest) =
        (Draft.finish ⟨none, none, none⟩).map (·, rest) := by
      simp only [List.append_assoc, List.cons_append, List.nil_append]
      rw [read, skipBlanks_append hbefore, skipBlanks_cons rfl]
      simp only [skipBlanks_append hinside, skipBlanks_cons (show isBlank '\x7d' = false from rfl)]
    rw [hread, Draft.completes_nil]
    constructor
    · rintro ⟨⟩
    · rintro ⟨-, ⟨⟩⟩
  | @members _ inside hms =>
    obtain ⟨tail, htail⟩ := hms.first ('\x7d' :: rest)
    have hread : read (before ++ ('\x7b' :: inside ++ ['\x7d']) ++ rest) =
        readMembers ((inside ++ '\x7d' :: rest).length + 1) ⟨none, none, none⟩
          (inside ++ '\x7d' :: rest) := by
      simp only [List.append_assoc, List.cons_append, List.nil_append]
      rw [read, skipBlanks_append hbefore, skipBlanks_cons rfl]
      simp only [htail]
      rfl
    rw [hread]
    apply readMembers_eq_ok hms
    have hlength := hms.length_le
    simp only [List.length_append]
    omega

theorem readText_stringText {before value : List Char} (hbefore : Blanks before)
    (hvalue : StringText value s) (rest : List Char) :
    readText (before ++ value ++ rest) = .ok (s, rest) :=
  (readText_value hbefore (form_of_stringText hvalue)).mpr ⟨rfl, hvalue⟩

theorem readItem_first {before value : List Char} (hbefore : Blanks before)
    (hvalue : StringText value s) (rest : List Char) :
    readItem 0 (before ++ (value ++ rest)) = .ok (s, rest) := by
  have hread := readText_stringText blanks_nil hvalue rest
  have hskip := skipBlanks_value hbefore (form_of_stringText hvalue) rest
  obtain ⟨body, -, rfl⟩ := hvalue
  rw [readItem, ← List.append_assoc, hskip]
  exact hread

theorem readItem_next {behind before value : List Char} (hbehind : Blanks behind)
    (hbefore : Blanks before) (hvalue : StringText value s) (rest : List Char) (read : Nat) :
    readItem (read + 1) (behind ++ ',' :: (before ++ (value ++ rest))) = .ok (s, rest) := by
  have hread := readText_stringText hbefore hvalue rest
  have hskip := skipBlanks_value hbefore (form_of_stringText hvalue) rest
  obtain ⟨body, -, rfl⟩ := hvalue
  rw [readItem, skipBlanks_append hbehind, skipBlanks_cons rfl, ← List.append_assoc]
  simp only [hskip, Nat.succ_ne_zero, if_false]
  exact hread

theorem read_array {before items : List Char} (hbefore : Blanks before)
    (hitems : StringsText [user.id, user.name, user.email] items) (rest : List Char) :
    read (before ++ ('[' :: items ++ [']']) ++ rest) = .ok (user, rest) := by
  have hread : read (before ++ ('[' :: items ++ [']']) ++ rest) =
      readArray (items ++ ']' :: rest) := by
    simp only [List.append_assoc, List.cons_append, List.nil_append]
    rw [read, skipBlanks_append hbefore, skipBlanks_cons rfl]
    rfl
  obtain _ | ⟨hbefore₁, hid, hbehind₁, hrest⟩ := hitems
  obtain _ | ⟨hbefore₂, hname, hbehind₂, hrest⟩ := hrest
  obtain ⟨hbefore₃, hemail, hbehind₃⟩ | ⟨-, -, -, ⟨⟩⟩ := hrest
  rw [hread, readArray]
  simp only [List.append_assoc, List.cons_append, bind, Except.bind,
    readItem_first hbefore₁ hid, readItem_next hbehind₁ hbefore₂ hname,
    readItem_next hbehind₂ hbefore₃ hemail, skipBlanks_append hbehind₃,
    skipBlanks_cons (show isBlank ']' = false from rfl)]
  rfl

/-- Behind the user there may be blanks only. -/
theorem ofJsonText_eq_ok {text : List Char} :
    ofJsonText (String.ofList text) = .ok user ↔
      ∃ rest, read text = .ok (user, rest) ∧ skipBlanks rest = [] := by
  rw [ofJsonText, String.toList_ofList]
  simp only [bind_eq_ok]
  constructor
  · rintro ⟨⟨u, rest⟩, hread, hok⟩
    dsimp only at hok
    split at hok
    · next hempty =>
      cases hok
      exact ⟨rest, hread, by simpa using hempty⟩
    · cases hok
  · rintro ⟨rest, hread, hempty⟩
    exact ⟨_, hread, by simp [hempty, pure, Except.pure]⟩

/-! ### What is written for a user -/

def members (user : PublicUser) : List Member :=
  [⟨"id", stringText user.id⟩, ⟨"name", stringText user.name⟩, ⟨"email", stringText user.email⟩]

theorem toJsonText_eq (user : PublicUser) :
    ∃ object, ObjectText user.members object ∧ user.toJsonText = String.ofList object := by
  have hid : stringText "id" = "\"id\"".toList := by decide
  have hname : stringText "name" = "\"name\"".toList := by decide
  have hemail : stringText "email" = "\"email\"".toList := by decide
  have hlast := MembersText.one (memberText_stringText "email" user.email)
  have hms := MembersText.cons (memberText_stringText "id" user.id)
    (.cons (memberText_stringText "name" user.name) hlast)
  have hobject : ObjectText user.members _ := .members hms
  refine ⟨_, hobject, ?_⟩
  unfold toJsonText
  rw [hid, hname, hemail]
  simp

theorem gives_members (user : PublicUser) (field : Field) :
    Gives user.members field.text (user.get field) := by
  refine ⟨⟨field.text, stringText (user.get field)⟩, ?_, stringText_stringText _⟩
  cases field <;> rfl

/-! ### Reading back -/

theorem ofJsonText_object {object text : List Char} (hobject : ObjectText ms object)
    (htext : Around object text) :
    ofJsonText (String.ofList text) = .ok user ↔
      ∀ field : Field, Gives ms field.text (user.get field) := by
  obtain ⟨before, behind, hbefore, hbehind, rfl⟩ := htext
  rw [ofJsonText_eq_ok]
  constructor
  · rintro ⟨rest, hread, -⟩
    exact ((read_object hbefore hobject).mp hread).2
  · intro hgives
    exact ⟨behind, (read_object hbefore hobject).mpr ⟨rfl, hgives⟩, skipBlanks_blanks hbehind⟩

theorem ofJsonText_array {items text : List Char}
    (hitems : StringsText [user.id, user.name, user.email] items)
    (htext : Around ('[' :: items ++ [']']) text) : ofJsonText (String.ofList text) = .ok user := by
  obtain ⟨before, behind, hbefore, hbehind, rfl⟩ := htext
  exact ofJsonText_eq_ok.mpr ⟨behind, read_array hbefore hitems behind, skipBlanks_blanks hbehind⟩

/-- An object that does not give a field exactly once is no user. -/
theorem ofJsonText_error_of_count {object text : List Char} (hobject : ObjectText ms object)
    (htext : Around object text) (hcount : (ms.filter (·.name = field.text)).length ≠ 1) :
    ∃ fault, ofJsonText (String.ofList text) = .error fault := by
  cases hread : ofJsonText (String.ofList text) with
  | error fault => exact ⟨fault, rfl⟩
  | ok user =>
    obtain ⟨m, hfilter, -⟩ := (ofJsonText_object hobject htext).mp hread field
    rw [hfilter] at hcount
    exact absurd rfl hcount

/-- A user is read back from what is written for it, from an object that gives its three texts once
each, in any order and among any other members, and from the array of the three texts; an object
that lacks or repeats one of the three is refused. -/
theorem survives_json (user : PublicUser) :
    ofJsonText user.toJsonText = .ok user ∧
      (∀ ms object text, ObjectText ms object → Around object text →
        (ofJsonText (String.ofList text) = .ok user ↔
          ∀ field : Field, Gives ms field.text (user.get field)) ∧
        ∀ field : Field, (ms.filter (·.name = field.text)).length ≠ 1 →
          ∃ fault, ofJsonText (String.ofList text) = .error fault) ∧
      ∀ items text, StringsText [user.id, user.name, user.email] items →
        Around ('[' :: items ++ [']']) text → ofJsonText (String.ofList text) = .ok user := by
  refine ⟨?_, fun ms object text hobject htext => ⟨ofJsonText_object hobject htext, fun field =>
    ofJsonText_error_of_count hobject htext⟩, fun items text => ofJsonText_array⟩
  obtain ⟨object, hobject, htext⟩ := toJsonText_eq user
  have haround : Around object object := ⟨[], [], blanks_nil, blanks_nil, by simp⟩
  rw [htext, ofJsonText_object hobject haround]
  exact gives_members user

/-- The members stand in another order, with one of another name among them, and the name of the
user is given by the two halves of its code. -/
theorem survives_json_shuffled :
    ofJsonText (String.ofList (" \x7b\"name\": \"\\uD83d\\uDE00\",\"age\":[40] ,".toList ++
        "\"id\":\"7\",\"email\":\"e\"\x7d\n".toList)) = .ok ⟨"7", "😀", "e"⟩ := by
  have hstring : StringText "\"\\uD83d\\uDE00\"".toList "😀" :=
    ⟨"\\uD83d\\uDE00".toList, .cons (.pair (by decide) (hexWord_eq_some_iff.mp (by decide))
      (hexWord_eq_some_iff.mp (by decide))) .nil, by decide⟩
  have hwhole : WholeForm "40".toList := wholeForm_of_all (by decide) (by decide) (by decide)
  have hnumber := NumberForm.mk (.inl rfl) hwhole .absent .absent
  have hlist := Form.array (.item blanks_nil (.number hnumber) blanks_nil)
  have hspace : Blanks [' '] := by simp [Blanks]
  have hname := MemberText.mk blanks_nil (spells_escaped "name".toList) blanks_nil hspace
    (form_of_stringText hstring) blanks_nil
  have hage := MemberText.mk blanks_nil (spells_escaped "age".toList) blanks_nil blanks_nil hlist
    hspace
  have hid := memberText_stringText "id" "7"
  have hemail := memberText_stringText "email" "e"
  have hobject := ObjectText.members (.cons hname (.cons hage (.cons hid (.one hemail))))
  refine ((survives_json ⟨"7", "😀", "e"⟩).2.1 _ _ _ hobject
    ⟨[' '], ['\n'], hspace, ?_, ?_⟩).1.mpr ?_
  · simp [Blanks]
  · decide
  · intro field
    cases field
    · exact ⟨_, rfl, stringText_stringText "7"⟩
    · exact ⟨_, rfl, hstring⟩
    · exact ⟨_, rfl, stringText_stringText "e"⟩

end IdentityLifecycle.PublicUser
