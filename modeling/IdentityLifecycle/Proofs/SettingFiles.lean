import IdentityLifecycle.Proofs.IntegerTexts
import IdentityLifecycle.Proofs.SettingLayers

/-!
# Files of settings

A file of sections gives a field of a section the node of the value that it has there, and leaves
every other field to the layers below.
-/

namespace IdentityLifecycle

open Node

section Files

variable {origin path name field : String} {members fields : List (String × Json)}

def inFile? (members : List (String × Json)) (name field : String) : Option Json :=
  match member? members name with
  | some (.object fields) => member? fields field
  | _ => none

/-- A section: an object whose fields have names of their own, as have the members of their
values. -/
def IsSectionJson (value : Json) : Prop :=
  ∃ fields, value = .object fields ∧ Distinct fields ∧
    ∀ f ∈ fields, ∀ inner, f.2 = .object inner → Distinct inner

/-- A file that is absent, or an object of sections. -/
structure PlainFile (content : Option String) (members : List (String × Json)) : Prop where
  content : match content with
    | none => members = []
    | some text => Json.ofText text = some (.object members)
  distinct : Distinct members
  names : ∀ m ∈ members, '.' ∉ m.1.toList ∧ Unindexed m.1
  sections : ∀ m ∈ members, IsSectionJson m.2

theorem ofMembers_eq_append {entries : List (String × Node)} (hdistinct : Distinct members)
    (hnew : ∀ m ∈ members, ∀ entry ∈ entries, entry.1 ≠ m.1) :
    ofMembers origin members entries =
      entries ++ members.map fun m => (m.1, ofJson origin m.2) := by
  induction members generalizing entries with
  | nil => simp [ofMembers]
  | cons m members ih =>
    obtain ⟨hothers, hmembers⟩ := distinct_cons.mp hdistinct
    obtain ⟨hm, hnew⟩ := List.forall_mem_cons.mp hnew
    have hnone : entries.lookup m.1 = none := List.lookup_eq_none_iff.mpr fun entry hentry =>
      bne_iff_ne.mpr (Ne.symm (hm entry hentry))
    rw [ofMembers, putEntry, hnone, if_neg (by simp), ih hmembers]
    · simp
    · intro other hother entry hentry
      rw [List.mem_append, List.mem_singleton] at hentry
      rcases hentry with hentry | rfl
      · exact hnew other hother entry hentry
      · intro hsame
        exact hothers other hother (congrArg Text.lowercase hsame.symm)

theorem ofMembers_eq_map (hdistinct : Distinct members) :
    ofMembers origin members [] = members.map fun m => (m.1, ofJson origin m.2) := by
  rw [ofMembers_eq_append hdistinct (by simp), List.nil_append]

theorem distinct_map (f : Json → Node) :
    Distinct (members.map fun m => (m.1, f m.2)) ↔ Distinct members := by
  simp [Distinct, Function.comp_def]

namespace PlainFile

variable {content : Option String}

/-- A plain file gives one setting for each of its sections. -/
theorem fileLayer_eq (h : PlainFile content members) (path : String) :
    Settings.fileLayer path content =
      .ok (members.map fun m => (m.1, ofJson path m.2)) := by
  have hcontent := h.content
  cases content with
  | none =>
    rw [hcontent]
    rfl
  | some text =>
    rw [Settings.fileLayer, hcontent]
    exact congrArg _ (ofMembers_eq_map h.distinct)

theorem isSection (h : PlainFile content members) :
    ∀ setting ∈ members.map fun m => (m.1, ofJson path m.2), IsSection setting := by
  intro setting hsetting
  obtain ⟨m, hm, rfl⟩ := List.mem_map.mp hsetting
  obtain ⟨hpoint, hindex⟩ := h.names m hm
  obtain ⟨fields, hfields, hdistinct, -⟩ := h.sections m hm
  refine ⟨pathOfText_name hpoint hindex, some path, ofMembers path fields [], ?_, ?_⟩
  · rw [hfields, ofJson]
  · rw [ofMembers_eq_map hdistinct]
    exact (distinct_map _).mpr hdistinct

/-- The node that a file has for a field. -/
theorem member?_bind (h : PlainFile content members) :
    ((member? (members.map fun m => (m.1, ofJson path m.2)) name).bind fun node =>
      member? node.entries field) = (inFile? members name field).map (ofJson path) := by
  rw [member?_map, inFile?]
  cases hfound : member? members name with
  | none => rfl
  | some value =>
    obtain ⟨m, hm, rfl⟩ := mem_of_member? hfound
    obtain ⟨fields, hfields, hdistinct, -⟩ := h.sections m hm
    rw [hfields]
    rw [Option.map_some, Option.bind_some, ofJson, Node.entries, ofMembers_eq_map hdistinct,
      member?_map]

/-- The members of a field's value have names of their own. -/
theorem distinct_inner (h : PlainFile content members) {inner : List (String × Json)}
    (hfield : inFile? members name field = some (.object inner)) : Distinct inner := by
  unfold inFile? at hfield
  split at hfield
  · next fields hfound =>
    obtain ⟨m, hm, hsection⟩ := mem_of_member? hfound
    obtain ⟨_, hfields, -, hinner⟩ := h.sections m hm
    rw [hsection] at hfields
    cases hfields
    obtain ⟨f, hf, hvalue⟩ := mem_of_member? hfield
    exact hinner f hf inner hvalue
  · cases hfield

end PlainFile

end Files

/-! ### Files of one setting -/

theorem plainFile_none : PlainFile none [] :=
  ⟨rfl, List.nodup_nil, fun _ hm => absurd hm List.not_mem_nil,
    fun _ hm => absurd hm List.not_mem_nil⟩

def SectionText (s : Setting) (cs text : List Char) : Prop :=
  ∃ group field inside object, Text.lowercase group = s.group ∧ Text.lowercase field = s.field ∧
    Json.ObjectText [⟨field, cs⟩] inside ∧ Json.ObjectText [⟨group, inside⟩] object ∧
    Json.Around object text

variable {s : Setting} {n : Int}

/-- The text of one section with one number, without blanks. -/
theorem sectionText_of_number {group field : String} {cs : List Char}
    (hgroup : Text.lowercase group = s.group) (hfield : Text.lowercase field = s.field)
    (hcs : Json.NumberForm cs) :
    SectionText s cs ('\x7b' :: (Json.stringText group ++
      ':' :: '\x7b' :: (Json.stringText field ++ ':' :: cs) ++ ['\x7d']) ++ ['\x7d']) := by
  have hinside := Json.ObjectText.members (.one (Json.memberText_of_form (.number hcs) field))
  have hobject := Json.ObjectText.members (.one (Json.memberText_of_form hinside.form group))
  have htext : ∀ object, Json.Around object object := fun object =>
    ⟨[], [], Json.blanks_nil, Json.blanks_nil, by simp⟩
  refine ⟨group, field, _, _, hgroup, hfield, hinside, hobject, ?_⟩
  simpa using htext _

/-- A section may be spelled in any case. -/
theorem plain_name {group : String} (hs : s ∈ Setting.all)
    (hgroup : Text.lowercase group = s.group) : '.' ∉ group.toList ∧ Unindexed group := by
  have hmark : ∀ c : Char, Text.IsLower c → c ∉ s.group.toList → c ∉ group.toList :=
    fun c hlower hnone hc => hnone (hgroup ▸ Text.mem_lowercase hlower hc)
  refine ⟨hmark '.' ?_ (Setting.names_of_mem s hs).1,
    unindexed_of_no_bracket (hmark '[' ?_ (Setting.parts_of_mem s hs).2.2)⟩
  · exact Text.isLower_of_ascii (by decide) (by decide)
  · exact Text.isLower_of_ascii (by decide) (by decide)

/-- What a file says in which there is one field. -/
theorem inFile?_one {group field name other : String} {value : Json} :
    inFile? [(group, .object [(field, value)])] name other =
      if Text.lowercase group = name ∧ Text.lowercase field = other then some value else none := by
  by_cases hgroup : Text.lowercase group = name
  · by_cases hfield : Text.lowercase field = other
    · simp [inFile?, member?, hgroup, hfield]
    · simp [inFile?, member?, hgroup, hfield]
  · simp [inFile?, member?, hgroup]

/-- The file is one of a section, and what it gives is a number that stands for the integer. -/
theorem SectionText.plainFile {cs text : List Char} (h : SectionText s cs text)
    (hcs : JsonDecimal n cs) (hn : IsSignedWord n) (hs : s ∈ Setting.all) :
    ∃ members k, PlainFile (some (String.ofList text)) members ∧ Stands n (scalarOfNumber k) ∧
      inFile? members s.group s.field = some (.number k) ∧
      ∀ t ∈ Setting.all, t ≠ s → inFile? members t.group t.field = none := by
  obtain ⟨group, field, inside, object, hgroup, hfield, hinside, hobject, haround⟩ := h
  obtain ⟨k, hread, hstands⟩ := Json.readNumber_decimal hcs hn
  have htext := Json.ofText_section hobject hinside haround hcs.numberForm hread
  refine ⟨_, k, ⟨htext, by simp [Distinct], ?_, ?_⟩, hstands, ?_, fun t ht hne => ?_⟩
  · simpa using plain_name hs hgroup
  · simp [IsSectionJson, Distinct]
  · rw [inFile?_one, if_pos ⟨hgroup, hfield⟩]
  · rw [inFile?_one, if_neg]
    rintro ⟨hgroup', hfield'⟩
    exact hne (Setting.eq_of_names ht hs (hgroup'.symm.trans hgroup) (hfield'.symm.trans hfield))

end IdentityLifecycle
