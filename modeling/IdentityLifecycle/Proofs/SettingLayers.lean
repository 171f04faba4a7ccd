import IdentityLifecycle.Proofs.KnownSettings
import IdentityLifecycle.Proofs.SettingPaths

/-!
# Layers, setting by setting

Files whose members are sections, and variables whose names have two parts, leave every section a
table and lay a setting over what the layers below have in the same field, and over nothing else.
So a setting that loads is what the highest layer says of it that says anything.
-/

namespace IdentityLifecycle

/-! ### Members by name -/

section Members

variable {α : Type} {m : String × α} {members : List (String × α)} {name : String}

def member? (members : List (String × α)) (name : String) : Option α :=
  (members.find? fun m => Text.lowercase m.1 = name).map (·.2)

/-- No two names differ in case alone. -/
def Distinct (members : List (String × α)) : Prop :=
  (members.map fun m => Text.lowercase m.1).Nodup

theorem member?_cons_self (hname : Text.lowercase m.1 = name) :
    member? (m :: members) name = some m.2 := by
  simp [member?, hname]

theorem member?_cons_of_ne (hname : Text.lowercase m.1 ≠ name) :
    member? (m :: members) name = member? members name := by
  simp [member?, hname]

theorem member?_of_ne (hnames : ∀ m ∈ members, Text.lowercase m.1 ≠ name) :
    member? members name = none := by
  simpa [member?] using hnames

theorem mem_of_member? {a : α} (hfound : member? members name = some a) :
    ∃ m ∈ members, m.2 = a := by
  obtain ⟨m, hm, rfl⟩ := Option.map_eq_some_iff.mp hfound
  exact ⟨m, List.mem_of_find?_eq_some hm, rfl⟩

theorem member?_isSome (hm : m ∈ members) : (member? members (Text.lowercase m.1)).isSome := by
  rw [member?, Option.isSome_map, List.find?_isSome]
  exact ⟨m, hm, by simp⟩

theorem member?_map {β : Type} (f : α → β) :
    member? (members.map fun m => (m.1, f m.2)) name = (member? members name).map f := by
  simp [member?, List.find?_map, Function.comp_def]

theorem distinct_cons :
    Distinct (m :: members) ↔
      (∀ other ∈ members, Text.lowercase other.1 ≠ Text.lowercase m.1) ∧ Distinct members := by
  simp [Distinct, eq_comm]

end Members

namespace Node

variable {tree below : Node} {name field : String} {entries settings : List (String × Node)}

/-! ### Laying tables over nodes -/

/-- What is in a field when a layer that gives `given` is laid over `below`. -/
def laid (given below : Option Node) : Option Node :=
  given.elim below fun node => some (node.overlay below)

/-- What is in a field when a table has been laid over the section. -/
theorem lookup_overlayEntries (hdistinct : Distinct entries) (below : Node) :
    (overlayEntries entries below).entries.lookup field =
      laid (member? entries field) (below.entries.lookup field) := by
  induction entries generalizing below with
  | nil => simp [overlayEntries, member?, laid]
  | cons entry entries ih =>
    obtain ⟨hothers, hentries⟩ := distinct_cons.mp hdistinct
    obtain ⟨origin, hcons⟩ := overlayEntries_cons entry.1 entry.2 entries below
    rw [hcons, ih hentries, Node.entries, lookup_putEntry]
    by_cases hname : Text.lowercase entry.1 = field
    · rw [if_pos hname.symm, member?_cons_self hname, member?_of_ne (hname ▸ hothers), hname]
      rfl
    · rw [if_neg (Ne.symm hname), member?_cons_of_ne hname]

theorem overlayEntries_table (origin : Option String) (old : List (String × Node)) :
    ∃ origin' new, overlayEntries entries (.table origin old) = .table origin' new := by
  induction entries generalizing origin old with
  | nil => exact ⟨origin, old, by rw [overlayEntries]⟩
  | cons entry entries ih =>
    obtain ⟨origin', hcons⟩ := overlayEntries_cons entry.1 entry.2 entries (.table origin old)
    rw [hcons]
    exact ih _ _

theorem overlay_of_ne_nil (hentries : entries ≠ []) (place : Option String) (below : Option Node) :
    ∃ origin new, (Node.table place entries).overlay below = .table origin new := by
  obtain ⟨entry, rest, rfl⟩ := List.exists_cons_of_ne_nil hentries
  obtain ⟨origin, hcons⟩ := overlayEntries_cons entry.1 entry.2 rest (below.getD emptyTable)
  rw [overlay, hcons]
  exact overlayEntries_table _ _

/-- What is laid over others is all that is there if there is only one entry in the end. -/
theorem eq_singleton_of_overlay {place origin : Option String} {below : Option Node} {node : Node}
    (hdistinct : Distinct entries) (hentries : entries ≠ [])
    (hone : (Node.table place entries).overlay below = .table origin [(name, node)]) :
    ∃ entry, entries = [entry] ∧ Text.lowercase entry.1 = name := by
  have hname : ∀ entry ∈ entries, Text.lowercase entry.1 = name := by
    intro entry hentry
    obtain ⟨given, hgiven⟩ := Option.isSome_iff_exists.mp (member?_isSome hentry)
    have hlookup : _ = laid (member? entries (Text.lowercase entry.1)) _ :=
      lookup_overlayEntries hdistinct (below.getD emptyTable)
    rw [overlay] at hone
    rw [hone, hgiven, Node.entries] at hlookup
    by_contra hne
    rw [List.lookup_cons, beq_false_of_ne hne] at hlookup
    cases hlookup
  obtain _ | ⟨first, _ | ⟨second, rest⟩⟩ := entries
  · exact absurd rfl hentries
  · exact ⟨first, rfl, hname first List.mem_cons_self⟩
  · obtain ⟨hothers, -⟩ := distinct_cons.mp hdistinct
    simp only [List.forall_mem_cons] at hname
    obtain ⟨hfirst, hsecond, -⟩ := hname
    exact absurd (hsecond.trans hfirst.symm) (hothers second List.mem_cons_self)

/-! ### Sections stay tables -/

inductive Keeps (name : String) : List PathStep → Node → Prop
  | elsewhere {first : String} {rest : List PathStep} {node : Node} (hne : first ≠ name) :
      Keeps name (.entry first :: rest) node
  | field {second : String} {rest : List PathStep} {node : Node} :
      Keeps name (.entry name :: .entry second :: rest) node
  | table {origin : Option String} {entries : List (String × Node)} :
      Keeps name [.entry name] (.table origin entries)

theorem Keeps.tabled_setAt {steps : List PathStep} {node : Node} (h : Keeps name steps node)
    (htabled : tree.Tabled name) : (setAt steps node (some tree)).Tabled name := by
  intro found hfound
  cases h with
  | elsewhere hne =>
    rw [lookup_setAt, if_neg (Ne.symm hne)] at hfound
    exact htabled found hfound
  | field =>
    rw [lookup_setAt, if_pos rfl, setAt] at hfound
    exact ⟨_, _, (Option.some.inj hfound).symm⟩
  | table =>
    rw [lookup_setAt, if_pos rfl, setAt, overlay, Option.getD_some] at hfound
    rw [← Option.some.inj hfound]
    cases hold : tree.entries.lookup name with
    | none => exact overlayEntries_table _ _
    | some node =>
      obtain ⟨origin, old, rfl⟩ := htabled node hold
      exact overlayEntries_table _ _

/-- A section stays a table if no setting says otherwise. -/
theorem tabled_setAll (hkeeps : ∀ setting ∈ settings, Keeps name (pathOfText setting.1) setting.2)
    (htabled : tree.Tabled name) : (setAll settings tree).Tabled name := by
  induction settings generalizing tree with
  | nil => exact htabled
  | cons setting settings ih =>
    obtain ⟨hsetting, hsettings⟩ := List.forall_mem_cons.mp hkeeps
    exact ih hsettings (hsetting.tabled_setAt htabled)

/-! ### Sections from a file -/

structure IsSection (setting : String × Node) : Prop where
  path : pathOfText setting.1 = [.entry (Text.lowercase setting.1)]
  table : ∃ origin entries, setting.2 = .table origin entries ∧ Distinct entries

theorem IsSection.keeps {setting : String × Node} (h : IsSection setting) (name : String) :
    Keeps name (pathOfText setting.1) setting.2 := by
  obtain ⟨origin, entries, htable, -⟩ := h.table
  rw [h.path, htable]
  by_cases hname : Text.lowercase setting.1 = name
  · exact hname ▸ .table
  · exact .elsewhere hname

theorem IsSection.silent {setting : String × Node} (h : IsSection setting)
    (hname : Text.lowercase setting.1 ≠ name) :
    Silent name field (pathOfText setting.1) setting.2 := by
  rw [h.path]
  exact .elsewhere hname

/-- A section of a layer is laid over its own fields, one by one. -/
theorem IsSection.field?_setAt {setting : String × Node} (h : IsSection setting) (tree : Node) :
    (setAt (pathOfText setting.1) setting.2 (some tree)).field? (Text.lowercase setting.1) field =
      laid (member? setting.2.entries field) (tree.field? (Text.lowercase setting.1) field) := by
  obtain ⟨origin, entries, htable, hdistinct⟩ := h.table
  rw [h.path, htable, field?_setAt_self, setAt, overlay, lookup_overlayEntries hdistinct]
  unfold field?
  cases tree.entries.lookup (Text.lowercase setting.1) <;> rfl

/-- What the sections of a file do to a field. -/
theorem field?_setAll_sections (hsections : ∀ setting ∈ settings, IsSection setting)
    (hdistinct : Distinct settings) (tree : Node) :
    (setAll settings tree).field? name field =
      laid ((member? settings name).bind fun node => member? node.entries field)
        (tree.field? name field) := by
  induction settings generalizing tree with
  | nil => rfl
  | cons setting settings ih =>
    obtain ⟨hsetting, hsettings⟩ := List.forall_mem_cons.mp hsections
    obtain ⟨hothers, hrest⟩ := distinct_cons.mp hdistinct
    by_cases hname : Text.lowercase setting.1 = name
    · subst hname
      rw [member?_cons_self rfl, Option.bind_some, ← hsetting.field?_setAt]
      exact field?_setAll_of_silent (fun other hmem =>
        (hsettings other hmem).silent (hothers other hmem)) _
    · rw [member?_cons_of_ne hname, ← (hsetting.silent hname).field?_setAt tree]
      exact ih hsettings hrest _

end Node

end IdentityLifecycle
