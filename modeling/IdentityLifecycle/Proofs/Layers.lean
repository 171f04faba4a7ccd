import IdentityLifecycle.Proofs.Effects
import IdentityLifecycle.Proofs.Lookup
import IdentityLifecycle.Settings.Load

/-!
# Which layer decides a setting

The layers are laid over each other one setting at a time. A setting may give a field of a section a
value, or have nothing to do with the field, and then the field stays as it was; anything else, such
as a list in the place of the whole section, takes the field away. So the highest setting that has
to do with a field decides it, if that setting gives it a value.
-/

namespace IdentityLifecycle

namespace Node

variable {name other first second field : String} {tree node : Node} {origin : Option String}
  {scalar : Scalar} {rest : List PathStep}

def field? (tree : Node) (name field : String) : Option Node :=
  (tree.entries.lookup name).bind fun node => node.entries.lookup field

/-- An entry is found where it was put, and the others where they were. -/
theorem lookup_putEntry (entries : List (String × Node)) (name other : String) (node : Node) :
    (putEntry entries name node).lookup other =
      if other = name then some node else entries.lookup other := by
  unfold putEntry
  cases hfound : entries.lookup name with
  | some old => simp [lookup_replace, hfound]
  | none =>
    rw [if_neg (by simp), List.lookup_append]
    by_cases hother : other = name
    · simp [hother, hfound]
    · have hne : (other == name) = false := beq_eq_false_iff_ne.mpr hother
      simp [hother, List.lookup_cons, hne]

theorem overlayEntries_append (upper lower : List (String × Node)) (below : Node) :
    overlayEntries (upper ++ lower) below = overlayEntries lower (overlayEntries upper below) := by
  induction upper generalizing below with
  | nil => simp [overlayEntries]
  | cons entry upper ih => simp only [List.cons_append, overlayEntries, ih]

/-- The first entry of a table is laid over the node, and then the others are. -/
theorem overlayEntries_cons (spelled : String) (node : Node) (rest : List (String × Node))
    (below : Node) :
    ∃ origin, overlayEntries ((spelled, node) :: rest) below =
      overlayEntries rest (table origin (putEntry below.entries (Text.lowercase spelled)
        (node.overlay (below.entries.lookup (Text.lowercase spelled))))) := by
  cases below with
  | leaf _ _ => exact ⟨none, by simp [overlayEntries]⟩
  | list _ _ => exact ⟨none, by simp [overlayEntries]⟩
  | table origin entries => exact ⟨origin, by simp [overlayEntries]⟩

theorem lookup_overlayEntries_of_silent {entries : List (String × Node)}
    (hsilent : ∀ entry ∈ entries, Text.lowercase entry.1 ≠ field) (below : Node) :
    (overlayEntries entries below).entries.lookup field = below.entries.lookup field := by
  induction entries generalizing below with
  | nil => simp [overlayEntries]
  | cons entry entries ih =>
    obtain ⟨hentry, hentries⟩ := List.forall_mem_cons.mp hsilent
    obtain ⟨origin, hcons⟩ := overlayEntries_cons entry.1 entry.2 entries below
    rw [hcons, ih hentries, Node.entries, lookup_putEntry, if_neg (Ne.symm hentry)]

theorem lookup_overlayEntries_of_leaf {spelled : String} {upper lower : List (String × Node)}
    (hname : Text.lowercase spelled = field)
    (hlower : ∀ entry ∈ lower, Text.lowercase entry.1 ≠ field) (below : Node) :
    (overlayEntries (upper ++ (spelled, leaf origin scalar) :: lower) below).entries.lookup field =
      some (leaf origin scalar) := by
  obtain ⟨place, hcons⟩ :=
    overlayEntries_cons spelled (leaf origin scalar) lower (overlayEntries upper below)
  rw [overlayEntries_append, hcons, lookup_overlayEntries_of_silent hlower, Node.entries,
    lookup_putEntry, if_pos hname.symm, overlay]

theorem lookup_setAt (name other : String) (rest : List PathStep) (node : Node)
    (below : Option Node) :
    (setAt (.entry name :: rest) node below).entries.lookup other =
      if other = name then
        some (setAt rest node ((below.getD emptyTable).entries.lookup name))
      else (below.getD emptyTable).entries.lookup other := by
  rw [setAt, Node.entries, lookup_putEntry]

/-- What a setting in a section does to a field, given the section before. -/
theorem field?_setAt_self :
    (setAt (.entry name :: rest) node (some tree)).field? name field =
      (setAt rest node (tree.entries.lookup name)).entries.lookup field := by
  rw [field?, lookup_setAt, if_pos rfl]
  rfl

/-! ### What a setting has to do with a field -/

/-- The setting leaves the field as it is. -/
inductive Silent (name field : String) : List PathStep → Node → Prop
  | elsewhere {first : String} {rest : List PathStep} {node : Node} (hne : first ≠ name) :
      Silent name field (.entry first :: rest) node
  | beside {second : String} {rest : List PathStep} {node : Node} (hne : second ≠ field) :
      Silent name field (.entry name :: .entry second :: rest) node
  | without {origin : Option String} {entries : List (String × Node)}
      (hnone : ∀ entry ∈ entries, Text.lowercase entry.1 ≠ field) :
      Silent name field [.entry name] (.table origin entries)

/-- The setting gives the field a value: alone, or in a table for the section. -/
inductive Gives (name field : String) (origin : Option String) (scalar : Scalar) :
    List PathStep → Node → Prop
  | alone : Gives name field origin scalar [.entry name, .entry field] (.leaf origin scalar)
  | within {place : Option String} {upper lower : List (String × Node)} {spelled : String}
      (hname : Text.lowercase spelled = field)
      (hlower : ∀ entry ∈ lower, Text.lowercase entry.1 ≠ field) :
      Gives name field origin scalar [.entry name]
        (.table place (upper ++ (spelled, .leaf origin scalar) :: lower))

theorem Silent.field?_setAt {steps : List PathStep} (h : Silent name field steps node)
    (tree : Node) : (setAt steps node (some tree)).field? name field = tree.field? name field := by
  cases h with
  | elsewhere hne =>
    rw [field?, lookup_setAt, if_neg (Ne.symm hne)]
    rfl
  | beside hne =>
    rw [field?_setAt_self, lookup_setAt, if_neg (Ne.symm hne), field?]
    cases tree.entries.lookup name <;> rfl
  | without hnone =>
    rw [field?_setAt_self, setAt, overlay, lookup_overlayEntries_of_silent hnone, field?]
    cases tree.entries.lookup name <;> rfl

theorem Gives.field?_setAt {steps : List PathStep} (h : Gives name field origin scalar steps node)
    (tree : Node) :
    (setAt steps node (some tree)).field? name field = some (leaf origin scalar) := by
  cases h with
  | alone => rw [field?_setAt_self, lookup_setAt, if_pos rfl, setAt, overlay]
  | within hname hlower =>
    rw [field?_setAt_self, setAt, overlay, lookup_overlayEntries_of_leaf hname hlower]

/-- Settings that have nothing to do with a field leave it. -/
theorem field?_setAll_of_silent {settings : List (String × Node)}
    (hsilent : ∀ setting ∈ settings, Silent name field (pathOfText setting.1) setting.2)
    (tree : Node) : (setAll settings tree).field? name field = tree.field? name field := by
  induction settings generalizing tree with
  | nil => rfl
  | cons setting settings ih =>
    obtain ⟨hsetting, hsettings⟩ := List.forall_mem_cons.mp hsilent
    exact (ih hsettings _).trans (hsetting.field?_setAt tree)

/-- The last setting that has to do with a field decides it. -/
theorem field?_setAll {lower higher : List (String × Node)} {path : String}
    (hgives : Gives name field origin scalar (pathOfText path) node)
    (hsilent : ∀ setting ∈ higher, Silent name field (pathOfText setting.1) setting.2)
    (tree : Node) :
    (setAll (lower ++ (path, node) :: higher) tree).field? name field =
      some (leaf origin scalar) := by
  rw [setAll, List.foldl_append, List.foldl_cons]
  exact (field?_setAll_of_silent hsilent _).trans (hgives.field?_setAt _)

end Node

/-! ### The settings of all layers -/

def SettingsSources.given (sources : SettingsSources) :
    Except SettingsError (List (String × Node)) := do
  let base ← Settings.fileLayer Settings.defaultPath sources.defaultFile
  let top ← Settings.fileLayer Settings.localPath sources.localFile
  return base ++ top ++ sources.environment.filterMap fun (name, value) =>
    Settings.variableSetting? name value

namespace Settings

variable {sources : SettingsSources} {tree : Node} {name field : String} {origin : Option String}
  {scalar : Scalar}

theorem variableSetting?_eq {spelled value path : String}
    (hstart : variableStart.isPrefixOf (Text.lowercase spelled).toList = true)
    (hpath : String.ofList
      (pathOfVariable ((Text.lowercase spelled).toList.drop variableStart.length)) = path)
    (hscalar : scalarOfText value = scalar) :
    variableSetting? spelled value = some (path, .leaf (some "the environment") scalar) := by
  rw [variableSetting?, if_pos hstart, hpath, hscalar]

end Settings

end IdentityLifecycle
