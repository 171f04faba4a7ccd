import IdentityLifecycle.Proofs.SettingLayers

/-!
# Variables for settings

A variable whose name has two parts sets the field that the parts name, and nothing else.
-/

namespace IdentityLifecycle

open Node

/-- A variable with another prefix, or whose name has two parts that are not paths themselves. -/
inductive PlainVariable (name : String) : Prop
  | foreign (hforeign : ¬Settings.variableStart <+: (Text.lowercase name).toList)
  | parts {front back : List Char}
      (hname : (Text.lowercase name).toList =
        Settings.variableStart ++ (front ++ '_' :: '_' :: back))
      (hfront : Settings.NamePart front) (hback : Settings.NamePart back)
      (hindex : Unindexed
        (String.ofList (Settings.pathOfVariable (front ++ '_' :: '_' :: back))))

def variableNode (value : String) : Node :=
  .leaf (some "the environment") (Settings.scalarOfText value)

section Variables

variable {s : Setting} {name value : String} {setting : String × Node}

theorem variableSetting?_of_start {rest : List Char}
    (hname : (Text.lowercase name).toList = Settings.variableStart ++ rest) :
    Settings.variableSetting? name value =
      some (String.ofList (Settings.pathOfVariable rest), variableNode value) := by
  have hstart : Settings.variableStart.isPrefixOf (Text.lowercase name).toList = true := by
    rw [hname, List.isPrefixOf_iff_prefix]
    exact List.prefix_append _ _
  exact Settings.variableSetting?_eq hstart (by rw [hname, List.drop_left]) rfl

/-- The variable of a setting's name gives the field of the setting its value. -/
theorem variableSetting?_of_name (hs : s ∈ Setting.all)
    (hname : Text.lowercase name = s.variableName) :
    Settings.variableSetting? name value = some (s.key, variableNode value) := by
  obtain ⟨-, -, -, hpath⟩ := Setting.names_of_mem s hs
  have hstart : (Text.lowercase name).toList =
      Settings.variableStart ++ (s.group ++ "__" ++ s.field).toList := by
    rw [hname, s.toList_variableName]
  rw [variableSetting?_of_start hstart, hpath, String.ofList_toList]

/-- What is in a variable's path. -/
theorem PlainVariable.path (h : PlainVariable name)
    (hsetting : Settings.variableSetting? name value = some setting) :
    (pathOfText setting.1 = [.entry setting.1] ∧ '.' ∈ setting.1.toList) ∨
      ∃ first second, pathOfText setting.1 = [.entry first, .entry second] ∧
        setting.1 = first ++ "." ++ second := by
  cases h with
  | foreign hforeign =>
    rw [Settings.variableSetting?, if_neg] at hsetting
    · cases hsetting
    · rwa [List.isPrefixOf_iff_prefix]
  | parts hname hfront hback hindex =>
    rw [variableSetting?_of_start hname] at hsetting
    obtain rfl := Option.some.inj hsetting
    apply Settings.pathOfText_variable hfront hback _ rfl hindex
    intro c hc
    have hmem : c ∈ (Text.lowercase name).toList := by
      rw [hname]
      exact List.mem_append_right _ hc
    rw [Text.lowercase, String.toList_ofList] at hmem
    exact Text.isLower_of_mem_lowerAfter hmem

/-- A plain variable leaves all sections tables. -/
theorem PlainVariable.keeps (h : PlainVariable name) (hs : s ∈ Setting.all)
    (hsetting : Settings.variableSetting? name value = some setting) :
    Keeps s.group (pathOfText setting.1) setting.2 := by
  obtain ⟨hgroup, -, -, -⟩ := Setting.names_of_mem s hs
  rcases h.path hsetting with ⟨hpath, hpoint⟩ | ⟨first, second, hpath, -⟩
  · rw [hpath]
    exact .elsewhere fun hsame => hgroup (hsame ▸ hpoint)
  · rw [hpath]
    by_cases hfirst : first = s.group
    · exact hfirst ▸ .field
    · exact .elsewhere hfirst

/-- Only the variable of a setting's name has the path of the setting. -/
theorem PlainVariable.name_of_path (h : PlainVariable name) (hs : s ∈ Setting.all)
    (hsetting : Settings.variableSetting? name value = some setting) (hpath : setting.1 = s.key) :
    Text.lowercase name = s.variableName := by
  obtain ⟨hgroup, hfield, -, hkey⟩ := Setting.names_of_mem s hs
  cases h with
  | foreign hforeign =>
    rw [Settings.variableSetting?, if_neg] at hsetting
    · cases hsetting
    · rwa [List.isPrefixOf_iff_prefix]
  | @parts front back hname hfront hback hindex =>
    rw [variableSetting?_of_start hname] at hsetting
    obtain rfl := Option.some.inj hsetting
    have hsame : Settings.pathOfVariable (front ++ '_' :: '_' :: back) =
        Settings.pathOfVariable (s.group ++ "__" ++ s.field).toList := by
      rw [hkey, ← hpath, String.toList_ofList]
    have hexpand := congrArg (List.flatMap fun c => if c = '.' then ['_', '_'] else [c]) hsame
    rw [Settings.expand_pathOfVariable, Settings.expand_pathOfVariable] at hexpand
    · rw [← String.toList_inj, hname, hexpand, s.toList_variableName]
    · simpa using ⟨hgroup, hfield⟩
    · simpa using ⟨hfront.1, hback.1⟩

/-- A variable of another name has nothing to do with a setting. -/
theorem PlainVariable.silent (h : PlainVariable name) (hs : s ∈ Setting.all)
    (hname : Text.lowercase name ≠ s.variableName)
    (hsetting : Settings.variableSetting? name value = some setting) :
    Silent s.group s.field (pathOfText setting.1) setting.2 := by
  obtain ⟨hgroup, -, -, hkey⟩ := Setting.names_of_mem s hs
  rcases h.path hsetting with ⟨hpath, hpoint⟩ | ⟨first, second, hpath, hparts⟩
  · rw [hpath]
    exact .elsewhere fun hsame => hgroup (hsame ▸ hpoint)
  · rw [hpath]
    by_cases hfirst : first = s.group
    · refine hfirst ▸ .beside fun hsecond => hname (h.name_of_path hs hsetting ?_)
      rw [hparts, hfirst, hsecond, Setting.key]
    · exact .elsewhere hfirst

structure PlainEnvironment (environment : Environment) : Prop where
  plain : ∀ entry ∈ environment, PlainVariable entry.1
  once : ∀ s ∈ Setting.all,
    (environment.filter fun entry => Text.lowercase entry.1 = s.variableName).length ≤ 1

variable {environment : Environment}

def variableSettings (environment : Environment) : List (String × Node) :=
  environment.filterMap fun entry => Settings.variableSetting? entry.1 entry.2

theorem mem_variableSettings (hsetting : setting ∈ variableSettings environment) :
    ∃ entry ∈ environment, Settings.variableSetting? entry.1 entry.2 = some setting :=
  List.mem_filterMap.mp hsetting

/-- Variables of other names leave a setting as it is. -/
theorem field?_of_unnamed (hs : s ∈ Setting.all)
    (hplain : ∀ entry ∈ environment, PlainVariable entry.1)
    (hnames : ∀ entry ∈ environment, Text.lowercase entry.1 ≠ s.variableName) (tree : Node) :
    (setAll (variableSettings environment) tree).field? s.group s.field =
      tree.field? s.group s.field := by
  apply field?_setAll_of_silent
  intro setting hmem
  obtain ⟨entry, hentry, hsetting⟩ := mem_variableSettings hmem
  exact (hplain entry hentry).silent hs (hnames entry hentry) hsetting

/-- The one variable of a setting's name decides it. -/
theorem field?_variableSettings (hs : s ∈ Setting.all) (h : PlainEnvironment environment)
    (tree : Node) :
    (setAll (variableSettings environment) tree).field? s.group s.field =
      laid ((member? environment s.variableName).map variableNode)
        (tree.field? s.group s.field) := by
  cases hfound : environment.find? fun entry => Text.lowercase entry.1 = s.variableName with
  | none =>
    have hnames : ∀ entry ∈ environment, Text.lowercase entry.1 ≠ s.variableName := by
      simpa using hfound
    rw [member?_of_ne hnames, field?_of_unnamed hs h.plain hnames]
    rfl
  | some entry =>
    obtain ⟨hname, before, after, hsplit, -⟩ := List.find?_eq_some_iff_append.mp hfound
    have hname : Text.lowercase entry.1 = s.variableName := by simpa using hname
    have hafter : ∀ other ∈ after, Text.lowercase other.1 ≠ s.variableName := by
      have honce := h.once s hs
      rw [hsplit, List.filter_append, List.filter_cons_of_pos (by simpa using hname),
        List.length_append, List.length_cons] at honce
      have hnone : after.filter (fun other => Text.lowercase other.1 = s.variableName) = [] :=
        List.length_eq_zero_iff.mp (by omega)
      simpa [List.filter_eq_nil_iff] using hnone
    have hplain : ∀ other ∈ after, PlainVariable other.1 := fun other hother =>
      h.plain other (hsplit ▸ List.mem_append_right _ (.tail _ hother))
    obtain ⟨-, -, hpath, -⟩ := Setting.names_of_mem s hs
    have hgives : Gives s.group s.field (some "the environment") (Settings.scalarOfText entry.2)
      (pathOfText s.key) (variableNode entry.2) := hpath ▸ .alone
    have hsettings : variableSettings environment =
        variableSettings before ++ (s.key, variableNode entry.2) :: variableSettings after := by
      simp [variableSettings, hsplit, variableSetting?_of_name hs hname]
    rw [hsettings, field?_setAll hgives, member?, hfound]
    · rfl
    · intro setting hmem
      obtain ⟨other, hother, hsetting⟩ := mem_variableSettings hmem
      exact (hplain other hother).silent hs (hafter other hother) hsetting

end Variables

/-! ### Environments of one variable -/

def ForeignEnvironment (environment : Environment) : Prop :=
  ∀ entry ∈ environment, ¬Settings.variableStart <+: (Text.lowercase entry.1).toList

variable {s t : Setting}

theorem ForeignEnvironment.name_ne {environment : Environment} (h : ForeignEnvironment environment)
    (s : Setting) : ∀ entry ∈ environment, Text.lowercase entry.1 ≠ s.variableName := by
  intro entry hentry hname
  apply h entry hentry
  rw [hname, s.toList_variableName]
  exact List.prefix_append _ _

theorem ForeignEnvironment.filter_eq_nil {environment : Environment}
    (h : ForeignEnvironment environment) (s : Setting) :
    environment.filter (fun entry => Text.lowercase entry.1 = s.variableName) = [] := by
  simpa [List.filter_eq_nil_iff] using h.name_ne s

theorem ForeignEnvironment.plain {environment : Environment} (h : ForeignEnvironment environment) :
    PlainEnvironment environment where
  plain entry hentry := .foreign (h entry hentry)
  once s _ := by
    rw [h.filter_eq_nil s]
    exact Nat.zero_le 1

theorem plainVariable_of_name {name : String} (hs : s ∈ Setting.all)
    (hname : Text.lowercase name = s.variableName) : PlainVariable name := by
  obtain ⟨hgroup, hfield, hpath, hwritten⟩ := Setting.names_of_mem s hs
  obtain ⟨hgroup', hfield', -⟩ := Setting.parts_of_mem s hs
  have hparts : (s.group ++ "__" ++ s.field).toList =
      s.group.toList ++ '_' :: '_' :: s.field.toList := by
    simp
  refine .parts (hname ▸ hparts ▸ s.toList_variableName) ⟨hgroup, hgroup'⟩ ⟨hfield, hfield'⟩ ?_
  rw [← hparts, hwritten, String.ofList_toList, Unindexed, hpath]
  simp

section OneVariable

variable {name value : String} {before after : Environment}

theorem plainEnvironment_of_one (hs : s ∈ Setting.all)
    (hname : Text.lowercase name = s.variableName) (hbefore : ForeignEnvironment before)
    (hafter : ForeignEnvironment after) :
    PlainEnvironment (before ++ (name, value) :: after) where
  plain entry hentry := by
    rcases List.mem_append.mp hentry with hentry | hentry
    · exact .foreign (hbefore entry hentry)
    · rcases List.mem_cons.mp hentry with rfl | hentry
      · exact plainVariable_of_name hs hname
      · exact .foreign (hafter entry hentry)
  once t _ := by
    rw [List.filter_append, List.filter_cons, hbefore.filter_eq_nil t, hafter.filter_eq_nil t]
    split_ifs <;> simp

theorem member?_of_name (hname : Text.lowercase name = s.variableName)
    (hbefore : ForeignEnvironment before) :
    member? (before ++ (name, value) :: after) s.variableName = some value := by
  have hnone : before.find? (fun entry => Text.lowercase entry.1 = s.variableName) = none := by
    simpa using hbefore.name_ne s
  simp [member?, List.find?_append, hnone, hname]

theorem member?_of_other_name (hs : s ∈ Setting.all) (ht : t ∈ Setting.all) (hne : t ≠ s)
    (hname : Text.lowercase name = s.variableName) (hbefore : ForeignEnvironment before)
    (hafter : ForeignEnvironment after) :
    member? (before ++ (name, value) :: after) t.variableName = none := by
  apply member?_of_ne
  intro entry hentry
  rcases List.mem_append.mp hentry with hentry | hentry
  · exact hbefore.name_ne t entry hentry
  · rcases List.mem_cons.mp hentry with rfl | hentry
    · exact fun hsame => hne (Setting.eq_of_variableName ht hs (hsame.symm.trans hname))
    · exact hafter.name_ne t entry hentry

end OneVariable

end IdentityLifecycle
