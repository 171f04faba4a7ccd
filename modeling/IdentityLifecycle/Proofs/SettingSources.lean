import IdentityLifecycle.Proofs.SettingFiles
import IdentityLifecycle.Proofs.SettingVariables

/-!
# Which source decides a setting

The value of a setting that loads is read from the variable of its name, else from the local file,
else from the file of defaults, else it is the default, and no other setting has a part in it.
-/

namespace IdentityLifecycle

open Node

/-! ### Values laid over others -/

section Values

variable {path key : String} {value : Json} {inner : List (String × Json)} {below : Option Node}
  {format : LogFormat}

theorem asLogFormat_lowercase (origin : Option String) (s : String) :
    asLogFormat (.leaf origin (.text (Text.lowercase s))) = .ok format ↔
      asLogFormat (.leaf origin (.text s)) = .ok format := by
  simp only [asLogFormat, Text.lowercase_lowercase]
  split_ifs <;> simp

/-- An object that is laid over others names a format only if it is the name of its one member. -/
theorem asLogFormat_of_overlay (hdistinct : Distinct inner) (hinner : inner ≠ [])
    (hok : asLogFormat ((ofJson path (.object inner)).overlay below) = .ok format) :
    asLogFormat (ofJson path (.object inner)) = .ok format := by
  have hentries : Distinct (inner.map fun m => (m.1, ofJson path m.2)) :=
    (distinct_map _).mpr hdistinct
  rw [ofJson, ofMembers_eq_map hdistinct] at hok ⊢
  have hsome : (inner.map fun m => (m.1, ofJson path m.2)) ≠ [] := by simpa using hinner
  obtain ⟨origin, new, hnew⟩ := overlay_of_ne_nil hsome (some path) below
  rw [hnew] at hok
  obtain _ | ⟨⟨name, node⟩, _ | ⟨second, rest⟩⟩ := new
  · cases hok
  · obtain ⟨entry, hentry, rfl⟩ := eq_singleton_of_overlay hentries hsome hnew
    rw [hentry]
    exact (asLogFormat_lowercase none _).mp hok
  · cases hok

/-- What a value is read as does not depend on what it is laid over. -/
theorem SettingType.read_of_overlay {type : SettingType} {v : type.Value}
    (hinner : ∀ inner, value = .object inner → Distinct inner) (hnonempty : value ≠ .object [])
    (hok : type.read key ((ofJson path value).overlay below) = .ok v) :
    type.read key (ofJson path value) = .ok v := by
  cases value with
  | object inner =>
    have hne : inner ≠ [] := fun hnil => hnonempty (hnil ▸ rfl)
    cases type with
    | format => exact asLogFormat_of_overlay (hinner inner rfl) hne hok
    | _ =>
      -- no text and no number is an object
      rw [ofJson, ofMembers_eq_map (hinner inner rfl)] at hok
      have hsome : (inner.map fun m => (m.1, ofJson path m.2)) ≠ [] := by simpa using hne
      obtain ⟨origin, new, hnew⟩ := overlay_of_ne_nil hsome (some path) below
      rw [hnew] at hok
      cases hok
  | _ => simpa only [ofJson, overlay] using hok

end Values

/-! ### All sources -/

structure Given where
  base : Option Json
  top : Option Json
  named : Option String

/-- An object without members says nothing. -/
def saying? : Option Json → Option Json
  | some (.object []) => none
  | said => said

namespace Given

def found (given : Given) : Option Node :=
  laid (given.named.map variableNode)
    (laid (given.top.map (ofJson Settings.localPath))
      (laid (given.base.map (ofJson Settings.defaultPath)) none))

/-- The highest source that says anything. -/
def decider (given : Given) : Option Node :=
  (given.named.map variableNode).or
    (((saying? given.top).map (ofJson Settings.localPath)).or
      ((saying? given.base).map (ofJson Settings.defaultPath)))

end Given

def Setting.given (s : Setting) (base top : List (String × Json)) (environment : Environment) :
    Given where
  base := inFile? base s.group s.field
  top := inFile? top s.group s.field
  named := member? environment s.variableName

/-- Without a variable, the files alone decide. -/
theorem Setting.given_of_foreign {base top : List (String × Json)} {environment : Environment}
    (h : ForeignEnvironment environment) (s : Setting) :
    s.given base top environment =
      ⟨inFile? base s.group s.field, inFile? top s.group s.field, none⟩ := by
  rw [Setting.given, member?_of_ne (h.name_ne s)]

/-- The sources are files of sections, and variables for settings of sections. -/
structure SettingsSources.Plain (sources : SettingsSources) (base top : List (String × Json)) :
    Prop where
  base : PlainFile sources.defaultFile base
  top : PlainFile sources.localFile top
  environment : PlainEnvironment sources.environment

namespace Setting

variable {s : Setting} {v : s.type.Value} {path : String} {below : Option Node}

theorem value_emptyTable : s.value (some emptyTable) ≠ .ok v := by
  obtain ⟨group, field, type, get⟩ := s
  cases type <;> rintro ⟨⟩

/-- A layer decides what it says, and what it does not say is left to the layers below. -/
theorem value_of_laid {said : Option Json}
    (hinner : ∀ inner, said = some (.object inner) → Distinct inner)
    (hok : s.value (laid (said.map (ofJson path)) below) = .ok v) :
    s.value (((saying? said).map (ofJson path)).or below) = .ok v := by
  cases said with
  | none => exact hok
  | some value =>
    by_cases hnonempty : value = .object []
    · subst hnonempty
      rw [Option.map_some, laid, Option.elim_some, ofJson, ofMembers, overlay,
        overlayEntries] at hok
      cases below with
      | none => exact absurd hok value_emptyTable
      | some node => exact hok
    · have hsaying : saying? (some value) = some value := by
        unfold saying?
        split
        · next heq => exact absurd (Option.some.inj heq) hnonempty
        · rfl
      rw [hsaying]
      exact SettingType.read_of_overlay (fun inner heq => hinner inner (congrArg some heq))
        hnonempty hok

end Setting

namespace Settings

variable {sources : SettingsSources} {base top : List (String × Json)} {settings : Settings}

/-- In the tree, each field of a setting holds what its sources give. -/
theorem tree_of_plain (h : sources.Plain base top) :
    ∃ tree, Settings.tree sources = .ok tree ∧ (∀ s ∈ Setting.all, tree.Tabled s.group) ∧
      ∀ s ∈ Setting.all,
        tree.field? s.group s.field = (s.given base top sources.environment).found := by
  let sections (path : String) (members : List (String × Json)) : List (String × Node) :=
    members.map fun m => (m.1, ofJson path m.2)
  have hbase : ∀ setting ∈ sections defaultPath base, IsSection setting := h.base.isSection
  have htop : ∀ setting ∈ sections localPath top, IsSection setting := h.top.isSection
  refine ⟨setAll (sections defaultPath base ++ sections localPath top ++
    variableSettings sources.environment) emptyTable, ?_, fun s hs => ?_, fun s hs => ?_⟩
  · rw [Settings.tree, h.base.fileLayer_eq, h.top.fileLayer_eq]
    rfl
  · apply tabled_setAll
    · intro setting hmem
      rcases List.mem_append.mp hmem with hmem | hmem
      · rcases List.mem_append.mp hmem with hmem | hmem
        · exact (hbase setting hmem).keeps _
        · exact (htop setting hmem).keeps _
      · obtain ⟨entry, hentry, hsetting⟩ := mem_variableSettings hmem
        exact (h.environment.plain entry hentry).keeps hs hsetting
    · intro node hnode
      cases hnode
  · have hsplit : ∀ lower higher tree,
        setAll (lower ++ higher) tree = setAll higher (setAll lower tree) :=
      fun lower higher tree => List.foldl_append
    rw [hsplit, hsplit, field?_variableSettings hs h.environment,
      field?_setAll_sections htop ((distinct_map _).mpr h.top.distinct), h.top.member?_bind,
      field?_setAll_sections hbase ((distinct_map _).mpr h.base.distinct), h.base.member?_bind]
    rfl

/-- Settings load with the values that the sources give them one by one. -/
theorem load_eq_ok_iff (h : sources.Plain base top) :
    load sources = .ok settings ↔
      ∀ s ∈ Setting.all,
        s.value (s.given base top sources.environment).found = .ok (s.get settings) := by
  obtain ⟨tree, htree, htabled, hfield⟩ := tree_of_plain h
  rw [load, htree]
  exact (ofNode_eq_ok_iff htabled).trans (forall₂_congr fun s hs => by
    rw [Node.Reads, hfield s hs])

/-- A setting that loads is what the highest source says of it that says anything. -/
theorem value_decider (h : sources.Plain base top) (hload : load sources = .ok settings)
    {s : Setting} (hs : s ∈ Setting.all) :
    s.value (s.given base top sources.environment).decider = .ok (s.get settings) := by
  have hvalue := (load_eq_ok_iff h).mp hload s hs
  unfold Given.found at hvalue
  unfold Given.decider
  cases hnamed : (s.given base top sources.environment).named with
  | some value =>
    rw [hnamed] at hvalue
    exact hvalue
  | none =>
    rw [hnamed] at hvalue
    have htop := Setting.value_of_laid (fun _ => h.top.distinct_inner) hvalue
    change s.value ((saying? (s.given base top sources.environment).top |>.map _).or _) = _ at htop
    rw [Option.map_none, Option.none_or]
    cases hsaid : (saying? (s.given base top sources.environment).top).map (ofJson localPath) with
    | some node =>
      rw [hsaid] at htop
      exact htop
    | none =>
      rw [hsaid] at htop
      have hbase := Setting.value_of_laid (fun _ => h.base.distinct_inner) htop
      rwa [Option.or_none] at hbase

/-- Settings that load are decided one by one, each by the highest source that says anything of it.
So sources that say the same of a setting load the same value for it, whatever they say of others,
and sources that say the same of every setting load the same settings, whatever else they hold. -/
theorem load_setting_by_setting (h : sources.Plain base top) (hload : load sources = .ok settings) :
    (∀ s ∈ Setting.all,
      s.value (s.given base top sources.environment).decider = .ok (s.get settings)) ∧
    ∀ (other : SettingsSources) (base' top' : List (String × Json)), other.Plain base' top' →
      (∀ settings', load other = .ok settings' → ∀ s ∈ Setting.all,
        s.given base' top' other.environment = s.given base top sources.environment →
          s.get settings' = s.get settings) ∧
      ((∀ s ∈ Setting.all,
        s.given base' top' other.environment = s.given base top sources.environment) →
          load other = .ok settings) := by
  refine ⟨fun s hs => value_decider h hload hs, fun other base' top' hother => ⟨?_, ?_⟩⟩
  · intro settings' hload' s hs hgiven
    have hvalue := value_decider h hload hs
    have hvalue' := value_decider hother hload' hs
    rw [hgiven, hvalue] at hvalue'
    exact (Except.ok.inj hvalue').symm
  · intro hgiven
    apply (load_eq_ok_iff hother).mpr
    intro s hs
    rw [hgiven s hs]
    exact (load_eq_ok_iff h).mp hload s hs

def mixedSources : SettingsSources where
  defaultFile := some "\x7b\"hasher\":\x7b\"memory_kib\":8\x7d\x7d"
  localFile := some "\x7b\"Hasher\":\x7b\"TIME_COST\":7\x7d\x7d"
  environment := [("HOME", "/"), ("Authkeep__Hasher__Time_Cost", "5")]

theorem load_mixed :
    ∃ base top settings, mixedSources.Plain base top ∧
      settings.hasher = { timeCost := 5, memoryKib := 8 } ∧
      ∀ s ∈ Setting.all, s.value (s.given base top mixedSources.environment).decider =
        .ok (s.get settings) := by
  let timeCost : Setting := ⟨"hasher", "time_cost", .halfWord, (·.hasher.timeCost)⟩
  let memoryKib : Setting := ⟨"hasher", "memory_kib", .halfWord, (·.hasher.memoryKib)⟩
  have hcost : timeCost ∈ Setting.all := by simp [timeCost, Setting.all, Setting.hasher]
  have hmemory : memoryKib ∈ Setting.all := by simp [memoryKib, Setting.all, Setting.hasher]
  have height : JsonDecimal (digitsValue ['8']) ['8'] :=
    .natural (Json.wholeForm_of_all (by decide) (by decide) (by decide))
  have hseven : JsonDecimal (digitsValue ['7']) ['7'] :=
    .natural (Json.wholeForm_of_all (by decide) (by decide) (by decide))
  obtain ⟨base, -, hbase, -⟩ := (sectionText_of_number (s := memoryKib)
    (show Text.lowercase "hasher" = _ by decide) (show Text.lowercase "memory_kib" = _ by decide)
    height.numberForm).plainFile height ⟨by decide, by decide⟩ hmemory
  obtain ⟨top, -, htop, -⟩ := (sectionText_of_number (s := timeCost)
    (show Text.lowercase "Hasher" = _ by decide) (show Text.lowercase "TIME_COST" = _ by decide)
    hseven.numberForm).plainFile hseven ⟨by decide, by decide⟩ hcost
  have henvironment : PlainEnvironment ([("HOME", "/")] ++
      ("Authkeep__Hasher__Time_Cost", "5") :: []) := by
    refine plainEnvironment_of_one hcost (by decide) ?_ (List.forall_mem_nil _)
    rw [ForeignEnvironment, List.forall_mem_singleton]
    decide
  have hload : load mixedSources = .ok { hasher := { timeCost := 5, memoryKib := 8 } } := by
    decide +kernel
  have hplain : mixedSources.Plain base top := ⟨hbase, htop, henvironment⟩
  exact ⟨base, top, _, hplain, rfl, (load_setting_by_setting hplain hload).1⟩

/-- A name that is an index takes the place of a section, and an object without members leaves what
lower layers say. -/
theorem load_past_layers :
    load { defaultFile := some "\x7b\"hasher\": \x7b\"time_cost\": 9\x7d\x7d"
           localFile := some "\x7b\"hasher[0]\": \x7b\x7d\x7d"
           environment := [("AUTHKEEP__HASHER__MEMORY_KIB", "100")] } =
        .ok { hasher := { memoryKib := 100 } } ∧
      load { defaultFile := some "\x7b\"hasher\": \x7b\"time_cost\": 3\x7d\x7d"
             localFile := some "\x7b\"hasher\": \x7b\"time_cost\": \x7b\x7d\x7d\x7d" } =
        .ok { hasher := { timeCost := 3 } } := by
  decide +kernel

end Settings

end IdentityLifecycle
