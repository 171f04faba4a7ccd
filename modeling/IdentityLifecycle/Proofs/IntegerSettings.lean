import IdentityLifecycle.Proofs.SettingSources

/-!
# Integer settings

An integer that is all the sources give a setting is the value of the setting if the setting has
room for it, and else no settings load.
-/

namespace IdentityLifecycle

open Node

/-! ### Reading an integer -/

namespace SettingType

/-- The values of an integer type are the natural numbers below this one. -/
def limit? : SettingType → Option Nat
  | halfWord => some 0x100000000
  | word => some 0x10000000000000000
  | _ => none

def toInt? : (type : SettingType) → type.Value → Option Int
  | halfWord, n => some (UInt32.toNat n)
  | word, n => some (UInt64.toNat n)
  | text, _ => none
  | format, _ => none

end SettingType

section Reading

variable {n : Int} {scalar : Scalar}

theorem asUInt64_of_nonneg (h : Stands n scalar) (hn : 0 ≤ n) (key : String)
    (origin : Option String) :
    ∃ w, asUInt64 key (.leaf origin scalar) = .ok w ∧ (w.toNat : Int) = n := by
  cases h with
  | @integer n k hk =>
    have hsign : ¬k < 0 := by
      rw [Int64.lt_iff_toInt_lt, hk]
      simpa using hn
    have hsmall := Int64.toInt_lt k
    refine ⟨_, if_neg hsign, ?_⟩
    rw [UInt64.toNat_ofNat_of_lt' (by unfold UInt64.size; omega), hk]
    omega
  | negativeZero => exact ⟨0, by rfl, rfl⟩

theorem asUInt64_of_neg (h : Stands n scalar) (hn : n < 0) (key : String)
    (origin : Option String) : ∃ e, asUInt64 key (.leaf origin scalar) = .error e := by
  cases h with
  | @integer n k hk =>
    have hsign : k < 0 := by
      rw [Int64.lt_iff_toInt_lt, hk]
      simpa using hn
    exact ⟨_, if_pos hsign⟩
  | negativeZero => exact absurd hn (by decide)

/-- A word of 64 bits is read as one of 32 bits if it is one. -/
theorem asUInt32_of_word {key : String} {node : Node} {w : UInt64}
    (hw : asUInt64 key node = .ok w) :
    if w.toNat < 0x100000000 then
      ∃ v, asUInt32 key node = .ok v ∧ v.toNat = w.toNat
    else ∃ e, asUInt32 key node = .error e := by
  simp only [asUInt32, hw, bind, Except.bind]
  split_ifs with hsmall
  · exact ⟨_, rfl, UInt32.toNat_ofNat_of_lt' hsmall⟩
  · exact ⟨_, rfl⟩

/-- What stands for an integer is read as exactly that integer in range, and not at all out of
range. -/
theorem read_stands {type : SettingType} {limit : Nat} (hlimit : type.limit? = some limit)
    (h : Stands n scalar) (hn : IsSignedWord n) (key : String) (origin : Option String) :
    if 0 ≤ n ∧ n < limit then
      ∃ v, type.read key (.leaf origin scalar) = .ok v ∧ type.toInt? v = some n
    else ∃ e, type.read key (.leaf origin scalar) = .error e := by
  have hupper := hn.2
  have hmax : Int64.maxValue.toInt = 0x7FFFFFFFFFFFFFFF := rfl
  by_cases hsign : 0 ≤ n
  · obtain ⟨w, hw, hsame⟩ := asUInt64_of_nonneg h hsign key origin
    cases type with
    | text | format => cases hlimit
    | word =>
      cases hlimit
      rw [if_pos ⟨hsign, by omega⟩]
      exact ⟨w, hw, congrArg some hsame⟩
    | halfWord =>
      cases hlimit
      have hhalf := asUInt32_of_word hw
      by_cases hsmall : w.toNat < 0x100000000
      · rw [if_pos hsmall] at hhalf
        obtain ⟨v, hv, hnat⟩ := hhalf
        rw [if_pos ⟨hsign, by omega⟩]
        exact ⟨v, hv, congrArg some (by omega)⟩
      · rw [if_neg hsmall] at hhalf
        rw [if_neg (by omega)]
        exact hhalf
  · obtain ⟨e, he⟩ := asUInt64_of_neg h (by omega) key origin
    rw [if_neg (by omega)]
    cases type with
    | text | format => cases hlimit
    | word => exact ⟨e, he⟩
    | halfWord =>
      refine ⟨e, ?_⟩
      change asUInt32 key _ = _
      rw [asUInt32, he]
      rfl

end Reading

/-! ### One setting alone -/

namespace Settings

variable {sources : SettingsSources} {base top : List (String × Json)} {s : Setting} {node : Node}

/-- The settings load as soon as each of them can be read. -/
theorem exists_load (h : sources.Plain base top)
    (hread : ∀ t ∈ Setting.all, ∃ v, t.value (t.given base top sources.environment).found = .ok v) :
    ∃ settings, load sources = .ok settings := by
  obtain ⟨settings, hget⟩ := exists_get_eq fun t =>
    (t.value (t.given base top sources.environment).found).toOption.getD (t.get {})
  refine ⟨settings, (load_eq_ok_iff h).mpr fun t ht => ?_⟩
  obtain ⟨v, hv⟩ := hread t ht
  rw [hget t ht, hv]
  rfl

/-- Where only one setting is given, the settings load if it can be read. -/
theorem load_of_one (h : sources.Plain base top) (hs : s ∈ Setting.all)
    (hself : (s.given base top sources.environment).found = some node)
    (hothers : ∀ t ∈ Setting.all, t ≠ s → (t.given base top sources.environment).found = none)
    {v : s.type.Value} (hread : s.decode node = .ok v) :
    ∃ settings, load sources = .ok settings ∧ s.get settings = v ∧
      ∀ t ∈ Setting.all, t ≠ s → t.get settings = t.get {} := by
  have hvalue : s.value (s.given base top sources.environment).found = .ok v := by
    rw [hself]
    exact hread
  have hdefault : ∀ t ∈ Setting.all, t ≠ s →
      t.value (t.given base top sources.environment).found = .ok (t.get {}) := by
    intro t ht hne
    rw [hothers t ht hne]
    rfl
  obtain ⟨settings, hload⟩ := exists_load h fun t ht => by
    by_cases hne : t = s
    · subst hne
      exact ⟨v, hvalue⟩
    · exact ⟨_, hdefault t ht hne⟩
  have hall := (load_eq_ok_iff h).mp hload
  refine ⟨settings, hload, ?_, fun t ht hne => ?_⟩
  · exact Except.ok.inj ((hall s hs).symm.trans hvalue)
  · exact Except.ok.inj ((hall t ht).symm.trans (hdefault t ht hne))

/-- One setting that cannot be read keeps all of them from loading. -/
theorem load_error_of_one (h : sources.Plain base top) (hs : s ∈ Setting.all)
    (hself : (s.given base top sources.environment).found = some node) {e : SettingsError}
    (hread : s.decode node = .error e) : ∃ e, load sources = .error e := by
  cases hload : load sources with
  | error e => exact ⟨e, rfl⟩
  | ok settings =>
    have hvalue := (load_eq_ok_iff h).mp hload s hs
    rw [hself] at hvalue
    exact absurd (hread.symm.trans hvalue) (by simp)

end Settings

/-! ### Sources of one integer -/

/-- The sources give one setting an integer by its decimals, and no other setting anything. -/
inductive GivenAlone (s : Setting) (n : Int) : SettingsSources → Prop
  | base {cs text : List Char} {localFile : Option String} {environment : Environment}
      (hcs : JsonDecimal n cs) (htext : SectionText s cs text) (hlocal : PlainFile localFile [])
      (hforeign : ForeignEnvironment environment) :
      GivenAlone s n ⟨some (String.ofList text), localFile, environment⟩
  | top {cs text : List Char} {defaultFile : Option String} {environment : Environment}
      (hcs : JsonDecimal n cs) (htext : SectionText s cs text) (hdefault : PlainFile defaultFile [])
      (hforeign : ForeignEnvironment environment) :
      GivenAlone s n ⟨defaultFile, some (String.ofList text), environment⟩
  | named {cs : List Char} {name : String} {defaultFile localFile : Option String}
      {before after : Environment} (hcs : Decimal n cs) (hdefault : PlainFile defaultFile [])
      (hlocal : PlainFile localFile []) (hname : Text.lowercase name = s.variableName)
      (hbefore : ForeignEnvironment before) (hafter : ForeignEnvironment after) :
      GivenAlone s n ⟨defaultFile, localFile, before ++ (name, String.ofList cs) :: after⟩

variable {s t : Setting} {n : Int}

/-- All that the sources have in the end is a scalar that stands for the integer. -/
theorem GivenAlone.found {sources : SettingsSources} (h : GivenAlone s n sources)
    (hn : IsSignedWord n) (hs : s ∈ Setting.all) :
    ∃ base top origin scalar, sources.Plain base top ∧ Stands n scalar ∧
      (s.given base top sources.environment).found = some (.leaf origin scalar) ∧
      ∀ t ∈ Setting.all, t ≠ s → (t.given base top sources.environment).found = none := by
  cases h with
  | base hcs htext hlocal hforeign =>
    obtain ⟨members, k, hplain, hstands, hself, hothers⟩ := htext.plainFile hcs hn hs
    refine ⟨members, [], some Settings.defaultPath, _, ⟨hplain, hlocal, hforeign.plain⟩, hstands,
      ?_, fun t ht hne => ?_⟩
    · rw [Setting.given_of_foreign hforeign, hself]
      rfl
    · rw [Setting.given_of_foreign hforeign, hothers t ht hne]
      rfl
  | top hcs htext hdefault hforeign =>
    obtain ⟨members, k, hplain, hstands, hself, hothers⟩ := htext.plainFile hcs hn hs
    refine ⟨[], members, some Settings.localPath, _, ⟨hdefault, hplain, hforeign.plain⟩, hstands,
      ?_, fun t ht hne => ?_⟩
    · rw [Setting.given_of_foreign hforeign, hself]
      rfl
    · rw [Setting.given_of_foreign hforeign, hothers t ht hne]
      rfl
  | named hcs hdefault hlocal hname hbefore hafter =>
    refine ⟨[], [], some "the environment", _,
      ⟨hdefault, hlocal, plainEnvironment_of_one hs hname hbefore hafter⟩,
      scalarOfText_decimal hcs hn, ?_, fun t ht hne => ?_⟩
    · rw [Setting.given, member?_of_name hname hbefore]
      rfl
    · rw [Setting.given, member?_of_other_name hs ht hne hname hbefore hafter]
      rfl

/-- An integer setting loads as exactly the integer that is given, with the defaults for all other
settings, or nothing loads since the setting has no room for the integer. -/
theorem load_integer_setting {limit : Nat} {sources : SettingsSources} (hs : s ∈ Setting.all)
    (hlimit : s.type.limit? = some limit) (hn : IsSignedWord n) (h : GivenAlone s n sources) :
    (0 ≤ n ∧ n < limit → ∃ settings, Settings.load sources = .ok settings ∧
      s.type.toInt? (s.get settings) = some n ∧
      ∀ t ∈ Setting.all, t ≠ s → t.get settings = t.get {}) ∧
    (¬(0 ≤ n ∧ n < limit) → ∃ e, Settings.load sources = .error e) := by
  obtain ⟨base, top, origin, scalar, hplain, hstands, hself, hothers⟩ := h.found hn hs
  have hread := read_stands hlimit hstands hn s.key origin
  constructor
  · intro hrange
    rw [if_pos hrange] at hread
    obtain ⟨v, hv, hint⟩ := hread
    obtain ⟨settings, hload, hget, hdefaults⟩ := Settings.load_of_one hplain hs hself hothers hv
    exact ⟨settings, hload, hget ▸ hint, hdefaults⟩
  · intro hrange
    rw [if_neg hrange] at hread
    obtain ⟨e, he⟩ := hread
    exact Settings.load_error_of_one hplain hs hself he

/-- The largest number of 32 bits is loaded from a file, and the next one is refused in a
variable. -/
theorem load_integer_setting_at_limit :
    (∃ settings, Settings.load
        ⟨none, some (String.ofList "\x7b\"hasher\":\x7b\"time_cost\":4294967295\x7d\x7d".toList),
          []⟩ = .ok settings ∧
      (settings.hasher.timeCost.toNat : Int) = 4294967295) ∧
    ∃ e, Settings.load ⟨none, none, [] ++
      ("AUTHKEEP__HASHER__TIME_COST", String.ofList "4294967296".toList) :: []⟩ = .error e := by
  let timeCost : Setting := ⟨"hasher", "time_cost", .halfWord, (·.hasher.timeCost)⟩
  have hmem : timeCost ∈ Setting.all := by simp [timeCost, Setting.all, Setting.hasher]
  have hnone : ForeignEnvironment [] := fun _ hentry => absurd hentry List.not_mem_nil
  constructor
  · have hwhole : Json.WholeForm "4294967295".toList :=
      Json.wholeForm_of_all (by decide) (by decide) (by decide)
    have hdecimal := JsonDecimal.natural hwhole
    have hsection := sectionText_of_number (s := timeCost)
      (show Text.lowercase "hasher" = _ by decide) (show Text.lowercase "time_cost" = _ by decide)
      hdecimal.numberForm
    have hvalue : (digitsValue "4294967295".toList : Int) = 4294967295 := by decide
    have hgiven := GivenAlone.top hdecimal hsection plainFile_none hnone
    rw [hvalue] at hgiven
    obtain ⟨settings, hload, hint, -⟩ :=
      (load_integer_setting hmem rfl ⟨by decide, by decide⟩ hgiven).1 ⟨by decide, by decide⟩
    exact ⟨settings, hload, Option.some.inj hint⟩
  · have hdigits : Json.Digits "4294967296".toList :=
      Json.digits_of_all (by decide) (by decide)
    have hvalue : (digitsValue "4294967296".toList : Int) = 4294967296 := by decide
    have hname : Text.lowercase "AUTHKEEP__HASHER__TIME_COST" = timeCost.variableName := by decide
    have hgiven := GivenAlone.named (.natural hdigits) plainFile_none plainFile_none hname hnone
      hnone
    rw [hvalue] at hgiven
    exact (load_integer_setting hmem rfl ⟨by decide, by decide⟩ hgiven).2 (by decide)

end IdentityLifecycle
