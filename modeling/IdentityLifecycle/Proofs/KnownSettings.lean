import IdentityLifecycle.Proofs.Layers
import Mathlib.Data.List.Nodup

/-!
# The settings, one by one

Settings are read from a tree setting by setting: each takes what stands in its field, or its
default if nothing does.
-/

namespace IdentityLifecycle

/-! ### The settings there are -/

inductive SettingType
  | text
  | halfWord
  | word
  | format

namespace SettingType

def Value : SettingType → Type
  | text => String
  | halfWord => UInt32
  | word => UInt64
  | format => LogFormat

def read : (type : SettingType) → String → Node → Except SettingsError type.Value
  | text => Node.asText
  | halfWord => Node.asUInt32
  | word => Node.asUInt64
  | format => fun _ => Node.asLogFormat

end SettingType

/-- A field of a section, and where it stands in the settings. -/
structure Setting where
  group : String
  field : String
  type : SettingType
  get : Settings → type.Value

namespace Setting

def database : List Setting :=
  [⟨"database", "url", .text, (·.database.url)⟩,
    ⟨"database", "max_connections", .halfWord, (·.database.maxConnections)⟩,
    ⟨"database", "min_connections", .halfWord, (·.database.minConnections)⟩,
    ⟨"database", "acquire_timeout_secs", .word, (·.database.acquireTimeoutSecs)⟩,
    ⟨"database", "busy_timeout_secs", .word, (·.database.busyTimeoutSecs)⟩]

def hasher : List Setting :=
  [⟨"hasher", "time_cost", .halfWord, (·.hasher.timeCost)⟩,
    ⟨"hasher", "memory_kib", .halfWord, (·.hasher.memoryKib)⟩,
    ⟨"hasher", "parallelism", .halfWord, (·.hasher.parallelism)⟩,
    ⟨"hasher", "salt_length", .word, (·.hasher.saltLength)⟩,
    ⟨"hasher", "key_length", .word, (·.hasher.keyLength)⟩]

def tokens : List Setting :=
  [⟨"tokens", "signup_ttl_secs", .word, (·.tokens.signupTtlSecs)⟩,
    ⟨"tokens", "reset_ttl_secs", .word, (·.tokens.resetTtlSecs)⟩,
    ⟨"tokens", "token_bytes", .word, (·.tokens.tokenBytes)⟩]

def cache : List Setting := [⟨"cache", "max_capacity", .word, (·.cache.maxCapacity)⟩]

def mail : List Setting :=
  [⟨"mail", "domain", .text, (·.mail.domain)⟩, ⟨"mail", "from", .text, (·.mail.sender)⟩]

def logging : List Setting :=
  [⟨"logging", "level", .text, (·.logging.level)⟩,
    ⟨"logging", "format", .format, (·.logging.format)⟩]

def all : List Setting := database ++ hasher ++ tokens ++ cache ++ mail ++ logging

def key (s : Setting) : String := s.group ++ "." ++ s.field

def decode (s : Setting) (node : Node) : Except SettingsError s.type.Value :=
  s.type.read s.key node

def value (s : Setting) (found : Option Node) : Except SettingsError s.type.Value :=
  found.elim (.ok (s.get {})) s.decode

def variableName (s : Setting) : String := "authkeep__" ++ s.group ++ "__" ++ s.field

theorem toList_variableName (s : Setting) :
    s.variableName.toList = Settings.variableStart ++ (s.group ++ "__" ++ s.field).toList := by
  unfold variableName Settings.variableStart
  simp only [String.toList_append, List.append_assoc]

/-- The names of settings are as they are in paths. -/
theorem names_of_mem : ∀ s ∈ all, '.' ∉ s.group.toList ∧ '.' ∉ s.field.toList ∧
    Node.pathOfText s.key = [.entry s.group, .entry s.field] ∧
    Settings.pathOfVariable (s.group ++ "__" ++ s.field).toList = s.key.toList := by
  decide +kernel

variable {s t : Setting}

/-- No two settings have the same names. -/
theorem eq_of_names (hs : s ∈ all) (ht : t ∈ all) (hgroup : s.group = t.group)
    (hfield : s.field = t.field) : s = t := by
  have hnodup : (all.map fun s => (s.group, s.field)).Nodup := by decide +kernel
  exact List.inj_on_of_nodup_map hnodup hs ht (Prod.ext hgroup hfield)

theorem eq_of_variableName (hs : s ∈ all) (ht : t ∈ all)
    (hname : s.variableName = t.variableName) : s = t := by
  have hnodup : (all.map variableName).Nodup := by decide +kernel
  exact List.inj_on_of_nodup_map hnodup hs ht hname

theorem parts_of_mem : ∀ s ∈ all, (¬['_', '_'] <:+: s.group.toList) ∧
    (¬['_', '_'] <:+: s.field.toList) ∧ '[' ∉ s.group.toList := by
  decide +kernel

end Setting

/-! ### Reading a tree -/

namespace Node

variable {tree : Node} {name : String}

def Tabled (name : String) (tree : Node) : Prop :=
  ∀ node, tree.entries.lookup name = some node → ∃ origin entries, node = .table origin entries

/-- The settings have the value of the field that the tree has for it. -/
def Reads (tree : Node) (settings : Settings) (s : Setting) : Prop :=
  s.value (tree.field? s.group s.field) = .ok (s.get settings)

end Node

namespace Settings

variable {tree : Node} {settings : Settings}

theorem field_table {α : Type} {name : String} {origin : Option String}
    {entries : List (String × Node)} (index : Nat) (field : String)
    (read : String → Node → Except SettingsError α) (default : α) :
    Section.field ⟨name, .table origin entries⟩ index field read default =
      (entries.lookup field).elim (.ok default) (read (name ++ "." ++ field)) := by
  simp only [Section.field]
  cases entries.lookup field <;> rfl

/-- From a table for the section, `read` makes the settings in `part`, each from its own field. -/
structure Makes {α : Type} (name : String) (read : Section → Except SettingsError α)
    (get : Settings → α) (part : List Setting) : Prop where
  group : ∀ s ∈ part, s.group = name
  table : ∀ (origin : Option String) (entries : List (String × Node)) (settings : Settings),
    read ⟨name, .table origin entries⟩ = .ok (get settings) ↔
      ∀ s ∈ part, s.value (entries.lookup s.field) = .ok (s.get settings)

/-- A section that is not there is read as an empty one. -/
theorem Makes.readSection_eq_ok_iff {α : Type} {name : String}
    {read : Section → Except SettingsError α} {get : Settings → α} {part : List Setting}
    (hmakes : Makes name read get part) (type : String) (htabled : tree.Tabled name) :
    readSection tree name type read (get {}) = .ok (get settings) ↔
      ∀ s ∈ part, tree.Reads settings s := by
  have hempty : read ⟨name, .table none []⟩ = .ok (get {}) :=
    (hmakes.table none [] {}).mpr fun s _ => rfl
  obtain ⟨origin, entries, hread, hfield⟩ : ∃ origin entries,
      readSection tree name type read (get {}) = read ⟨name, .table origin entries⟩ ∧
        ∀ field, tree.field? name field = entries.lookup field := by
    unfold readSection Node.field?
    cases hfound : tree.entries.lookup name with
    | none => exact ⟨none, [], hempty.symm, fun _ => rfl⟩
    | some node =>
      obtain ⟨origin, entries, rfl⟩ := htabled node hfound
      exact ⟨origin, entries, rfl, fun _ => rfl⟩
  rw [hread, hmakes.table]
  refine forall₂_congr fun s hs => ?_
  rw [Node.Reads, hmakes.group s hs, hfield]

/-- The fields of each section are its settings, each under its own name. -/
theorem makes_sections :
    Makes "database" DatabaseSettings.ofSection (·.database) Setting.database ∧
      Makes "hasher" HasherSettings.ofSection (·.hasher) Setting.hasher ∧
      Makes "tokens" TokenSettings.ofSection (·.tokens) Setting.tokens ∧
      Makes "cache" CacheSettings.ofSection (·.cache) Setting.cache ∧
      Makes "mail" MailSettings.ofSection (·.mail) Setting.mail ∧
      Makes "logging" LoggingSettings.ofSection (·.logging) Setting.logging := by
  refine ⟨⟨by decide, ?_⟩, ⟨by decide, ?_⟩, ⟨by decide, ?_⟩, ⟨by decide, ?_⟩, ⟨by decide, ?_⟩,
    ⟨by decide, ?_⟩⟩ <;>
  -- Once all settings have names, both sides say of each field what it holds.
  rintro origin entries ⟨⟨⟩, ⟨⟩, ⟨⟩, ⟨⟩, ⟨⟩, ⟨⟩⟩ <;>
  simp only [DatabaseSettings.ofSection, HasherSettings.ofSection, TokenSettings.ofSection,
    CacheSettings.ofSection, MailSettings.ofSection, LoggingSettings.ofSection, field_table,
    bind_eq_ok, pure, Except.pure, Except.ok.injEq, DatabaseSettings.mk.injEq,
    HasherSettings.mk.injEq, TokenSettings.mk.injEq, CacheSettings.mk.injEq,
    MailSettings.mk.injEq, LoggingSettings.mk.injEq, existsAndEq, and_true, Setting.database,
    Setting.hasher, Setting.tokens, Setting.cache, Setting.mail, Setting.logging,
    List.forall_mem_cons, List.not_mem_nil, false_imp_iff, implies_true] <;>
  rfl

/-- The settings of a tree whose sections are tables are those that have, setting by setting, the
values of their fields. -/
theorem ofNode_eq_ok_iff (htabled : ∀ s ∈ Setting.all, tree.Tabled s.group) :
    ofNode tree = .ok settings ↔ ∀ s ∈ Setting.all, tree.Reads settings s := by
  have hsection : ∀ name ∈ ["database", "hasher", "tokens", "cache", "mail", "logging"],
      tree.Tabled name := by
    simpa [Setting.all, Setting.database, Setting.hasher, Setting.tokens, Setting.cache,
      Setting.mail, Setting.logging] using htabled
  simp only [List.forall_mem_cons] at hsection
  obtain ⟨hdatabase, hhasher, htokens, hcache, hmail, hlogging, -⟩ := hsection
  obtain ⟨database, hasher, tokens, cache, mail, logging⟩ := makes_sections
  simp only [Setting.all, List.forall_mem_append,
    ← database.readSection_eq_ok_iff "DatabaseConfig" hdatabase,
    ← hasher.readSection_eq_ok_iff "HasherConfig" hhasher,
    ← tokens.readSection_eq_ok_iff "TokenConfig" htokens,
    ← cache.readSection_eq_ok_iff "CacheConfig" hcache,
    ← mail.readSection_eq_ok_iff "MailConfig" hmail,
    ← logging.readSection_eq_ok_iff "LoggingConfig" hlogging]
  cases settings
  simp only [ofNode, bind_eq_ok, pure, Except.pure, Except.ok.injEq, mk.injEq, existsAndEq,
    and_true, and_assoc]

/-- Settings exist with any choice of values. -/
theorem exists_get_eq (pick : (s : Setting) → s.type.Value) :
    ∃ settings : Settings, ∀ s ∈ Setting.all, s.get settings = pick s := by
  simp only [Setting.all, Setting.database, Setting.hasher, Setting.tokens, Setting.cache,
    Setting.mail, Setting.logging, List.forall_mem_append, List.forall_mem_cons]
  exact ⟨⟨⟨_, _, _, _, _⟩, ⟨_, _, _, _, _⟩, ⟨_, _, _⟩, ⟨_⟩, ⟨_, _⟩, ⟨_, _⟩⟩,
    ⟨⟨⟨⟨⟨rfl, rfl, rfl, rfl, rfl, List.forall_mem_nil _⟩, rfl, rfl, rfl, rfl, rfl,
      List.forall_mem_nil _⟩, rfl, rfl, rfl, List.forall_mem_nil _⟩, rfl, List.forall_mem_nil _⟩,
      rfl, rfl, List.forall_mem_nil _⟩, rfl, rfl, List.forall_mem_nil _⟩

end Settings

end IdentityLifecycle
