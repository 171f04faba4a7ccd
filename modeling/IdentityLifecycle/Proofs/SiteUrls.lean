import IdentityLifecycle.Mail.Site
import IdentityLifecycle.Proofs.Trimming
import Mathlib.Data.List.Forall2

/-!
# The URLs of a site

A domain loses the blanks around it and then the slashes at its end, each once. So the host that is
left is its own host unless a blank stood before the slashes: that blank stays.

The path of a URL keeps the segments that have something besides slashes at their ends, and gives
them back when it is split at its slashes.
-/

namespace IdentityLifecycle.SiteDomain

/-! ### The host -/

variable {domain : String} {site : SiteDomain}

/-- Which domains are accepted, and with which host. -/
theorem ofString_eq_ok :
    ofString domain = .ok site ↔
      Text.trimEnd (· == '/') (Text.trim Text.isBlank domain) = site.host ∧ site.host ≠ "" := by
  obtain ⟨host⟩ := site
  unfold ofString
  by_cases hempty : Text.trimEnd (· == '/') (Text.trim Text.isBlank domain) = ""
  · rw [if_pos hempty, hempty]
    constructor
    · rintro ⟨⟩
    · rintro ⟨rfl, hne⟩
      exact absurd rfl hne
  · rw [if_neg hempty, Except.ok.injEq, SiteDomain.mk.injEq]
    constructor
    · rintro rfl
      exact ⟨rfl, hempty⟩
    · exact And.left

theorem ofString_eq_ok_iff_append {core : String} (hcore : Text.Stripped Text.isBlank domain core) :
    ofString domain = .ok site ↔
      (∃ slashes, core.toList = site.host.toList ++ slashes ∧ ∀ c ∈ slashes, c = '/') ∧
        (∀ c ∈ site.host.toList.getLast?, c ≠ '/') ∧ site.host ≠ "" := by
  rw [ofString_eq_ok, hcore.trim_eq, Text.trimEnd_eq_iff, and_assoc]
  simp only [beq_iff_eq, beq_eq_false_iff_ne]

/-- Without the blanks around it, the domain ends in a blank and then slashes. -/
def EndsPadded (domain : String) : Prop :=
  ∃ core front blank slashes, Text.Stripped Text.isBlank domain core ∧
    core.toList = front ++ blank :: slashes ∧ Text.isBlank blank = true ∧ ∀ c ∈ slashes, c = '/'

theorem first_host (haccepted : ofString domain = .ok site) :
    ∀ c ∈ site.host.toList.head?, Text.isBlank c = false := by
  have hcore := Text.stripped_trim Text.isBlank domain
  obtain ⟨⟨slashes, happend, -⟩, -, -⟩ := (ofString_eq_ok_iff_append hcore).mp haccepted
  intro c hc
  apply hcore.first c
  rw [happend, List.head?_append, Option.mem_def.mp hc]
  rfl

/-- The host ends in a blank just if one stood in front of the slashes. -/
theorem blank_last_host_iff (haccepted : ofString domain = .ok site) :
    (∃ c ∈ site.host.toList.getLast?, Text.isBlank c = true) ↔ EndsPadded domain := by
  constructor
  · rintro ⟨blank, hlast, hblank⟩
    have hcore := Text.stripped_trim Text.isBlank domain
    obtain ⟨⟨slashes, happend, hslashes⟩, -⟩ := (ofString_eq_ok_iff_append hcore).mp haccepted
    obtain ⟨front, hhost⟩ := List.getLast?_eq_some_iff.mp hlast
    refine ⟨_, front, blank, slashes, hcore, ?_, hblank, hslashes⟩
    rw [happend, hhost, List.append_assoc, List.singleton_append]
  · rintro ⟨core, front, blank, slashes, hcore, happend, hblank, hslashes⟩
    have hother : blank ≠ '/' := by
      rintro rfl
      exact absurd hblank (by decide)
    have hhost : ofString domain = .ok { host := String.ofList (front ++ [blank]) } := by
      apply (ofString_eq_ok_iff_append hcore).mpr
      refine ⟨⟨slashes, by simp [happend], hslashes⟩, by simp [hother], ?_⟩
      simp [String.ext_iff]
    rw [haccepted] at hhost
    cases hhost
    exact ⟨blank, by simp, hblank⟩

/-- The host is its own host just if it does not end in a blank. -/
theorem ofString_host_iff (haccepted : ofString domain = .ok site) :
    ofString site.host = .ok site ↔ ∀ c ∈ site.host.toList.getLast?, Text.isBlank c = false := by
  have hinner := Text.stripped_trim Text.isBlank site.host
  constructor
  · intro hagain
    obtain ⟨before, after, haround, -, -⟩ := hinner.around
    obtain ⟨⟨slashes, happend, -⟩, -, -⟩ := (ofString_eq_ok_iff_append hinner).mp hagain
    -- the host is as long as what is left of it, so nothing was taken off
    have hlength := congrArg List.length haround
    rw [happend] at hlength
    simp only [List.length_append] at hlength
    have hslashes : slashes = [] := List.length_eq_zero_iff.mp (by omega)
    rw [hslashes, List.append_nil] at happend
    rw [← happend]
    exact hinner.last
  · intro hlast
    have hself : Text.trim Text.isBlank site.host = site.host :=
      Text.trim_of_ends (first_host haccepted) hlast
    rw [hself] at hinner
    obtain ⟨-, hslash, hne⟩ :=
      (ofString_eq_ok_iff_append (Text.stripped_trim Text.isBlank domain)).mp haccepted
    exact (ofString_eq_ok_iff_append hinner).mpr ⟨⟨[], by simp⟩, hslash, hne⟩

/-! ### The path -/

/-- The segment is the part with slashes around it, and the part has none. -/
structure Spells (segment part : String) : Prop where
  around : ∃ before after, segment.toList = before ++ part.toList ++ after ∧
    (∀ c ∈ before, c = '/') ∧ ∀ c ∈ after, c = '/'
  unbroken : '/' ∉ part.toList

variable {segments parts : List String}

theorem Spells.trim_eq {segment part : String} (h : Spells segment part) :
    Text.trim (· == '/') segment = part := by
  obtain ⟨before, after, haround, hbefore, hafter⟩ := h.around
  have hpart : Text.trim (· == '/') part = part := by
    apply Text.trim_of_free
    intro c hc
    exact beq_eq_false_iff_ne.mpr fun hslash => h.unbroken (hslash ▸ hc)
  calc
    Text.trim (· == '/') segment = Text.trim (· == '/') part := by
      apply Text.trim_of_around haround
      · exact fun c hc => beq_iff_eq.mpr (hbefore c hc)
      · exact fun c hc => beq_iff_eq.mpr (hafter c hc)
    _ = part := hpart

/-- Of segments with slashes around them the parts are left, but for the empty ones. -/
theorem pathSegments_of_spells (hspells : List.Forall₂ Spells segments parts) :
    pathSegments segments = parts.filter (· ≠ "") := by
  have hmap : segments.map (Text.trim (· == '/')) = parts := by
    induction hspells with
    | nil => rfl
    | cons hspells _ ih => rw [List.map_cons, hspells.trim_eq, ih]
  rw [pathSegments, hmap]

theorem unbroken_of_spells (hspells : List.Forall₂ Spells segments parts) :
    ∀ part ∈ parts, '/' ∉ part.toList := by
  induction hspells with
  | nil => exact fun _ hpart => absurd hpart List.not_mem_nil
  | cons hspells _ ih => exact List.forall_mem_cons.mpr ⟨hspells.unbroken, ih⟩

theorem pathSegments_drop (front back : List String) {gone : String} (hgone : Spells gone "") :
    pathSegments (front ++ gone :: back) = pathSegments (front ++ back) := by
  simp [pathSegments, hgone.trim_eq]

theorem head?_intercalate {mark part : List Char} (hne : part ≠ []) (rest : List (List Char)) :
    (mark.intercalate (part :: rest)).head? = part.head? := by
  cases rest with
  | nil => rw [List.intercalate_singleton]
  | cons next rest =>
    rw [List.intercalate_cons_cons, List.append_assoc, List.head?_append_of_ne_nil part hne]

theorem first_path (segments : List String) :
    ∀ c ∈ ("/".intercalate (pathSegments segments)).toList.head?, c ≠ '/' := by
  have hparts : ∀ part ∈ pathSegments segments, part.toList ≠ [] ∧
      ∀ c ∈ part.toList.head?, c ≠ '/' := by
    intro part hpart
    obtain ⟨hmem, hne⟩ := List.mem_filter.mp hpart
    obtain ⟨segment, -, rfl⟩ := List.mem_map.mp hmem
    refine ⟨by simpa using hne, fun c hc => ?_⟩
    exact beq_eq_false_iff_ne.mp ((Text.stripped_trim _ segment).first c hc)
  rw [String.toList_intercalate]
  cases hsegments : pathSegments segments with
  | nil => simp
  | cons part rest =>
    obtain ⟨hne, hfirst⟩ := hparts part (hsegments ▸ List.mem_cons_self)
    rw [List.map_cons, head?_intercalate hne]
    exact hfirst

/-- Splitting at the slashes gives the parts back. -/
theorem split_path (hunbroken : ∀ part ∈ parts, '/' ∉ part.toList) (hne : parts ≠ []) :
    Text.split '/' ("/".intercalate parts) = parts := by
  have hsplit : (['/'].intercalate (parts.map String.toList)).splitOn '/' =
      parts.map String.toList := by
    apply List.splitOn_intercalate
    · exact List.forall_mem_map.mpr hunbroken
    · simpa using hne
  calc
    Text.split '/' ("/".intercalate parts) = (parts.map String.toList).map String.ofList := by
      rw [Text.split, String.toList_intercalate]
      exact congrArg (List.map String.ofList) hsplit
    _ = parts := by simp

/-- What a path was made from is found in it again, also if that is nothing. -/
theorem filter_split_path (hunbroken : ∀ part ∈ parts, '/' ∉ part.toList) :
    (Text.split '/' ("/".intercalate (parts.filter (· ≠ "")))).filter (· ≠ "") =
      parts.filter (· ≠ "") := by
  by_cases hnone : parts.filter (· ≠ "") = []
  · rw [hnone]
    rfl
  · rw [split_path _ hnone, List.filter_filter]
    · simp
    · exact fun part hpart => hunbroken part (List.mem_of_mem_filter hpart)

theorem url_nil (site : SiteDomain) : site.url [] = site.scheme ++ "://" ++ site.host ++ "/" :=
  String.append_empty

theorem url_eq_append (site : SiteDomain) (segments : List String) :
    site.url segments = site.url [] ++ "/".intercalate (pathSegments segments) := by
  rw [url_nil, url]

/-- How often slashes stand around a segment makes no difference. -/
theorem url_of_spells (site : SiteDomain) (hspells : List.Forall₂ Spells segments parts) :
    site.url segments = site.url [] ++ "/".intercalate (parts.filter (· ≠ "")) := by
  rw [url_eq_append, pathSegments_of_spells hspells]

theorem url_of_plain (site : SiteDomain)
    (hplain : ∀ segment ∈ segments, segment ≠ "" ∧ '/' ∉ segment.toList) :
    site.url segments = site.url [] ++ "/".intercalate segments := by
  have hspells : List.Forall₂ Spells segments segments := by
    apply List.forall₂_same.mpr
    intro segment hsegment
    exact ⟨⟨[], [], by simp⟩, (hplain segment hsegment).2⟩
  have hall : segments.filter (· ≠ "") = segments :=
    List.filter_eq_self.mpr fun segment hsegment => decide_eq_true (hplain segment hsegment).1
  rw [url_of_spells site hspells, hall]

theorem scheme_iff (site : SiteDomain) :
    (site.scheme = "http" ↔ "localhost".toList <+: site.host.toList) ∧
      (site.scheme = "https" ↔ ¬"localhost".toList <+: site.host.toList) := by
  rw [← List.isPrefixOf_iff_prefix, scheme]
  change ((if site.isDev then "http" else "https") = "http" ↔ site.isDev = true) ∧
    ((if site.isDev then "http" else "https") = "https" ↔ ¬site.isDev = true)
  cases site.isDev <;> decide

/-! ### URLs -/

/-- The host of an accepted domain has no blank at its start and no slash at its end, and in a URL
one slash follows it. A blank is left at its end just if one stood before the slashes at the end of
the domain, and just then the host is not its own host. -/
theorem host_canonical_iff (haccepted : ofString domain = .ok site) :
    site.host ≠ "" ∧
    (∀ c ∈ site.host.toList.head?, Text.isBlank c = false) ∧
    (∀ c ∈ site.host.toList.getLast?, c ≠ '/') ∧
    ((∃ c ∈ site.host.toList.getLast?, Text.isBlank c = true) ↔ EndsPadded domain) ∧
    (ofString site.host = .ok site ↔ ¬EndsPadded domain) ∧
    ∀ segments, ∃ path, site.url segments = site.scheme ++ "://" ++ site.host ++ "/" ++ path ∧
      ∀ c ∈ path.toList.head?, c ≠ '/' := by
  have hlast := blank_last_host_iff haccepted
  obtain ⟨-, hslash, hne⟩ :=
    (ofString_eq_ok_iff_append (Text.stripped_trim Text.isBlank domain)).mp haccepted
  refine ⟨hne, first_host haccepted, hslash, hlast, ?_, ?_⟩
  · rw [ofString_host_iff haccepted, ← hlast]
    simp
  · intro segments
    exact ⟨_, rfl, first_path segments⟩

theorem host_canonical_of_blanks_around :
    ofString "\u2003local host:80//\t" = .ok ⟨"local host:80"⟩ ∧
      ¬EndsPadded "\u2003local host:80//\t" ∧
      ∃ path, url ⟨"local host:80"⟩ ["/a"] = "https://local host:80/" ++ path ∧
        ∀ c ∈ path.toList.head?, c ≠ '/' := by
  have haccepted : ofString "\u2003local host:80//\t" = .ok ⟨"local host:80"⟩ := by decide
  obtain ⟨-, -, -, -, hagain, hurl⟩ := host_canonical_iff haccepted
  have hself : ofString "local host:80" = .ok ⟨"local host:80"⟩ := by decide
  exact ⟨haccepted, hagain.mp hself, hurl ["/a"]⟩

/-- A blank that stood before the last slash stays at the end of the host, and between the host and
the path of a URL. -/
theorem host_keeps_blank_before_slash :
    ofString "example.com /" = .ok ⟨"example.com "⟩ ∧
      ofString "example.com " = .ok ⟨"example.com"⟩ ∧
      url ⟨"example.com "⟩ ["auth"] = "https://example.com /auth" := by
  decide

/-- For segments with slashes only at their ends, the path of a URL is split at its slashes into
the parts between those that are not empty. Neither slashes at the ends of a segment nor a segment
without a part change the URL, and another list of parts gives another URL. -/
theorem url_keeps_segments (site : SiteDomain) (hspells : List.Forall₂ Spells segments parts) :
    (∃ path, site.url segments = site.scheme ++ "://" ++ site.host ++ "/" ++ path ∧
      (parts.filter (· ≠ "") = [] → path = "") ∧
      (parts.filter (· ≠ "") ≠ [] → Text.split '/' path = parts.filter (· ≠ ""))) ∧
    (site.scheme = "http" ↔ "localhost".toList <+: site.host.toList) ∧
    (site.scheme = "https" ↔ ¬"localhost".toList <+: site.host.toList) ∧
    (∀ front gone back, segments = front ++ gone :: back → Spells gone "" →
      site.url (front ++ back) = site.url segments) ∧
    (∀ others, List.Forall₂ Spells others parts → site.url others = site.url segments) ∧
    ∀ others parts', List.Forall₂ Spells others parts' → site.url others = site.url segments →
      parts'.filter (· ≠ "") = parts.filter (· ≠ "") := by
  have hunbroken := unbroken_of_spells hspells
  have hurl := url_of_spells site hspells
  refine ⟨⟨_, hurl.trans (by rw [url_nil]), ?_, ?_⟩, site.scheme_iff.1, site.scheme_iff.2,
    ?_, ?_, ?_⟩
  · intro hnone
    rw [hnone]
    rfl
  · exact split_path fun part hpart => hunbroken part (List.mem_of_mem_filter hpart)
  · rintro front gone back rfl hgone
    rw [url_eq_append, url_eq_append site (front ++ gone :: back),
      pathSegments_drop front back hgone]
  · intro others hothers
    rw [url_of_spells site hothers, hurl]
  · intro others parts' hothers hsame
    rw [url_of_spells site hothers, hurl, String.append_right_inj] at hsame
    calc
      parts'.filter (· ≠ "") = _ := (filter_split_path (unbroken_of_spells hothers)).symm
      _ = (Text.split '/' ("/".intercalate (parts.filter (· ≠ "")))).filter (· ≠ "") := by
        rw [hsame]
      _ = parts.filter (· ≠ "") := filter_split_path hunbroken

theorem url_keeps_two_of_four_segments :
    List.Forall₂ Spells ["/auth//", "", "//", "sign up"] ["auth", "", "", "sign up"] ∧
      url ⟨"localhost"⟩ ["auth", "sign up/"] =
        url ⟨"localhost"⟩ ["/auth//", "", "//", "sign up"] ∧
      ∃ path, url ⟨"localhost"⟩ ["/auth//", "", "//", "sign up"] = "http://localhost/" ++ path ∧
        Text.split '/' path = ["auth", "sign up"] := by
  have hauth : Spells "/auth//" "auth" := ⟨⟨['/'], ['/', '/'], by decide, by simp⟩, by decide⟩
  have hempty : Spells "" "" := ⟨⟨[], [], by decide, by simp⟩, by decide⟩
  have hslashes : Spells "//" "" := ⟨⟨['/', '/'], [], by decide, by simp⟩, by decide⟩
  have hsign : Spells "sign up" "sign up" := ⟨⟨[], [], by decide, by simp⟩, by decide⟩
  have hspells : List.Forall₂ Spells ["/auth//", "", "//", "sign up"] ["auth", "", "", "sign up"] :=
    .cons hauth (.cons hempty (.cons hslashes (.cons hsign .nil)))
  obtain ⟨⟨path, hurl, -, hsplit⟩, -⟩ := url_keeps_segments ⟨"localhost"⟩ hspells
  refine ⟨hspells, by decide, path, hurl, ?_⟩
  apply hsplit
  decide

end IdentityLifecycle.SiteDomain
