import IdentityLifecycle.Json.Read
import IdentityLifecycle.Proofs.Canonical

/-!
# The grammar of JSON strings and numbers

What the scanners take off the front of a text is what the grammar has there. A string is read
exactly if it stands between quotes in one of its spellings, and it ends at the same quote whether
it is read or passed over.
-/

namespace IdentityLifecycle.Json

/-! ### Blanks -/

def Blanks (cs : List Char) : Prop := ∀ c ∈ cs, c = ' ' ∨ c = '\n' ∨ c = '\t' ∨ c = '\r'

theorem blanks_nil : Blanks [] := by
  simp [Blanks]

theorem skipBlanks_append {blanks : List Char} (hblanks : Blanks blanks) (cs : List Char) :
    skipBlanks (blanks ++ cs) = skipBlanks cs := by
  apply List.dropWhile_append_of_pos
  intro c hc
  rcases hblanks c hc with rfl | rfl | rfl | rfl <;> rfl

theorem skipBlanks_blanks {blanks : List Char} (hblanks : Blanks blanks) :
    skipBlanks blanks = [] := by
  rw [← List.append_nil blanks, skipBlanks_append hblanks]
  rfl

theorem skipBlanks_cons {c : Char} (hc : isBlank c = false) (cs : List Char) :
    skipBlanks (c :: cs) = c :: cs :=
  List.dropWhile_cons_of_neg (by simp [hc])

/-! ### Hexadecimal digits -/

def HexDigit (c : Char) (n : Nat) : Prop :=
  n < 16 ∧ (c = Nat.digitChar n ∨ c = (Nat.digitChar n).toUpper)

inductive HexWord : List Char → Nat → Prop
  | mk {a b c d : Char} {k l m n : Nat} (ha : HexDigit a k) (hb : HexDigit b l)
      (hc : HexDigit c m) (hd : HexDigit d n) :
      HexWord [a, b, c, d] (k * 4096 + l * 256 + m * 16 + n)

theorem hexValue_of_digit : ∀ n < 16,
    hexValue (Nat.digitChar n) = some n ∧ hexValue (Nat.digitChar n).toUpper = some n := by
  decide

theorem digit_of_code : ∀ n < 128, ∀ value ∈ hexValue (Char.ofNat n),
    value < 16 ∧ (Char.ofNat n = Nat.digitChar value ∨
      Char.ofNat n = (Nat.digitChar value).toUpper) := by
  decide

theorem hexValue_eq_some_iff {c : Char} {n : Nat} : hexValue c = some n ↔ HexDigit c n := by
  constructor
  · intro hvalue
    have hascii : c.toNat < 128 := by
      by_contra hwide
      have hnone : hexValue c = none := by
        unfold hexValue
        simp only [Char.le_def, UInt32.le_iff_toNat_le, Bool.and_eq_true, decide_eq_true_eq]
        have hcode : c.val.toNat = c.toNat := rfl
        rw [if_neg, if_neg, if_neg] <;> simp <;> omega
      rw [hnone] at hvalue
      cases hvalue
    have hdigit := digit_of_code c.toNat hascii n
    rw [Char.ofNat_toNat] at hdigit
    exact hdigit hvalue
  · rintro ⟨hn, rfl | rfl⟩
    · exact (hexValue_of_digit n hn).1
    · exact (hexValue_of_digit n hn).2

/-- Four characters are read as a code if and only if they are digits that spell it out. -/
theorem hexWord_eq_some_iff {a b c d : Char} {n : Nat} :
    hexWord a b c d = some n ↔ HexWord [a, b, c, d] n := by
  simp only [hexWord, bind, Option.bind_eq_some_iff, pure, Option.some.injEq, hexValue_eq_some_iff]
  constructor
  · rintro ⟨k, hk, l, hl, m, hm, n, hn, rfl⟩
    exact .mk hk hl hm hn
  · rintro ⟨hk, hl, hm, hn⟩
    exact ⟨_, hk, _, hl, _, hm, _, hn, rfl⟩

theorem HexDigit.lt {c : Char} {n : Nat} (h : HexDigit c n) : n < 16 := h.1

theorem HexWord.lt {ds : List Char} {n : Nat} (h : HexWord ds n) : n < 0x10000 := by
  obtain ⟨ha, hb, hc, hd⟩ := h
  have := ha.lt
  have := hb.lt
  have := hc.lt
  have := hd.lt
  omega

/-! ### Strings -/

def shortEscapes : List (Char × Char) :=
  [('"', '"'), ('\\', '\\'), ('/', '/'), ('b', '\x08'), ('f', '\x0c'), ('n', '\n'), ('r', '\r'),
    ('t', '\t')]

/-- The spellings of a character in a string: itself, a letter that stands for it, its code, or the
two halves of a code that four digits are too few for. -/
inductive Spelling : List Char → Char → Prop
  | plain {c : Char} (hquote : c ≠ '"') (hslash : c ≠ '\\') (hcontrol : 0x20 ≤ c.toNat) :
      Spelling [c] c
  | short {letter c : Char} (hescape : (letter, c) ∈ shortEscapes) : Spelling ['\\', letter] c
  | word {ds : List Char} {c : Char} (hword : HexWord ds c.toNat) : Spelling ('\\' :: 'u' :: ds) c
  | pair {high low : List Char} {c : Char} (hwide : 0x10000 ≤ c.toNat)
      (hhigh : HexWord high (0xD800 + (c.toNat - 0x10000) / 0x400))
      (hlow : HexWord low (0xDC00 + (c.toNat - 0x10000) % 0x400)) :
      Spelling ('\\' :: 'u' :: high ++ '\\' :: 'u' :: low) c

inductive Spells : List Char → List Char → Prop
  | nil : Spells [] []
  | cons {front body : List Char} {c : Char} {cs : List Char} (hfront : Spelling front c)
      (hbody : Spells body cs) : Spells (front ++ body) (c :: cs)

theorem shortEscape_eq_some_iff {letter c : Char} :
    shortEscape letter = some c ↔ (letter, c) ∈ shortEscapes := by
  unfold shortEscape shortEscapes
  constructor
  · intro hescape
    split at hescape <;> cases hescape <;> simp
  · intro hmem
    simp only [List.mem_cons, Prod.mk.injEq, List.not_mem_nil, or_false] at hmem
    rcases hmem with h | h | h | h | h | h | h | h <;> obtain ⟨rfl, rfl⟩ := h <;> rfl

theorem toNat_joinSurrogates {high low : Nat} (hhigh : 0xD800 ≤ high ∧ high ≤ 0xDBFF)
    (hlow : 0xDC00 ≤ low ∧ low ≤ 0xDFFF) :
    (joinSurrogates high low).toNat = 0x10000 + (high - 0xD800) * 0x400 + (low - 0xDC00) := by
  apply Text.toNat_ofNat
  unfold Nat.isValidChar
  omega

/-- The codes of characters have a gap where the surrogates are. -/
theorem toNat_scalar (c : Char) :
    c.toNat < 0xD800 ∨ (0xDFFF < c.toNat ∧ c.toNat < 0x110000) :=
  c.valid

theorem readString_quote (rest : List Char) : readString ('"' :: rest) = some ([], rest) := by
  rw [readString]

theorem readString_plain {c : Char} (hquote : c ≠ '"') (hslash : c ≠ '\\')
    (hcontrol : 0x20 ≤ c.toNat) (rest : List Char) :
    readString (c :: rest) = (readString rest).map fun (cs, rest) => (c :: cs, rest) := by
  have hplain : (c = '\\' || c.toNat < 0x20) = false := by
    simp [hslash, hcontrol]
  rw [readString]
  · rw [if_neg (by simpa using hplain)]
    cases readString rest <;> rfl
  all_goals simp_all

theorem readString_short {letter c : Char} (hescape : shortEscape letter = some c)
    (rest : List Char) :
    readString ('\\' :: letter :: rest) =
      (readString rest).map fun (cs, rest) => (c :: cs, rest) := by
  have hletter : letter ≠ 'u' := by
    rintro rfl
    cases hescape
  rw [readString]
  · rw [hescape]
    cases readString rest <;> rfl
  · simp [hletter]

theorem readString_word {a b c d : Char} {n : Nat} (hword : hexWord a b c d = some n)
    (hsingle : ¬(0xD800 ≤ n ∧ n ≤ 0xDFFF)) (rest : List Char) :
    readString ('\\' :: 'u' :: a :: b :: c :: d :: rest) =
      (readString rest).map fun (cs, rest) => (Char.ofNat n :: cs, rest) := by
  rw [readString, hword]
  simp only [bind, Option.bind_some]
  rw [if_neg (by simp; omega), if_neg (by simp; omega)]
  cases readString rest <;> rfl

theorem readString_pair {a b c d a' b' c' d' : Char} {high low : Nat}
    (hword : hexWord a b c d = some high) (hword' : hexWord a' b' c' d' = some low)
    (hhigh : 0xD800 ≤ high ∧ high ≤ 0xDBFF) (hlow : 0xDC00 ≤ low ∧ low ≤ 0xDFFF)
    (rest : List Char) :
    readString ('\\' :: 'u' :: a :: b :: c :: d :: '\\' :: 'u' :: a' :: b' :: c' :: d' :: rest) =
      (readString rest).map fun (cs, rest) => (joinSurrogates high low :: cs, rest) := by
  rw [readString, hword]
  simp only [bind, Option.bind_some, hword']
  rw [if_pos (by simp; omega), if_pos (by simp; omega)]
  cases readString rest <;> rfl

/-- Read in front of a text, a spelling gives its character and leaves the text to be read. -/
theorem readString_spelling {front : List Char} {c : Char} (h : Spelling front c)
    (rest : List Char) :
    readString (front ++ rest) = (readString rest).map fun (cs, rest) => (c :: cs, rest) := by
  have hscalar := toNat_scalar c
  cases h with
  | plain hquote hslash hcontrol => exact readString_plain hquote hslash hcontrol rest
  | short hescape => exact readString_short (shortEscape_eq_some_iff.mpr hescape) rest
  | word hword =>
    generalize hn : c.toNat = n at hword
    cases hword with
    | mk ha hb hc hd =>
      have hread := readString_word (hexWord_eq_some_iff.mpr (.mk ha hb hc hd)) (by omega) rest
      rw [← hn, Char.ofNat_toNat] at hread
      exact hread
  | pair hwide hhigh hlow =>
    generalize hn : 0xD800 + (c.toNat - 0x10000) / 0x400 = n at hhigh
    generalize hm : 0xDC00 + (c.toNat - 0x10000) % 0x400 = m at hlow
    have hjoin : joinSurrogates n m = c := by
      rw [← Char.toNat_inj, toNat_joinSurrogates (by omega) (by omega)]
      omega
    cases hhigh with
    | mk ha hb hc hd =>
      cases hlow with
      | mk ha' hb' hc' hd' =>
        have hread := readString_pair (hexWord_eq_some_iff.mpr (.mk ha hb hc hd))
          (hexWord_eq_some_iff.mpr (.mk ha' hb' hc' hd')) (by omega) (by omega) rest
        rw [hjoin] at hread
        exact hread

theorem spelling_of_word {ds : List Char} {n : Nat} (hword : HexWord ds n)
    (hsingle : ¬(0xD800 ≤ n ∧ n ≤ 0xDFFF)) : Spelling ('\\' :: 'u' :: ds) (Char.ofNat n) := by
  have hlt := hword.lt
  have hcode : (Char.ofNat n).toNat = n := by
    apply Text.toNat_ofNat
    unfold Nat.isValidChar
    omega
  exact .word (hcode.symm ▸ hword)

theorem spelling_of_pair {ds ds' : List Char} {high low : Nat} (hword : HexWord ds high)
    (hword' : HexWord ds' low) (hhigh : 0xD800 ≤ high ∧ high ≤ 0xDBFF)
    (hlow : 0xDC00 ≤ low ∧ low ≤ 0xDFFF) :
    Spelling ('\\' :: 'u' :: ds ++ '\\' :: 'u' :: ds') (joinSurrogates high low) := by
  have hcode := toNat_joinSurrogates hhigh hlow
  have hfirst : 0xD800 + ((joinSurrogates high low).toNat - 0x10000) / 0x400 = high := by omega
  have hsecond : 0xDC00 + ((joinSurrogates high low).toNat - 0x10000) % 0x400 = low := by omega
  exact .pair (by omega) (hfirst.symm ▸ hword) (hsecond.symm ▸ hword')

/-- Whatever spelling a string has, it is read. -/
theorem readString_of_spells {body cs : List Char} (h : Spells body cs) (rest : List Char) :
    readString (body ++ '"' :: rest) = some (cs, rest) := by
  induction h with
  | nil => exact readString_quote rest
  | cons hfront _ ih =>
    rw [List.append_assoc, readString_spelling hfront, ih]
    rfl

/-- What is read as a string is a spelling of it, up to the closing quote. -/
theorem spells_of_readString {text cs rest : List Char} (h : readString text = some (cs, rest)) :
    ∃ body, Spells body cs ∧ text = body ++ '"' :: rest := by
  fun_induction readString text generalizing cs rest with
  | case1 => cases h
  | case2 rest =>
    cases h
    exact ⟨[], .nil, rfl⟩
  | case3 a b c d tail ih2 ih1 =>
    obtain ⟨n, hn, h⟩ := Option.bind_eq_some_iff.mp h
    have hword := hexWord_eq_some_iff.mp hn
    split at h
    · next hhigh =>
      split at h
      · obtain ⟨m, hm, h⟩ := Option.bind_eq_some_iff.mp h
        split at h
        · next hlow =>
          obtain ⟨⟨cs', rest'⟩, hread, h⟩ := Option.bind_eq_some_iff.mp h
          cases h
          obtain ⟨body, hbody, rfl⟩ := ih2 hread
          have hpair := spelling_of_pair hword (hexWord_eq_some_iff.mp hm)
            (by simpa using hhigh) (by simpa using hlow)
          exact ⟨_, .cons hpair hbody, rfl⟩
        · cases h
      · cases h
    · next hhigh =>
      split at h
      · cases h
      · next hlow =>
        obtain ⟨⟨cs', rest'⟩, hread, h⟩ := Option.bind_eq_some_iff.mp h
        cases h
        obtain ⟨body, hbody, rfl⟩ := ih1 hread
        simp only [Bool.and_eq_true, decide_eq_true_eq] at hhigh hlow
        exact ⟨_, .cons (spelling_of_word hword (by omega)) hbody, rfl⟩
  | case4 letter tail hword ih =>
    obtain ⟨c, hc, h⟩ := Option.bind_eq_some_iff.mp h
    obtain ⟨⟨cs', rest'⟩, hread, h⟩ := Option.bind_eq_some_iff.mp h
    cases h
    obtain ⟨body, hbody, rfl⟩ := ih hread
    exact ⟨_, .cons (.short (shortEscape_eq_some_iff.mp hc)) hbody, rfl⟩
  | case5 => cases h
  | case6 c tail hquote hword hshort hplain ih =>
    obtain ⟨⟨cs', rest'⟩, hread, h⟩ := Option.bind_eq_some_iff.mp h
    cases h
    obtain ⟨body, hbody, rfl⟩ := ih hread
    simp only [Bool.or_eq_true, decide_eq_true_eq, not_or, Nat.not_lt] at hplain
    exact ⟨_, .cons (.plain hquote hplain.1 hplain.2) hbody, rfl⟩

/-- The reader of strings accepts the spellings of the grammar, and nothing else. -/
theorem readString_eq_some_iff {text cs rest : List Char} :
    readString text = some (cs, rest) ↔ ∃ body, Spells body cs ∧ text = body ++ '"' :: rest := by
  constructor
  · exact spells_of_readString
  · rintro ⟨body, hbody, rfl⟩
    exact readString_of_spells hbody rest

/-- What may stand between the quotes of a string, be it the spelling of a text or not: a half of a
pair may stand alone. -/
inductive StringForm : List Char → Prop
  | nil : StringForm []
  | plain {c : Char} {body : List Char} (hquote : c ≠ '"') (hslash : c ≠ '\\')
      (hcontrol : 0x20 ≤ c.toNat) (hbody : StringForm body) : StringForm (c :: body)
  | short {letter c : Char} {body : List Char} (hescape : (letter, c) ∈ shortEscapes)
      (hbody : StringForm body) : StringForm ('\\' :: letter :: body)
  | word {ds body : List Char} {n : Nat} (hword : HexWord ds n) (hbody : StringForm body) :
      StringForm ('\\' :: 'u' :: ds ++ body)

theorem stringForm_of_spells {body cs : List Char} (h : Spells body cs) : StringForm body := by
  induction h with
  | nil => exact .nil
  | cons hfront _ ih =>
    cases hfront with
    | plain hquote hslash hcontrol => exact .plain hquote hslash hcontrol ih
    | short hescape => exact .short hescape ih
    | word hword => exact .word hword ih
    | pair hwide hhigh hlow =>
      rw [List.append_assoc]
      exact .word hhigh (.word hlow ih)

/-- Any string is passed over, also one that spells no text. -/
theorem skipString_of_form {body : List Char} (h : StringForm body) (rest : List Char) :
    skipString (body ++ '"' :: rest) = some rest := by
  induction h with
  | nil => rw [List.nil_append, skipString]
  | @plain c body hquote hslash hcontrol _ ih =>
    rw [List.cons_append, skipString, if_neg (by simp [hslash, hcontrol]), ih]
    all_goals simp_all
  | @short letter c body hescape _ ih =>
    have hshort := shortEscape_eq_some_iff.mpr hescape
    have hletter : letter ≠ 'u' := by
      rintro rfl
      cases hshort
    rw [List.cons_append, List.cons_append, skipString, hshort, Option.isSome_some, if_pos rfl, ih]
    simp [hletter]
  | word hword _ ih =>
    cases hword with
    | mk ha hb hc hd =>
      have hread := hexWord_eq_some_iff.mpr (.mk ha hb hc hd)
      rw [List.append_assoc, List.cons_append, List.cons_append, List.cons_append, List.cons_append,
        List.cons_append, List.cons_append, List.nil_append, skipString, hread, Option.isSome_some,
        if_pos rfl, ih]

/-- A string ends at one place, read or passed over. -/
theorem readString_form {body cs rest tail : List Char} (hform : StringForm body)
    (hread : readString (body ++ '"' :: tail) = some (cs, rest)) :
    rest = tail ∧ Spells body cs := by
  obtain ⟨spelled, hspells, hsame⟩ := readString_eq_some_iff.mp hread
  have hrest : some tail = some rest := by
    rw [← skipString_of_form hform tail, hsame, skipString_of_form (stringForm_of_spells hspells)]
  obtain rfl := Option.some.inj hrest
  rw [List.append_cancel_right hsame]
  exact ⟨rfl, hspells⟩

theorem spelling_escapeChar (c : Char) : Spelling (escapeChar c) c := by
  unfold escapeChar
  by_cases hmark : c = '"' ∨ c = '\\'
  · rw [if_pos (by simpa using hmark)]
    rcases hmark with rfl | rfl <;> exact .short (by decide)
  · rw [if_neg (by simpa using hmark)]
    push Not at hmark
    split_ifs with hback htab hline hfeed hreturn hcontrol
    · exact hback ▸ .short (by decide)
    · exact htab ▸ .short (by decide)
    · exact hline ▸ .short (by decide)
    · exact hfeed ▸ .short (by decide)
    · exact hreturn ▸ .short (by decide)
    · have hword : HexWord ['0', '0', hexDigit (c.toNat / 16), hexDigit (c.toNat % 16)]
          (0 * 4096 + 0 * 256 + c.toNat / 16 * 16 + c.toNat % 16) :=
        .mk ⟨by decide, .inl rfl⟩ ⟨by decide, .inl rfl⟩ ⟨by omega, .inl rfl⟩ ⟨by omega, .inl rfl⟩
      exact .word (by convert hword using 1; omega)
    · exact .plain hmark.1 hmark.2 (by omega)

/-- What is written for a text spells it. -/
theorem spells_escaped (cs : List Char) : Spells (cs.flatMap escapeChar) cs := by
  induction cs with
  | nil => exact .nil
  | cons c cs ih => exact .cons (spelling_escapeChar c) ih

/-! ### Numbers -/

def Digits (ds : List Char) : Prop := ds ≠ [] ∧ ∀ c ∈ ds, isDigit c = true

theorem digits_of_all {ds : List Char} (hne : ds ≠ []) (hall : ds.all isDigit = true) : Digits ds :=
  ⟨hne, List.all_eq_true.mp hall⟩

def WholeForm (ds : List Char) : Prop := ds = ['0'] ∨ (Digits ds ∧ ds.head? ≠ some '0')

theorem wholeForm_of_all {ds : List Char} (hne : ds ≠ []) (hall : ds.all isDigit = true)
    (hzero : ds.head? ≠ some '0') : WholeForm ds :=
  .inr ⟨digits_of_all hne hall, hzero⟩

inductive FractionForm : List Char → Prop
  | absent : FractionForm []
  | present {ds : List Char} (hds : Digits ds) : FractionForm ('.' :: ds)

inductive ExponentForm : List Char → Prop
  | absent : ExponentForm []
  | present {mark : Char} {sign ds : List Char} (hmark : mark = 'e' ∨ mark = 'E')
      (hsign : sign = [] ∨ sign = ['-'] ∨ sign = ['+']) (hds : Digits ds) :
      ExponentForm (mark :: sign ++ ds)

inductive NumberForm : List Char → Prop
  | mk {sign whole fraction exponent : List Char} (hsign : sign = [] ∨ sign = ['-'])
      (hwhole : WholeForm whole) (hfraction : FractionForm fraction)
      (hexponent : ExponentForm exponent) : NumberForm (sign ++ whole ++ fraction ++ exponent)

def Stops (rest : List Char) : Prop :=
  ∀ c ∈ rest.head?, isDigit c = false ∧ c ≠ '.' ∧ c ≠ 'e' ∧ c ≠ 'E'

theorem span_digits {ds rest : List Char} (hds : ∀ c ∈ ds, isDigit c = true)
    (hrest : ∀ c ∈ rest.head?, isDigit c = false) :
    (ds ++ rest).span isDigit = (ds, rest) := by
  have hnone : rest.takeWhile isDigit = [] ∧ rest.dropWhile isDigit = rest := by
    cases rest with
    | nil => exact ⟨rfl, rfl⟩
    | cons c rest =>
      have hc := hrest c rfl
      simp [hc]
  rw [List.span_eq_takeWhile_dropWhile, List.takeWhile_append_of_pos hds,
    List.dropWhile_append_of_pos hds, hnone.1, hnone.2, List.append_nil]

theorem digits_append {ds rest : List Char} (hds : Digits ds)
    (hrest : ∀ c ∈ rest.head?, isDigit c = false) : digits (ds ++ rest) = some (ds, rest) := by
  rw [digits, span_digits hds.2 hrest]
  cases ds with
  | nil => exact absurd rfl hds.1
  | cons => rfl

theorem readWhole_append {whole rest : List Char} (hwhole : WholeForm whole)
    (hrest : ∀ c ∈ rest.head?, isDigit c = false) :
    readWhole (whole ++ rest) = some (whole, rest) := by
  rcases hwhole with rfl | ⟨hds, hzero⟩
  · cases rest with
    | nil => rfl
    | cons c rest =>
      have hc := hrest c rfl
      simp [readWhole, hc]
  · cases whole with
    | nil => exact absurd rfl hds.1
    | cons c whole =>
      have hread := digits_append hds hrest
      rw [List.cons_append] at hread ⊢
      rw [readWhole, hread]
      simpa using hzero

theorem readFraction_of_stops {rest : List Char} (hrest : ∀ c ∈ rest.head?, c ≠ '.') :
    readFraction rest = some (none, rest) := by
  cases rest with
  | nil => rfl
  | cons c rest =>
    have hc := hrest c rfl
    rw [readFraction]
    simpa using hc

theorem readExponent_of_stops {rest : List Char} (hrest : ∀ c ∈ rest.head?, c ≠ 'e' ∧ c ≠ 'E') :
    readExponent rest = some (none, rest) := by
  cases rest with
  | nil => rfl
  | cons c rest =>
    have hc := hrest c rfl
    simp [readExponent, hc]

theorem readFraction_append {fraction rest : List Char} (hfraction : FractionForm fraction)
    (hrest : ∀ c ∈ rest.head?, isDigit c = false ∧ c ≠ '.') :
    ∃ ds, readFraction (fraction ++ rest) = some (ds, rest) := by
  cases hfraction with
  | absent => exact ⟨none, readFraction_of_stops fun c hc => (hrest c hc).2⟩
  | @present ds hds =>
    refine ⟨some ds, ?_⟩
    rw [List.cons_append, readFraction, digits_append hds fun c hc => (hrest c hc).1]
    rfl

theorem readExponent_append {exponent rest : List Char} (hexponent : ExponentForm exponent)
    (hrest : ∀ c ∈ rest.head?, isDigit c = false ∧ c ≠ 'e' ∧ c ≠ 'E') :
    ∃ e, readExponent (exponent ++ rest) = some (e, rest) := by
  cases hexponent with
  | absent => exact ⟨none, readExponent_of_stops fun c hc => (hrest c hc).2⟩
  | @present mark sign ds hmark hsign hds =>
    have hread := digits_append hds fun c hc => (hrest c hc).1
    have hmark' : (mark = 'e' || mark = 'E') = true := by simpa using hmark
    rcases hsign with rfl | rfl | rfl
    · have hsigned : ∀ c ∈ (ds ++ rest).head?, c ≠ '-' ∧ c ≠ '+' := by
        cases ds with
        | nil => exact absurd rfl hds.1
        | cons c ds =>
          rintro _ ⟨rfl⟩
          have hc := hds.2 c List.mem_cons_self
          constructor <;> rintro rfl <;> exact absurd hc (by decide)
      refine ⟨some (false, ds), ?_⟩
      change readExponent (mark :: (ds ++ rest)) = _
      rw [readExponent, if_pos hmark', hread]
      · rfl
      · intro tail htail
        rw [htail] at hsigned
        exact (hsigned '-' rfl).1 rfl
      · intro tail htail
        rw [htail] at hsigned
        exact (hsigned '+' rfl).2 rfl
    · refine ⟨some (true, ds), ?_⟩
      change readExponent (mark :: '-' :: (ds ++ rest)) = _
      rw [readExponent, if_pos hmark', hread]
      rfl
    · refine ⟨some (false, ds), ?_⟩
      change readExponent (mark :: '+' :: (ds ++ rest)) = _
      rw [readExponent, if_pos hmark', hread]
      rfl

/-- The first character of a fraction, an exponent or what is behind them ends the digits. -/
theorem head?_append_of {front rest : List Char} {p : Char → Prop} (hfront : ∀ c ∈ front.head?, p c)
    (hrest : ∀ c ∈ rest.head?, p c) : ∀ c ∈ (front ++ rest).head?, p c := by
  cases front with
  | nil => exact hrest
  | cons => exact hfront

theorem readNumberText_of_parts {sign tail whole tail' tail'' rest : List Char}
    {fraction : Option (List Char)} {exponent : Option (Bool × List Char)}
    (hsign : sign = [] ∨ sign = ['-']) (hwhole : readWhole tail = some (whole, tail'))
    (hfraction : readFraction tail' = some (fraction, tail''))
    (hexponent : readExponent tail'' = some (exponent, rest)) :
    readNumberText (sign ++ tail) =
      some ({ negative := decide (sign = ['-']), whole, fraction, exponent }, rest) := by
  rcases hsign with rfl | rfl
  · rw [List.nil_append, readNumberText]
    · simp [hwhole, hfraction, hexponent]
    · rintro cs rfl
      cases hwhole
  · simp [readNumberText, hwhole, hfraction, hexponent]

/-- A number is read up to where it stops. -/
theorem readNumberText_append {cs rest : List Char} (hform : NumberForm cs) (hrest : Stops rest) :
    ∃ text, readNumberText (cs ++ rest) = some (text, rest) := by
  obtain @⟨sign, whole, fraction, exponent, hsign, hwhole, hfraction, hexponent⟩ := hform
  obtain ⟨e, he⟩ := readExponent_append hexponent fun c hc => ⟨(hrest c hc).1, (hrest c hc).2.2⟩
  have hafter : ∀ c ∈ (exponent ++ rest).head?, isDigit c = false ∧ c ≠ '.' := by
    apply head?_append_of
    · cases hexponent with
      | absent => simp
      | present hmark => rcases hmark with rfl | rfl <;> simp [isDigit]
    · exact fun c hc => ⟨(hrest c hc).1, (hrest c hc).2.1⟩
  obtain ⟨ds, hds⟩ := readFraction_append hfraction hafter
  have hread : readWhole (whole ++ (fraction ++ (exponent ++ rest))) =
      some (whole, fraction ++ (exponent ++ rest)) := by
    apply readWhole_append hwhole
    apply head?_append_of
    · cases hfraction <;> simp [isDigit]
    · exact fun c hc => (hafter c hc).1
  simp only [List.append_assoc]
  exact ⟨_, readNumberText_of_parts hsign hread hds he⟩

end IdentityLifecycle.Json
