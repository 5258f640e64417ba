import Mathlib.Algebra.Ring.Nat
import Mathlib.Data.List.DropRight
import Mathlib.Tactic.Common
import Hamlet.Lib.SplitProofs

/-!
# Rust's string operations on scalar values

`str` and `String` are sequences of Unicode scalar values, and so is `String` here; every
operation is defined on the list of characters, so that it evaluates and its laws are list
laws. The operations are the ones of the standard library that programs use on
configuration values, topics and URLs: `trim`, `eq_ignore_ascii_case`, `parse` for unsigned
integers, `strip_prefix`, `strip_suffix`, `trim_end_matches`, `replacen(.., 1)`, `split_once`,
`rsplit_once`, `find`, `lines`.

Each operation comes with the one law its users cite:

* `stripSuffix_eq_some`, `stripPrefix_eq_some` — stripping inverts appending;
* `endsWith_separator_iff` — a suffix that starts at a separator is the last piece of the text;
* `replacenOnce_append` — replacing a prefix;
* `trimEndMatches_replicate`, `trimEndMatches_append_replicate` — trimming repeated end characters;
* `splitOnce_append`, `rsplitOnce_eq_some_iff`, `find_append` — what a search for a separator finds;
* `parseUnsigned_toString`, `parseUnsigned_eq_some_iff` — decimal numbers, written and read;
* `splitLines_newline` — a line break separates two texts line by line.
-/

namespace RustText

-- ── White space, case, numbers ───────────────────────────────────────────────

/-- The Unicode property `White_Space`, which `str::trim` removes. -/
def isWhitespace (c : Char) : Bool :=
  (0x09 ≤ c.toNat && c.toNat ≤ 0x0D) || c.toNat == 0x20 || c.toNat == 0x85 ||
    c.toNat == 0xA0 || c.toNat == 0x1680 || (0x2000 ≤ c.toNat && c.toNat ≤ 0x200A) ||
    c.toNat == 0x2028 || c.toNat == 0x2029 || c.toNat == 0x202F || c.toNat == 0x205F ||
    c.toNat == 0x3000

/-- `str::trim`. -/
def trim (s : String) : String :=
  String.ofList ((s.toList.dropWhile isWhitespace).rdropWhile isWhitespace)

/-- `str::eq_ignore_ascii_case`: `Char.toLower` touches the letters `A` to `Z` only. -/
def eqIgnoreAsciiCase (s t : String) : Bool :=
  s.toList.map Char.toLower == t.toList.map Char.toLower

/-- The value of a string of decimal digits, `none` on any other character. -/
def digitsValue : List Char → Option ℕ :=
  List.foldlM (fun acc c => if c.isDigit then some (10 * acc + (c.toNat - '0'.toNat)) else none) 0

/-- `str::parse` for an unsigned integer type with `bound` values: an optional `+`, then at
    least one digit, and the value must fit. -/
def parseUnsigned (bound : ℕ) (s : String) : Option ℕ :=
  let digits := match s.toList with
    | '+' :: rest => rest
    | cs => cs
  if digits = [] then none
  else (digitsValue digits).filter (· < bound)

/-- `str::parse::<u16>`. -/
def parseU16 : String → Option ℕ := parseUnsigned (2 ^ 16)

/-- `str::parse::<u32>`. -/
def parseU32 : String → Option ℕ := parseUnsigned (2 ^ 32)

-- ── Prefixes and suffixes ────────────────────────────────────────────────────

/-- `str::starts_with` for a string pattern. -/
def startsWith (s pat : String) : Bool := pat.toList.isPrefixOf s.toList

/-- `str::ends_with` for a string pattern. -/
def endsWith (s pat : String) : Bool := pat.toList.isSuffixOf s.toList

/-- `str::strip_prefix`. -/
def stripPrefix (s pat : String) : Option String :=
  if startsWith s pat then some (String.ofList (s.toList.drop pat.toList.length)) else none

/-- `str::strip_suffix`. -/
def stripSuffix (s pat : String) : Option String :=
  if endsWith s pat then
    some (String.ofList (s.toList.take (s.toList.length - pat.toList.length)))
  else none

/-- `str::trim_end_matches` for one character. -/
def trimEndMatches (s : String) (c : Char) : String :=
  String.ofList (s.toList.rdropWhile (· == c))

/-- Replace the first occurrence of `pat` in a list of characters. -/
def replaceFirst (pat new : List Char) : List Char → List Char
  | [] => if pat = [] then new else []
  | c :: cs =>
      if pat.isPrefixOf (c :: cs) then new ++ (c :: cs).drop pat.length
      else c :: replaceFirst pat new cs

/-- `str::replacen(pat, new, 1)`. -/
def replacenOnce (s pat new : String) : String :=
  String.ofList (replaceFirst pat.toList new.toList s.toList)

/-- Stripping a suffix inverts appending it. -/
theorem stripSuffix_eq_some {s pat t : String} :
    stripSuffix s pat = some t ↔ s = t ++ pat := by
  rw [stripSuffix]
  by_cases h : endsWith s pat = true
  · rw [if_pos h, Option.some.injEq]
    obtain ⟨u, hu⟩ : pat.toList <:+ s.toList := List.isSuffixOf_iff_suffix.mp h
    have htake : s.toList.take (s.toList.length - pat.toList.length) = u := by
      rw [← hu, List.length_append, Nat.add_sub_cancel, List.take_left]
    rw [htake]
    constructor
    · rintro rfl
      rw [String.ext_iff, String.toList_append, String.toList_ofList, hu]
    · rintro rfl
      rw [String.toList_append] at hu
      rw [List.append_cancel_right hu, String.ofList_toList]
  · rw [if_neg h]
    constructor
    · intro hn; exact nomatch hn
    · rintro rfl
      refine absurd ?_ h
      rw [endsWith, String.toList_append, List.isSuffixOf_iff_suffix]
      exact List.suffix_append _ _

@[simp] theorem stripSuffix_append (t pat : String) : stripSuffix (t ++ pat) pat = some t :=
  stripSuffix_eq_some.mpr rfl

/-- Stripping a prefix inverts prepending it. -/
theorem stripPrefix_eq_some {s pat t : String} :
    stripPrefix s pat = some t ↔ s = pat ++ t := by
  rw [stripPrefix]
  by_cases h : startsWith s pat = true
  · rw [if_pos h, Option.some.injEq]
    obtain ⟨u, hu⟩ : pat.toList <+: s.toList := List.isPrefixOf_iff_prefix.mp h
    rw [← hu, List.drop_left]
    constructor
    · rintro rfl
      rw [String.ext_iff, String.toList_append, String.toList_ofList, hu]
    · rintro rfl
      rw [String.toList_append] at hu
      rw [List.append_cancel_left hu, String.ofList_toList]
  · rw [if_neg h]
    constructor
    · intro hn; exact nomatch hn
    · rintro rfl
      refine absurd ?_ h
      rw [startsWith, String.toList_append, List.isPrefixOf_iff_prefix]
      exact List.prefix_append _ _

@[simp] theorem stripPrefix_append (pat t : String) : stripPrefix (pat ++ t) pat = some t :=
  stripPrefix_eq_some.mpr rfl

/-- A text starts with what it was put after. -/
theorem startsWith_append (pat t : String) : startsWith (pat ++ t) pat = true := by
  rw [startsWith, String.toList_append, List.isPrefixOf_iff_prefix]
  exact List.prefix_append _ _

theorem startsWith_eq_false {s pat : String} (h : ¬ pat.toList <+: s.toList) :
    startsWith s pat = false := by
  rw [startsWith, ← Bool.not_eq_true, List.isPrefixOf_iff_prefix]
  exact h

/-- The piece after the last separator decides which suffix from a separator on a text has. -/
theorem endsWith_separator_iff {t w : String} {c : Char} (ht : c ∉ t.toList) (hw : c ∉ w.toList)
    (p : String) : endsWith (p ++ c.toString ++ t) (c.toString ++ w) = true ↔ t = w := by
  -- reading from the end, both texts show their last piece before the separator
  have hpiece : ∀ cs ds : List Char, c ∉ ds →
      (cs ++ c :: ds).reverse.takeWhile (· != c) = ds.reverse := by
    intro cs ds hds
    have hrev : c ∉ ds.reverse := fun h => hds (List.mem_reverse.mp h)
    rw [List.reverse_append, List.reverse_cons, List.append_assoc, List.singleton_append]
    exact Split.takeWhile_cut hrev (.inr ⟨_, rfl⟩)
  rw [endsWith, List.isSuffixOf_iff_suffix, String.toList_append, String.toList_append,
    String.toList_append, show c.toString.toList = [c] from by simp]
  constructor
  · rintro ⟨u, hu⟩
    have hrev := congrArg (fun cs => cs.reverse.takeWhile (· != c)) hu
    simp only [List.append_assoc, List.singleton_append] at hrev
    rw [hpiece u _ hw, hpiece p.toList _ ht] at hrev
    exact String.ext_iff.mpr (List.reverse_injective hrev.symm)
  · rintro rfl
    exact ⟨p.toList, by simp⟩

theorem replaceFirst_append {pat : List Char} (hpat : pat ≠ []) (new rest : List Char) :
    replaceFirst pat new (pat ++ rest) = new ++ rest := by
  obtain ⟨c, cs, rfl⟩ := List.exists_cons_of_ne_nil hpat
  have hprefix : (c :: cs).isPrefixOf (c :: (cs ++ rest)) = true := by
    rw [List.isPrefixOf_iff_prefix, ← List.cons_append]
    exact List.prefix_append _ _
  rw [List.cons_append, replaceFirst, if_pos hprefix, ← List.cons_append, List.drop_left]

/-- Replacing the first occurrence of what the text starts with. -/
theorem replacenOnce_append {pat : String} (hpat : pat.toList ≠ []) (new t : String) :
    replacenOnce (pat ++ t) pat new = new ++ t := by
  rw [replacenOnce, String.toList_append, replaceFirst_append hpat, String.ext_iff,
    String.toList_ofList, String.toList_append]

/-- Trimming `n` repetitions of the character at the end of a text that does not end in it. -/
theorem trimEndMatches_replicate {t : String} {c : Char} (ht : t.toList.getLast? ≠ some c) (n : ℕ) :
    trimEndMatches (t ++ String.ofList (List.replicate n c)) c = t := by
  have hdrop : ∀ n, (t.toList ++ List.replicate n c).rdropWhile (· == c) = t.toList := by
    intro n
    induction n with
    | zero =>
        rw [List.replicate_zero, List.append_nil, List.rdropWhile_eq_self_iff]
        intro hne hlast
        refine ht ?_
        rw [List.getLast?_eq_some_getLast hne, beq_iff_eq.mp hlast]
    | succ n ih =>
        rw [List.replicate_succ', ← List.append_assoc,
          List.rdropWhile_concat_pos _ _ _ (by simp), ih]
  rw [trimEndMatches, String.toList_append, String.toList_ofList, hdrop, String.ofList_toList]

/-- Every text ends in some number of repetitions of a character, and what is before them does
    not end in it. -/
theorem exists_trimmed (c : Char) (s : String) :
    ∃ (t : String) (n : ℕ), s = t ++ String.ofList (List.replicate n c) ∧
      t.toList.getLast? ≠ some c := by
  obtain ⟨t, n, hs, ht⟩ : ∃ (t : List Char) (n : ℕ),
      s.toList = t ++ List.replicate n c ∧ t.getLast? ≠ some c := by
    induction s.toList using List.reverseRecOn with
    | nil => exact ⟨[], 0, rfl, by simp⟩
    | append_singleton cs d ih =>
        by_cases hd : d = c
        · obtain ⟨t, n, rfl, ht⟩ := ih
          refine ⟨t, n + 1, ?_, ht⟩
          rw [hd, List.replicate_succ', List.append_assoc]
        · refine ⟨cs ++ [d], 0, (List.append_nil _).symm, ?_⟩
          rw [List.getLast?_concat, Ne, Option.some.injEq]
          exact hd
  refine ⟨String.ofList t, n, ?_, ?_⟩
  · rw [String.ext_iff, hs]
    simp
  · rwa [String.toList_ofList]

/-- Further repetitions are trimmed with the ones that are there. -/
theorem trimEndMatches_append_replicate (s : String) (c : Char) (n : ℕ) :
    trimEndMatches (s ++ String.ofList (List.replicate n c)) c = trimEndMatches s c := by
  obtain ⟨t, m, rfl, ht⟩ := exists_trimmed c s
  rw [String.append_assoc, ← String.ofList_append, List.replicate_append_replicate,
    trimEndMatches_replicate ht, trimEndMatches_replicate ht]

/-- Appending the same suffix is injective. -/
theorem append_right_injective (suf : String) :
    Function.Injective fun s : String => s ++ suf := by
  intro s t h
  exact (String.append_left_inj suf).mp h

/-- A text that ends in a non-empty suffix is not empty. -/
theorem append_ne_empty {s suf : String} (h : suf.toList ≠ []) : s ++ suf ≠ "" := by
  intro he
  have h' : (s ++ suf).toList = [] := by rw [he]; rfl
  rw [String.toList_append] at h'
  exact h (List.append_eq_nil_iff.mp h').2

-- ── Separators ───────────────────────────────────────────────────────────────

/-- `str::split_once` for a string pattern. -/
def splitOnce (s pat : String) : Option (String × String) :=
  (Split.atFirst pat.toList s.toList).map fun parts =>
    (String.ofList parts.1, String.ofList parts.2)

/-- `str::rsplit_once` for one character. -/
def rsplitOnce (s : String) (c : Char) : Option (String × String) :=
  (Split.atLast c s.toList).map fun parts => (String.ofList parts.1, String.ofList parts.2)

/-- `str::find` for one character. An offset counts characters, as the slices below do. -/
def find (s : String) (c : Char) : Option ℕ := s.toList.findIdx? (· == c)

/-- `&s[..i]`. -/
def sliceTo (s : String) (i : ℕ) : String := String.ofList (s.toList.take i)

/-- `&s[i..]`. -/
def sliceFrom (s : String) (i : ℕ) : String := String.ofList (s.toList.drop i)

/-- Two texts and the separator between them. -/
theorem toList_separated (a b : String) (c : Char) :
    (a ++ c.toString ++ b).toList = a.toList ++ c :: b.toList := by
  simp

/-- The first occurrence is the one after a text without the pattern's first character. -/
theorem splitOnce_append {pat a : String} {c : Char} (hpat : pat.toList.head? = some c)
    (ha : c ∉ a.toList) (b : String) : splitOnce (a ++ pat ++ b) pat = some (a, b) := by
  obtain ⟨cs, hcs⟩ := List.head?_eq_some_iff.mp hpat
  rw [splitOnce, String.toList_append, String.toList_append, hcs, Split.atFirst_append _ _ ha]
  simp

theorem eq_of_splitOnce {s pat a b : String} (h : splitOnce s pat = some (a, b)) :
    s = a ++ pat ++ b := by
  obtain ⟨⟨a', b'⟩, hparts, heq⟩ := Option.map_eq_some_iff.mp h
  cases heq
  rw [String.ext_iff, Split.eq_of_atFirst hparts]
  simp

theorem rsplitOnce_eq_some_iff {s a b : String} {c : Char} :
    rsplitOnce s c = some (a, b) ↔ s = a ++ c.toString ++ b ∧ c ∉ b.toList := by
  have htext : s = a ++ c.toString ++ b ↔ s.toList = a.toList ++ c :: b.toList := by
    rw [String.ext_iff, toList_separated]
  rw [htext, ← Split.atLast_eq_some_iff, rsplitOnce, Option.map_eq_some_iff]
  constructor
  · rintro ⟨parts, hparts, heq⟩
    cases heq
    simpa using hparts
  · intro h
    exact ⟨_, h, by simp⟩

theorem rsplitOnce_eq_none_iff {s : String} {c : Char} :
    rsplitOnce s c = none ↔ c ∉ s.toList := by
  rw [rsplitOnce, Option.map_eq_none_iff, Split.atLast_eq_none_iff]

theorem find_eq_none {s : String} {c : Char} (h : c ∉ s.toList) : find s c = none :=
  Split.findIdx?_of_notMem h

/-- The offset found cuts the text before the character. -/
theorem find_append {a : String} {c : Char} (ha : c ∉ a.toList) (t : String) :
    ∃ i, find (a ++ (c.toString ++ t)) c = some i ∧
      sliceTo (a ++ (c.toString ++ t)) i = a ∧
      sliceFrom (a ++ (c.toString ++ t)) i = c.toString ++ t := by
  have htext : (a ++ (c.toString ++ t)).toList = a.toList ++ c :: t.toList := by
    rw [← String.append_assoc, toList_separated]
  refine ⟨a.toList.length, ?_, ?_, ?_⟩
  · rw [find, htext, Split.findIdx?_cut ha]
  · rw [sliceTo, htext, List.take_left, String.ofList_toList]
  · rw [sliceFrom, htext, List.drop_left, String.ext_iff]
    simp

/-- Every text is a part without the character and a part that is empty or begins with it. -/
theorem exists_cut (c : Char) (s : String) :
    ∃ a b : String, s = a ++ b ∧ c ∉ a.toList ∧ Split.Begins c b.toList := by
  obtain ⟨a, b, hs, ha, hb⟩ := Split.exists_cut c s.toList
  refine ⟨String.ofList a, String.ofList b, ?_, ?_, ?_⟩
  · rw [String.ext_iff, hs]
    simp
  · rwa [String.toList_ofList]
  · rwa [String.toList_ofList]

theorem cut_unique {c : Char} {a a' b b' : String} (h : a ++ b = a' ++ b') (ha : c ∉ a.toList)
    (ha' : c ∉ a'.toList) (hb : Split.Begins c b.toList) (hb' : Split.Begins c b'.toList) :
    a = a' ∧ b = b' := by
  rw [String.ext_iff, String.toList_append, String.toList_append] at h
  obtain ⟨haa, hbb⟩ := Split.cut_unique h ha ha' hb hb'
  exact ⟨String.ext_iff.mpr haa, String.ext_iff.mpr hbb⟩

-- ── Decimal numbers ──────────────────────────────────────────────────────────

/-- A string of digits has the value its digits denote, and nothing else has a value. -/
theorem digitsValue_eq_some_iff {cs : List Char} {n : ℕ} :
    digitsValue cs = some n ↔ (∀ c ∈ cs, c.isDigit = true) ∧ Nat.ofDigitChars 10 cs 0 = n := by
  have hfold : ∀ (cs : List Char) (acc : ℕ),
      cs.foldlM (fun acc c => if c.isDigit then some (10 * acc + (c.toNat - '0'.toNat)) else none)
        acc = some n ↔
      (∀ c ∈ cs, c.isDigit = true) ∧ Nat.ofDigitChars 10 cs acc = n := by
    intro cs
    induction cs with
    | nil => intro acc; simp
    | cons c cs ih =>
        intro acc
        rw [List.foldlM_cons, List.forall_mem_cons, Nat.ofDigitChars_cons]
        by_cases hc : c.isDigit = true
        · rw [if_pos hc, Option.bind_eq_bind, Option.bind_some, ih, and_assoc]
          exact (and_iff_right hc).symm
        · rw [if_neg hc, Option.bind_eq_bind, Option.bind_none]
          exact iff_of_false (fun h => (nomatch h)) fun h => hc h.1.1
  exact hfold cs 0

/-- What `parse` reads: a `+` or nothing, and then at least one digit. -/
theorem parseUnsigned_eq_some_iff {bound n : ℕ} {s : String} :
    parseUnsigned bound s = some n ↔
      ∃ digits, (s.toList = digits ∨ s.toList = '+' :: digits) ∧ digits ≠ [] ∧
        digitsValue digits = some n ∧ n < bound := by
  have hread : ∀ digits : List Char,
      (if digits = [] then none else (digitsValue digits).filter (· < bound)) = some n ↔
        digits ≠ [] ∧ digitsValue digits = some n ∧ n < bound := by
    intro digits
    by_cases hnil : digits = []
    · rw [if_pos hnil]
      exact iff_of_false (fun h => (nomatch h)) fun h => h.1 hnil
    · rw [if_neg hnil, Option.filter_eq_some_iff]
      simp [hnil]
  have hplus : ∀ digits : List Char, digitsValue ('+' :: digits) ≠ some n := by
    intro digits h
    exact absurd ((digitsValue_eq_some_iff.mp h).1 '+' List.mem_cons_self) (by decide)
  rw [parseUnsigned]
  split
  case h_1 rest hs =>
      rw [hread, hs]
      constructor
      · intro h
        exact ⟨rest, .inr rfl, h⟩
      · rintro ⟨digits, hdigits | hdigits, h⟩
        · exact absurd h.2.1 (hdigits ▸ hplus rest)
        · cases hdigits
          exact h
  case h_2 hs =>
      rw [hread]
      constructor
      · intro h
        exact ⟨s.toList, .inl rfl, h⟩
      · rintro ⟨digits, hdigits | hdigits, h⟩
        · exact hdigits ▸ h
        · exact absurd hdigits (hs digits)

/-- A text that is read as a number has digits in it, and a sign at most. -/
theorem notMem_of_parseUnsigned {bound n : ℕ} {s : String} {c : Char}
    (h : parseUnsigned bound s = some n) (hdigit : c.isDigit = false) (hplus : c ≠ '+') :
    c ∉ s.toList := by
  obtain ⟨digits, hs, -, hvalue, -⟩ := parseUnsigned_eq_some_iff.mp h
  have hc : c ∉ digits := by
    intro hmem
    have hd := (digitsValue_eq_some_iff.mp hvalue).1 c hmem
    exact Bool.false_ne_true (hdigit.symm.trans hd)
  rcases hs with hs | hs
  · rwa [hs]
  · rw [hs, List.mem_cons, not_or]
    exact ⟨hplus, hc⟩

/-- A number is read back from its decimal text. -/
theorem parseUnsigned_toString {bound n : ℕ} (h : n < bound) :
    parseUnsigned bound (toString n) = some n := by
  rw [parseUnsigned_eq_some_iff]
  refine ⟨Nat.toDigits 10 n, .inl ?_, Nat.toDigits_ne_nil, ?_, h⟩
  · rw [Nat.toString_eq_ofList_toDigits, String.toList_ofList]
  · rw [digitsValue_eq_some_iff]
    refine ⟨?_, Nat.ofDigitChars_ten_toDigits⟩
    intro c hc
    exact Nat.isDigit_of_mem_toDigits (by decide) (by decide) hc

theorem notMem_toString {c : Char} (hc : c.isDigit = false) (n : ℕ) :
    c ∉ (toString n).toList := by
  rw [Nat.toString_eq_ofList_toDigits, String.toList_ofList]
  intro h
  have hdigit := Nat.isDigit_of_mem_toDigits (by decide) (by decide) h
  exact Bool.false_ne_true (hc.symm.trans hdigit)

-- ── Lines ────────────────────────────────────────────────────────────────────

/-- The pieces of a text between its line breaks. -/
def splitLines (s : String) : List String :=
  (s.toList.splitOn '\n').map String.ofList

/-- A line break separates two texts line by line. -/
theorem splitLines_newline (s t : String) :
    splitLines (s ++ "\n" ++ t) = splitLines s ++ splitLines t := by
  have h : (s ++ "\n" ++ t).toList = s.toList ++ '\n' :: t.toList := by
    rw [String.toList_append, String.toList_append, List.append_assoc]; rfl
  rw [splitLines, h, List.splitOn_append_cons_self, List.map_append]
  rfl

/-- A text without a line break is its only line. -/
theorem splitLines_of_notMem {s : String} (h : '\n' ∉ s.toList) : splitLines s = [s] := by
  rw [splitLines, List.splitOn_eq_singleton h, List.map_singleton, String.ofList_toList]

/-- Text put in front without a line break only changes the first line. -/
theorem splitLines_append {s t : String} (h : '\n' ∉ s.toList) :
    splitLines (s ++ t) = (s ++ (splitLines t).headD "") :: (splitLines t).tail := by
  have key : ∀ cs : List Char, '\n' ∉ cs →
      (cs ++ t.toList).splitOn '\n' = (t.toList.splitOn '\n').modifyHead (cs ++ ·) := by
    intro cs
    induction cs with
    | nil =>
        intro _
        obtain ⟨l, ls, hl⟩ := List.exists_cons_of_ne_nil (List.splitOn_ne_nil '\n' t.toList)
        rw [List.nil_append, hl]; rfl
    | cons c cs ih =>
        intro hc
        rw [List.mem_cons, not_or] at hc
        rw [List.cons_append, List.splitOn_cons_eq_if_modifyHead, ih hc.2,
          if_neg (by simpa using Ne.symm hc.1)]
        obtain ⟨l, ls, hl⟩ := List.exists_cons_of_ne_nil (List.splitOn_ne_nil '\n' t.toList)
        rw [hl]; rfl
  rw [splitLines, String.toList_append, key _ h, splitLines]
  obtain ⟨l, ls, hl⟩ := List.exists_cons_of_ne_nil (List.splitOn_ne_nil '\n' t.toList)
  rw [hl]
  simp only [List.modifyHead_cons, List.map_cons, List.headD_cons, List.tail_cons,
    List.cons.injEq, and_true]
  rw [String.ext_iff, String.toList_ofList, String.toList_append, String.toList_ofList]

end RustText
