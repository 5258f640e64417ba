import Mathlib.Data.List.DropRight
import Mathlib.Tactic.Common

/-!
# Cutting a list at a separator

A text format is taken apart by searching for separators, and a separator may occur again in a
later part. What a search finds is said here without positions, as an equation between lists:

* `atFirst pat` — what is before and after the FIRST occurrence of a pattern (`atFirst_append`,
  `eq_of_atFirst`);
* `atLast sep` — what is before and after the LAST occurrence of an element
  (`atLast_eq_some_iff`, `atLast_eq_none_iff`);
* `Begins sep` — a part that is empty or begins with its separator; every list is a part without
  the separator and such a part (`exists_cut`), in one way only (`cut_unique`).
-/

namespace Split

variable {α : Type} [DecidableEq α]

/-- The elements of a list without the separator, as the searches test them. -/
theorem bne_of_notMem {sep : α} {a : List α} (ha : sep ∉ a) : ∀ x ∈ a, (x != sep) = true := by
  intro x hx
  have hne : x ≠ sep := fun h => ha (h ▸ hx)
  simpa using hne

-- ── The first occurrence of a pattern ────────────────────────────────────────

/-- The parts before and after the first occurrence of a pattern. -/
def atFirst (pat : List α) : List α → Option (List α × List α)
  | [] => if pat = [] then some ([], []) else none
  | x :: xs =>
      if pat.isPrefixOf (x :: xs) then some ([], (x :: xs).drop pat.length)
      else (atFirst pat xs).map fun parts => (x :: parts.1, parts.2)

theorem atFirst_pattern {pat : List α} (hpat : pat ≠ []) (b : List α) :
    atFirst pat (pat ++ b) = some ([], b) := by
  obtain ⟨c, cs, rfl⟩ := List.exists_cons_of_ne_nil hpat
  have hprefix : (c :: cs).isPrefixOf (c :: (cs ++ b)) = true := by
    rw [List.isPrefixOf_iff_prefix, ← List.cons_append]
    exact List.prefix_append _ _
  rw [List.cons_append, atFirst, if_pos hprefix, ← List.cons_append, List.drop_left]

/-- A pattern whose first element is not in `a` is not found before the end of `a`. -/
theorem atFirst_append {c : α} {cs : List α} :
    ∀ (a b : List α), c ∉ a → atFirst (c :: cs) (a ++ (c :: cs) ++ b) = some (a, b) := by
  intro a
  induction a with
  | nil =>
      intro b _
      exact atFirst_pattern (List.cons_ne_nil c cs) b
  | cons x a ih =>
      intro b hc
      rw [List.mem_cons, not_or] at hc
      have hprefix : (c :: cs).isPrefixOf (x :: (a ++ (c :: cs) ++ b)) ≠ true := by
        rw [Ne, List.isPrefixOf_iff_prefix, List.cons_prefix_cons]
        exact fun h => hc.1 h.1
      show atFirst (c :: cs) (x :: (a ++ (c :: cs) ++ b)) = some (x :: a, b)
      rw [atFirst, if_neg hprefix, ih b hc.2]
      rfl

/-- What the parts are parts of. -/
theorem eq_of_atFirst {pat : List α} :
    ∀ {l a b : List α}, atFirst pat l = some (a, b) → l = a ++ pat ++ b := by
  intro l
  induction l with
  | nil =>
      intro a b h
      rw [atFirst] at h
      split at h
      case isTrue hpat =>
          cases h
          rw [hpat]
          rfl
      case isFalse => exact nomatch h
  | cons x xs ih =>
      intro a b h
      rw [atFirst] at h
      split at h
      case isTrue hprefix =>
          obtain ⟨t, ht⟩ := List.isPrefixOf_iff_prefix.mp hprefix
          cases h
          rw [← ht, List.drop_left]
          rfl
      case isFalse =>
          obtain ⟨⟨a', b'⟩, hparts, heq⟩ := Option.map_eq_some_iff.mp h
          cases heq
          rw [ih hparts]
          rfl

-- ── The last occurrence of an element ────────────────────────────────────────

/-- The parts before and after the last occurrence of an element. -/
def atLast (sep : α) : List α → Option (List α × List α)
  | [] => none
  | x :: xs =>
      match atLast sep xs with
      | some parts => some (x :: parts.1, parts.2)
      | none => if x = sep then some ([], xs) else none

theorem atLast_eq_none_iff {sep : α} : ∀ {l : List α}, atLast sep l = none ↔ sep ∉ l := by
  intro l
  induction l with
  | nil => exact iff_of_true rfl List.not_mem_nil
  | cons x xs ih =>
      rw [atLast, List.mem_cons, not_or, ← ih]
      cases atLast sep xs with
      | some parts => exact iff_of_false (fun h => (nomatch h)) fun h => (nomatch h.2)
      | none =>
          constructor
          · intro h
            refine ⟨?_, rfl⟩
            rintro rfl
            exact nomatch (if_pos rfl).symm.trans h
          · rintro ⟨hne, -⟩
            exact if_neg (Ne.symm hne)

/-- An occurrence with none behind it is the last one. -/
theorem atLast_append {sep : α} :
    ∀ (a b : List α), sep ∉ b → atLast sep (a ++ sep :: b) = some (a, b) := by
  intro a
  induction a with
  | nil =>
      intro b hb
      rw [List.nil_append, atLast, atLast_eq_none_iff.mpr hb]
      exact if_pos rfl
  | cons x a ih =>
      intro b hb
      rw [List.cons_append, atLast, ih b hb]

theorem atLast_eq_some_iff {sep : α} {l a b : List α} :
    atLast sep l = some (a, b) ↔ l = a ++ sep :: b ∧ sep ∉ b := by
  constructor
  · intro h
    have hmem : sep ∈ l := by
      by_contra hmem
      exact nomatch (atLast_eq_none_iff.mpr hmem).symm.trans h
    -- read from its end, the list shows its last separator first
    obtain ⟨b', a', hrev, hb'⟩ := List.eq_append_cons_of_mem (List.mem_reverse.mpr hmem)
    have hl : l = a'.reverse ++ sep :: b'.reverse := by
      rw [← List.reverse_reverse l, hrev, List.reverse_append, List.reverse_cons,
        List.append_assoc, List.singleton_append]
    have hb : sep ∉ b'.reverse := fun hsep => hb' (List.mem_reverse.mp hsep)
    rw [hl, atLast_append _ _ hb] at h
    cases h
    exact ⟨hl, hb⟩
  · rintro ⟨rfl, hb⟩
    exact atLast_append a b hb

/-- Dropping from the end stops at the last separator. -/
theorem rdropWhile_append {sep : α} (a : List α) {b : List α} (hb : sep ∉ b) :
    (a ++ sep :: b).rdropWhile (· != sep) = a ++ [sep] := by
  have hrev : sep ∉ b.reverse := fun h => hb (List.mem_reverse.mp h)
  rw [List.rdropWhile, List.reverse_append, List.reverse_cons, List.append_assoc,
    List.dropWhile_append_of_pos (bne_of_notMem hrev), List.singleton_append,
    List.dropWhile_cons_of_neg (by simp), List.reverse_cons, List.reverse_reverse]

-- ── A part and what begins with the separator ────────────────────────────────

/-- Empty, or begins with the separator. -/
def Begins (sep : α) (b : List α) : Prop := b = [] ∨ ∃ t, b = sep :: t

/-- Every list is a part without the separator and the rest from there on. -/
theorem exists_cut (sep : α) (l : List α) : ∃ a b, l = a ++ b ∧ sep ∉ a ∧ Begins sep b := by
  by_cases hmem : sep ∈ l
  · obtain ⟨a, t, hl, ha⟩ := List.eq_append_cons_of_mem hmem
    exact ⟨a, sep :: t, hl, ha, .inr ⟨t, rfl⟩⟩
  · exact ⟨l, [], (List.append_nil l).symm, hmem, .inl rfl⟩

theorem takeWhile_cut {sep : α} {a b : List α} (ha : sep ∉ a) (hb : Begins sep b) :
    (a ++ b).takeWhile (· != sep) = a := by
  rw [List.takeWhile_append_of_pos (bne_of_notMem ha)]
  rcases hb with rfl | ⟨t, rfl⟩
  · rw [List.takeWhile_nil, List.append_nil]
  · rw [List.takeWhile_cons_of_neg (by simp), List.append_nil]

/-- A list is cut in one way only. -/
theorem cut_unique {sep : α} {a a' b b' : List α} (h : a ++ b = a' ++ b') (ha : sep ∉ a)
    (ha' : sep ∉ a') (hb : Begins sep b) (hb' : Begins sep b') : a = a' ∧ b = b' := by
  have haa : a = a' := by
    rw [← takeWhile_cut ha hb, h, takeWhile_cut ha' hb']
  subst haa
  exact ⟨rfl, List.append_cancel_left h⟩

theorem findIdx?_of_notMem {sep : α} {a : List α} (ha : sep ∉ a) :
    a.findIdx? (· == sep) = none := by
  rw [List.findIdx?_eq_none_iff]
  intro x hx
  have hne : x ≠ sep := fun h => ha (h ▸ hx)
  simpa using hne

/-- The position of the first separator is the length of what is before it. -/
theorem findIdx?_cut {sep : α} {a : List α} (ha : sep ∉ a) (t : List α) :
    (a ++ sep :: t).findIdx? (· == sep) = some a.length := by
  rw [List.findIdx?_append, findIdx?_of_notMem ha, List.findIdx?_cons,
    if_pos (beq_self_eq_true sep)]
  simp

end Split
