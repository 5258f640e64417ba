import Mathlib.Data.List.Induction
import Mathlib.Tactic.Common

/-!
# What a history says about now

A store that is overwritten tells what happened LAST. `Since P Q h` is the statement such a store
can be compared with: some event of the history `h`, oldest first, meets `P`, and none after it
meets `Q` — a certificate was issued and not replaced since, a service was started and not stopped
since.

Histories grow at their end, so one lemma is enough to carry the notion along a run:
`since_concat` says what one more event does to it.

`After A h q` names the rest of the history after the last event that meets `A`, and `Spaced A R h`
says that whenever an `A` event happens, what happened since the previous one is an `R` stretch:
two attempts with a wait between them. `after_concat_of_pos` and `after_concat_of_neg` carry the
stretch along a run. `length_le_of_spaced` counts: how many times with a gap between any two of them
lie in a window.
-/

namespace History

variable {ε : Type*}

/-- Some event meets `P`, and none after it meets `Q`. -/
def Since (P Q : ε → Prop) (h : List ε) : Prop :=
  ∃ p e q, h = p ++ e :: q ∧ P e ∧ ∀ d ∈ q, ¬ Q d

variable {P Q : ε → Prop}

@[simp] theorem not_since_nil : ¬ Since P Q [] := by
  rintro ⟨p, e, q, h, -⟩
  simp at h

/-- One more event. -/
theorem since_concat {h : List ε} {e : ε} : Since P Q (h ++ [e]) ↔ P e ∨ Since P Q h ∧ ¬ Q e := by
  constructor
  · rintro ⟨p, d, q, hsplit, hd, hq⟩
    -- the event is the one that meets `P`, or the last one after it
    rcases List.eq_nil_or_concat q with rfl | ⟨q', x, rfl⟩
    · obtain ⟨-, hlast⟩ := List.append_inj' hsplit rfl
      obtain rfl := List.singleton_inj.mp hlast
      exact .inl hd
    · rw [List.concat_eq_append, ← List.cons_append, ← List.append_assoc] at hsplit
      obtain ⟨hinit, hlast⟩ := List.append_inj' hsplit rfl
      obtain rfl := List.singleton_inj.mp hlast
      rw [List.concat_eq_append] at hq
      refine .inr ⟨⟨p, d, q', hinit, hd, fun y hy => hq y (List.mem_append_left _ hy)⟩, ?_⟩
      exact hq e (List.mem_append_right _ List.mem_cons_self)
  · rintro (he | ⟨⟨p, d, q, rfl, hd, hq⟩, he⟩)
    · exact ⟨h, e, [], rfl, he, fun _ hx => nomatch hx⟩
    · refine ⟨p, d, q ++ [e], by simp, hd, ?_⟩
      intro x hx
      rcases List.mem_append.mp hx with hx | hx
      · exact hq x hx
      · rw [List.mem_singleton.mp hx]
        exact he

/-- An event that meets neither changes nothing. -/
theorem since_concat_of_not {h : List ε} {e : ε} (hP : ¬ P e) (hQ : ¬ Q e) :
    Since P Q (h ++ [e]) ↔ Since P Q h := by
  rw [since_concat]
  simp [hP, hQ]

/-- Whatever held since has happened. -/
theorem Since.exists {h : List ε} (hs : Since P Q h) : ∃ e ∈ h, P e := by
  obtain ⟨p, e, q, rfl, he, -⟩ := hs
  exact ⟨e, by simp, he⟩

/-- Only one event can be the last of its kind. -/
theorem since_eq_unique {x y : ε} (hx : Q x) (hy : Q y) {h : List ε} (hsx : Since (· = x) Q h)
    (hsy : Since (· = y) Q h) : x = y := by
  induction h using List.reverseRecOn with
  | nil => exact absurd hsx not_since_nil
  | append_singleton h e ih =>
      rcases since_concat.mp hsx with hex | ⟨hsx', hex⟩
      · rcases since_concat.mp hsy with hey | ⟨-, hey⟩
        · exact hex.symm.trans hey
        · exact absurd (hex ▸ hx) hey
      · rcases since_concat.mp hsy with hey | ⟨hsy', -⟩
        · exact absurd (hey ▸ hy) hex
        · exact ih hsx' hsy'

-- ── The stretch after the last event of a kind ───────────────────────────────

variable {A : ε → Prop} {R : List ε → Prop}

/-- `q` is what happened after the last event that meets `A`. -/
def After (A : ε → Prop) (h q : List ε) : Prop :=
  ∃ p a, h = p ++ a :: q ∧ A a ∧ ∀ x ∈ q, ¬ A x

/-- Between two consecutive events that meet `A`, the stretch is an `R` one. -/
def Spaced (A : ε → Prop) (R : List ε → Prop) (h : List ε) : Prop :=
  ∀ p b r, h = p ++ b :: r → A b → ∀ q, After A p q → R q

@[simp] theorem not_after_nil {q : List ε} : ¬ After A [] q := by
  rintro ⟨p, a, h, -⟩
  simp at h

/-- One more event that meets `A`: the stretch starts anew. -/
theorem after_concat_of_pos {h q : List ε} {e : ε} (he : A e) : After A (h ++ [e]) q ↔ q = [] := by
  constructor
  · rintro ⟨p, a, hsplit, -, hq⟩
    rcases List.eq_nil_or_concat q with rfl | ⟨q', x, rfl⟩
    · rfl
    · rw [List.concat_eq_append, ← List.cons_append, ← List.append_assoc] at hsplit
      obtain ⟨-, hlast⟩ := List.append_inj' hsplit rfl
      obtain rfl := List.singleton_inj.mp hlast
      exact absurd he (hq e (by simp))
  · rintro rfl
    exact ⟨h, e, rfl, he, by simp⟩

/-- One more event of another kind: the stretch grows. -/
theorem after_concat_of_neg {h q : List ε} {e : ε} (he : ¬ A e) :
    After A (h ++ [e]) q ↔ ∃ q', After A h q' ∧ q = q' ++ [e] := by
  constructor
  · rintro ⟨p, a, hsplit, ha, hq⟩
    rcases List.eq_nil_or_concat q with rfl | ⟨q', x, rfl⟩
    · obtain ⟨-, hlast⟩ := List.append_inj' hsplit rfl
      obtain rfl := List.singleton_inj.mp hlast
      exact absurd ha he
    · rw [List.concat_eq_append, ← List.cons_append, ← List.append_assoc] at hsplit
      obtain ⟨hinit, hlast⟩ := List.append_inj' hsplit rfl
      obtain rfl := List.singleton_inj.mp hlast
      rw [List.concat_eq_append] at hq ⊢
      exact ⟨q', ⟨p, a, hinit, ha, fun y hy => hq y (List.mem_append_left _ hy)⟩, rfl⟩
  · rintro ⟨q', ⟨p, a, rfl, ha, hq⟩, rfl⟩
    refine ⟨p, a, by simp, ha, ?_⟩
    intro x hx
    rcases List.mem_append.mp hx with hx | hx
    · exact hq x hx
    · rw [List.mem_singleton.mp hx]
      exact he

-- ── Spaced times in a window ─────────────────────────────────────────────────

/-- Times with a gap between any two of them. -/
theorem add_mul_le_of_spaced {gap : ℕ} :
    ∀ {l : List ℕ} {x : ℕ}, (x :: l).Pairwise (fun a b => a + gap ≤ b) →
      ∃ y ∈ x :: l, x + l.length * gap ≤ y := by
  intro l
  induction l with
  | nil => exact fun {x} _ => ⟨x, List.mem_cons_self, by simp⟩
  | cons z l ih =>
      intro x h
      obtain ⟨hx, hrest⟩ := List.pairwise_cons.mp h
      obtain ⟨y, hy, hle⟩ := ih hrest
      have hxz := hx z List.mem_cons_self
      refine ⟨y, List.mem_cons_of_mem x hy, ?_⟩
      rw [List.length_cons, Nat.succ_mul]
      omega

/-- **How many fit.** Times with a gap between any two, all within the last `window` before `now`. -/
theorem length_le_of_spaced {gap window : ℕ} (hgap : 0 < gap) (now : ℕ) {l : List ℕ}
    (h : l.Pairwise (fun a b => a + gap ≤ b)) (hwindow : ∀ x ∈ l, x ≤ now ∧ now < x + window) :
    l.length ≤ (window + gap - 1) / gap := by
  cases l with
  | nil => exact Nat.zero_le _
  | cons x l =>
      obtain ⟨y, hy, hle⟩ := add_mul_le_of_spaced h
      have hy := (hwindow y hy).1
      have hx := (hwindow x List.mem_cons_self).2
      rw [List.length_cons, Nat.le_div_iff_mul_le hgap, Nat.succ_mul]
      omega

end History
