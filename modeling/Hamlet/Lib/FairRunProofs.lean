import Hamlet.Lib.EventRunProofs
import Mathlib.Order.WellFounded

/-!
# Fair executions

What a system never does can be said of its finite runs. What it does EVENTUALLY cannot: a scheduler
that passes one component over for ever prevents anything. This file has executions without end — an
execution that ends is one that stays where it is — of a system whose events belong to actors, and
weak fairness: an actor that can move from some time on does move.

`Fair.eventually` is the rule for liveness. A rank that never grows, and in every state a helper
that can move and lowers the rank when it does, and that stays the helper while the rank stays: then
the goal is reached, whatever else happens.
-/

namespace FairRun

open EventRun

variable {σ ε ι : Type*} {step : σ → ε → Option σ}

/-- One step, or none. -/
def advance (step : σ → ε → Option σ) (s : σ) : Option ε → Option σ
  | none   => some s
  | some e => step s e

/-- The states of an execution, and what happens between each and the next. -/
structure Execution (step : σ → ε → Option σ) where
  state : ℕ → σ
  event : ℕ → Option ε
  next  : ∀ n, advance step (state n) (event n) = some (state (n + 1))

/-- An actor can move. -/
def Enabled (step : σ → ε → Option σ) (owns : ι → ε → Prop) (i : ι) (s : σ) : Prop :=
  ∃ e, owns i e ∧ (step s e).isSome = true

/-- **Weak fairness**: an actor that can move from some time on does so. -/
def Execution.Fair (x : Execution step) (owns : ι → ε → Prop) : Prop :=
  ∀ i n, (∀ m ≥ n, Enabled step owns i (x.state m)) → ∃ m ≥ n, ∃ e, x.event m = some e ∧ owns i e

namespace Execution

variable {x : Execution step} {owns : ι → ε → Prop}

/-- The events up to a time. -/
def upTo (x : Execution step) (n : ℕ) : List ε := (List.range n).filterMap x.event

theorem upTo_succ (n : ℕ) : x.upTo (n + 1) = x.upTo n ++ (x.event n).toList := by
  rw [upTo, List.range_succ, List.filterMap_append, upTo]
  cases h : x.event n with
  | none => simp [h]
  | some e => simp [h]

theorem mem_upTo {n : ℕ} {e : ε} : e ∈ x.upTo n ↔ ∃ k < n, x.event k = some e := by
  rw [upTo, List.mem_filterMap]
  exact exists_congr fun k => and_congr_left fun _ => List.mem_range

/-- Up to every time, an execution is a run. -/
theorem run_upTo (x : Execution step) (n : ℕ) :
    run step (x.state 0) (x.upTo n) = some (x.state n) := by
  induction n with
  | zero => rfl
  | succ n ih =>
      rw [upTo_succ, run_append, ih, Option.bind_some]
      have hnext := x.next n
      cases he : x.event n with
      | none =>
          rw [he] at hnext
          exact hnext
      | some e =>
          rw [he] at hnext
          rw [Option.toList_some, run_singleton]
          exact hnext

/-- What every step keeps holds from some time on. -/
theorem invariant {I : σ → Prop} (keep : ∀ s e t, I s → step s e = some t → I t) {n : ℕ}
    (h : I (x.state n)) {m : ℕ} (hm : n ≤ m) : I (x.state m) := by
  induction m, hm using Nat.le_induction with
  | base => exact h
  | succ m _ ih =>
      have hnext := x.next m
      cases he : x.event m with
      | none =>
          rw [he] at hnext
          exact Option.some.inj hnext ▸ ih
      | some e =>
          rw [he] at hnext
          exact keep _ e _ ih hnext

/-- What becomes true becomes true at some step. -/
theorem exists_step {G : σ → Prop} {n m : ℕ} (hn : ¬ G (x.state n)) (hm : n ≤ m)
    (h : G (x.state m)) :
    ∃ k ≥ n, ∃ e, x.event k = some e ∧ ¬ G (x.state k) ∧
      step (x.state k) e = some (x.state (k + 1)) ∧ G (x.state (k + 1)) := by
  induction m, hm using Nat.le_induction with
  | base => exact absurd h hn
  | succ m hm ih =>
      by_cases hG : G (x.state m)
      · exact ih hG
      · have hnext := x.next m
        cases he : x.event m with
        | none =>
            rw [he] at hnext
            exact absurd (Option.some.inj hnext ▸ h) hG
        | some e =>
            rw [he] at hnext
            exact ⟨m, hm, e, he, hG, hnext, h⟩

/-- **The rule for liveness.** As long as the goal is not reached, the helper can move; and every
    step reaches the goal, lowers the rank, or leaves rank and helper as they are and is none of the
    helper's. -/
theorem Fair.eventually {W : Type*} [Preorder W] [WellFoundedLT W] {I G : σ → Prop}
    (hfair : x.Fair owns) (rank : σ → W) (helper : σ → ι)
    (keep : ∀ s e t, I s → step s e = some t → I t)
    (enabled : ∀ s, I s → ¬ G s → Enabled step owns (helper s) s)
    (progress : ∀ s e t, I s → ¬ G s → step s e = some t → ¬ G t →
      rank t < rank s ∨ rank t = rank s ∧ helper t = helper s ∧ ¬ owns (helper s) e)
    {n : ℕ} (hI : I (x.state n)) : ∃ m ≥ n, G (x.state m) := by
  generalize hw : rank (x.state n) = w
  induction w using WellFoundedLT.induction generalizing n with
  | ind w ih =>
      by_contra hnever
      have hG : ∀ m ≥ n, ¬ G (x.state m) := fun m hm hgoal => hnever ⟨m, hm, hgoal⟩
      have hInv : ∀ m ≥ n, I (x.state m) := fun m hm => x.invariant keep hI hm
      have hlower : ∀ m ≥ n, ¬ rank (x.state m) < w := by
        intro m hm hlt
        obtain ⟨k, hk, hgoal⟩ := ih _ hlt (hInv m hm) rfl
        exact hG k (hm.trans hk) hgoal
      -- no step lowers the rank, so the helper of the first state stays the helper
      have hstay : ∀ m ≥ n, rank (x.state m) = w ∧ helper (x.state m) = helper (x.state n) := by
        intro m hm
        induction m, hm using Nat.le_induction with
        | base => exact ⟨hw, rfl⟩
        | succ m hm hsame =>
            have hnext := x.next m
            cases he : x.event m with
            | none =>
                rw [he] at hnext
                rw [← Option.some.inj hnext]
                exact hsame
            | some e =>
                rw [he] at hnext
                rcases progress _ e _ (hInv m hm) (hG m hm) hnext (hG _ (Nat.le_succ_of_le hm)) with
                  hlt | ⟨hrank, hhelper, -⟩
                · exact absurd (hsame.1 ▸ hlt) (hlower _ (Nat.le_succ_of_le hm))
                · exact ⟨hrank.trans hsame.1, hhelper.trans hsame.2⟩
      obtain ⟨m, hm, e, he, howns⟩ := hfair (helper (x.state n)) n fun m hm =>
        (hstay m hm).2 ▸ enabled _ (hInv m hm) (hG m hm)
      have hnext := x.next m
      rw [he] at hnext
      rcases progress _ e _ (hInv m hm) (hG m hm) hnext (hG _ (Nat.le_succ_of_le hm)) with
        hlt | ⟨-, -, hnot⟩
      · exact hlower _ (Nat.le_succ_of_le hm) ((hstay m hm).1 ▸ hlt)
      · exact hnot ((hstay m hm).2 ▸ howns)

-- ── Executions that come to rest ─────────────────────────────────────────────

/-- A run that goes through, and nothing after it. -/
def ofRun {s t : σ} {es : List ε} (h : run step s es = some t) : Execution step where
  state n := (run step s (es.take n)).getD t
  event n := es[n]?
  next n := by
    by_cases hn : n < es.length
    · have htake : es.take (n + 1) = es.take n ++ [es[n]] := by
        rw [List.take_add_one, List.getElem?_eq_getElem hn]
        rfl
      have hsplit : es = es.take n ++ es[n] :: es.drop (n + 1) := by
        rw [List.getElem_cons_drop, List.take_append_drop]
      rw [hsplit] at h
      obtain ⟨u, v, hu, hstep, -⟩ := run_split h
      rw [htake, run_append, hu, List.getElem?_eq_getElem hn]
      simp only [Option.getD_some, Option.bind_some, run_singleton, hstep, advance]
    · have hle : es.length ≤ n := Nat.le_of_not_lt hn
      rw [List.take_of_length_le hle, List.take_of_length_le (Nat.le_succ_of_le hle), h,
        List.getElem?_eq_none hle]
      rfl

/-- An execution that comes to rest where nobody can move is fair. -/
theorem fair_ofRun {s t : σ} {es : List ε} (h : run step s es = some t)
    (hrest : ∀ i, ¬ Enabled step owns i t) : (ofRun h).Fair owns := by
  intro i n henabled
  have hend : (ofRun h).state (max n es.length) = t := by
    show (run step s (es.take (max n es.length))).getD t = t
    rw [List.take_of_length_le (Nat.le_max_right _ _), h, Option.getD_some]
  have := henabled (max n es.length) (Nat.le_max_left _ _)
  rw [hend] at this
  exact absurd this (hrest i)

end Execution

end FairRun
