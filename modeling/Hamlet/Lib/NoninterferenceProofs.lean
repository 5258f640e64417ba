import Mathlib.Tactic.Common

/-!
# Components that share a machine and do not interfere

A machine answers every event and changes its state. Its state is seen by several components, each
through a view of its own, and an event belongs to at most one of them. Two obligations about ONE
event (`Independent`):

* an event of another component leaves the view alone;
* an event of the component changes the view, and is answered, as the view alone decides.

What follows is about whole runs. To a component a run is the run of its own events — all others
deleted (`exec_purge`) — so two runs that agree on its events agree on its view and on every answer
it gets, however the events of the others are interleaved (`exec_agree`).
-/

namespace Noninterference

variable {σ ε ρ κ τ : Type*}

/-- Run the machine; every event is kept with its answer, oldest first. -/
def exec (step : σ → ε → σ × ρ) : σ → List ε → σ × List (ε × ρ)
  | s, []      => (s, [])
  | s, e :: es =>
      ((exec step (step s e).1 es).1, (e, (step s e).2) :: (exec step (step s e).1 es).2)

/-- A run over an append goes through the state in the middle. -/
theorem exec_append (step : σ → ε → σ × ρ) (s : σ) (p q : List ε) :
    exec step s (p ++ q) =
      ((exec step (exec step s p).1 q).1,
        (exec step s p).2 ++ (exec step (exec step s p).1 q).2) := by
  induction p generalizing s with
  | nil => rfl
  | cons e p ih => rw [List.cons_append, exec, exec, ih]; rfl

/-- One more event. -/
theorem exec_concat {step : σ → ε → σ × ρ} {s t : σ} {es : List ε} {xs : List (ε × ρ)} {e : ε}
    (h : exec step s es = (t, xs)) :
    exec step s (es ++ [e]) = ((step t e).1, xs ++ [(e, (step t e).2)]) := by
  rw [exec_append, h]
  rfl

/-- The answer to an event in the middle of a run. -/
theorem exec_answer {step : σ → ε → σ × ρ} {s t : σ} {p q : List ε} {e : ε}
    {xs ys : List (ε × ρ)} {a : ε × ρ} (hp : xs.length = p.length)
    (h : exec step s (p ++ e :: q) = (t, xs ++ a :: ys)) :
    a.2 = (step (exec step s p).1 e).2 := by
  have hlen : ∀ (s : σ) (es : List ε), (exec step s es).2.length = es.length := by
    intro s es
    induction es generalizing s with
    | nil => rfl
    | cons e es ih => rw [exec, List.length_cons, List.length_cons, ih]
  rw [exec_append] at h
  have hpair := (Prod.mk.inj h).2
  obtain ⟨-, hrest⟩ := List.append_inj hpair ((hlen s p).trans hp.symm)
  obtain ⟨hhead, -⟩ := List.cons.inj hrest
  rw [← hhead]

/-- The events of one component. -/
def purge [DecidableEq κ] (owner : ε → Option κ) (k : κ) (es : List ε) : List ε :=
  es.filter fun e => decide (owner e = some k)

/-- The answers one component got. -/
def answersTo [DecidableEq κ] (owner : ε → Option κ) (k : κ) (xs : List (ε × ρ)) : List (ε × ρ) :=
  xs.filter fun x => decide (owner x.1 = some k)

/-- No component sees an event of another, and its own events see nothing but its view. -/
structure Independent (step : σ → ε → σ × ρ) (owner : ε → Option κ) (view : κ → σ → τ) :
    Prop where
  frame : ∀ s e k, owner e ≠ some k → view k (step s e).1 = view k s
  reads : ∀ s s' e k, owner e = some k → view k s = view k s' →
    view k (step s e).1 = view k (step s' e).1 ∧ (step s e).2 = (step s' e).2

variable [DecidableEq κ] {step : σ → ε → σ × ρ} {owner : ε → Option κ} {view : κ → σ → τ}

/-- To a component, a run is the run of its own events. -/
theorem exec_purge (h : Independent step owner view) (k : κ) {s s' : σ} (es : List ε)
    (hs : view k s = view k s') :
    view k (exec step s es).1 = view k (exec step s' (purge owner k es)).1 ∧
      answersTo owner k (exec step s es).2 = (exec step s' (purge owner k es)).2 := by
  induction es generalizing s s' with
  | nil => exact ⟨hs, rfl⟩
  | cons e es ih =>
      by_cases he : owner e = some k
      · obtain ⟨hview, hanswer⟩ := h.reads s s' e k he hs
        have hpurge : purge owner k (e :: es) = e :: purge owner k es :=
          List.filter_cons_of_pos (by simpa using he)
        obtain ⟨ihview, ihanswers⟩ := ih hview
        rw [hpurge]
        refine ⟨ihview, ?_⟩
        calc answersTo owner k (exec step s (e :: es)).2
            = (e, (step s e).2) :: answersTo owner k (exec step (step s e).1 es).2 :=
              List.filter_cons_of_pos (by simpa using he)
          _ = (e, (step s' e).2) :: (exec step (step s' e).1 (purge owner k es)).2 := by
              rw [hanswer, ihanswers]
      · have hview : view k (step s e).1 = view k s' := (h.frame s e k he).trans hs
        have hpurge : purge owner k (e :: es) = purge owner k es :=
          List.filter_cons_of_neg (by simpa using he)
        have hanswers : answersTo owner k (exec step s (e :: es)).2 =
            answersTo owner k (exec step (step s e).1 es).2 :=
          List.filter_cons_of_neg (by simpa using he)
        rw [hpurge, hanswers]
        exact ih hview

/-- **Noninterference.** Two runs with the same events of a component look the same to it. -/
theorem exec_agree (h : Independent step owner view) (k : κ) (s : σ) {es es' : List ε}
    (hsame : purge owner k es = purge owner k es') :
    view k (exec step s es).1 = view k (exec step s es').1 ∧
      answersTo owner k (exec step s es).2 = answersTo owner k (exec step s es').2 := by
  obtain ⟨hview, hanswers⟩ := exec_purge h k es (rfl : view k s = view k s)
  obtain ⟨hview', hanswers'⟩ := exec_purge h k es' (rfl : view k s = view k s)
  rw [hview, hview', hanswers, hanswers', hsame]
  exact ⟨rfl, rfl⟩

end Noninterference
