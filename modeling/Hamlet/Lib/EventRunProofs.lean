import Mathlib.Data.List.Induction
import Mathlib.Tactic.Common

/-!
# Runs of an event-driven transition system

A component that reacts to events is a partial step function `step : σ → ε → Option σ`:
the event carries every outcome the environment chose (a clock reading, the answer of a
call, an iteration order), and `none` says that the event cannot happen in that state.
A run feeds a list of events, oldest first.

Two notions speak about all of a run, not only about its last state:

* `Throughout step s es P` — `P` holds in every state the run `es` from `s` goes through;
* `EachStep step s es C` — every event of the run meets `C` in the state it happens in.

`transitions step s es` lists the steps of a run with the states around them, for statements about
what happened in the course of it.

The rules of this file reduce both to facts about ONE step:

* `run_induction` — an invariant may mention the history; it is extended at its end;
* `throughout_of_eachStep` — the invariant rule, for runs whose steps meet a condition;
* `throughout_iff_eachStep` — a property holds throughout a run EXACTLY when every step
  meets a condition, provided steps that meet it keep the property and a step that
  misses it breaks the property at once.
-/

namespace EventRun

variable {σ ε : Type*}

/-- Feed the events to the step function, oldest first. -/
def run (step : σ → ε → Option σ) : σ → List ε → Option σ
  | s, []      => some s
  | s, e :: es => (step s e).bind fun t => run step t es

variable {step : σ → ε → Option σ}

@[simp] theorem run_nil (s : σ) : run step s [] = some s := rfl

@[simp] theorem run_cons (s : σ) (e : ε) (es : List ε) :
    run step s (e :: es) = (step s e).bind fun t => run step t es := rfl

@[simp] theorem run_singleton (s : σ) (e : ε) : run step s [e] = step s e :=
  Option.bind_fun_some (step s e)

/-- A run over an append goes through the state in the middle. -/
theorem run_append (s : σ) (p q : List ε) :
    run step s (p ++ q) = (run step s p).bind fun t => run step t q := by
  induction p generalizing s with
  | nil => rfl
  | cons e p ih =>
      rw [List.cons_append, run_cons, run_cons, Option.bind_assoc]
      congr 1
      funext t
      exact ih t

/-- The state in the middle of a run that goes through. -/
theorem run_append_eq_some {s u : σ} {p q : List ε} :
    run step s (p ++ q) = some u ↔
      ∃ t, run step s p = some t ∧ run step t q = some u := by
  rw [run_append, Option.bind_eq_some_iff]

/-- The last step of a run. -/
theorem run_concat_eq_some {s u : σ} {es : List ε} {e : ε} :
    run step s (es ++ [e]) = some u ↔
      ∃ t, run step s es = some t ∧ step t e = some u := by
  rw [run_append_eq_some]
  simp only [run_cons, run_nil, Option.bind_fun_some]

/-- A step in the middle of a run, with the states around it. -/
theorem run_split {s u : σ} {p q : List ε} {e : ε} (h : run step s (p ++ e :: q) = some u) :
    ∃ t v, run step s p = some t ∧ step t e = some v ∧ run step v q = some u := by
  obtain ⟨t, ht, hrest⟩ := run_append_eq_some.mp h
  obtain ⟨v, hv, hq⟩ := Option.bind_eq_some_iff.mp hrest
  exact ⟨t, v, ht, hv, hq⟩

/-- Induction along a run, the history growing at its end. -/
theorem run_induction {s : σ} {P : List ε → σ → Prop} (init : P [] s)
    (next : ∀ es e t u, run step s es = some t → P es t → step t e = some u →
      P (es ++ [e]) u) :
    ∀ (es : List ε) (t : σ), run step s es = some t → P es t := by
  intro es
  induction es using List.reverseRecOn with
  | nil =>
      intro t h
      obtain rfl : s = t := Option.some.inj h
      exact init
  | append_singleton es e ih =>
      intro u h
      obtain ⟨t, ht, hstep⟩ := run_concat_eq_some.mp h
      exact next es e t u ht (ih t ht) hstep

-- ── Statements about all of a run ────────────────────────────────────────────

/-- `P` holds in every state the run goes through, the first and the last included. -/
def Throughout (step : σ → ε → Option σ) (s : σ) (es : List ε) (P : σ → Prop) : Prop :=
  ∀ p q, es = p ++ q → ∀ t, run step s p = some t → P t

/-- Every event of the run meets `C` in the state it happens in. -/
def EachStep (step : σ → ε → Option σ) (s : σ) (es : List ε) (C : σ → ε → Prop) : Prop :=
  ∀ p e q, es = p ++ e :: q → ∀ t, run step s p = some t → C t e

@[simp] theorem eachStep_nil (s : σ) (C : σ → ε → Prop) : EachStep step s [] C :=
  fun p e q h => absurd h.symm (List.append_ne_nil_of_right_ne_nil p (List.cons_ne_nil e q))

/-- The first step and the rest of a run. -/
theorem eachStep_cons {s : σ} {e : ε} {es : List ε} {C : σ → ε → Prop} (hC : C s e)
    (hrest : ∀ t, step s e = some t → EachStep step t es C) : EachStep step s (e :: es) C := by
  intro p d q hes t ht
  cases p with
  | nil =>
      obtain ⟨rfl, -⟩ := List.cons.inj hes
      obtain rfl : s = t := Option.some.inj ht
      exact hC
  | cons d' p =>
      obtain ⟨rfl, hes'⟩ := List.cons.inj hes
      obtain ⟨u, hu, ht⟩ := Option.bind_eq_some_iff.mp ht
      exact hrest u hu p d q hes' t ht

/-- A run that meets the condition, without its last event. -/
theorem EachStep.init {s : σ} {e : ε} {es : List ε} {C : σ → ε → Prop}
    (h : EachStep step s (es ++ [e]) C) : EachStep step s es C := by
  intro p d q hes t ht
  refine h p d (q ++ [e]) ?_ t ht
  rw [hes, List.append_assoc]
  rfl

/-- The last event of a run that meets the condition. -/
theorem EachStep.last {s t : σ} {e : ε} {es : List ε} {C : σ → ε → Prop}
    (h : EachStep step s (es ++ [e]) C) (ht : run step s es = some t) : C t e :=
  h es e [] rfl t ht

/-- One more event that meets the condition. -/
theorem eachStep_concat_iff {s t : σ} {e : ε} {es : List ε} {C : σ → ε → Prop}
    (ht : run step s es = some t) :
    EachStep step s (es ++ [e]) C ↔ EachStep step s es C ∧ C t e := by
  constructor
  · intro h
    exact ⟨h.init, h.last ht⟩
  · rintro ⟨h, he⟩ p d q hsplit u hu
    -- the event is the last one, or an earlier one
    rcases List.eq_nil_or_concat q with rfl | ⟨q', x, rfl⟩
    · obtain ⟨rfl, hlast⟩ := List.append_inj' hsplit rfl
      obtain rfl := List.singleton_inj.mp hlast
      obtain rfl : t = u := Option.some.inj (ht.symm.trans hu)
      exact he
    · rw [List.concat_eq_append, ← List.cons_append, ← List.append_assoc] at hsplit
      obtain ⟨hinit, -⟩ := List.append_inj' hsplit rfl
      exact h p d q' hinit u hu

-- ── The steps of a run ───────────────────────────────────────────────────────

/-- A step that was taken: the event, between the states before and after it. -/
structure Transition (σ ε : Type*) where
  source : σ
  event  : ε
  target : σ

/-- The steps of a run, oldest first. -/
def transitions (step : σ → ε → Option σ) : σ → List ε → List (Transition σ ε)
  | _, []      => []
  | s, e :: es =>
      match step s e with
      | none => []
      | some t => ⟨s, e, t⟩ :: transitions step t es

/-- The first step and the others. -/
theorem transitions_cons {s t : σ} {e : ε} {es : List ε} (hstep : step s e = some t) :
    transitions step s (e :: es) = ⟨s, e, t⟩ :: transitions step t es := by
  rw [transitions, hstep]

/-- One more step. -/
theorem transitions_concat {s t u : σ} {es : List ε} {e : ε} (hrun : run step s es = some t)
    (hstep : step t e = some u) :
    transitions step s (es ++ [e]) = transitions step s es ++ [⟨t, e, u⟩] := by
  induction es generalizing s with
  | nil =>
      obtain rfl : s = t := Option.some.inj hrun
      exact transitions_cons hstep
  | cons d es ih =>
      obtain ⟨v, hv, hrest⟩ := Option.bind_eq_some_iff.mp hrun
      rw [List.cons_append, transitions_cons hv, transitions_cons hv, ih hrest]
      rfl

/-- The event of a step is one of the run. -/
theorem event_mem_of_mem_transitions {s : σ} {es : List ε} {x : Transition σ ε}
    (h : x ∈ transitions step s es) : x.event ∈ es := by
  induction es generalizing s with
  | nil => exact absurd h List.not_mem_nil
  | cons e es ih =>
      rw [transitions] at h
      cases hstep : step s e with
      | none =>
          rw [hstep] at h
          exact absurd h List.not_mem_nil
      | some t =>
          rw [hstep] at h
          rcases List.mem_cons.mp h with rfl | h'
          · exact List.mem_cons_self
          · exact List.mem_cons_of_mem e (ih h')

-- ── Rules ────────────────────────────────────────────────────────────────────

/-- **The invariant rule.** `I` is what every prefix of the run guarantees anyway; what holds at
    the start and every step that meets `C` keeps holds throughout. -/
theorem throughout_of_eachStep {s : σ} {es : List ε} {I : List ε → σ → Prop} {J : σ → Prop}
    {C : σ → ε → Prop} (hC : EachStep step s es C)
    (inv : ∀ p q t, es = p ++ q → run step s p = some t → I p t) (init : J s)
    (keep : ∀ p e t u, I p t → I (p ++ [e]) u → J t → C t e → step t e = some u → J u) :
    Throughout step s es J := by
  intro p
  induction p using List.reverseRecOn with
  | nil =>
      intro q _ t ht
      obtain rfl : s = t := Option.some.inj ht
      exact init
  | append_singleton p e ih =>
      intro q hes u hu
      obtain ⟨t, ht, hstep⟩ := run_concat_eq_some.mp hu
      have hes' : es = p ++ e :: q := by rw [hes, List.append_assoc]; rfl
      exact keep p e t u (inv p (e :: q) t hes' ht) (inv (p ++ [e]) q u hes hu)
        (ih (e :: q) hes' t ht) (hC p e q hes' t ht) hstep

/-- **The exact-condition rule.** `J` is the inductive strengthening of `P` that the condition
    `C` preserves. If a step that misses `C` lands outside `P`, then `P` throughout and `C` at
    each step are the same thing. -/
theorem throughout_iff_eachStep {s t_end : σ} {es : List ε}
    {I : List ε → σ → Prop} {J P : σ → Prop} {C : σ → ε → Prop}
    (hrun : run step s es = some t_end)
    (inv : ∀ p q t, es = p ++ q → run step s p = some t → I p t)
    (init : J s)
    (keep : ∀ p e t u, I p t → I (p ++ [e]) u → J t → C t e →
      step t e = some u → J u)
    (enough : ∀ p t, I p t → J t → P t)
    (breaks : ∀ p e t u, I p t → I (p ++ [e]) u → step t e = some u →
      ¬ C t e → ¬ P u) :
    Throughout step s es P ↔ EachStep step s es C := by
  constructor
  · intro hP p e q hes t ht
    by_contra hC
    have hes' : es = (p ++ [e]) ++ q := by rw [hes, List.append_assoc]; rfl
    -- the run goes on past `e`, so the step is defined
    rw [hes] at hrun
    obtain ⟨t', u, ht', hstep, -⟩ := run_split hrun
    obtain rfl : t = t' := Option.some.inj (ht.symm.trans ht')
    have hu : run step s (p ++ [e]) = some u := run_concat_eq_some.mpr ⟨t, ht, hstep⟩
    exact breaks p e t u (inv p (e :: q) t hes ht) (inv (p ++ [e]) q u hes' hu) hstep hC
      (hP (p ++ [e]) q hes' u hu)
  · intro hC p q hes t ht
    exact enough p t (inv p q t hes ht) (throughout_of_eachStep hC inv init keep p q hes t ht)

end EventRun
