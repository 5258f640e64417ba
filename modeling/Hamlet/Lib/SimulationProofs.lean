import Hamlet.Lib.EventRunProofs

/-!
# A run seen from one level up

Two models of one component: a fine one, in which every await is a step, and a coarse one, in which
a whole handler is. `emit s e` lists the coarse events that the fine event `e` completes in the
state `s` — mostly none — and `image` collects them along a fine run.

`Refines` is what one step has to show: a fine step is matched by a coarse run of what it emits.
`Refines.run` is what follows for a whole run: its image is a run of the coarse model, and ends in a
related state, so that whatever is known of the coarse runs holds of the fine ones.
-/

namespace Simulation

open EventRun

variable {σ τ ε δ : Type*} {step : σ → ε → Option σ} {spec : τ → δ → Option τ}
  {emit : σ → ε → List δ} {R : σ → τ → Prop}

/-- The coarse events that a fine run completes, oldest first. -/
def image (step : σ → ε → Option σ) (emit : σ → ε → List δ) (s : σ) (es : List ε) : List δ :=
  (transitions step s es).flatMap fun x => emit x.source x.event

@[simp] theorem image_nil (s : σ) : image step emit s [] = [] := rfl

/-- One more step adds what it emits. -/
theorem image_concat {s t u : σ} {es : List ε} {e : ε} (hrun : run step s es = some t)
    (hstep : step t e = some u) :
    image step emit s (es ++ [e]) = image step emit s es ++ emit t e := by
  rw [image, transitions_concat hrun hstep, List.flatMap_append, List.flatMap_singleton, image]

/-- What is completed was emitted by some event of the run. -/
theorem exists_emit_of_mem_image {s : σ} {es : List ε} {d : δ} (h : d ∈ image step emit s es) :
    ∃ e ∈ es, ∃ t, d ∈ emit t e := by
  obtain ⟨x, hx, hd⟩ := List.mem_flatMap.mp h
  exact ⟨x.event, event_mem_of_mem_transitions hx, x.source, hd⟩

/-- Every fine step is matched by a coarse run of the events it emits. -/
def Refines (step : σ → ε → Option σ) (spec : τ → δ → Option τ) (emit : σ → ε → List δ)
    (R : σ → τ → Prop) : Prop :=
  ∀ s e s' a, R s a → step s e = some s' → ∃ a', run spec a (emit s e) = some a' ∧ R s' a'

/-- **The image of a run is a run.** -/
theorem Refines.run (h : Refines step spec emit R) {s : σ} {a : τ} (hR : R s a) (es : List ε)
    (t : σ) (hrun : run step s es = some t) :
    ∃ b, EventRun.run spec a (image step emit s es) = some b ∧ R t b := by
  refine run_induction
    (P := fun es t => ∃ b, EventRun.run spec a (image step emit s es) = some b ∧ R t b) ?_ ?_ es t
    hrun
  · exact ⟨a, rfl, hR⟩
  · rintro es e t u hpre ⟨b, hb, hRt⟩ hstep
    obtain ⟨b', hb', hRu⟩ := h t e u b hRt hstep
    refine ⟨b', ?_, hRu⟩
    rw [image_concat hpre hstep]
    exact run_append_eq_some.mpr ⟨b, hb, hb'⟩

end Simulation
