import Mathlib.Algebra.Order.Group.Multiset
import Mathlib.Tactic.Common
import Hamlet.Lib.EventRunProofs

/-!
# Nothing is lost

A component takes items in and gives items out; in between it holds them. `inn` and `out` say which
items an event moves and `held` which ones a state has. The books are `Balanced` when everything
that came in went out or is held, in whatever order.

Each step may lose items. The rule of this file, `balanced_iff_eachStep`, needs only what ONE step
loses: the books balance in every state of a run exactly when no step of it loses anything, because
what is lost never comes back.
-/

namespace Conservation

open EventRun

variable {σ ε α : Type*} {step : σ → ε → Option σ}

/-- Everything that came in went out or is held. -/
def Balanced (inn out : ε → List α) (held : σ → List α) (es : List ε) (s : σ) : Prop :=
  (es.flatMap inn).Perm (es.flatMap out ++ held s)

/-- The step from `t` to `u` loses exactly the items `lost`. -/
def Loses (inn out : ε → List α) (held : σ → List α) (t u : σ) (e : ε) (lost : List α) : Prop :=
  (held t ++ inn e).Perm (out e ++ held u ++ lost)

variable {inn out : ε → List α} {held : σ → List α} {s : σ} {es : List ε} {C : σ → ε → Prop}

/-- One more step adds its losses to the ones so far. -/
theorem loses_concat {t u : σ} {e : ε} {lost lost' : List α}
    (h : (es.flatMap inn).Perm (es.flatMap out ++ held t ++ lost))
    (hstep : Loses inn out held t u e lost') :
    ((es ++ [e]).flatMap inn).Perm ((es ++ [e]).flatMap out ++ held u ++ (lost ++ lost')) := by
  rw [← Multiset.coe_eq_coe] at h ⊢
  have hstep := Multiset.coe_eq_coe.mpr hstep
  simp only [List.flatMap_append, List.flatMap_singleton, ← Multiset.coe_add] at h hstep ⊢
  calc (es.flatMap inn : Multiset α) + inn e
      = es.flatMap out + (held t + inn e) + lost := by rw [h]; ac_rfl
    _ = es.flatMap out + out e + held u + (lost + lost') := by rw [hstep]; ac_rfl

/-- What a run has lost so far: nothing exactly when each step met the condition. -/
theorem exists_lost {t : σ} (hstart : held s = []) (h : run step s es = some t)
    (hstep : ∀ p e q t u, es = p ++ e :: q → run step s p = some t → step t e = some u →
      ∃ lost, Loses inn out held t u e lost ∧ (lost = [] ↔ C t e)) :
    ∃ lost, (es.flatMap inn).Perm (es.flatMap out ++ held t ++ lost) ∧
      (lost = [] ↔ EachStep step s es C) := by
  induction es using List.reverseRecOn generalizing t with
  | nil =>
      obtain rfl : s = t := Option.some.inj h
      exact ⟨[], by simp [hstart], by simp⟩
  | append_singleton es e ih =>
      obtain ⟨v, hv, he⟩ := run_concat_eq_some.mp h
      obtain ⟨lost, hperm, hlost⟩ := ih hv fun p d q t u hes =>
        hstep p d (q ++ [e]) t u (by rw [hes, List.append_assoc]; rfl)
      obtain ⟨lost', hloses, hlost'⟩ := hstep es e [] v t rfl hv he
      refine ⟨lost ++ lost', loses_concat hperm hloses, ?_⟩
      rw [List.append_eq_nil_iff, hlost, hlost', eachStep_concat_iff hv]

/-- Where the books balance, nothing was lost. -/
theorem Balanced.lost_eq_nil {t : σ} {lost : List α} (h : Balanced inn out held es t)
    (hperm : (es.flatMap inn).Perm (es.flatMap out ++ held t ++ lost)) : lost = [] := by
  have hlen := h.length_eq.symm.trans hperm.length_eq
  simp only [List.length_append] at hlen
  exact List.eq_nil_of_length_eq_zero (by omega)

/-- **The books balance exactly when no step loses anything.** -/
theorem balanced_iff_eachStep {t_end : σ} (hstart : held s = [])
    (hrun : run step s es = some t_end)
    (hstep : ∀ p e q t u, es = p ++ e :: q → run step s p = some t → step t e = some u →
      ∃ lost, Loses inn out held t u e lost ∧ (lost = [] ↔ C t e)) :
    (∀ p q, es = p ++ q → ∀ t, run step s p = some t → Balanced inn out held p t) ↔
      EachStep step s es C := by
  constructor
  · intro hall
    obtain ⟨lost, hperm, hlost⟩ := exists_lost hstart hrun hstep
    exact hlost.mp ((hall es [] (by simp) t_end hrun).lost_eq_nil hperm)
  · intro hC p q hes t ht
    have hp : EachStep step s p C := fun p' e r hp' =>
      hC p' e (r ++ q) (by rw [hes, hp', List.append_assoc]; rfl)
    obtain ⟨lost, hperm, hlost⟩ := exists_lost (C := C) hstart ht fun p' e r t u hp' =>
      hstep p' e (r ++ q) t u (by rw [hes, hp', List.append_assoc]; rfl)
    rw [hlost.mpr hp, List.append_nil] at hperm
    exact hperm

end Conservation
