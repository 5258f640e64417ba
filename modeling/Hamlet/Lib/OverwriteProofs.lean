import Mathlib.Data.List.Pairwise
import Mathlib.Logic.Function.Basic

/-!
# What a sequence of writes leaves

A store maps keys to values; a write replaces the value of a key. After several writes a key holds
what was written to it LAST, so that every write of the sequence is still there exactly when no
later one put a different value under the same key (`inPlace_iff`).
-/

namespace Overwrite

variable {κ τ : Type*} [DecidableEq κ]

/-- The store after writes, oldest first. -/
def writeAll (store : κ → Option τ) (ws : List (κ × τ)) : κ → Option τ :=
  ws.foldl (fun store w => Function.update store w.1 (some w.2)) store

theorem writeAll_append (store : κ → Option τ) (ws vs : List (κ × τ)) :
    writeAll store (ws ++ vs) = writeAll (writeAll store ws) vs :=
  List.foldl_append

/-- A key that is written with one value only holds that value. -/
theorem writeAll_of_agree {k : κ} {v : τ} {ws : List (κ × τ)} :
    ∀ store : κ → Option τ, (∀ w ∈ ws, w.1 = k → w.2 = v) →
      store k = some v ∨ (∃ w ∈ ws, w.1 = k) → writeAll store ws k = some v := by
  induction ws with
  | nil =>
      rintro store - (h | ⟨w, hw, -⟩)
      · exact h
      · exact absurd hw List.not_mem_nil
  | cons w ws ih =>
      intro store hagree h
      refine ih _ (fun x hx => hagree x (List.mem_cons_of_mem w hx)) ?_
      by_cases hk : w.1 = k
      · left
        show Function.update store w.1 (some w.2) k = some v
        rw [hk, Function.update_self, hagree w List.mem_cons_self hk]
      · show Function.update store w.1 (some w.2) k = some v ∨ _
        rw [Function.update_of_ne (Ne.symm hk)]
        refine h.imp_right ?_
        rintro ⟨x, hx, hxk⟩
        rcases List.mem_cons.mp hx with rfl | hx
        · exact absurd hxk hk
        · exact ⟨x, hx, hxk⟩

/-- Every write is still there. -/
def InPlace (store : κ → Option τ) (ws : List (κ × τ)) : Prop :=
  ∀ w ∈ ws, writeAll store ws w.1 = some w.2

/-- **Nothing was overwritten** exactly when writes to the same key agree. -/
theorem inPlace_iff (store : κ → Option τ) (ws : List (κ × τ)) :
    InPlace store ws ↔ ws.Pairwise fun v w => v.1 = w.1 → v.2 = w.2 := by
  constructor
  · intro h
    -- two writes to one key are both read back from it
    refine List.Pairwise.imp_of_mem ?_ (List.pairwise_of_forall (R := fun _ _ => True)
      fun _ _ => trivial)
    intro v w hv hw _ heq
    have hvw := h v hv
    rw [heq, h w hw] at hvw
    exact (Option.some.inj hvw).symm
  · intro h w hw
    refine writeAll_of_agree store ?_ (.inr ⟨w, hw, rfl⟩)
    intro v hv heq
    have hsymm : Std.Symm fun v w : κ × τ => v.1 = w.1 → v.2 = w.2 :=
      ⟨fun _ _ hxy hyx => (hxy hyx.symm).symm⟩
    exact h.forall_of_forall (fun _ _ _ => rfl) hv hw heq

end Overwrite
