import Mathlib.Data.Finset.Insert

/-!
# Wait-for relations and circular waits

`waits t = none` says that the task `t` can go on, or waits for something outside the tasks;
`waits t = some R` says that `t` is blocked and that ONLY the tasks in `R` can release it. A
circular wait is a non-empty set of tasks that are all blocked and wait for each other alone.

The counterpart is `Live`: a task that is not blocked, or that one of its releasers — itself
live — will release. The tasks that are not live form the largest circular wait, so that
`not_circularWait_iff` turns the absence of circular waits into one goal per task.
-/

namespace WaitFor

variable {τ : Type*}

/-- Every task of `S` is blocked and waits for tasks of `S` only. -/
def Closed (waits : τ → Option (Finset τ)) (S : Set τ) : Prop :=
  ∀ t ∈ S, ∃ R, waits t = some R ∧ ↑R ⊆ S

def CircularWait (waits : τ → Option (Finset τ)) : Prop :=
  ∃ S : Set τ, S.Nonempty ∧ Closed waits S

/-- The task can go on, now or after tasks that can. -/
inductive Live (waits : τ → Option (Finset τ)) : τ → Prop
  | free {t : τ} (h : waits t = none) : Live waits t
  | released {t r : τ} {R : Finset τ} (h : waits t = some R) (hr : r ∈ R) (hl : Live waits r) :
      Live waits t

variable {waits : τ → Option (Finset τ)}

/-- A task that waits for one task alone. -/
theorem Live.of_singleton {t r : τ} (h : waits t = some {r}) (hl : Live waits r) : Live waits t :=
  .released h (Finset.mem_singleton_self r) hl

/-- No task of a circular wait is live. -/
theorem Closed.not_live {S : Set τ} (hS : Closed waits S) {t : τ} (h : Live waits t) : t ∉ S := by
  induction h with
  | free h =>
      intro ht
      obtain ⟨R, hR, -⟩ := hS _ ht
      exact nomatch h.symm.trans hR
  | released h hr _ ih =>
      intro ht
      obtain ⟨R, hR, hsub⟩ := hS _ ht
      obtain rfl := Option.some.inj (h.symm.trans hR)
      exact ih (hsub hr)

/-- The tasks that are not live wait for each other alone. -/
theorem closed_not_live : Closed waits { t | ¬ Live waits t } := by
  intro t ht
  cases h : waits t with
  | none => exact absurd (.free h) ht
  | some R => exact ⟨R, rfl, fun r hr hl => ht (.released h hr hl)⟩

/-- There is no circular wait EXACTLY when every task is live. -/
theorem not_circularWait_iff : ¬ CircularWait waits ↔ ∀ t, Live waits t := by
  constructor
  · intro h t
    by_contra ht
    exact h ⟨_, ⟨t, ht⟩, closed_not_live⟩
  · rintro h ⟨S, ⟨t, ht⟩, hS⟩
    exact hS.not_live (h t) ht

end WaitFor
