import Mathlib.Data.Nat.Basic
import Mathlib.Tactic.Common
import Mathlib.Tactic.Ring

/-!
# Capped exponential backoff

A retry loop keeps one number, the next delay: it starts at `initial`, is doubled after every wait
and never passes `cap`. `nthDelay` is the sequence that loop computes, and the two facts a client
of it needs are the closed form and the bounds; `nthDelay_eq` has no recursion left in it.
-/

namespace Backoff

/-- The delay after one more wait. -/
def double (cap d : ℕ) : ℕ := min (d * 2) cap

/-- The delay of the `n`-th wait, counted from 0. -/
def nthDelay (initial cap : ℕ) : ℕ → ℕ
  | 0     => initial
  | n + 1 => double cap (nthDelay initial cap n)

variable {initial cap : ℕ}

@[simp] theorem nthDelay_zero : nthDelay initial cap 0 = initial := rfl

@[simp] theorem nthDelay_succ (n : ℕ) :
    nthDelay initial cap (n + 1) = double cap (nthDelay initial cap n) := rfl

/-- Once capped, a delay stays capped. -/
theorem double_min (m : ℕ) : double cap (min m cap) = min (m * 2) cap := by
  rw [double]
  omega

/-- **The closed form.** -/
theorem nthDelay_eq (h : initial ≤ cap) (n : ℕ) :
    nthDelay initial cap n = min (initial * 2 ^ n) cap := by
  induction n with
  | zero => rw [nthDelay_zero, pow_zero, mul_one, min_eq_left h]
  | succ n ih => rw [nthDelay_succ, ih, double_min, pow_succ, mul_assoc]

/-- Doubling stays between the bounds. -/
theorem double_bounds {d : ℕ} (hd : initial ≤ d ∧ d ≤ cap) :
    initial ≤ double cap d ∧ double cap d ≤ cap := by
  rw [double]
  omega

end Backoff
