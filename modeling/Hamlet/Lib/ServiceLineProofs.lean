import Mathlib.Data.List.Basic
import Mathlib.Tactic.Common

/-!
# How long until my turn

A server takes requests from a line, first come first served. A customer has some requests left to
send, one at a time: it awaits the answer of one before it sends the next. `turns` counts the
requests that the server has to serve, those of others included, before the customer has its last
answer — provided that nobody else joins the line, which is the best it can hope for.

Serving takes one off the count, whoever is served (`turns_serve_self`, `turns_serve_other`), the
customer's own next request is in the count before it is sent (`turns_send`), and those who join
behind do not bring it down (`turns_le_join`).
-/

namespace ServiceLine

variable {α : Type*} [DecidableEq α]

/-- The turns of the server before the customer `o` is through: with `unsent` requests still to send,
    and one in line if it is `awaiting` an answer. -/
def turns (line : List α) (o : α) : (unsent : ℕ) → (awaiting : Bool) → ℕ
  | 0, false => 0
  | 0, true  => line.idxOf o + 1
  -- the last request will be at the very end of the line
  | k + 1, _ => line.length + (k + 1)

variable {line : List α} {o x : α} {unsent : ℕ} {awaiting : Bool}

theorem turns_serve_other (h : x ≠ o) :
    turns line o unsent awaiting = turns (x :: line) o unsent awaiting - 1 := by
  cases unsent with
  | zero =>
      cases awaiting with
      | false => rfl
      | true =>
          show line.idxOf o + 1 = (x :: line).idxOf o + 1 - 1
          rw [List.idxOf_cons_ne line h]
          rfl
  | succ k =>
      show line.length + (k + 1) = line.length + 1 + (k + 1) - 1
      omega

theorem turns_serve_self : turns line o unsent false = turns (o :: line) o unsent true - 1 := by
  cases unsent with
  | zero =>
      show 0 = (o :: line).idxOf o + 1 - 1
      rw [List.idxOf_cons_self]
  | succ k =>
      show line.length + (k + 1) = line.length + 1 + (k + 1) - 1
      omega

theorem turns_send (h : o ∉ line) :
    turns (line ++ [o]) o unsent true = turns line o (unsent + 1) false := by
  cases unsent with
  | zero =>
      show (line ++ [o]).idxOf o + 1 = line.length + (0 + 1)
      rw [List.idxOf_append_of_notMem h, List.idxOf_cons_self]
  | succ k =>
      show (line ++ [o]).length + (k + 1) = line.length + (k + 1 + 1)
      rw [List.length_append, List.length_singleton]
      omega

theorem turns_le_join (h : awaiting = true → o ∈ line) :
    turns line o unsent awaiting ≤ turns (line ++ [x]) o unsent awaiting := by
  cases unsent with
  | zero =>
      cases awaiting with
      | false => exact Nat.le_refl _
      | true =>
          show line.idxOf o + 1 ≤ (line ++ [x]).idxOf o + 1
          exact Nat.le_of_eq (congrArg (· + 1) (List.idxOf_append_of_mem (h rfl)).symm)
  | succ k =>
      show line.length + (k + 1) ≤ (line ++ [x]).length + (k + 1)
      rw [List.length_append]
      omega

/-- Whoever is not through waits for a turn. -/
theorem turns_pos_iff : 0 < turns line o unsent awaiting ↔ unsent ≠ 0 ∨ awaiting = true := by
  cases unsent with
  | zero => cases awaiting <;> simp [turns]
  | succ k =>
      have hpos : 0 < line.length + (k + 1) := Nat.succ_pos _
      simp [turns, hpos]

end ServiceLine
