import Mathlib.Data.List.Basic
import Mathlib.Tactic.Common

/-!
# What goes through a queue

A queue has a backlog when one starts to look; after that producers append and one consumer takes
the head. The books are kept in four lists, oldest first: the backlog, what was sent since, what was
received since, and what is still waiting. `Accounted` says that nothing was lost, duplicated or
reordered; each operation keeps it, and what a consumer has at the end is read off it.
-/

namespace Fifo

variable {α : Type*} {backlog sent received waiting : List α}

/-- Backlog and sent values are, in order, the received and the waiting ones. -/
def Accounted (backlog sent received waiting : List α) : Prop :=
  backlog ++ sent = received ++ waiting

theorem Accounted.start (backlog : List α) : Accounted backlog [] [] backlog :=
  List.append_nil backlog

/-- Producers append. -/
theorem Accounted.send (h : Accounted backlog sent received waiting) (xs : List α) :
    Accounted backlog (sent ++ xs) received (waiting ++ xs) := by
  show backlog ++ (sent ++ xs) = received ++ (waiting ++ xs)
  rw [← List.append_assoc, ← List.append_assoc, h]

/-- The consumer takes the head. -/
theorem Accounted.receive {x : α} (h : Accounted backlog sent received (x :: waiting)) :
    Accounted backlog sent (received ++ [x]) waiting := by
  show backlog ++ sent = received ++ [x] ++ waiting
  rw [List.append_assoc]
  exact h

/-- The consumer takes whatever is in front. -/
theorem Accounted.pass {taken waiting' : List α} (h : Accounted backlog sent received waiting)
    (htaken : waiting = taken ++ waiting') :
    Accounted backlog sent (received ++ taken) waiting' := by
  show backlog ++ sent = received ++ taken ++ waiting'
  rw [List.append_assoc, ← htaken]
  exact h

/-- When the backlog is through, the next one is one that was sent. -/
theorem Accounted.head_sent {x : α} (h : Accounted backlog sent received (x :: waiting))
    (hlen : backlog.length ≤ received.length) : x ∈ sent := by
  have hdrop := congrArg (List.drop backlog.length) h
  rw [List.drop_left, List.drop_append_of_le_length hlen] at hdrop
  rw [hdrop]
  exact List.mem_append_right _ List.mem_cons_self

/-- With nothing waiting, everything sent was received, after the backlog. -/
theorem Accounted.drained (h : Accounted backlog sent received []) :
    received.drop backlog.length = sent := by
  have hdrop := congrArg (List.drop backlog.length) h
  rw [List.drop_left, List.append_nil] at hdrop
  exact hdrop.symm

end Fifo
