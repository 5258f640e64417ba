import Hamlet.Lib.FairRunProofs
import Hamlet.Lib.MailboxProofs
import Hamlet.Lib.SimulationProofs
import Mathlib.Order.WithBot
import Mathlib.Data.List.Infix

/-!
# Callers that stand in line

`Mailbox` lets whichever caller is scheduled first have a place of the queue that has become free.
A fair queue does not: callers that find no place free stand in line, and a place that becomes free
is GIVEN to the first of them, who holds it from then on — until it puts its request in, or is
cancelled, and the place goes to the next.

So a caller depends on others: a place that was given to somebody who is never scheduled again is
lost. `open_call_ends` shows that there is nothing else to fear. In every fair execution every call
returns, unless its own caller gives it up.

`refines` says that a system with a line is a mailbox: what is known of the runs of a mailbox is
known of those with a line.
-/

namespace SenderLine

open EventRun FairRun
open Mailbox (Stage Params)

variable {κ α β σ : Type*}

-- ── The system ───────────────────────────────────────────────────────────────

structure State (κ α β σ : Type*) where
  calls   : Mailbox.State κ α β σ
  /-- The callers that wait for a place, in the order in which they came. -/
  line    : List κ
  /-- The callers that have been given a place and have not been scheduled since. -/
  granted : List κ

def State.init (server : σ) : State κ α β σ where
  calls   := .init server
  line    := []
  granted := []

inductive Event (κ α : Type*) where
  | call (e : Mailbox.Event κ α)
  /-- A caller finds no place free and stands in line. -/
  | join (c : κ)

/-- The places of the queue that are not free. -/
def State.taken (s : State κ α β σ) : ℕ := s.calls.queue.length + s.granted.length

/-- A free place goes to the first in line. -/
def State.settle (P : Params) (s : State κ α β σ) : State κ α β σ :=
  match s.line with
  | [] => s
  | c :: rest =>
      if s.taken < P.capacity then { s with line := rest, granted := s.granted ++ [c] } else s

variable [DecidableEq κ]

/-- The caller that does not want a place any more. -/
def leaver : Mailbox.Event κ α → Option κ
  | .enqueue c => some c
  | .refuse c  => some c
  | .abandon c => some c
  | _          => none

/-- The others. -/
def leave (cs : List κ) : Option κ → List κ
  | none   => cs
  | some c => cs.erase c

/-- Nobody puts a request in without a place. -/
def State.admits (P : Params) (s : State κ α β σ) : Mailbox.Event κ α → Bool
  | .enqueue c => decide (c ∈ s.granted ∨ c ∉ s.line ∧ s.taken < P.capacity)
  | _          => true

/-- The state before the free place is given away. -/
def State.after (s : State κ α β σ) (e : Mailbox.Event κ α) (calls : Mailbox.State κ α β σ) :
    State κ α β σ where
  calls   := calls
  line    := leave s.line (leaver e)
  granted := leave s.granted (leaver e)

def step (P : Params) (handle : σ → α → σ × β) (s : State κ α β σ) :
    Event κ α → Option (State κ α β σ)
  | .call e =>
      if s.admits P e then
        (Mailbox.step P handle s.calls e).map fun calls => (s.after e calls).settle P
      else none
  | .join c =>
      match s.calls.stage c with
      | .sending _ =>
          if s.calls.receiver = true ∧ ¬ s.taken < P.capacity ∧ c ∉ s.line ∧ c ∉ s.granted then
            some { s with line := s.line ++ [c] }
          else none
      | _ => none

/-- Whose step it is, where `none` is the task. Calls are made, given up and hung up at their
    callers' pleasure. -/
def owner : Event κ α → Option (Option κ)
  | .call .take           => some none
  | .call .answer         => some none
  | .join c               => some (some c)
  | .call (.enqueue c)    => some (some c)
  | .call (.refuse c)     => some (some c)
  | .call (.receive c)    => some (some c)
  | .call (.disconnect c) => some (some c)
  | _                     => none

def owns (i : Option κ) (e : Event κ α) : Prop := owner e = some i

variable {P : Params} {handle : σ → α → σ × β} {s t : State κ α β σ} {e : Mailbox.Event κ α}

omit [DecidableEq κ] in
@[simp] theorem settle_calls : (s.settle P).calls = s.calls := by
  rw [State.settle]
  split
  · rfl
  · split <;> rfl

theorem step_call (h : step P handle s (.call e) = some t) :
    ∃ calls, Mailbox.step P handle s.calls e = some calls ∧ t = (s.after e calls).settle P ∧
      s.admits P e = true := by
  rw [step] at h
  split at h
  · rename_i hadm
    obtain ⟨calls, hcalls, rfl⟩ := Option.map_eq_some_iff.mp h
    exact ⟨calls, hcalls, rfl, hadm⟩
  · exact nomatch h

/-- What somebody does who finds no place free. -/
structure Joins (P : Params) (s : State κ α β σ) (c : κ) (t : State κ α β σ) : Prop where
  sending  : ∃ q, s.calls.stage c = .sending q
  receiver : s.calls.receiver = true
  full     : ¬ s.taken < P.capacity
  line     : c ∉ s.line
  granted  : c ∉ s.granted
  eq       : t = { s with line := s.line ++ [c] }

theorem step_join {c : κ} (h : step P handle s (.join c) = some t) : Joins P s c t := by
  rw [step] at h
  split at h
  · rename_i q hst
    split at h
    · rename_i hg
      exact ⟨⟨q, hst⟩, hg.1, hg.2.1, hg.2.2.1, hg.2.2.2, (Option.some.inj h).symm⟩
    · exact nomatch h
  · exact nomatch h

-- ── A line is a mailbox ──────────────────────────────────────────────────────

/-- What an event is without the line. -/
def emit (_ : State κ α β σ) : Event κ α → List (Mailbox.Event κ α)
  | .call e => [e]
  | .join _ => []

/-- **A system with a line is a mailbox.** -/
theorem refines (P : Params) (handle : σ → α → σ × β) :
    Simulation.Refines (step P handle) (Mailbox.step P handle) emit
      fun (s : State κ α β σ) a => s.calls = a := by
  rintro s e t a rfl h
  cases e with
  | call e =>
      obtain ⟨calls, hcalls, rfl, -⟩ := step_call h
      refine ⟨calls, ?_, settle_calls⟩
      rw [emit, run_singleton]
      exact hcalls
  | join c =>
      rw [(step_join h).eq]
      exact ⟨s.calls, rfl, rfl⟩

-- one place: the request in it is taken, and the place is given to the first of the two in line
example : (run (step ⟨1, false⟩ fun total n => (total + n, total)) (State.init 0)
    [.call (.invoke 0 5), .call (.invoke 1 6), .call (.invoke 2 7), .call (.enqueue 0), .join 1,
      .join 2, .call .take]).map (fun s => (s.granted, s.line)) = some ([1], [2]) := by
  decide

-- ── The invariant ────────────────────────────────────────────────────────────

/-- What every reachable state satisfies; a task that cannot be interrupted. -/
structure Inv (P : Params) (handle : σ → α → σ × β) (start : σ) (s : State κ α β σ) : Prop where
  calls   : Mailbox.Inv P handle start s.calls
  nodup   : (s.granted ++ s.line).Nodup
  sending : ∀ c ∈ s.granted ++ s.line, ∃ q, s.calls.stage c = .sending q
  places  : s.taken ≤ P.capacity
  full    : s.line ≠ [] → s.taken = P.capacity

omit [DecidableEq κ] in
theorem inv_init (start : σ) : Inv P handle start (State.init start : State κ α β σ) where
  calls := Mailbox.inv_init start
  nodup := List.nodup_nil
  sending := fun _ h => absurd h List.not_mem_nil
  places := Nat.zero_le _
  full := fun h => absurd rfl h

omit [DecidableEq κ] in
/-- Giving a place away moves nobody in front of anybody. -/
theorem settle_append : (s.settle P).granted ++ (s.settle P).line = s.granted ++ s.line := by
  rw [State.settle]
  split
  · rfl
  · rename_i c rest hline
    split
    · rw [hline]
      exact List.append_assoc s.granted [c] rest
    · rfl

omit [DecidableEq κ] in
theorem settle_places (hplaces : s.taken ≤ P.capacity)
    (hfull : s.line ≠ [] → P.capacity ≤ s.taken + 1) :
    (s.settle P).taken ≤ P.capacity ∧
      ((s.settle P).line ≠ [] → (s.settle P).taken = P.capacity) := by
  rw [State.settle]
  split
  · rename_i hline
    exact ⟨hplaces, fun h => absurd hline h⟩
  · rename_i c rest hline
    have hroom := hfull (by rw [hline]; exact List.cons_ne_nil c rest)
    split
    · rename_i hfree
      have htaken : ({ s with line := rest, granted := s.granted ++ [c] } :
          State κ α β σ).taken = s.taken + 1 := by
        rw [State.taken, State.taken, List.length_append]
        rfl
      rw [htaken]
      exact ⟨hfree, fun _ => Nat.le_antisymm hfree hroom⟩
    · rename_i hfree
      exact ⟨hplaces, fun _ => Nat.le_antisymm hplaces (Nat.not_lt.mp hfree)⟩

/-- Whoever waits for a place, or holds one, is disturbed by nobody else. -/
theorem sending_step {start : σ} (h : Mailbox.Inv P handle start s.calls)
    {calls : Mailbox.State κ α β σ} (hstep : Mailbox.step P handle s.calls e = some calls) {c : κ}
    {q : α} (hst : s.calls.stage c = .sending q) (hstays : leaver e ≠ some c) :
    calls.stage c = .sending q := by
  have hother : ∀ {d : κ} (st : Stage α β), c ≠ d →
      Function.update s.calls.stage d st c = .sending q := by
    intro d st hne
    rw [Function.update_of_ne hne, hst]
  cases Mailbox.step_inv hstep with
  | @invoke d q' hsend hnew =>
      refine hother _ ?_
      rintro rfl
      have hcall := h.call c
      rw [hst] at hcall
      exact hnew hcall.2.1
  | enqueue | refuse | abandon => exact hother _ fun heq => hstays (congrArg some heq.symm)
  | @receive d r hd hr =>
      refine hother _ ?_
      rintro rfl
      exact nomatch hst.symm.trans hd
  | @disconnect d hd hr hheld =>
      refine hother _ ?_
      rintro rfl
      exact nomatch hst.symm.trans hd
  | take | answer | hangUp | finish => exact hst

omit [DecidableEq κ] in
/-- While a call is under way, the task is there. -/
theorem Inv.receiver {start : σ} (h : Inv P handle start s) (hp : P.interruptible = false) {c : κ}
    (hopen : (s.calls.stage c).isOpen = true) : s.calls.receiver = true := by
  by_contra hgone
  have hsend := h.calls.patient hp (Bool.not_eq_true _ ▸ hgone)
  rw [(h.calls.call c).senders hopen] at hsend
  exact nomatch hsend

theorem leave_sublist (cs : List κ) (o : Option κ) : (leave cs o).Sublist cs := by
  cases o with
  | none => exact List.Sublist.refl cs
  | some c => exact List.erase_sublist

theorem mem_leave {cs : List κ} {o : Option κ} {c : κ} (h : c ∈ cs) (hne : o ≠ some c) :
    c ∈ leave cs o := by
  cases o with
  | none => exact h
  | some d => exact (List.mem_erase_of_ne fun heq => hne (congrArg some heq.symm)).mpr h

theorem length_leave (cs : List κ) (o : Option κ) : cs.length ≤ (leave cs o).length + 1 := by
  cases o with
  | none => exact Nat.le_succ _
  | some c =>
      show _ ≤ (cs.erase c).length + 1
      rw [List.length_erase]
      split <;> omega

/-- The places before the free one is given away. -/
theorem taken_after {start : σ} (h : Inv P handle start s) (hp : P.interruptible = false)
    {calls : Mailbox.State κ α β σ} (hstep : Mailbox.step P handle s.calls e = some calls)
    (hadm : s.admits P e = true) :
    (s.after e calls).taken ≤ P.capacity ∧
      ((s.after e calls).line ≠ [] → P.capacity ≤ (s.after e calls).taken + 1) := by
  have hgranted := (leave_sublist s.granted (leaver e)).length_le
  have hlost := length_leave s.granted (leaver e)
  have hplaces := h.places
  have hline : (s.after e calls).line ≠ [] → s.line ≠ [] := by
    intro hne hnil
    refine hne (List.sublist_nil.mp ?_)
    rw [← hnil]
    exact leave_sublist s.line (leaver e)
  -- at most one place is given back
  have hback : ∀ k, calls.queue.length + k = s.calls.queue.length → k ≤ 1 →
      (k = 1 → leaver e = none) → (s.after e calls).taken ≤ P.capacity ∧
        ((s.after e calls).line ≠ [] → P.capacity ≤ (s.after e calls).taken + 1) := by
    intro k hq hk hone
    have hkept : k = 1 → (leave s.granted (leaver e)).length = s.granted.length := by
      intro hk
      rw [hone hk]
      rfl
    refine ⟨?_, fun hne => ?_⟩
    · simp only [State.taken, State.after] at *
      omega
    · have hfull := h.full (hline hne)
      simp only [State.taken, State.after] at *
      omega
  cases Mailbox.step_inv hstep with
  | invoke | refuse | answer | receive | disconnect | abandon | hangUp =>
      exact hback 0 rfl (Nat.zero_le 1) fun h => nomatch h
  | @take x rest hidle hq =>
      refine hback 1 ?_ (Nat.le_refl 1) fun _ => rfl
      rw [hq]
      rfl
  | @enqueue c q hst hrecv hroom =>
      have hlen : ∀ calls' : Mailbox.State κ α β σ,
          calls'.queue = s.calls.queue ++ [(c, q)] → (s.after (.enqueue c) calls').taken =
            s.calls.queue.length + 1 + (s.granted.erase c).length := by
        intro calls' hq
        rw [State.taken, State.after, hq, List.length_append]
        rfl
      rw [hlen _ rfl]
      rcases of_decide_eq_true hadm with hmem | ⟨-, hfree⟩
      · -- the place that was given is used
        have hpos := List.length_pos_of_mem hmem
        rw [List.length_erase_of_mem hmem]
        refine ⟨?_, fun hne => ?_⟩
        · rw [State.taken] at hplaces
          omega
        · have hfull := h.full (hline hne)
          rw [State.taken] at hfull
          omega
      · refine ⟨?_, fun hne => ?_⟩
        · have hle : (s.granted.erase c).length ≤ s.granted.length := List.erase_sublist.length_le
          rw [State.taken] at hfree
          omega
        · exact absurd (h.full (hline hne)) (Nat.ne_of_lt hfree)
  | finish hrecv hidle hend =>
      refine ⟨?_, fun hne => ?_⟩
      · show 0 + s.granted.length ≤ P.capacity
        rw [State.taken] at hplaces
        omega
      · -- nobody is left to stand in line
        obtain ⟨c, rest, hcons⟩ := List.exists_cons_of_ne_nil (hline hne)
        have hline : c ∈ s.line := by
          rw [hcons]
          exact List.mem_cons_self
        obtain ⟨q, hst⟩ := h.sending c (List.mem_append_right _ hline)
        have hsend := (h.calls.call c).senders (by rw [hst]; rfl)
        rcases hend with hint | hgone
        · rw [hp] at hint
          exact nomatch hint
        · rw [hgone.1] at hsend
          exact nomatch hsend

theorem Inv.next {start : σ} (h : Inv P handle start s) (hp : P.interruptible = false)
    {e : Event κ α} (hstep : step P handle s e = some t) : Inv P handle start t := by
  cases e with
  | join c =>
      have hjoin := step_join hstep
      obtain rfl := hjoin.eq
      have happend : s.granted ++ (s.line ++ [c]) = s.granted ++ s.line ++ [c] :=
        (List.append_assoc ..).symm
      refine ⟨h.calls, ?_, ?_, h.places, fun _ => ?_⟩
      · show (s.granted ++ (s.line ++ [c])).Nodup
        rw [happend]
        refine List.nodup_append.mpr ⟨h.nodup, List.nodup_singleton c, ?_⟩
        rintro a ha b hb rfl
        rw [List.mem_singleton.mp hb] at ha
        exact (List.mem_append.mp ha).elim hjoin.granted hjoin.line
      · intro d hd
        have hd' : d ∈ s.granted ++ s.line ++ [c] := happend ▸ hd
        rcases List.mem_append.mp hd' with hd' | hd'
        · exact h.sending d hd'
        · rw [List.mem_singleton.mp hd']
          exact hjoin.sending
      · exact Nat.le_antisymm h.places (Nat.not_lt.mp hjoin.full)
  | call e =>
      obtain ⟨calls, hcalls, rfl, hadm⟩ := step_call hstep
      obtain ⟨hplaces, hfull⟩ := taken_after h hp hcalls hadm
      have hsub : ((s.after e calls).granted ++ (s.after e calls).line).Sublist
          (s.granted ++ s.line) :=
        (leave_sublist s.granted _).append (leave_sublist s.line _)
      obtain ⟨hplaces', hfull'⟩ := settle_places hplaces hfull
      refine ⟨?_, ?_, fun c hc => ?_, hplaces', hfull'⟩
      · rw [settle_calls]
        exact h.calls.next hcalls
      · rw [settle_append]
        exact h.nodup.sublist hsub
      · rw [settle_calls]
        have hc' : c ∈ (s.after e calls).granted ++ (s.after e calls).line := settle_append ▸ hc
        obtain ⟨q, hst⟩ := h.sending c (hsub.subset hc')
        refine ⟨q, sending_step h.calls hcalls hst fun hleaver => ?_⟩
        -- who has left is in neither list
        obtain ⟨hgranted, hline, -⟩ := List.nodup_append.mp h.nodup
        have hc'' : c ∈ leave s.granted (some c) ++ leave s.line (some c) := hleaver ▸ hc'
        exact (List.mem_append.mp hc'').elim hgranted.not_mem_erase hline.not_mem_erase

-- ── How far a call is ────────────────────────────────────────────────────────

/-- The requests on their way through the task, the one being served first. -/
def pending (s : Mailbox.State κ α β σ) : List κ := (s.serving.toList ++ s.queue).map Prod.fst

/-- A request in the queue is to be taken first. -/
def idle (s : Mailbox.State κ α β σ) : ℕ := if s.serving.isNone then 1 else 0

omit [DecidableEq κ] in
theorem idle_of_free {m : Mailbox.State κ α β σ} (h : m.serving = none) : idle m = 1 := by
  rw [idle, h]
  rfl

omit [DecidableEq κ] in
theorem idle_of_serving {m : Mailbox.State κ α β σ} {x : κ × α} (h : m.serving = some x) :
    idle m = 0 := by
  rw [idle, h]
  rfl

omit [DecidableEq κ] in
/-- A request that is taken stays on its way. -/
theorem pending_take {m : Mailbox.State κ α β σ} {x : κ × α} {rest : List (κ × α)}
    (hidle : m.serving = none) (hq : m.queue = x :: rest) :
    pending { m with serving := some x, queue := rest } = pending m := by
  simp [pending, hidle, hq]

/-- The request that is answered was the first. -/
theorem pending_served {m : Mailbox.State κ α β σ} {d : κ} {q : α}
    (hserving : m.serving = some (d, q)) : pending m = d :: pending (m.served handle d q) := by
  simp [pending, Mailbox.State.served, hserving]

/-- A request that is put in is the last. -/
theorem pending_enqueue (m : Mailbox.State κ α β σ) (d : κ) (q : α) :
    pending { m.setStage d .waiting with queue := m.queue ++ [(d, q)] } = pending m ++ [d] := by
  simp [pending, Mailbox.State.setStage]

/-- The steps that the task and the callers with a place can take, and the line in front of `c`. -/
def toil (c : κ) (s : State κ α β σ) : ℕ :=
  2 * (pending s.calls).length + idle s.calls + 3 * s.granted.length + 3 * s.line.idxOf c

/-- The steps until a request that is on its way is answered, and its reply read. -/
def remaining (c : κ) (s : Mailbox.State κ α β σ) : ℕ :=
  if (s.replies c).isSome then 1 else 2 * (pending s).idxOf c + 2 + idle s

/-- The rank of a call, by where it stands: not scheduled yet; in line; with a place; in the queue
    or being served; with its reply. -/
def rank (P : Params) (c : κ) (s : State κ α β σ) : WithTop ℕ :=
  match s.calls.stage c with
  | .sending _ =>
      if c ∈ s.line then WithTop.some (2 * P.capacity + 5 + toil c s)
      else if c ∈ s.granted then WithTop.some (2 * P.capacity + 4)
      else ⊤
  | .waiting => WithTop.some (remaining c s.calls)
  | _ => WithTop.some 0

/-- Who can bring the call forward. -/
def helper (c : κ) (s : State κ α β σ) : Option κ :=
  match s.calls.stage c with
  | .sending _ =>
      if c ∈ s.line then if (pending s.calls).isEmpty then s.granted.head? else none
      else some c
  | .waiting => if (s.calls.replies c).isSome then some c else none
  | _ => none

/-- The call is over. -/
def Over (c : κ) (s : State κ α β σ) : Prop := (s.calls.stage c).isOpen = false

omit [DecidableEq κ] in
/-- A waiting call without a reply is on its way through the task. -/
theorem Inv.mem_pending {start : σ} (h : Inv P handle start s) (hp : P.interruptible = false)
    {c : κ} (hst : s.calls.stage c = .waiting) (hnone : s.calls.replies c = none) :
    c ∈ pending s.calls := by
  have hcall := h.calls.call c
  rw [hst] at hcall
  have hrecv := h.receiver hp (c := c) (by rw [hst]; rfl)
  rcases hcall.1 with hmem | hgone
  · rcases List.mem_append.mp hmem with hlog | hpend
    · obtain ⟨⟨c', q, r⟩, hx, rfl⟩ := List.mem_map.mp hlog
      have hsome := (h.calls.replied c' r).mpr ⟨q, hx⟩
      rw [hnone] at hsome
      exact nomatch hsome
    · exact hpend
  · rw [hrecv] at hgone
    exact nomatch hgone

theorem isSome_call (hadm : s.admits P e = true)
    (hstep : (Mailbox.step P handle s.calls e).isSome = true) :
    (step P handle s (.call e)).isSome = true := by
  rw [step, if_pos hadm, Option.isSome_map]
  exact hstep

/-- The task can move while a request is on its way. -/
theorem enabled_task (hne : pending s.calls ≠ []) :
    Enabled (step P handle) owns (none : Option κ) s := by
  cases hserving : s.calls.serving with
  | some x =>
      refine ⟨.call .answer, rfl, isSome_call rfl ?_⟩
      simp [Mailbox.step, hserving]
  | none =>
      cases hq : s.calls.queue with
      | nil => exact absurd (by simp [pending, hserving, hq]) hne
      | cons x rest =>
          refine ⟨.call .take, rfl, isSome_call rfl ?_⟩
          simp [Mailbox.step, hserving, hq]

/-- So can a caller that has a place. -/
theorem enabled_enqueue {d : κ} {q : α} (hst : s.calls.stage d = .sending q)
    (hrecv : s.calls.receiver = true) (hroom : s.calls.queue.length < P.capacity)
    (hadm : d ∈ s.granted ∨ d ∉ s.line ∧ s.taken < P.capacity) :
    Enabled (step P handle) owns (some d) s := by
  refine ⟨.call (.enqueue d), rfl, isSome_call (decide_eq_true hadm) ?_⟩
  simp [Mailbox.step, hst, hrecv, hroom]

/-- **The helper can move.** -/
theorem enabled_helper {start : σ} (h : Inv P handle start s) (hp : P.interruptible = false)
    (hcap : 0 < P.capacity) {c : κ} (hover : ¬ Over c s) :
    Enabled (step P handle) owns (helper c s) s := by
  have hopen : (s.calls.stage c).isOpen = true := by simpa [Over] using hover
  have hrecv := h.receiver hp hopen
  have hplaces := h.places
  have hgranted : ∀ d ∈ s.granted, Enabled (step P handle) owns (some d) s := by
    intro d hd
    obtain ⟨q, hst⟩ := h.sending d (List.mem_append_left _ hd)
    have hpos := List.length_pos_of_mem hd
    rw [State.taken] at hplaces
    exact enabled_enqueue hst hrecv (by omega) (.inl hd)
  rw [helper]
  cases hst : s.calls.stage c with
  | absent | abandoned | returned => rw [hst] at hopen; exact nomatch hopen
  | waiting =>
      cases hr : s.calls.replies c with
      | some r =>
          refine ⟨.call (.receive c), rfl, isSome_call rfl ?_⟩
          simp [Mailbox.step, hst, hr]
      | none => exact enabled_task (List.ne_nil_of_mem (h.mem_pending hp hst hr))
  | sending q =>
      by_cases hline : c ∈ s.line
      · simp only [hline, if_true]
        cases hpend : pending s.calls with
        | cons x rest => exact enabled_task (by rw [hpend]; exact List.cons_ne_nil x rest)
        | nil =>
            -- the queue is empty, so all places have been given away
            have hfull := h.full (List.ne_nil_of_mem hline)
            have hqueue : s.calls.queue = [] := by
              have := List.map_eq_nil_iff.mp hpend
              exact (List.append_eq_nil_iff.mp this).2
            cases hg : s.granted with
            | nil =>
                rw [State.taken, hqueue, hg] at hfull
                exact absurd hfull (Nat.ne_of_lt hcap)
            | cons d rest => exact hgranted d (by rw [hg]; exact List.mem_cons_self)
      · simp only [hline, if_false]
        by_cases hmem : c ∈ s.granted
        · exact hgranted c hmem
        · by_cases hfree : s.taken < P.capacity
          · refine enabled_enqueue hst hrecv ?_ (.inr ⟨hline, hfree⟩)
            exact Nat.lt_of_le_of_lt (Nat.le_add_right _ _) hfree
          · refine ⟨.join c, rfl, ?_⟩
            simp [step, hst, hrecv, hfree, hline, hmem]

-- ── What a step does to the rank ─────────────────────────────────────────────

/-- The rank is lower; or rank and helper are what they were, and somebody else moved. -/
def Progress (P : Params) (c : κ) (s t : State κ α β σ) (e : Event κ α) : Prop :=
  rank P c t < rank P c s ∨
    rank P c t = rank P c s ∧ helper c t = helper c s ∧ ¬ owns (helper c s) e

/-- A request on its way comes nearer to its reply when the task moves, and only then. -/
theorem remaining_step {start : σ} (h : Inv P handle start s) (hp : P.interruptible = false)
    {calls : Mailbox.State κ α β σ} {c : κ} (hst : s.calls.stage c = .waiting)
    (hstep : Mailbox.step P handle s.calls e = some calls)
    (hopen : (calls.stage c).isOpen = true) :
    calls.stage c = .waiting ∧
      (remaining c calls < remaining c s.calls ∨
        remaining c calls = remaining c s.calls ∧
          (calls.replies c).isSome = (s.calls.replies c).isSome ∧
          ¬ owns (if (s.calls.replies c).isSome then some c else none) (.call e)) := by
  have hcall := h.calls.call c
  rw [hst] at hcall
  obtain ⟨-, hmem, hsend⟩ := hcall
  have hrecv := h.receiver hp (c := c) (by rw [hst]; rfl)
  -- the step is that of another call
  have hother : ∀ {d : κ} {st : Stage α β}, c ≠ d →
      Function.update s.calls.stage d st c = .waiting :=
    fun hne => (Function.update_of_ne hne ..).trans hst
  have hself : ∀ {d : κ} {st : Stage α β}, (Function.update s.calls.stage d st c).isOpen = true →
      st.isOpen = false → c ≠ d := by
    rintro d st hupd hclosed rfl
    rw [Function.update_self, hclosed] at hupd
    cases hupd
  have hnot : ∀ {d : κ}, c ≠ d →
      ¬ some (some d) = some (if (s.calls.replies c).isSome then some c else none) := by
    intro d hne heq
    split at heq
    · exact hne (Option.some.inj (Option.some.inj heq)).symm
    · cases Option.some.inj heq
  have hkept : ∀ {calls' : Mailbox.State κ α β σ}, pending calls' = pending s.calls →
      calls'.serving = s.calls.serving → calls'.replies = s.calls.replies →
      remaining c calls' = remaining c s.calls := by
    intro calls' hpend hserving hreplies
    rw [remaining, remaining, hpend, hreplies, idle, idle, hserving]
  cases Mailbox.step_inv hstep with
  | @invoke d q hsend' hnew =>
      have hne : c ≠ d := by
        rintro rfl
        exact hnew hmem
      exact ⟨hother hne, .inr ⟨hkept rfl rfl rfl, rfl, fun howns => by cases howns⟩⟩
  | @enqueue d q hd hrecv' hroom =>
      have hne : c ≠ d := by
        rintro rfl
        cases hst.symm.trans hd
      refine ⟨hother hne, .inr ⟨?_, rfl, hnot hne⟩⟩
      rw [remaining, remaining, pending_enqueue]
      show (if (s.calls.replies c).isSome then 1 else _ + 2 + idle s.calls) = _
      cases hr : s.calls.replies c with
      | some r => rfl
      | none => rw [List.idxOf_append_of_mem (h.mem_pending hp hst hr)]
  | @refuse d q hd hgone =>
      rw [hrecv] at hgone
      cases hgone
  | @take x rest hidle hq =>
      refine ⟨hst, ?_⟩
      rw [remaining, remaining, pending_take hidle hq]
      cases hr : s.calls.replies c with
      | some r => exact .inr ⟨rfl, rfl, fun howns => by cases Option.some.inj howns⟩
      | none =>
          left
          show 2 * _ + 2 + 0 < 2 * _ + 2 + idle s.calls
          rw [idle_of_free hidle]
          exact Nat.lt_succ_self _
  | @answer d q hserving =>
      refine ⟨hst, ?_⟩
      have hpend : pending s.calls = d :: pending (s.calls.served handle d q) :=
        pending_served hserving
      have hbusy := idle_of_serving hserving
      by_cases hc : c = d
      · subst hc
        have hnone : s.calls.replies c = none := by
          refine Option.eq_none_iff_forall_ne_some.mpr fun r hr => ?_
          obtain ⟨q', hlog⟩ := (h.calls.replied c r).mp hr
          exact h.calls.serving_not_served hserving
            (List.mem_map_of_mem (f := Mailbox.Entry.call) hlog)
        left
        rw [remaining, remaining, hnone, hpend, List.idxOf_cons_self, hbusy]
        rw [show (s.calls.served handle c q).replies c = _ from Function.update_self ..]
        exact Nat.lt_succ_self 1
      · have hsame : (s.calls.served handle d q).replies c = s.calls.replies c :=
          Function.update_of_ne hc ..
        rw [remaining, remaining, hsame]
        cases hr : s.calls.replies c with
        | some r => exact .inr ⟨rfl, rfl, fun howns => by cases Option.some.inj howns⟩
        | none =>
            left
            rw [hpend, List.idxOf_cons_ne _ (Ne.symm hc), hbusy]
            show 2 * _ + 2 + 1 < 2 * (_ + 1) + 2 + 0
            omega
  | @receive d r hd hr =>
      have hne : c ≠ d := hself hopen rfl
      exact ⟨hother hne, .inr ⟨hkept rfl rfl rfl, rfl, hnot hne⟩⟩
  | @disconnect d hd hr hheld =>
      have hne : c ≠ d := hself hopen rfl
      exact ⟨hother hne, .inr ⟨hkept rfl rfl rfl, rfl, hnot hne⟩⟩
  | @abandon d hd =>
      have hne : c ≠ d := hself hopen rfl
      exact ⟨hother hne, .inr ⟨hkept rfl rfl rfl, rfl, fun howns => by cases howns⟩⟩
  | hangUp hclosed => exact ⟨hst, .inr ⟨hkept rfl rfl rfl, rfl, fun howns => by cases howns⟩⟩
  | finish hrecv' hidle hend =>
      rcases hend with hint | hgone
      · rw [hp] at hint
        cases hint
      · rw [hsend] at hgone
        cases hgone.1

omit [DecidableEq κ] in
/-- The request that is being served is not one to be taken. -/
theorem length_pending_add_idle (m : Mailbox.State κ α β σ) :
    (pending m).length + idle m = m.queue.length + 1 := by
  rw [pending, idle, List.length_map, List.length_append]
  cases m.serving with
  | none => exact congrArg (· + 1) (Nat.zero_add _)
  | some x => exact Nat.add_comm 1 _

/-- A request that is put in is behind those that are in the queue. -/
theorem rank_enqueue {c : κ} {calls : Mailbox.State κ α β σ}
    (hstep : Mailbox.step P handle s.calls (.enqueue c) = some calls) (ht : t.calls = calls) :
    rank P c t ≤ WithTop.some (2 * P.capacity + 2) := by
  cases Mailbox.step_inv hstep with
  | @enqueue _ q hst hrecv hroom =>
      have hwait : t.calls.stage c = .waiting := by
        rw [ht]
        exact Function.update_self ..
      have hmem : c ∈ pending t.calls := by
        rw [ht]
        simp [pending]
      have hqueue : t.calls.queue.length ≤ P.capacity := by
        rw [ht, List.length_append]
        exact hroom
      have hidx := List.idxOf_lt_length_of_mem hmem
      have hlen := length_pending_add_idle t.calls
      have hidle : idle t.calls ≤ 1 := by
        rw [idle]
        split
        · exact Nat.le_refl 1
        · exact Nat.zero_le 1
      rw [rank, hwait]
      refine WithTop.coe_le_coe.mpr ?_
      rw [remaining]
      split
      · omega
      · omega

/-- What a caller that is still sending can have done by others: nothing but its place in line. -/
theorem sending_or_enqueue {start : σ} (h : Inv P handle start s) (hp : P.interruptible = false)
    {calls : Mailbox.State κ α β σ} {c : κ} {q : α} (hst : s.calls.stage c = .sending q)
    (hstep : Mailbox.step P handle s.calls e = some calls)
    (hopen : (calls.stage c).isOpen = true) :
    e = .enqueue c ∨ leaver e ≠ some c ∧ calls.stage c = .sending q ∧
      owner (.call e) ≠ some (some c) := by
  have hrecv := h.receiver hp (c := c) (by rw [hst]; rfl)
  by_cases hleaver : leaver e = some c
  · left
    cases Mailbox.step_inv hstep with
    | enqueue => rw [Option.some.inj hleaver]
    | refuse hd hgone =>
        rw [hrecv] at hgone
        exact nomatch hgone
    | @abandon d hd =>
        have heq : d = c := Option.some.inj hleaver
        have hend : (s.calls.setStage d .abandoned).stage c = .abandoned := by
          rw [heq]
          exact Function.update_self ..
        rw [hend] at hopen
        exact nomatch hopen
    | _ => exact nomatch hleaver
  · refine .inr ⟨hleaver, sending_step h.calls hstep hst hleaver, fun howner => ?_⟩
    cases Mailbox.step_inv hstep with
    | enqueue | refuse => exact hleaver (Option.some.inj howner)
    | receive hd hr =>
        obtain rfl := Option.some.inj (Option.some.inj howner)
        exact nomatch hst.symm.trans hd
    | disconnect hd hr hheld =>
        obtain rfl := Option.some.inj (Option.some.inj howner)
        exact nomatch hst.symm.trans hd
    | take | answer => exact nomatch Option.some.inj howner
    | _ => exact nomatch howner

section Phases

variable {c : κ} {q : α}

theorem rank_line (hst : s.calls.stage c = .sending q) (hline : c ∈ s.line) :
    rank P c s = WithTop.some (2 * P.capacity + 5 + toil c s) := by
  simp [rank, hst, hline]

theorem rank_granted (hst : s.calls.stage c = .sending q) (hline : c ∉ s.line)
    (hgranted : c ∈ s.granted) : rank P c s = WithTop.some (2 * P.capacity + 4) := by
  simp [rank, hst, hline, hgranted]

theorem rank_fresh (hst : s.calls.stage c = .sending q) (hline : c ∉ s.line)
    (hgranted : c ∉ s.granted) : rank P c s = ⊤ := by
  simp [rank, hst, hline, hgranted]

theorem helper_line (hst : s.calls.stage c = .sending q) (hline : c ∈ s.line) :
    helper c s = if (pending s.calls).isEmpty then s.granted.head? else none := by
  simp [helper, hst, hline]

theorem helper_self (hst : s.calls.stage c = .sending q) (hline : c ∉ s.line) :
    helper c s = some c := by
  simp [helper, hst, hline]

end Phases

/-- A caller that was not scheduled yet: only its own steps count. -/
theorem progress_fresh {start : σ} (h : Inv P handle start s) (hp : P.interruptible = false)
    {c : κ} {q : α} (hst : s.calls.stage c = .sending q) (hline : c ∉ s.line)
    (hgranted : c ∉ s.granted) {e : Event κ α} (hstep : step P handle s e = some t)
    (hover : ¬ Over c t) : Progress P c s t e := by
  have hopen : (t.calls.stage c).isOpen = true := by simpa [Over] using hover
  rw [Progress, rank_fresh hst hline hgranted, helper_self hst hline]
  cases e with
  | join d =>
      have hjoin := step_join hstep
      obtain rfl := hjoin.eq
      by_cases hc : c = d
      · subst hc
        left
        rw [rank_line (s := { s with line := s.line ++ [c] }) hst
          (List.mem_append_right _ List.mem_cons_self)]
        exact WithTop.coe_lt_top _
      · right
        have hl : c ∉ s.line ++ [d] := by simp [hline, hc]
        exact ⟨rank_fresh hst hl hgranted, helper_self hst hl,
          fun howns => hc (Option.some.inj (Option.some.inj howns)).symm⟩
  | call e =>
      obtain ⟨calls, hcalls, rfl, -⟩ := step_call hstep
      rw [settle_calls] at hopen
      rcases sending_or_enqueue h hp hst hcalls hopen with rfl | ⟨hleaver, hst', hown⟩
      · left
        exact (rank_enqueue hcalls settle_calls).trans_lt (WithTop.coe_lt_top _)
      · right
        have hnot : c ∉
            ((s.after e calls).settle P).granted ++ ((s.after e calls).settle P).line := by
          rw [settle_append]
          intro hmem
          rcases List.mem_append.mp hmem with hmem | hmem
          · exact hgranted ((leave_sublist _ _).subset hmem)
          · exact hline ((leave_sublist _ _).subset hmem)
        obtain ⟨hg, hl⟩ := not_or.mp (mt List.mem_append.mpr hnot)
        have hst'' : ((s.after e calls).settle P).calls.stage c = .sending q := by
          rw [settle_calls]
          exact hst'
        exact ⟨rank_fresh hst'' hl hg, helper_self hst'' hl, hown⟩

/-- A caller with a place: nobody takes it away. -/
theorem progress_granted {start : σ} (h : Inv P handle start s) (hp : P.interruptible = false)
    {c : κ} {q : α} (hst : s.calls.stage c = .sending q) (hgranted : c ∈ s.granted)
    {e : Event κ α} (hstep : step P handle s e = some t) (hover : ¬ Over c t) :
    Progress P c s t e := by
  have hline : c ∉ s.line := fun hmem => (List.nodup_append.mp h.nodup).2.2 c hgranted c hmem rfl
  have hopen : (t.calls.stage c).isOpen = true := by simpa [Over] using hover
  rw [Progress, rank_granted hst hline hgranted, helper_self hst hline]
  cases e with
  | join d =>
      have hjoin := step_join hstep
      obtain rfl := hjoin.eq
      have hc : c ≠ d := by
        rintro rfl
        exact hjoin.granted hgranted
      have hl : c ∉ s.line ++ [d] := by simp [hline, hc]
      exact .inr ⟨rank_granted hst hl hgranted, helper_self hst hl,
        fun howns => hc (Option.some.inj (Option.some.inj howns)).symm⟩
  | call e =>
      have hnext := h.next hp hstep
      obtain ⟨calls, hcalls, rfl, -⟩ := step_call hstep
      rw [settle_calls] at hopen
      rcases sending_or_enqueue h hp hst hcalls hopen with rfl | ⟨hleaver, hst', hown⟩
      · left
        refine (rank_enqueue hcalls settle_calls).trans_lt (WithTop.coe_lt_coe.mpr ?_)
        omega
      · right
        have hg : c ∈ ((s.after e calls).settle P).granted := by
          have hmem : c ∈ (s.after e calls).granted := mem_leave hgranted hleaver
          rw [State.settle]
          split
          · exact hmem
          · split
            · exact List.mem_append_left _ hmem
            · exact hmem
        have hl : c ∉ ((s.after e calls).settle P).line := fun hmem =>
          (List.nodup_append.mp hnext.nodup).2.2 c hg c hmem rfl
        have hst'' : ((s.after e calls).settle P).calls.stage c = .sending q := by
          rw [settle_calls]
          exact hst'
        exact ⟨rank_granted hst'' hl hg, helper_self hst'' hl, hown⟩

theorem idxOf_erase_le {cs : List κ} {c d : κ} (hne : c ≠ d) :
    (cs.erase d).idxOf c ≤ cs.idxOf c := by
  induction cs with
  | nil => exact Nat.le_refl _
  | cons a cs ih =>
      by_cases had : a = d
      · subst had
        rw [List.erase_cons_head, List.idxOf_cons_ne _ (Ne.symm hne)]
        exact Nat.le_succ _
      · rw [List.erase_cons_tail (by simpa using had)]
        by_cases hac : a = c
        · subst hac
          rw [List.idxOf_cons_self]
          exact Nat.zero_le _
        · rw [List.idxOf_cons_ne _ hac, List.idxOf_cons_ne _ hac]
          exact Nat.succ_le_succ ih

/-- Giving the free place away brings a caller in line forward, if it does anything. -/
theorem rank_settle {c : κ} {q : α} (hst : s.calls.stage c = .sending q) (hline : c ∈ s.line)
    (hnodup : s.line.Nodup) :
    rank P c (s.settle P) ≤ WithTop.some (2 * P.capacity + 5 + toil c s) := by
  rw [State.settle]
  cases hcs : s.line with
  | nil =>
      rw [hcs] at hline
      exact absurd hline List.not_mem_nil
  | cons d rest =>
      rw [hcs] at hline hnodup
      simp only []
      split
      · by_cases hd : d = c
        · -- the place is for this caller
          subst hd
          rw [rank_granted (s := { s with line := rest, granted := s.granted ++ [d] }) hst
            (List.nodup_cons.mp hnodup).1 (List.mem_append_right _ List.mem_cons_self)]
          refine WithTop.coe_le_coe.mpr ?_
          omega
        · have hrest : c ∈ rest := (List.mem_cons.mp hline).resolve_left (Ne.symm hd)
          rw [rank_line (s := { s with line := rest, granted := s.granted ++ [d] }) hst hrest]
          refine WithTop.coe_le_coe.mpr ?_
          rw [toil, toil, hcs, List.idxOf_cons_ne _ hd, List.length_append]
          show 2 * P.capacity + 5 + (2 * (pending s.calls).length + idle s.calls +
            3 * (s.granted.length + 1) + 3 * rest.idxOf c) ≤ _
          omega
      · rw [rank_line hst (by rw [hcs]; exact hline)]

theorem idxOf_leave_le {cs : List κ} {o : Option κ} {c : κ} (hne : o ≠ some c) :
    (leave cs o).idxOf c ≤ cs.idxOf c := by
  cases o with
  | none => exact Nat.le_refl _
  | some d => exact idxOf_erase_le fun heq => hne (congrArg some heq.symm)

/-- The helper of a caller in line has a place, or is the task. -/
theorem ne_helper_line {c : κ} {q : α} (hst : s.calls.stage c = .sending q) (hline : c ∈ s.line)
    {o : Option (Option κ)} (hgranted : ∀ d ∈ s.granted, o ≠ some (some d))
    (hnone : o ≠ some none) : o ≠ some (helper c s) := by
  rw [helper_line hst hline]
  split
  · cases hg : s.granted with
    | nil => exact hnone
    | cons d rest => exact hgranted d (by rw [hg]; exact List.mem_cons_self)
  · exact hnone

/-- A step that does nothing for a caller in line: the task and the places are as they were, and it
    is not its helper's. -/
structure Indifferent (c : κ) (s : State κ α β σ) (e : Mailbox.Event κ α)
    (calls : Mailbox.State κ α β σ) : Prop where
  serving : calls.serving = s.calls.serving
  queue   : calls.queue = s.calls.queue
  granted : leave s.granted (leaver e) = s.granted
  others  : owner (.call e) ≠ some (helper c s)

/-- Before the free place is given away: there is less to do in front of a caller in line, or the
    step does nothing for it. -/
theorem toil_after {start : σ} (h : Inv P handle start s) (hp : P.interruptible = false)
    {calls : Mailbox.State κ α β σ} {c : κ} {q : α} (hst : s.calls.stage c = .sending q)
    (hline : c ∈ s.line) (hstep : Mailbox.step P handle s.calls e = some calls)
    (hadm : s.admits P e = true) (hleaver : leaver e ≠ some c) :
    toil c (s.after e calls) < toil c s ∨ Indifferent c s e calls := by
  have hfull := h.full (List.ne_nil_of_mem hline)
  have hrecv := h.receiver hp (c := c) (by rw [hst]; rfl)
  have hidx : (leave s.line (leaver e)).idxOf c ≤ s.line.idxOf c := idxOf_leave_le hleaver
  -- who waits for a reply has no place
  have hwaiting : ∀ {d : κ}, s.calls.stage d = .waiting → ∀ d' ∈ s.granted,
      some (some d) ≠ some (some d') := by
    intro d hd d' hd' heq
    obtain rfl := Option.some.inj (Option.some.inj heq)
    obtain ⟨q', hsending⟩ := h.sending d (List.mem_append_left _ hd')
    cases hd.symm.trans hsending
  have hcaller : ∀ {d : κ}, some (some d) ≠ some (none : Option κ) := by
    intro d heq
    cases Option.some.inj heq
  cases Mailbox.step_inv hstep with
  | invoke | hangUp => exact .inr ⟨rfl, rfl, rfl, fun heq => by cases heq⟩
  | refuse hd hgone =>
      rw [hrecv] at hgone
      cases hgone
  | receive hd hr =>
      exact .inr ⟨rfl, rfl, rfl, ne_helper_line hst hline (hwaiting hd) hcaller⟩
  | disconnect hd hr hheld =>
      exact .inr ⟨rfl, rfl, rfl, ne_helper_line hst hline (hwaiting hd) hcaller⟩
  | @abandon d hd =>
      by_cases hmem : d ∈ s.granted
      · -- its place goes to the next in line
        left
        have hlen := List.length_erase_of_mem hmem
        have hpos := List.length_pos_of_mem hmem
        show 2 * (pending s.calls).length + idle s.calls + 3 * (s.granted.erase d).length +
          3 * (s.line.erase d).idxOf c < toil c s
        have hidx' : (s.line.erase d).idxOf c ≤ s.line.idxOf c := hidx
        rw [toil]
        omega
      · exact .inr ⟨rfl, rfl, List.erase_of_not_mem hmem, fun heq => by cases heq⟩
  | @enqueue d q' hd hrecv' hroom =>
      -- the places are taken, so that it had been given its own
      left
      have hmem : d ∈ s.granted :=
        (of_decide_eq_true hadm).resolve_right fun hfree => Nat.ne_of_lt hfree.2 hfull
      have hlen := List.length_erase_of_mem hmem
      have hpos := List.length_pos_of_mem hmem
      have hidx' : (s.line.erase d).idxOf c ≤ s.line.idxOf c := hidx
      show 2 * (pending { s.calls.setStage d .waiting with
          queue := s.calls.queue ++ [(d, q')] }).length + idle s.calls +
        3 * (s.granted.erase d).length + 3 * (s.line.erase d).idxOf c < toil c s
      rw [toil, pending_enqueue, List.length_append, List.length_singleton]
      omega
  | @take x rest hidle hq =>
      left
      show 2 * (pending { s.calls with serving := some x, queue := rest }).length + 0 +
        3 * s.granted.length + 3 * s.line.idxOf c < toil c s
      rw [toil, pending_take hidle hq, idle_of_free hidle]
      omega
  | @answer d q' hserving =>
      left
      have hpend : pending s.calls = d :: pending (s.calls.served handle d q') :=
        pending_served hserving
      show 2 * (pending (s.calls.served handle d q')).length + 1 + 3 * s.granted.length +
        3 * s.line.idxOf c < toil c s
      rw [toil, hpend, idle_of_serving hserving, List.length_cons]
      omega
  | finish hrecv' hidle hend =>
      have hsend := (h.calls.call c).senders (by rw [hst]; rfl)
      rcases hend with hint | hgone
      · rw [hp] at hint
        cases hint
      · rw [hsend] at hgone
        cases hgone.1

/-- A step that does nothing for a caller in line: it moves up only if somebody before it leaves. -/
theorem rank_indifferent {start : σ} (h : Inv P handle start s)
    {calls : Mailbox.State κ α β σ} {c : κ} {q : α} (hst : s.calls.stage c = .sending q)
    (hline : c ∈ s.line) (hst' : calls.stage c = .sending q) (hleaver : leaver e ≠ some c)
    (hnone : Indifferent c s e calls) : Progress P c s ((s.after e calls).settle P) (.call e) := by
  have hl : c ∈ (s.after e calls).line := mem_leave hline hleaver
  have hpend : pending calls = pending s.calls := by
    rw [pending, pending, hnone.serving, hnone.queue]
  have hfull : ¬ (s.after e calls).taken < P.capacity := by
    rw [State.taken, State.after, hnone.queue, hnone.granted]
    exact Nat.not_lt.mpr (h.full (List.ne_nil_of_mem hline)).ge
  have hsame : (s.after e calls).settle P = s.after e calls := by
    rw [State.settle]
    split
    · rfl
    · exact if_neg hfull
  have htoil : toil c (s.after e calls) = 2 * (pending s.calls).length + idle s.calls +
      3 * s.granted.length + 3 * (leave s.line (leaver e)).idxOf c := by
    rw [toil, State.after, hpend, hnone.granted, idle, idle, hnone.serving]
  rw [Progress, hsame, rank_line hst hline, rank_line (s := s.after e calls) hst' hl]
  have hidx : (leave s.line (leaver e)).idxOf c ≤ s.line.idxOf c := idxOf_leave_le hleaver
  rcases Nat.lt_or_eq_of_le hidx with hlt | heq
  · left
    refine WithTop.coe_lt_coe.mpr (Nat.add_lt_add_left ?_ _)
    rw [htoil, toil]
    omega
  · right
    refine ⟨?_, ?_, hnone.others⟩
    · rw [htoil, heq, toil]
    · rw [helper_line (s := s.after e calls) hst' hl, helper_line hst hline, State.after, hpend,
        hnone.granted]

/-- A caller in line: the task and those who have a place bring it forward. -/
theorem progress_line {start : σ} (h : Inv P handle start s) (hp : P.interruptible = false)
    {c : κ} {q : α} (hst : s.calls.stage c = .sending q) (hline : c ∈ s.line)
    {e : Event κ α} (hstep : step P handle s e = some t) (hover : ¬ Over c t) :
    Progress P c s t e := by
  obtain ⟨hgnodup, hlnodup, hdisj⟩ := List.nodup_append.mp h.nodup
  have hopen : (t.calls.stage c).isOpen = true := by simpa [Over] using hover
  cases e with
  | join d =>
      have hjoin := step_join hstep
      obtain rfl := hjoin.eq
      have hl : c ∈ s.line ++ [d] := List.mem_append_left _ hline
      right
      refine ⟨?_, ?_, ne_helper_line hst hline ?_ fun heq => by cases Option.some.inj heq⟩
      · rw [rank_line hst hline, rank_line (s := { s with line := s.line ++ [d] }) hst hl, toil,
          toil, List.idxOf_append_of_mem hline]
      · rw [helper_line (s := { s with line := s.line ++ [d] }) hst hl, helper_line hst hline]
      · intro d' hd' heq
        obtain rfl := Option.some.inj (Option.some.inj heq)
        exact hjoin.granted hd'
  | call e =>
      obtain ⟨calls, hcalls, rfl, hadm⟩ := step_call hstep
      rw [settle_calls] at hopen
      rcases sending_or_enqueue h hp hst hcalls hopen with rfl | ⟨hleaver, hst', -⟩
      · -- nobody is let in from the line
        rcases of_decide_eq_true hadm with hmem | ⟨hnot, -⟩
        · exact absurd rfl (hdisj c hmem c hline)
        · exact absurd hline hnot
      · rcases toil_after h hp hst hline hcalls hadm hleaver with hlt | hnone
        · left
          rw [rank_line hst hline]
          refine (rank_settle (s := s.after e calls) hst' (mem_leave hline hleaver)
            (hlnodup.sublist (leave_sublist _ _))).trans_lt ?_
          exact WithTop.coe_lt_coe.mpr (Nat.add_lt_add_left hlt _)
        · exact rank_indifferent h hst hline hst' hleaver hnone

/-- **Every step brings a call forward, or leaves it to its helper.** -/
theorem progress {start : σ} (h : Inv P handle start s) (hp : P.interruptible = false) {c : κ}
    {e : Event κ α} (hbefore : ¬ Over c s) (hstep : step P handle s e = some t)
    (hafter : ¬ Over c t) : Progress P c s t e := by
  have hopen : (s.calls.stage c).isOpen = true := by simpa [Over] using hbefore
  have hopen' : (t.calls.stage c).isOpen = true := by simpa [Over] using hafter
  cases hst : s.calls.stage c with
  | absent | abandoned | returned =>
      rw [hst] at hopen
      exact nomatch hopen
  | sending q =>
      by_cases hline : c ∈ s.line
      · exact progress_line h hp hst hline hstep hafter
      · by_cases hgranted : c ∈ s.granted
        · exact progress_granted h hp hst hgranted hstep hafter
        · exact progress_fresh h hp hst hline hgranted hstep hafter
  | waiting =>
      have hrank : ∀ u : State κ α β σ, u.calls.stage c = .waiting →
          rank P c u = WithTop.some (remaining c u.calls) ∧
            helper c u = if (u.calls.replies c).isSome then some c else none := by
        intro u hu
        rw [rank, helper, hu]
        exact ⟨rfl, rfl⟩
      rw [Progress, (hrank s hst).1, (hrank s hst).2]
      cases e with
      | join d =>
          have hjoin := step_join hstep
          obtain rfl := hjoin.eq
          rw [(hrank { s with line := s.line ++ [d] } hst).1,
            (hrank { s with line := s.line ++ [d] } hst).2]
          refine .inr ⟨rfl, rfl, fun howns => ?_⟩
          have howner : some d = if (s.calls.replies c).isSome then some c else none :=
            Option.some.inj howns
          split at howner
          · obtain rfl := Option.some.inj howner
            obtain ⟨q, hsending⟩ := hjoin.sending
            exact nomatch hst.symm.trans hsending
          · exact nomatch howner
      | call e =>
          obtain ⟨calls, hcalls, rfl, -⟩ := step_call hstep
          rw [settle_calls] at hopen'
          obtain ⟨hst', hcase⟩ := remaining_step h hp hst hcalls hopen'
          have hst'' : ((s.after e calls).settle P).calls.stage c = .waiting := by
            rw [settle_calls]
            exact hst'
          rw [(hrank _ hst'').1, (hrank _ hst'').2, settle_calls]
          refine hcase.imp WithTop.coe_lt_coe.mpr fun ⟨hsame, hreplies, hown⟩ => ?_
          refine ⟨congrArg WithTop.some hsame, ?_, hown⟩
          show (if (calls.replies c).isSome then some c else none) = _
          rw [hreplies]

-- ── Fair executions ──────────────────────────────────────────────────────────

/-- How a call ends: with its reply, unless its caller gives it up. -/
theorem over_step {start : σ} (h : Inv P handle start s) (hp : P.interruptible = false) {c : κ}
    {e : Event κ α} (hbefore : ¬ Over c s) (hstep : step P handle s e = some t)
    (hafter : Over c t) :
    (∃ r, t.calls.stage c = .returned (.ok r)) ∨ e = .call (.abandon c) := by
  have hopen : (s.calls.stage c).isOpen = true := by simpa [Over] using hbefore
  have hrecv := h.receiver hp hopen
  cases e with
  | join d =>
      rw [Over, (step_join hstep).eq, hopen] at hafter
      exact nomatch hafter
  | call e =>
      obtain ⟨calls, hcalls, rfl, -⟩ := step_call hstep
      rw [Over, settle_calls] at hafter
      rw [settle_calls]
      have hclosed : (calls.stage c).isOpen = false := hafter
      -- a step that leaves the stage of `c` alone does not end it
      have hother : ∀ {d : κ} {st : Stage α β},
          (Function.update s.calls.stage d st c).isOpen = false → c = d := by
        intro d st hupd
        by_contra hne
        rw [Function.update_of_ne hne, hopen] at hupd
        exact nomatch hupd
      have hsame : calls.stage c = s.calls.stage c → False := by
        intro heq
        rw [heq, hopen] at hclosed
        exact nomatch hclosed
      cases Mailbox.step_inv hcalls with
      | @invoke d q hsend hnew =>
          obtain rfl := hother hclosed
          have hself : (s.calls.setStage c (.sending q)).stage c = .sending q :=
            Function.update_self ..
          exact nomatch (congrArg Stage.isOpen hself).symm.trans hclosed
      | @enqueue d q hd hrecv' hroom =>
          obtain rfl := hother hclosed
          have hself : (s.calls.setStage c .waiting).stage c = .waiting := Function.update_self ..
          exact nomatch (congrArg Stage.isOpen hself).symm.trans hclosed
      | refuse hd hgone =>
          rw [hrecv] at hgone
          exact nomatch hgone
      | take | answer | hangUp | finish => exact (hsame rfl).elim
      | @receive d r hd hr =>
          obtain rfl := hother hclosed
          exact .inl ⟨r, Function.update_self ..⟩
      | @disconnect d hd hr hheld =>
          obtain rfl := hother hclosed
          -- a request without a reply is held by somebody
          have hlost := h.calls.not_accepted hr hheld
          exact absurd (List.mem_append_right _ (h.mem_pending hp hd hr)) hlost
      | @abandon d hd =>
          obtain rfl := hother hclosed
          exact .inr rfl

section Executions

variable {x : Execution (step P handle : State κ α β σ → Event κ α → Option (State κ α β σ))}
  {start : σ}

/-- Up to every time, the calls of an execution are a run of the mailbox. -/
theorem reaches (hinit : x.state 0 = State.init start) (n : ℕ) :
    ∃ es, Mailbox.Reaches P handle start es (x.state n).calls ∧
      ∀ e ∈ es, ∃ k < n, x.event k = some (.call e) := by
  have hrun := x.run_upTo n
  rw [hinit] at hrun
  obtain ⟨calls, hcalls, rfl⟩ := (refines P handle).run rfl (x.upTo n) _ hrun
  refine ⟨_, hcalls, fun e he => ?_⟩
  obtain ⟨e', he', u, hemit⟩ := Simulation.exists_emit_of_mem_image he
  cases e' with
  | call d =>
      obtain rfl := List.mem_singleton.mp hemit
      exact Execution.mem_upTo.mp he'
  | join c => exact absurd hemit List.not_mem_nil

/-- **Every call ends.** In a fair execution a call under way returns with a reply, or is given up
    by its own caller. -/
theorem open_call_ends (hinit : x.state 0 = State.init start) (hp : P.interruptible = false)
    (hcap : 0 < P.capacity) (hfair : x.Fair owns) {n : ℕ} {c : κ}
    (hopen : ((x.state n).calls.stage c).isOpen = true) :
    ∃ m ≥ n, (∃ r, (x.state (m + 1)).calls.stage c = .returned (.ok r)) ∨
      x.event m = some (.call (.abandon c)) := by
  have hinv : ∀ m, Inv P handle start (x.state m) := fun m =>
    x.invariant (fun _ _ _ h hstep => h.next hp hstep) (hinit ▸ inv_init start) (Nat.zero_le m)
  obtain ⟨m, hm, hover⟩ := hfair.eventually (I := Inv P handle start) (G := Over c)
    (rank P c) (helper c) (fun _ _ _ h hstep => h.next hp hstep)
    (fun _ h hover => enabled_helper h hp hcap hover)
    (fun _ _ _ h hbefore hstep hafter => progress h hp hbefore hstep hafter) (hinv n)
  have hn : ¬ Over c (x.state n) := by simp [Over, hopen]
  obtain ⟨k, hk, e, he, hbefore, hstep, hafter⟩ := x.exists_step hn hm hover
  refine ⟨k, hk, (over_step (hinv k) hp hbefore hstep hafter).imp id fun heq => ?_⟩
  rw [he, heq]

end Executions

/-- With no call under way nobody has anything to do. -/
theorem at_rest (hopen : ∀ c, (s.calls.stage c).isOpen = false) (hqueue : s.calls.queue = [])
    (hserving : s.calls.serving = none) (i : Option κ) :
    ¬ Enabled (step P handle) owns i s := by
  rintro ⟨e, howns, hmoves⟩
  obtain ⟨t, hstep⟩ := Option.isSome_iff_exists.mp hmoves
  cases e with
  | join c =>
      obtain ⟨q, hst⟩ := (step_join hstep).sending
      exact nomatch (congrArg Stage.isOpen hst).symm.trans (hopen c)
  | call e =>
      obtain ⟨calls, hcalls, -, -⟩ := step_call hstep
      cases Mailbox.step_inv hcalls with
      | invoke | abandon | hangUp | finish => exact nomatch howns
      | enqueue hst | refuse hst | receive hst | disconnect hst =>
          exact nomatch (congrArg Stage.isOpen hst).symm.trans (hopen _)
      | take hidle hq => exact nomatch hqueue.symm.trans hq
      | answer hbusy => exact nomatch hserving.symm.trans hbusy

end SenderLine
