import Hamlet.Lib.EventRunProofs
import Hamlet.Lib.NoninterferenceProofs
import Mathlib.Data.List.Nodup
import Mathlib.Logic.Function.Basic

/-!
# Calls on a task that owns its state

A task owns a state and serves requests from a bounded queue, one after another. Any number of
clients call it: a call sends its request together with a one-shot slot for the reply, and waits on
the slot. Callers and the task are scheduled in any order, a caller may be cancelled at any point,
and the task may end while requests are queued.

The requests the task has served are kept in `log`, with their replies. Against the sequential
machine `handle`:

* `Reaches.linearized` — the state of the task and the replies are those of `handle`, run on the
  requests of the log; a call that returned a value has exactly one entry, with the value as its
  reply; the log is in the order in which the requests entered the queue;
* `log_after_return` — a call that was made after another had returned is later in the log;
* `Reaches.in_order` — so a caller that waits for each of its calls finds them there in the order in
  which it made them.

Together: the calls are linearizable, and the log is the order. `Reaches.failed` says when a call can
fail and that a failed one was not served.

Of the callers that wait for a place in the queue, any may be the next to have one. A queue that
lets them stand in line has fewer runs (`SenderLine.refines`), so all of this is true of it as well.
-/

namespace Mailbox

open EventRun Noninterference

variable {κ α β σ : Type*}

-- ── The system ───────────────────────────────────────────────────────────────

/-- Why a call returns without a reply: the receiver was gone when the request was sent, or the
    request was discarded. -/
inductive Failure where
  | closed
  | dropped
  deriving DecidableEq, Repr

/-- Where a call stands. -/
inductive Stage (α β : Type*) where
  | absent
  | sending (request : α)
  | waiting
  | returned (outcome : Except Failure β)
  | abandoned

/-- The call has been made and its caller waits for it. -/
def Stage.isOpen : Stage α β → Bool
  | .sending _ => true
  | .waiting => true
  | _ => false

structure Params where
  capacity      : ℕ
  /-- The task ends when it is told to, not only when all senders are gone. -/
  interruptible : Bool

/-- A request that was served. -/
structure Entry (κ α β : Type*) where
  call    : κ
  request : α
  reply   : β

structure State (κ α β σ : Type*) where
  server   : σ
  queue    : List (κ × α)
  serving  : Option (κ × α)
  /-- The slots that hold a reply. -/
  replies  : κ → Option β
  stage    : κ → Stage α β
  /-- The calls made so far. -/
  calls    : List κ
  /-- Some sender of the queue is alive. -/
  senders  : Bool
  /-- The task has not ended. -/
  receiver : Bool
  log      : List (Entry κ α β)

/-- The task with its initial state, before the first call. -/
def State.init (server : σ) : State κ α β σ where
  server   := server
  queue    := []
  serving  := none
  replies  := fun _ => none
  stage    := fun _ => .absent
  calls    := []
  senders  := true
  receiver := true
  log      := []

inductive Event (κ α : Type*) where
  /-- A caller makes a new call. -/
  | invoke (c : κ) (q : α)
  /-- The queue has room and takes the request. -/
  | enqueue (c : κ)
  /-- The queue is closed. -/
  | refuse (c : κ)
  /-- The task takes the next request. -/
  | take
  /-- The task has served its request and fills the slot. -/
  | answer
  /-- The caller reads its slot. -/
  | receive (c : κ)
  /-- The caller sees that nobody can fill its slot any more. -/
  | disconnect (c : κ)
  /-- The caller is cancelled. -/
  | abandon (c : κ)
  /-- The last sender is dropped; an open call holds one. -/
  | hangUp
  /-- The task ends, and what is queued is discarded. -/
  | finish

variable [DecidableEq κ]

/-- The request of a call is in the queue or being served, and its slot may still be filled. -/
def State.holds (s : State κ α β σ) (c : κ) : Bool :=
  (s.serving.toList ++ s.queue).any fun x => decide (x.1 = c)

def State.setStage (s : State κ α β σ) (c : κ) (st : Stage α β) : State κ α β σ :=
  { s with stage := Function.update s.stage c st }

/-- The request of `c` has been served: its slot is filled. -/
def State.served (handle : σ → α → σ × β) (s : State κ α β σ) (c : κ) (q : α) :
    State κ α β σ :=
  { s with
    server  := (handle s.server q).1
    serving := none
    replies := Function.update s.replies c (some (handle s.server q).2)
    log     := s.log ++ [⟨c, q, (handle s.server q).2⟩] }

/-- One step of the system. -/
def step (P : Params) (handle : σ → α → σ × β) (s : State κ α β σ) :
    Event κ α → Option (State κ α β σ)
  | .invoke c q =>
      if s.senders = true ∧ c ∉ s.calls then
        some { s.setStage c (.sending q) with calls := s.calls ++ [c] }
      else none
  | .enqueue c =>
      match s.stage c with
      | .sending q =>
          if s.receiver = true ∧ s.queue.length < P.capacity then
            some { s.setStage c .waiting with queue := s.queue ++ [(c, q)] }
          else none
      | _ => none
  | .refuse c =>
      match s.stage c with
      | .sending _ => if s.receiver then none else some (s.setStage c (.returned (.error .closed)))
      | _ => none
  | .take =>
      match s.serving, s.queue with
      | none, x :: rest => some { s with serving := some x, queue := rest }
      | _, _ => none
  | .answer =>
      match s.serving with
      | some (c, q) => some (s.served handle c q)
      | none => none
  | .receive c =>
      match s.stage c, s.replies c with
      | .waiting, some r => some (s.setStage c (.returned (.ok r)))
      | _, _ => none
  | .disconnect c =>
      match s.stage c, s.replies c with
      | .waiting, none =>
          if s.holds c then none else some (s.setStage c (.returned (.error .dropped)))
      | _, _ => none
  | .abandon c => if (s.stage c).isOpen then some (s.setStage c .abandoned) else none
  | .hangUp =>
      if s.calls.all fun c => !(s.stage c).isOpen then some { s with senders := false } else none
  | .finish =>
      if s.receiver = true ∧ s.serving.isNone = true ∧
          (P.interruptible = true ∨ s.senders = false ∧ s.queue.isEmpty = true) then
        some { s with receiver := false, queue := [] }
      else none

/-- What a step can do, guards included. -/
inductive Step (P : Params) (handle : σ → α → σ × β) (s : State κ α β σ) :
    Event κ α → State κ α β σ → Prop where
  | invoke {c : κ} {q : α} (hsend : s.senders = true) (hnew : c ∉ s.calls) :
      Step P handle s (.invoke c q) { s.setStage c (.sending q) with calls := s.calls ++ [c] }
  | enqueue {c : κ} {q : α} (hst : s.stage c = .sending q) (hrecv : s.receiver = true)
      (hroom : s.queue.length < P.capacity) :
      Step P handle s (.enqueue c) { s.setStage c .waiting with queue := s.queue ++ [(c, q)] }
  | refuse {c : κ} {q : α} (hst : s.stage c = .sending q) (hrecv : s.receiver = false) :
      Step P handle s (.refuse c) (s.setStage c (.returned (.error .closed)))
  | take {x : κ × α} {rest : List (κ × α)} (hidle : s.serving = none) (hq : s.queue = x :: rest) :
      Step P handle s .take { s with serving := some x, queue := rest }
  | answer {c : κ} {q : α} (hserving : s.serving = some (c, q)) :
      Step P handle s .answer (s.served handle c q)
  | receive {c : κ} {r : β} (hst : s.stage c = .waiting) (hr : s.replies c = some r) :
      Step P handle s (.receive c) (s.setStage c (.returned (.ok r)))
  | disconnect {c : κ} (hst : s.stage c = .waiting) (hr : s.replies c = none)
      (hheld : s.holds c = false) :
      Step P handle s (.disconnect c) (s.setStage c (.returned (.error .dropped)))
  | abandon {c : κ} (hopen : (s.stage c).isOpen = true) :
      Step P handle s (.abandon c) (s.setStage c .abandoned)
  | hangUp (hclosed : ∀ c ∈ s.calls, (s.stage c).isOpen = false) :
      Step P handle s .hangUp { s with senders := false }
  | finish (hrecv : s.receiver = true) (hidle : s.serving = none)
      (hend : P.interruptible = true ∨ s.senders = false ∧ s.queue = []) :
      Step P handle s .finish { s with receiver := false, queue := [] }

variable {P : Params} {handle : σ → α → σ × β} {s t : State κ α β σ} {e : Event κ α}

theorem step_inv (h : step P handle s e = some t) : Step P handle s e t := by
  cases e with
  | invoke c q =>
      simp only [step] at h
      split at h
      · rename_i hg
        obtain rfl := Option.some.inj h
        exact .invoke hg.1 hg.2
      · exact nomatch h
  | enqueue c =>
      simp only [step] at h
      split at h
      · rename_i q hst
        split at h
        · rename_i hg
          obtain rfl := Option.some.inj h
          exact .enqueue hst hg.1 hg.2
        · exact nomatch h
      · exact nomatch h
  | refuse c =>
      simp only [step] at h
      split at h
      · rename_i q hst
        split at h
        · exact nomatch h
        · rename_i hrecv
          obtain rfl := Option.some.inj h
          exact .refuse hst (Bool.not_eq_true _ ▸ hrecv)
      · exact nomatch h
  | take =>
      simp only [step] at h
      split at h
      · rename_i x rest hidle hq
        obtain rfl := Option.some.inj h
        exact .take hidle hq
      · exact nomatch h
  | answer =>
      simp only [step] at h
      split at h
      · rename_i c q hserving
        obtain rfl := Option.some.inj h
        exact .answer hserving
      · exact nomatch h
  | receive c =>
      simp only [step] at h
      split at h
      · rename_i r hst hr
        obtain rfl := Option.some.inj h
        exact .receive hst hr
      · exact nomatch h
  | disconnect c =>
      simp only [step] at h
      split at h
      · rename_i hst hr
        split at h
        · exact nomatch h
        · rename_i hheld
          obtain rfl := Option.some.inj h
          exact .disconnect hst hr (Bool.not_eq_true _ ▸ hheld)
      · exact nomatch h
  | abandon c =>
      simp only [step] at h
      split at h
      · rename_i hopen
        obtain rfl := Option.some.inj h
        exact .abandon hopen
      · exact nomatch h
  | hangUp =>
      simp only [step] at h
      split at h
      · rename_i hclosed
        obtain rfl := Option.some.inj h
        refine .hangUp fun c hc => ?_
        simpa using List.all_eq_true.mp hclosed c hc
      · exact nomatch h
  | finish =>
      simp only [step] at h
      split at h
      · rename_i hg
        obtain rfl := Option.some.inj h
        refine .finish hg.1 (Option.isNone_iff_eq_none.mp hg.2.1) ?_
        exact hg.2.2.imp id (And.imp_right List.isEmpty_iff.mp)
      · exact nomatch h

-- ── The invariant ────────────────────────────────────────────────────────────

/-- The calls whose request entered the queue and was not discarded, in that order. -/
def State.accepted (s : State κ α β σ) : List κ :=
  s.log.map Entry.call ++ (s.serving.toList ++ s.queue).map Prod.fst

/-- Serving a request does not change what was accepted. -/
theorem accepted_served {c : κ} {q : α} (hserving : s.serving = some (c, q)) :
    (s.served handle c q).accepted = s.accepted := by
  simp [State.accepted, State.served, hserving]

/-- What is known of a call, by where it stands. -/
def CallInv (P : Params) (s : State κ α β σ) (c : κ) : Stage α β → Prop
  | .absent => c ∉ s.accepted
  | .sending _ => c ∉ s.accepted ∧ c ∈ s.calls ∧ s.senders = true
  | .waiting => (c ∈ s.accepted ∨ s.receiver = false) ∧ c ∈ s.calls ∧ s.senders = true
  | .returned (.ok r) => c ∈ s.calls ∧ s.replies c = some r
  | .returned (.error _) =>
      c ∈ s.calls ∧ c ∉ s.accepted ∧ s.receiver = false ∧ P.interruptible = true
  | .abandoned => c ∈ s.calls

/-- What every reachable state satisfies. -/
structure Inv (P : Params) (handle : σ → α → σ × β) (start : σ) (s : State κ α β σ) : Prop where
  serial   : exec handle start (s.log.map Entry.request) =
    (s.server, s.log.map fun x => (x.request, x.reply))
  capacity : s.queue.length ≤ P.capacity
  nodup    : s.accepted.Nodup
  replied  : ∀ c r, s.replies c = some r ↔ ∃ q, ⟨c, q, r⟩ ∈ s.log
  ended    : s.receiver = false → s.queue = [] ∧ s.serving = none
  patient  : P.interruptible = false → s.receiver = false → s.senders = false
  call     : ∀ c, CallInv P s c (s.stage c)

omit [DecidableEq κ] in
theorem inv_init (start : σ) : Inv P handle start (State.init start : State κ α β σ) where
  serial := rfl
  capacity := Nat.zero_le _
  nodup := List.nodup_nil
  replied := by
    intro c r
    constructor
    · intro h; exact nomatch h
    · rintro ⟨q, hmem⟩; exact absurd hmem List.not_mem_nil
  ended := fun h => nomatch h
  patient := fun _ h => nomatch h
  call := fun c => List.not_mem_nil

omit [DecidableEq κ] in
/-- A call that is known is one of the calls made, unless it is absent. -/
theorem CallInv.mem_calls {c : κ} {st : Stage α β} (h : CallInv P s c st) :
    c ∈ s.calls ∨ st = .absent := by
  cases st with
  | absent => exact .inr rfl
  | sending q => exact .inl h.2.1
  | waiting => exact .inl h.2.1
  | abandoned => exact .inl h
  | returned outcome =>
      cases outcome with
      | ok r => exact .inl h.1
      | error f => exact .inl h.1

omit [DecidableEq κ] in
/-- An open call holds a sender. -/
theorem CallInv.senders {c : κ} {st : Stage α β} (h : CallInv P s c st)
    (hopen : st.isOpen = true) : s.senders = true := by
  cases st with
  | sending q => exact h.2.2
  | waiting => exact h.2.2
  | absent => exact nomatch hopen
  | abandoned => exact nomatch hopen
  | returned outcome => exact nomatch hopen

omit [DecidableEq κ] in
/-- What is known of a call stays known when nothing it depends on changes for the worse. -/
theorem CallInv.mono {c : κ} {st : Stage α β} (h : CallInv P s c st)
    (hacc : c ∈ t.accepted → c ∈ s.accepted)
    (hkept : c ∈ s.accepted → c ∈ t.accepted ∨ t.receiver = false)
    (hcalls : c ∈ s.calls → c ∈ t.calls)
    (hsend : st.isOpen = true → s.senders = true → t.senders = true)
    (hrecv : s.receiver = false → t.receiver = false)
    (hreply : ∀ r, s.replies c = some r → t.replies c = some r) : CallInv P t c st := by
  cases st with
  | absent => exact fun hmem => h (hacc hmem)
  | sending q => exact ⟨fun hmem => h.1 (hacc hmem), hcalls h.2.1, hsend rfl h.2.2⟩
  | waiting =>
      refine ⟨?_, hcalls h.2.1, hsend rfl h.2.2⟩
      rcases h.1 with hmem | hend
      · exact hkept hmem
      · exact .inr (hrecv hend)
  | abandoned => exact hcalls h
  | returned outcome =>
      cases outcome with
      | ok r => exact ⟨hcalls h.1, hreply r h.2⟩
      | error f =>
          exact ⟨hcalls h.1, fun hmem => h.2.1 (hacc hmem), hrecv h.2.2.1, h.2.2.2⟩

/-- Changing the stage of one call keeps the invariant if the new stage is in order. -/
theorem Inv.setStage {start : σ} (h : Inv P handle start s) {c : κ} {st : Stage α β}
    (hc : CallInv P s c st) : Inv P handle start (s.setStage c st) where
  serial := h.serial
  capacity := h.capacity
  nodup := h.nodup
  replied := h.replied
  ended := h.ended
  patient := h.patient
  call := (Function.forall_update_iff s.stage fun c st => CallInv P s c st).mpr
    ⟨hc, fun c' _ => h.call c'⟩

/-- A request whose slot is empty and that is held nowhere was discarded. -/
theorem Inv.not_accepted {start : σ} (h : Inv P handle start s) {c : κ} (hr : s.replies c = none)
    (hheld : s.holds c = false) : c ∉ s.accepted := by
  intro hmem
  rcases List.mem_append.mp hmem with hlog | hpend
  · obtain ⟨⟨c', q, r⟩, hx, rfl⟩ := List.mem_map.mp hlog
    have hsome := (h.replied c' r).mpr ⟨q, hx⟩
    rw [hr] at hsome
    exact nomatch hsome
  · obtain ⟨x, hx, rfl⟩ := List.mem_map.mp hpend
    have hany : s.holds x.1 = true :=
      List.any_eq_true.mpr ⟨x, hx, decide_eq_true rfl⟩
    rw [hheld] at hany
    exact nomatch hany

omit [DecidableEq κ] in
/-- The request being served has no reply yet. -/
theorem Inv.serving_not_served {start : σ} (h : Inv P handle start s) {c : κ} {q : α}
    (hserving : s.serving = some (c, q)) : c ∉ s.log.map Entry.call := by
  intro hmem
  have hdisj := (List.nodup_append.mp h.nodup).2.2
  refine hdisj c hmem c ?_ rfl
  rw [hserving]
  exact List.mem_cons_self

/-- Filling the slot of a request that was not served yet. -/
theorem replied_concat {log : List (Entry κ α β)} {replies : κ → Option β}
    (h : ∀ c r, replies c = some r ↔ ∃ q, ⟨c, q, r⟩ ∈ log) {c : κ} {q : α} {r : β}
    (hfresh : c ∉ log.map Entry.call) :
    ∀ c' r', Function.update replies c (some r) c' = some r' ↔
      ∃ q', ⟨c', q', r'⟩ ∈ log ++ [⟨c, q, r⟩] := by
  intro c' r'
  by_cases hc : c' = c
  · subst hc
    rw [Function.update_self]
    constructor
    · intro hr
      obtain rfl := Option.some.inj hr
      exact ⟨q, List.mem_append_right _ List.mem_cons_self⟩
    · rintro ⟨q', hmem⟩
      rcases List.mem_append.mp hmem with hold | hnew
      · exact absurd (List.mem_map_of_mem (f := Entry.call) hold) hfresh
      · rw [(Entry.mk.inj (List.mem_singleton.mp hnew)).2.2]
  · rw [Function.update_of_ne hc, h c' r']
    constructor
    · rintro ⟨q', hmem⟩
      exact ⟨q', List.mem_append_left _ hmem⟩
    · rintro ⟨q', hmem⟩
      rcases List.mem_append.mp hmem with hold | hnew
      · exact ⟨q', hold⟩
      · exact absurd (Entry.mk.inj (List.mem_singleton.mp hnew)).1 hc

/-- **One step.** -/
theorem Inv.next {start : σ} (h : Inv P handle start s) (hstep : step P handle s e = some t) :
    Inv P handle start t := by
  cases step_inv hstep with
  | @invoke c q hsend hnew =>
      have habsent : c ∉ s.accepted := by
        have hcall := h.call c
        rcases hcall.mem_calls with hmem | hst
        · exact absurd hmem hnew
        · rw [hst] at hcall
          exact hcall
      refine { h with call := ?_ }
      refine (Function.forall_update_iff s.stage fun c' st => CallInv P _ c' st).mpr ⟨?_, ?_⟩
      · exact ⟨habsent, List.mem_append_right _ List.mem_cons_self, hsend⟩
      · intro c' _
        exact (h.call c').mono id .inl (List.mem_append_left _) (fun _ => id) id fun _ => id
  | @enqueue c q hst hrecv hroom =>
      have hcall := h.call c
      rw [hst] at hcall
      have hacc : ({ s.setStage c .waiting with queue := s.queue ++ [(c, q)] } :
          State κ α β σ).accepted = s.accepted ++ [c] := by
        simp [State.accepted, State.setStage]
      refine { h with
        capacity := ?_, nodup := ?_, ended := fun hend => ?_, call := ?_ }
      · rw [List.length_append]
        exact hroom
      · rw [hacc]
        refine List.nodup_append.mpr ⟨h.nodup, List.nodup_singleton c, ?_⟩
        rintro a ha b hb rfl
        rw [List.mem_singleton.mp hb] at ha
        exact hcall.1 ha
      · rw [show s.receiver = false from hend] at hrecv
        exact nomatch hrecv
      · refine (Function.forall_update_iff s.stage fun c' st => CallInv P _ c' st).mpr ⟨?_, ?_⟩
        · refine ⟨.inl ?_, hcall.2⟩
          rw [hacc]
          exact List.mem_append_right _ List.mem_cons_self
        · intro c' hne
          refine (h.call c').mono ?_ ?_ id (fun _ => id) id fun _ => id
          · intro hmem
            rw [hacc] at hmem
            exact (List.mem_append.mp hmem).resolve_right fun hlast =>
              hne (List.mem_singleton.mp hlast)
          · intro hmem
            rw [hacc]
            exact .inl (List.mem_append_left _ hmem)
  | @refuse c q hst hrecv =>
      have hcall := h.call c
      rw [hst] at hcall
      refine h.setStage ⟨hcall.2.1, hcall.1, hrecv, ?_⟩
      -- a patient task outlives every open call
      by_contra hpatient
      have hsend := h.patient (Bool.not_eq_true _ ▸ hpatient) hrecv
      rw [hcall.2.2] at hsend
      exact nomatch hsend
  | @take x rest hidle hq =>
      have hacc : ({ s with serving := some x, queue := rest } : State κ α β σ).accepted =
          s.accepted := by
        simp [State.accepted, hidle, hq]
      refine { h with
        capacity := ?_, nodup := ?_, ended := fun hend => ?_, call := fun c => ?_ }
      · have hcap := h.capacity
        rw [hq, List.length_cons] at hcap
        exact Nat.le_of_succ_le hcap
      · rw [hacc]; exact h.nodup
      · have hnil := (h.ended hend).1
        rw [hq] at hnil
        exact nomatch hnil
      · exact (h.call c).mono (by rw [hacc]; exact id) (by rw [hacc]; exact .inl) id
          (fun _ => id) id fun _ => id
  | @answer c q hserving =>
      have hfresh := h.serving_not_served hserving
      have hnone : ∀ r, s.replies c ≠ some r := by
        intro r hr
        obtain ⟨q', hmem⟩ := (h.replied c r).mp hr
        exact hfresh (List.mem_map_of_mem (f := Entry.call) hmem)
      refine { h with
        serial := ?_, nodup := ?_, replied := ?_, ended := fun hend => ⟨(h.ended hend).1, rfl⟩,
        call := fun c' => ?_ }
      · rw [State.served, List.map_append, List.map_append]
        exact exec_concat h.serial
      · rw [accepted_served hserving]
        exact h.nodup
      · exact replied_concat h.replied hfresh
      · have hacc : (s.served handle c q).accepted = s.accepted := accepted_served hserving
        refine (h.call c').mono (by rw [hacc]; exact id) (by rw [hacc]; exact .inl) id
          (fun _ => id) id ?_
        intro r hr
        have hc : c' ≠ c := fun heq => hnone r (heq ▸ hr)
        exact (Function.update_of_ne hc ..).trans hr
  | @receive c r hst hr =>
      have hcall := h.call c
      rw [hst] at hcall
      exact h.setStage ⟨hcall.2.1, hr⟩
  | @disconnect c hst hr hheld =>
      have hcall := h.call c
      rw [hst] at hcall
      have hlost := h.not_accepted hr hheld
      have hrecv := hcall.1.resolve_left hlost
      refine h.setStage ⟨hcall.2.1, hlost, hrecv, ?_⟩
      by_contra hpatient
      have hsend := h.patient (Bool.not_eq_true _ ▸ hpatient) hrecv
      rw [hcall.2.2] at hsend
      exact nomatch hsend
  | @abandon c hopen =>
      have hcall := h.call c
      rcases hcall.mem_calls with hmem | hst
      · exact h.setStage hmem
      · rw [hst] at hopen
        exact nomatch hopen
  | hangUp hclosed =>
      refine { h with patient := fun _ _ => rfl, call := fun c => ?_ }
      refine (h.call c).mono id .inl id (fun hopen _ => ?_) id fun _ => id
      -- an open call would hold a sender
      rcases (h.call c).mem_calls with hmem | hst
      · rw [hclosed c hmem] at hopen
        exact nomatch hopen
      · rw [hst] at hopen
        exact nomatch hopen
  | finish hrecv hidle hend =>
      refine { h with
        capacity := Nat.zero_le _, nodup := ?_, ended := fun _ => ⟨rfl, hidle⟩,
        patient := fun hp _ => ?_, call := fun c => ?_ }
      · have hlog := (List.nodup_append.mp h.nodup).1
        simpa [State.accepted, hidle] using hlog
      · rcases hend with hint | hgone
        · rw [hp] at hint
          exact nomatch hint
        · exact hgone.1
      · refine (h.call c).mono ?_ (fun _ => .inr rfl) id (fun _ => id) (fun _ => rfl) fun _ => id
        intro hmem
        refine List.mem_append_left _ ?_
        simpa [State.accepted, hidle] using hmem

-- ── Whole runs ───────────────────────────────────────────────────────────────

section Runs

variable {start : σ} {es : List (Event κ α)}

/-- The state after the events, from the start of the task. -/
def Reaches (P : Params) (handle : σ → α → σ × β) (start : σ) (es : List (Event κ α))
    (s : State κ α β σ) : Prop :=
  run (step P handle) (State.init start) es = some s

theorem Reaches.inv (h : Reaches P handle start es s) : Inv P handle start s :=
  run_induction (P := fun _ s => Inv P handle start s) (inv_init start)
    (fun _ _ _ _ _ hinv hstep => hinv.next hstep) es s h

/-- The calls whose request entered the queue, in that order. -/
def enqueued (es : List (Event κ α)) : List κ :=
  es.filterMap fun
    | .enqueue c => some c
    | _ => none

omit [DecidableEq κ] in
theorem enqueued_concat (es : List (Event κ α)) (e : Event κ α) :
    enqueued (es ++ [e]) = enqueued es ++ enqueued [e] :=
  List.filterMap_append ..

/-- What one step does to the accepted calls. -/
theorem accepted_step (hstep : step P handle s e = some t) :
    t.accepted = s.accepted ++ enqueued [e] ∧ (t.receiver = true → s.receiver = true) ∨
      t.receiver = false ∧ enqueued [e] = [] ∧ t.accepted <+: s.accepted ∧
        (P.interruptible = false → t.accepted = s.accepted) := by
  cases step_inv hstep with
  | invoke => exact .inl ⟨(List.append_nil _).symm, id⟩
  | enqueue => exact .inl ⟨by simp [State.accepted, State.setStage, enqueued], id⟩
  | refuse => exact .inl ⟨(List.append_nil _).symm, id⟩
  | take hidle hq => exact .inl ⟨by simp [State.accepted, hidle, hq, enqueued], id⟩
  | answer hserving =>
      exact .inl ⟨(accepted_served hserving).trans (List.append_nil _).symm, id⟩
  | receive => exact .inl ⟨(List.append_nil _).symm, id⟩
  | disconnect => exact .inl ⟨(List.append_nil _).symm, id⟩
  | abandon => exact .inl ⟨(List.append_nil _).symm, id⟩
  | hangUp => exact .inl ⟨(List.append_nil _).symm, id⟩
  | finish hrecv hidle hend =>
      refine .inr ⟨rfl, rfl, by simp [State.accepted, hidle], fun hp => ?_⟩
      have hempty := (hend.resolve_left fun hint => by rw [hp] at hint; exact nomatch hint).2
      simp [State.accepted, hidle, hempty]

/-- **First come, first served.** -/
theorem Reaches.fifo (h : Reaches P handle start es s) :
    s.accepted <+: enqueued es ∧ (s.receiver = true → s.accepted = enqueued es) := by
  refine run_induction (P := fun es s => s.accepted <+: enqueued es ∧
    (s.receiver = true → s.accepted = enqueued es)) ⟨List.prefix_rfl, fun _ => rfl⟩ ?_ es s h
  intro es e s t hrun ih hstep
  have hinv : Inv P handle start s := Reaches.inv hrun
  rw [enqueued_concat]
  rcases accepted_step hstep with ⟨hacc, hrecv⟩ | ⟨hend, hnone, hpre, -⟩
  · cases hr : s.receiver with
    | true =>
        rw [hacc, ih.2 hr]
        exact ⟨List.prefix_rfl, fun _ => rfl⟩
    | false =>
        -- nothing enters a closed queue
        have hnone : enqueued [e] = [] := by
          cases step_inv hstep with
          | enqueue hst hopen hroom =>
              rw [hr] at hopen
              exact nomatch hopen
          | _ => rfl
        rw [hacc, hnone, List.append_nil, List.append_nil]
        refine ⟨ih.1, fun ht => ?_⟩
        rw [hrecv ht] at hr
        exact nomatch hr
  · rw [hnone, List.append_nil]
    refine ⟨hpre.trans ih.1, fun ht => ?_⟩
    rw [hend] at ht
    exact nomatch ht

/-- A request on its way, wherever it is. -/
def State.Carries (s : State κ α β σ) (c : κ) (q : α) : Prop :=
  s.stage c = .sending q ∨ (c, q) ∈ s.serving.toList ++ s.queue ∨ ∃ r, ⟨c, q, r⟩ ∈ s.log

/-- A request on its way was there before the step, or is the one the step made. -/
theorem carries_step {c : κ} {q : α} (hstep : step P handle s e = some t) (h : t.Carries c q) :
    s.Carries c q ∨ e = .invoke c q := by
  -- a stage that is written is `sending` only in a new call
  have hstage : ∀ {c' : κ} (st : Stage α β), (∀ q, st ≠ .sending q) →
      Function.update s.stage c' st c = .sending q → s.stage c = .sending q := by
    intro c' st hst hupd
    by_cases hc : c = c'
    · subst hc
      rw [Function.update_self] at hupd
      exact absurd hupd (hst q)
    · rwa [Function.update_of_ne hc] at hupd
  cases step_inv hstep with
  | @invoke c' q' hsend hnew =>
      rcases h with hst | hrest
      · by_cases hc : c = c'
        · subst hc
          have hself : Function.update s.stage c (.sending q') c = .sending q' :=
            Function.update_self ..
          exact .inr (by rw [Stage.sending.inj (hself.symm.trans hst)])
        · exact .inl (.inl ((Function.update_of_ne hc ..).symm.trans hst))
      · exact .inl (.inr hrest)
  | @enqueue c' q' hst' hrecv hroom =>
      rcases h with hst | hpend | hlog
      · exact .inl (.inl (hstage .waiting (fun _ h => nomatch h) hst))
      · rw [← List.append_assoc] at hpend
        rcases List.mem_append.mp hpend with hold | hnew
        · exact .inl (.inr (.inl hold))
        · obtain ⟨rfl, rfl⟩ := Prod.mk.inj (List.mem_singleton.mp hnew)
          exact .inl (.inl hst')
      · exact .inl (.inr (.inr hlog))
  | take hidle hq =>
      rcases h with hst | hpend | hlog
      · exact .inl (.inl hst)
      · refine .inl (.inr (.inl ?_))
        rw [hidle, hq]
        exact hpend
      · exact .inl (.inr (.inr hlog))
  | @answer c' q' hserving =>
      rcases h with hst | hpend | ⟨r, hlog⟩
      · exact .inl (.inl hst)
      · exact .inl (.inr (.inl (List.mem_append_right _ hpend)))
      · rcases List.mem_append.mp hlog with hold | hnew
        · exact .inl (.inr (.inr ⟨r, hold⟩))
        · obtain ⟨rfl, rfl, -⟩ := Entry.mk.inj (List.mem_singleton.mp hnew)
          refine .inl (.inr (.inl ?_))
          rw [hserving]
          exact List.mem_cons_self
  | finish hrecv hidle hend =>
      rcases h with hst | hpend | hlog
      · exact .inl (.inl hst)
      · rw [show s.serving.toList ++ [] = [] by rw [hidle]; rfl] at hpend
        exact absurd hpend List.not_mem_nil
      · exact .inl (.inr (.inr hlog))
  | hangUp => exact .inl h
  | refuse => exact .inl (h.imp_left (hstage (.returned (.error .closed)) fun _ h => nomatch h))
  | @receive _ r => exact .inl (h.imp_left (hstage (.returned (.ok r)) fun _ h => nomatch h))
  | disconnect =>
      exact .inl (h.imp_left (hstage (.returned (.error .dropped)) fun _ h => nomatch h))
  | abandon => exact .inl (h.imp_left (hstage .abandoned fun _ h => nomatch h))

/-- Every request on its way was made by its call. -/
theorem Reaches.carries (h : Reaches P handle start es s) {c : κ} {q : α} (hc : s.Carries c q) :
    .invoke c q ∈ es := by
  refine run_induction (P := fun es s => ∀ c q, s.Carries c q → Event.invoke c q ∈ es) ?_ ?_
    es s h c q hc
  · rintro c q (hst | hpend | ⟨r, hlog⟩)
    · exact nomatch hst
    · exact absurd hpend List.not_mem_nil
    · exact absurd hlog List.not_mem_nil
  · intro es e s t _ ih hstep c q hc
    rcases carries_step hstep hc with hold | rfl
    · exact List.mem_append_left _ (ih c q hold)
    · exact List.mem_append_right _ List.mem_cons_self

theorem log_step (hstep : step P handle s e = some t) : s.log <+: t.log := by
  cases step_inv hstep with
  | answer hserving => exact List.prefix_append ..
  | _ => exact List.prefix_rfl

/-- The log only grows. -/
theorem log_run {es : List (Event κ α)} (h : run (step P handle) s es = some t) :
    s.log <+: t.log :=
  run_induction (P := fun _ t => s.log <+: t.log) List.prefix_rfl
    (fun _ _ _ _ _ hpre hstep => hpre.trans (log_step hstep)) es t h

/-- **Real time.** A call that was made after another had returned its reply is not among the
    requests served by then. -/
theorem log_after_return {p q : List (Event κ α)} {c d : κ} {x : α} {r : β}
    (hbefore : Reaches P handle start p s) (hret : s.stage c = .returned (.ok r))
    (hrun : Reaches P handle start (p ++ .invoke d x :: q) t) :
    ∃ l₁ l₂, t.log = l₁ ++ l₂ ∧ c ∈ l₁.map Entry.call ∧ d ∉ l₁.map Entry.call := by
  obtain ⟨s', u, hs', hstep, hrest⟩ := run_split hrun
  obtain rfl : s = s' := Option.some.inj (hbefore.symm.trans hs')
  obtain ⟨l₂, hlog⟩ := (log_step hstep).trans (log_run hrest)
  refine ⟨s.log, l₂, hlog.symm, ?_, ?_⟩
  · have hcall := hbefore.inv.call c
    rw [hret] at hcall
    obtain ⟨y, hmem⟩ := (hbefore.inv.replied c r).mp hcall.2
    exact List.mem_map_of_mem (f := Entry.call) hmem
  · intro hmem
    obtain ⟨y, hy, rfl⟩ := List.mem_map.mp hmem
    cases step_inv hstep with
    | invoke hsend hnew =>
        have hcall := hbefore.inv.call y.call
        rcases hcall.mem_calls with hold | habsent
        · exact hnew hold
        · rw [habsent] at hcall
          exact hcall (List.mem_append_left _ hmem)

/-- The history of a run, explained by the sequential machine. -/
structure Linearized (handle : σ → α → σ × β) (start : σ) (es : List (Event κ α))
    (s : State κ α β σ) : Prop where
  /-- State and replies are those of the machine, run on the log. -/
  serial   : exec handle start (s.log.map Entry.request) =
    (s.server, s.log.map fun x => (x.request, x.reply))
  /-- No request is served twice. -/
  once     : (s.log.map Entry.call).Nodup
  /-- Every request served is the one its call was made with. -/
  made     : ∀ x ∈ s.log, .invoke x.call x.request ∈ es
  /-- What a call returned is the reply to it. -/
  returned : ∀ c r, s.stage c = .returned (.ok r) → ∃ q, ⟨c, q, r⟩ ∈ s.log
  /-- Requests are served in the order in which they entered the queue. -/
  fifo     : s.log.map Entry.call <+: enqueued es

/-- **Linearizability** of every run. -/
theorem Reaches.linearized (h : Reaches P handle start es s) : Linearized handle start es s where
  serial := h.inv.serial
  once := (List.nodup_append.mp h.inv.nodup).1
  made := fun x hx => h.carries (.inr (.inr ⟨x.reply, hx⟩))
  returned := by
    intro c r hret
    have hcall := h.inv.call c
    rw [hret] at hcall
    exact (h.inv.replied c r).mp hcall.2
  fifo := (List.prefix_append ..).trans h.fifo.1

omit [DecidableEq κ] in
/-- The reply in an entry is the machine's, after the requests before it. -/
theorem Linearized.reply_eq (h : Linearized handle start es s) {l₁ l₂ : List (Entry κ α β)}
    {x : Entry κ α β} (hlog : s.log = l₁ ++ x :: l₂) :
    x.reply = (handle (exec handle start (l₁.map Entry.request)).1 x.request).2 := by
  have hserial := h.serial
  rw [hlog, List.map_append, List.map_cons, List.map_append, List.map_cons] at hserial
  exact exec_answer (a := (x.request, x.reply)) (by rw [List.length_map, List.length_map]) hserial

theorem calls_step (hstep : step P handle s e = some t) : s.calls ⊆ t.calls := by
  cases step_inv hstep with
  | invoke => exact List.subset_append_left ..
  | _ => exact List.Subset.refl _

/-- Every call that was made is known. -/
theorem Reaches.mem_calls (h : Reaches P handle start es s) {c : κ} {q : α}
    (hmade : .invoke c q ∈ es) : c ∈ s.calls := by
  refine run_induction (P := fun es s => ∀ c q, Event.invoke c q ∈ es → c ∈ s.calls)
    (fun _ _ hmem => absurd hmem List.not_mem_nil) ?_ es s h c q hmade
  intro es e s t _ ih hstep c q hmem
  rcases List.mem_append.mp hmem with hold | hnew
  · exact calls_step hstep (ih c q hold)
  · obtain rfl := List.mem_singleton.mp hnew
    cases step_inv hstep with
    | invoke => exact List.mem_append_right _ List.mem_cons_self

/-- A call is made once. -/
theorem Reaches.invoke_unique (h : Reaches P handle start es s) {c : κ} {q q' : α}
    (hq : .invoke c q ∈ es) (hq' : .invoke c q' ∈ es) : q = q' := by
  refine run_induction (P := fun es _ => ∀ c q q', Event.invoke c q ∈ es → .invoke c q' ∈ es →
    q = q') (fun _ _ _ hmem => absurd hmem List.not_mem_nil) ?_ es s h c q q' hq hq'
  intro es e s t hrun ih hstep c q q' hq hq'
  -- a second call under the same name is not possible
  have hfresh : ∀ q, e = .invoke c q → ∀ q', .invoke c q' ∉ es := by
    rintro q rfl q' hold
    have hknown := Reaches.mem_calls hrun hold
    cases step_inv hstep with
    | invoke hsend hnew => exact hnew hknown
  rcases List.mem_append.mp hq with hold | hnew
  · rcases List.mem_append.mp hq' with hold' | hnew'
    · exact ih c q q' hold hold'
    · exact absurd hold (hfresh q' (List.mem_singleton.mp hnew').symm q)
  · rcases List.mem_append.mp hq' with hold' | hnew'
    · exact absurd hold' (hfresh q (List.mem_singleton.mp hnew).symm q')
    · rw [← List.mem_singleton.mp hnew] at hnew'
      exact (Event.invoke.inj (List.mem_singleton.mp hnew')).2.symm

/-- A call fails only after the task has ended, and only if it can be ended; its request is never
    served. -/
theorem Reaches.failed (h : Reaches P handle start es s) {c : κ} {f : Failure}
    (hret : s.stage c = .returned (.error f)) :
    s.receiver = false ∧ P.interruptible = true ∧ c ∉ s.log.map Entry.call := by
  have hcall := h.inv.call c
  rw [hret] at hcall
  exact ⟨hcall.2.2.1, hcall.2.2.2, fun hmem => hcall.2.1 (List.mem_append_left _ hmem)⟩

/-- A task that waits for its last sender discards nothing. -/
theorem Reaches.accepted_all (h : Reaches P handle start es s) (hp : P.interruptible = false) :
    s.accepted = enqueued es := by
  refine run_induction (P := fun es s => s.accepted = enqueued es) rfl ?_ es s h
  intro es e s t _ ih hstep
  rw [enqueued_concat, ← ih]
  rcases accepted_step hstep with ⟨hacc, -⟩ | ⟨-, hnone, -, hkept⟩
  · exact hacc
  · rw [hkept hp, hnone, List.append_nil]

-- ── A caller that waits for each of its calls ────────────────────────────────

/-- What a call returned stays. -/
theorem returned_step (h : Inv P handle start s) (hstep : step P handle s e = some t) {c : κ}
    {outcome : Except Failure β} (hret : s.stage c = .returned outcome) :
    t.stage c = .returned outcome := by
  -- the stage of another call changes, or that of an open one
  have hother : ∀ {d : κ} {st : Stage α β}, (d = c → False) →
      Function.update s.stage d st c = .returned outcome := by
    intro d st hne
    rw [Function.update_of_ne (fun heq => hne heq.symm)]
    exact hret
  cases step_inv hstep with
  | @invoke d q hsend hnew =>
      refine hother ?_
      rintro rfl
      rcases (h.call d).mem_calls with hmem | habsent
      · exact hnew hmem
      · rw [hret] at habsent
        cases habsent
  | enqueue hst => exact hother (by rintro rfl; rw [hret] at hst; cases hst)
  | refuse hst => exact hother (by rintro rfl; rw [hret] at hst; cases hst)
  | receive hst => exact hother (by rintro rfl; rw [hret] at hst; cases hst)
  | disconnect hst => exact hother (by rintro rfl; rw [hret] at hst; cases hst)
  | abandon hopen => exact hother (by rintro rfl; rw [hret] at hopen; cases hopen)
  | take => exact hret
  | answer => exact hret
  | hangUp => exact hret
  | finish => exact hret

theorem returned_run (h : Inv P handle start s) {es : List (Event κ α)}
    (hrun : run (step P handle) s es = some t) {c : κ} {outcome : Except Failure β}
    (hret : s.stage c = .returned outcome) : t.stage c = .returned outcome :=
  (run_induction (P := fun _ t => Inv P handle start t ∧ t.stage c = .returned outcome) ⟨h, hret⟩
    (fun _ _ _ _ _ ih hstep => ⟨ih.1.next hstep, returned_step ih.1 hstep ih.2⟩) es t hrun).2

/-- A task that has ended serves nothing more. -/
theorem log_ended (h : Inv P handle start s) (hend : s.receiver = false) {es : List (Event κ α)}
    (hrun : run (step P handle) s es = some t) : t.log = s.log := by
  refine (run_induction (P := fun _ t => Inv P handle start t ∧ t.receiver = false ∧ t.log = s.log)
    ⟨h, hend, rfl⟩ ?_ es t hrun).2.2
  rintro es e u v - ⟨hinv, hrecv, hlog⟩ hstep
  refine ⟨hinv.next hstep, ?_⟩
  cases step_inv hstep with
  | answer hserving =>
      rw [(hinv.ended hrecv).2] at hserving
      cases hserving
  | finish => exact ⟨rfl, hlog⟩
  | _ => exact ⟨hrecv, hlog⟩

/-- The calls of one caller, in order: each is made when those before it have returned. -/
def Sequential (P : Params) (handle : σ → α → σ × β) (start : σ) (es : List (Event κ α))
    (cs : List κ) : Prop :=
  cs.Pairwise fun c d => ∀ p x q, es = p ++ .invoke d x :: q →
    ∃ u outcome, Reaches P handle start p u ∧ u.stage c = .returned outcome

/-- Of two calls of one caller that were served, the earlier is earlier in the log. -/
theorem Reaches.idxOf_lt (h : Reaches P handle start es s) {c d : κ}
    (hseq : ∀ p x q, es = p ++ .invoke d x :: q →
      ∃ u outcome, Reaches P handle start p u ∧ u.stage c = .returned outcome)
    (hc : c ∈ s.log.map Entry.call) (hd : d ∈ s.log.map Entry.call) :
    (s.log.map Entry.call).idxOf c < (s.log.map Entry.call).idxOf d := by
  obtain ⟨y, hy, rfl⟩ := List.mem_map.mp hd
  obtain ⟨p, q, rfl⟩ := List.append_of_mem (h.linearized.made y hy)
  obtain ⟨u, outcome, hu, hret⟩ := hseq p y.request q rfl
  obtain ⟨u', hu', hrest⟩ := run_append_eq_some.mp h
  obtain rfl : u = u' := Option.some.inj (hu.symm.trans hu')
  cases outcome with
  | error f =>
      exact absurd hc (h.failed (returned_run hu.inv hrest hret)).2.2
  | ok r =>
      obtain ⟨l₁, l₂, hlog, hin, hout⟩ := log_after_return hu hret h
      rw [hlog, List.map_append, List.idxOf_append_of_mem hin, List.idxOf_append_of_notMem hout]
      exact Nat.lt_of_lt_of_le (List.idxOf_lt_length_of_mem hin) (Nat.le_add_right ..)

/-- Lists that order their common members alike have the same common members. -/
theorem filter_mem_comm {l cs : List κ} (hl : l.Nodup) (hcs : cs.Nodup)
    (horder : cs.Pairwise fun c d => c ∈ l → d ∈ l → l.idxOf c < l.idxOf d) :
    l.filter (· ∈ cs) = cs.filter (· ∈ l) := by
  have hown : l.Pairwise fun c d => l.idxOf c < l.idxOf d := by
    refine List.pairwise_iff_getElem.mpr ?_
    intro i j hi hj hlt
    rw [hl.idxOf_getElem i hi, hl.idxOf_getElem j hj]
    exact hlt
  have hleft : (l.filter (· ∈ cs)).Pairwise fun c d => l.idxOf c < l.idxOf d :=
    hown.sublist List.filter_sublist
  have hright : (cs.filter (· ∈ l)).Pairwise fun c d => l.idxOf c < l.idxOf d := by
    refine (horder.sublist List.filter_sublist).imp_of_mem ?_
    intro c d hc hd h
    exact h (by simpa using (List.mem_filter.mp hc).2) (by simpa using (List.mem_filter.mp hd).2)
  refine List.Perm.eq_of_pairwise ?_ hleft hright ?_
  · intro c d _ _ hlt hgt
    exact absurd hgt (Nat.lt_asymm hlt)
  · refine (List.perm_ext_iff_of_nodup (hl.filter _) (hcs.filter _)).mpr ?_
    intro c
    simp [List.mem_filter, and_comm]

/-- **Program order.** The calls of one caller that were served are in the log in the order in which
    it made them. -/
theorem Reaches.in_order (h : Reaches P handle start es s) {cs : List κ} (hcs : cs.Nodup)
    (hseq : Sequential P handle start es cs) :
    (s.log.map Entry.call).filter (· ∈ cs) = cs.filter (· ∈ s.log.map Entry.call) :=
  filter_mem_comm h.linearized.once hcs
    (List.Pairwise.imp (fun hcd hc hd => h.idxOf_lt hcd hc hd) hseq)

end Runs

end Mailbox
