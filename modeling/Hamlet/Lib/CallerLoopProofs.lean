import Hamlet.Lib.MailboxProofs
import Hamlet.Lib.SimulationProofs

/-!
# A caller that goes through a list

One of the callers of a mailbox is a loop. It makes the calls of a list one after another, waits for
each, and looks at what it returned: `goesOn` says whether it makes the next one or ends there. The
task and the other callers do what they like meanwhile.

`refines` says that the loop is one caller of the mailbox among others, so that its `trace` is a run
of the mailbox. `progress_run` says what the loop does in it: at every time it has passed the calls
at the front of its list, has one under way or was ended by it, and has not made those behind; and
whenever it made one, it had passed all before it.
-/

namespace CallerLoop

open EventRun
open Mailbox (Params Failure Stage)

variable {κ ι α β σ : Type*}

-- ── The loop ─────────────────────────────────────────────────────────────────

/-- What a request asks for, and the results after which the loop goes on. -/
structure Body (ι α β : Type*) where
  asks   : α → ι
  goesOn : Except Failure β → Bool

structure State (κ ι α β σ : Type*) where
  calls   : Mailbox.State κ α β σ
  /-- The calls still to be made, each with what it is to ask for. -/
  todo    : List (κ × ι)
  /-- The call under way. -/
  awaited : Option κ
  /-- The result that has ended the loop before its list did. -/
  broken  : Option (Except Failure β)

def State.init (server : σ) (list : List (κ × ι)) : State κ ι α β σ where
  calls   := .init server
  todo    := list
  awaited := none
  broken  := none

inductive Event (κ α : Type*) where
  /-- What happens in the mailbox, the loop's new calls apart. -/
  | mailbox (e : Mailbox.Event κ α)
  /-- The loop makes its next call. -/
  | call (q : α)
  /-- The call under way has returned, and the loop looks at the result. -/
  | resume

/-- The call that an event makes. -/
def made : Mailbox.Event κ α → Option κ
  | .invoke c _ => some c
  | _           => none

variable [DecidableEq κ] [DecidableEq ι]

def step (P : Params) (handle : σ → α → σ × β) (body : Body ι α β) (list : List (κ × ι))
    (s : State κ ι α β σ) : Event κ α → Option (State κ ι α β σ)
  | .mailbox e =>
      if (made e).all fun c => decide (c ∉ list.map Prod.fst) then
        (Mailbox.step P handle s.calls e).map fun calls => { s with calls := calls }
      else none
  | .call q =>
      match s.awaited, s.todo with
      | none, x :: rest =>
          if body.asks q = x.2 then
            (Mailbox.step P handle s.calls (.invoke x.1 q)).map fun calls =>
              { s with calls := calls, todo := rest, awaited := some x.1 }
          else none
      | _, _ => none
  | .resume =>
      match s.awaited with
      | none => none
      | some c =>
          match s.calls.stage c with
          | .returned outcome =>
              if body.goesOn outcome then some { s with awaited := none }
              else some { s with awaited := none, todo := [], broken := some outcome }
          | _ => none

variable {P : Params} {handle : σ → α → σ × β} {body : Body ι α β} {list : List (κ × ι)}
  {s s' : State κ ι α β σ} {start : σ}

/-- The step function read backwards. -/
inductive Moves (P : Params) (handle : σ → α → σ × β) (body : Body ι α β) (list : List (κ × ι))
    (s : State κ ι α β σ) : Event κ α → State κ ι α β σ → Prop
  | mailbox {e : Mailbox.Event κ α} {calls : Mailbox.State κ α β σ}
      (hother : ∀ c q, e = .invoke c q → c ∉ list.map Prod.fst)
      (hstep : Mailbox.step P handle s.calls e = some calls) :
      Moves P handle body list s (.mailbox e) { s with calls := calls }
  | call {q : α} {x : κ × ι} {rest : List (κ × ι)} {calls : Mailbox.State κ α β σ}
      (hidle : s.awaited = none) (htodo : s.todo = x :: rest) (hasks : body.asks q = x.2)
      (hstep : Mailbox.step P handle s.calls (.invoke x.1 q) = some calls) :
      Moves P handle body list s (.call q)
        { s with calls := calls, todo := rest, awaited := some x.1 }
  | goOn {c : κ} {outcome : Except Failure β} (hawaited : s.awaited = some c)
      (hret : s.calls.stage c = .returned outcome) (hgo : body.goesOn outcome = true) :
      Moves P handle body list s .resume { s with awaited := none }
  | stop {c : κ} {outcome : Except Failure β} (hawaited : s.awaited = some c)
      (hret : s.calls.stage c = .returned outcome) (hstop : body.goesOn outcome = false) :
      Moves P handle body list s .resume
        { s with awaited := none, todo := [], broken := some outcome }

theorem moves_of_step {e : Event κ α} (h : step P handle body list s e = some s') :
    Moves P handle body list s e s' := by
  cases e with
  | mailbox e =>
      rw [step] at h
      split at h
      · rename_i hother
        obtain ⟨calls, hstep, rfl⟩ := Option.map_eq_some_iff.mp h
        refine .mailbox ?_ hstep
        rintro c q rfl
        exact of_decide_eq_true hother
      · exact nomatch h
  | call q =>
      rw [step] at h
      split at h
      · rename_i x rest hidle htodo
        split at h
        · rename_i hasks
          obtain ⟨calls, hstep, rfl⟩ := Option.map_eq_some_iff.mp h
          exact .call hidle htodo hasks hstep
        · exact nomatch h
      · exact nomatch h
  | resume =>
      rw [step] at h
      split at h
      · exact nomatch h
      · rename_i c hawaited
        split at h
        · rename_i outcome hret
          split at h
          · rename_i hgo
            exact Option.some.inj h ▸ .goOn hawaited hret hgo
          · rename_i hstop
            exact Option.some.inj h ▸ .stop hawaited hret (Bool.eq_false_iff.mpr hstop)
        · exact nomatch h

-- ── The loop is a caller ─────────────────────────────────────────────────────

/-- What an event is in the mailbox. -/
def emit (s : State κ ι α β σ) : Event κ α → List (Mailbox.Event κ α)
  | .mailbox e => [e]
  | .call q    => s.todo.head?.toList.map fun x => .invoke x.1 q
  | .resume    => []

omit [DecidableEq κ] [DecidableEq ι] in
theorem emit_call {q : α} {x : κ × ι} {rest : List (κ × ι)} (h : s.todo = x :: rest) :
    emit s (.call q) = [.invoke x.1 q] := by
  rw [emit, h]
  rfl

/-- **The loop is a caller of the mailbox.** -/
theorem refines (P : Params) (handle : σ → α → σ × β) (body : Body ι α β) (list : List (κ × ι)) :
    Simulation.Refines (step P handle body list) (Mailbox.step P handle) emit
      fun (s : State κ ι α β σ) a => s.calls = a := by
  rintro s e s' a rfl h
  cases moves_of_step h with
  | mailbox hother hstep => exact ⟨_, (run_singleton ..).trans hstep, rfl⟩
  | call hidle htodo hasks hstep =>
      rw [emit_call htodo]
      exact ⟨_, (run_singleton ..).trans hstep, rfl⟩
  | goOn | stop => exact ⟨s.calls, rfl, rfl⟩

/-- The run of the mailbox under a run of the loop. -/
def trace (P : Params) (handle : σ → α → σ × β) (body : Body ι α β) (list : List (κ × ι))
    (start : σ) (es : List (Event κ α)) : List (Mailbox.Event κ α) :=
  Simulation.image (step P handle body list) emit (State.init start list) es

-- ── How far the loop is ──────────────────────────────────────────────────────

/-- The call has returned and the loop goes on after it. -/
def Passed (body : Body ι α β) (calls : Mailbox.State κ α β σ) (c : κ) : Prop :=
  ∃ outcome, calls.stage c = .returned outcome ∧ body.goesOn outcome = true

/-- The call that the loop is at, if any, and those behind it. -/
inductive At (body : Body ι α β) (s : State κ ι α β σ) : List (κ × ι) → List (κ × ι) → Prop
  | idle (hawaited : s.awaited = none) (hbroken : s.broken = none) : At body s [] s.todo
  | awaiting {x : κ × ι} (hawaited : s.awaited = some x.1) (hbroken : s.broken = none) :
      At body s [x] s.todo
  | broken {x : κ × ι} {behind : List (κ × ι)} {outcome : Except Failure β}
      (hawaited : s.awaited = none) (htodo : s.todo = []) (hbroken : s.broken = some outcome)
      (hret : s.calls.stage x.1 = .returned outcome) (hstop : body.goesOn outcome = false) :
      At body s [x] behind

/-- What a run has made of the list: the calls before `here` are passed, those behind not made. -/
structure Place (body : Body ι α β) (list : List (κ × ι)) (s : State κ ι α β σ)
    (before here behind : List (κ × ι)) : Prop where
  split  : list = before ++ (here ++ behind)
  passed : ∀ x ∈ before, Passed body s.calls x.1
  unmade : ∀ x ∈ behind, x.1 ∉ s.calls.calls
  stands : At body s here behind

/-- Whenever the one call was made, the loop had passed the other. -/
def After (P : Params) (handle : σ → α → σ × β) (body : Body ι α β) (start : σ)
    (es : List (Mailbox.Event κ α)) (y x : κ × ι) : Prop :=
  ∀ p q r, es = p ++ .invoke x.1 q :: r →
    ∃ u, Mailbox.Reaches P handle start p u ∧ Passed body u y.1

/-- What the loop has done in a run of the mailbox. -/
structure Progress (P : Params) (handle : σ → α → σ × β) (body : Body ι α β)
    (list : List (κ × ι)) (start : σ) (es : List (Mailbox.Event κ α)) (s : State κ ι α β σ) :
    Prop where
  reaches : Mailbox.Reaches P handle start es s.calls
  asked   : ∀ x ∈ list, ∀ q, .invoke x.1 q ∈ es → body.asks q = x.2
  ordered : list.Pairwise (After P handle body start es)
  place   : ∃ before here behind, Place body list s before here behind

variable {es : List (Mailbox.Event κ α)} {before here behind : List (κ × ι)}

omit [DecidableEq ι] in
theorem After.concat {x y : κ × ι} (h : After P handle body start es y x) {e : Mailbox.Event κ α}
    (hnew : ∀ q, e = .invoke x.1 q →
      ∃ u, Mailbox.Reaches P handle start es u ∧ Passed body u y.1) :
    After P handle body start (es ++ [e]) y x := by
  intro p q r heq
  rcases List.eq_nil_or_concat r with rfl | ⟨r, d, rfl⟩
  · obtain ⟨rfl, hlast⟩ := List.append_inj' heq rfl
    exact hnew q (List.singleton_inj.mp hlast)
  · rw [List.concat_eq_append, ← List.cons_append, ← List.append_assoc] at heq
    obtain ⟨hinit, -⟩ := List.append_inj' heq rfl
    exact h p q r hinit

omit [DecidableEq ι] in
theorem Passed.step {calls calls' : Mailbox.State κ α β σ} {e : Mailbox.Event κ α} {c : κ}
    (h : Passed body calls c) (hinv : Mailbox.Inv P handle start calls)
    (hstep : Mailbox.step P handle calls e = some calls') : Passed body calls' c := by
  obtain ⟨outcome, hret, hgo⟩ := h
  exact ⟨outcome, Mailbox.returned_step hinv hstep hret, hgo⟩

/-- Only a call that is made becomes known. -/
theorem mem_calls_step {calls calls' : Mailbox.State κ α β σ} {e : Mailbox.Event κ α} {c : κ}
    (hstep : Mailbox.step P handle calls e = some calls') (hc : c ∈ calls'.calls) :
    c ∈ calls.calls ∨ ∃ q, e = .invoke c q := by
  cases Mailbox.step_inv hstep with
  | @invoke d q hsend hnew =>
      rcases List.mem_append.mp hc with hold | hnew'
      · exact .inl hold
      · exact .inr ⟨q, by rw [List.mem_singleton.mp hnew']⟩
  | _ => exact .inl hc

omit [DecidableEq ι] in
theorem progress_init (hnames : (list.map Prod.fst).Nodup) :
    Progress P handle body list start [] (State.init start list) where
  reaches := rfl
  asked _ _ _ h := absurd h List.not_mem_nil
  ordered := by
    refine List.Pairwise.imp (fun _ p q r heq => ?_) (List.Nodup.of_map Prod.fst hnames)
    exact absurd heq (List.ne_nil_of_mem (List.mem_append_right p List.mem_cons_self)).symm
  place := ⟨[], [], list, rfl, fun _ h => absurd h List.not_mem_nil,
    fun _ _ => List.not_mem_nil, .idle rfl rfl⟩

omit [DecidableEq ι] in
/-- The loop stands where it stood when something else happens. -/
theorem Place.mailbox (h : Place body list s before here behind)
    (hinv : Mailbox.Inv P handle start s.calls) {e : Mailbox.Event κ α}
    {calls : Mailbox.State κ α β σ} (hother : ∀ c q, e = .invoke c q → c ∉ list.map Prod.fst)
    (hstep : Mailbox.step P handle s.calls e = some calls) :
    Place body list { s with calls := calls } before here behind where
  split := h.split
  passed x hx := (h.passed x hx).step hinv hstep
  unmade x hx hmem := by
    rcases mem_calls_step hstep hmem with hold | ⟨q, rfl⟩
    · exact h.unmade x hx hold
    · refine hother x.1 q rfl (List.mem_map_of_mem ?_)
      rw [h.split]
      exact List.mem_append_right _ (List.mem_append_right _ hx)
  stands := by
    cases h.stands with
    | idle hawaited hbroken => exact .idle hawaited hbroken
    | awaiting hawaited hbroken => exact .awaiting hawaited hbroken
    | broken hawaited htodo hbroken hret hstop =>
        exact .broken hawaited htodo hbroken (Mailbox.returned_step hinv hstep hret) hstop

omit [DecidableEq κ] [DecidableEq ι] in
/-- A loop with a call to make is at none, and has passed all before it. -/
theorem Place.next (h : Place body list s before here behind) {x : κ × ι} {rest : List (κ × ι)}
    (hidle : s.awaited = none) (htodo : s.todo = x :: rest) :
    list = before ++ x :: rest ∧ s.broken = none ∧ ∀ y ∈ rest, y.1 ∉ s.calls.calls := by
  cases h.stands with
  | idle hawaited hbroken =>
      refine ⟨?_, hbroken, fun y hy => h.unmade y ?_⟩
      · rw [h.split, htodo]
        rfl
      · rw [htodo]
        exact List.mem_cons_of_mem x hy
  | awaiting hawaited hbroken => exact nomatch hidle.symm.trans hawaited
  | broken hawaited htodo' => exact nomatch htodo'.symm.trans htodo

omit [DecidableEq κ] [DecidableEq ι] in
/-- The call the loop waits for. -/
theorem Place.current (h : Place body list s before here behind) {c : κ}
    (hawaited : s.awaited = some c) :
    ∃ i, here = [(c, i)] ∧ behind = s.todo ∧ s.broken = none := by
  cases h.stands with
  | idle hnone => exact nomatch hnone.symm.trans hawaited
  | @awaiting x hx hbroken =>
      obtain rfl := Option.some.inj (hx.symm.trans hawaited)
      exact ⟨x.2, rfl, rfl, hbroken⟩
  | broken hnone => exact nomatch hnone.symm.trans hawaited

/-- **What a step does to the loop.** -/
theorem Progress.next (h : Progress P handle body list start es s)
    (hnames : (list.map Prod.fst).Nodup) {e : Event κ α}
    (hstep : step P handle body list s e = some s') :
    Progress P handle body list start (es ++ emit s e) s' := by
  obtain ⟨before, here, behind, hplace⟩ := h.place
  have hinv := h.reaches.inv
  cases moves_of_step hstep with
  | @mailbox e calls hother hcalls =>
      refine ⟨run_concat_eq_some.mpr ⟨_, h.reaches, hcalls⟩, ?_, ?_, before, here, behind,
        hplace.mailbox hinv hother hcalls⟩
      · intro x hx q hmem
        rcases List.mem_append.mp hmem with hold | hnew
        · exact h.asked x hx q hold
        · exact absurd (List.mem_map_of_mem hx) (hother x.1 q (List.mem_singleton.mp hnew).symm)
      · refine h.ordered.imp_of_mem fun hy hx hafter => hafter.concat ?_
        intro q heq
        exact absurd (List.mem_map_of_mem hx) (hother _ q heq)
  | @call q x rest calls hidle htodo hasks hcalls =>
      obtain ⟨hlist, hbroken, hunmade⟩ := hplace.next hidle htodo
      -- nothing else in the list has the name of this call
      have hname : ∀ y ∈ before ++ rest, y.1 ≠ x.1 := by
        rw [hlist, List.map_append, List.map_cons] at hnames
        intro y hy heq
        have hfresh := (List.nodup_cons.mp (List.nodup_middle.mp hnames)).1
        rw [← List.map_append] at hfresh
        exact hfresh (heq ▸ List.mem_map_of_mem hy)
      rw [emit_call htodo]
      refine ⟨run_concat_eq_some.mpr ⟨_, h.reaches, hcalls⟩, ?_, ?_, before, [x], rest, ?_⟩
      · intro y hy q' hmem
        rcases List.mem_append.mp hmem with hold | hnew
        · exact h.asked y hy q' hold
        · obtain ⟨heq, rfl⟩ := Mailbox.Event.invoke.inj (List.mem_singleton.mp hnew)
          rw [hlist] at hy
          rcases List.mem_append.mp hy with hbefore | hrest
          · exact absurd heq (hname y (List.mem_append_left _ hbefore))
          · rcases List.mem_cons.mp hrest with rfl | hrest
            · exact hasks
            · exact absurd heq (hname y (List.mem_append_right _ hrest))
      · have hnew : list.Pairwise fun y z => z.1 = x.1 → Passed body s.calls y.1 := by
          rw [hlist]
          refine List.pairwise_append.mpr ⟨?_, List.pairwise_cons.mpr ⟨?_, ?_⟩, ?_⟩
          · exact List.pairwise_of_forall_mem_list fun y hy z _ _ => hplace.passed y hy
          · exact fun z hz heq => absurd heq (hname z (List.mem_append_right _ hz))
          · exact List.pairwise_of_forall_mem_list fun y _ z hz heq =>
              absurd heq (hname z (List.mem_append_right _ hz))
          · exact fun y hy z _ _ => hplace.passed y hy
        refine (h.ordered.and hnew).imp fun ⟨hafter, hpassed⟩ => hafter.concat ?_
        intro q' heq
        exact ⟨s.calls, h.reaches, hpassed (Mailbox.Event.invoke.inj heq).1.symm⟩
      · refine ⟨hlist, fun y hy => (hplace.passed y hy).step hinv hcalls, ?_, ?_⟩
        · intro y hy hmem
          rcases mem_calls_step hcalls hmem with hold | ⟨q', heq⟩
          · exact hunmade y hy hold
          · exact hname y (List.mem_append_right _ hy) (Mailbox.Event.invoke.inj heq).1.symm
        · exact .awaiting rfl hbroken
  | @goOn c outcome hawaited hret hgo =>
      obtain ⟨i, rfl, rfl, hbroken⟩ := hplace.current hawaited
      rw [emit, List.append_nil]
      refine ⟨h.reaches, h.asked, h.ordered, before ++ [(c, i)], [], s.todo, ?_⟩
      refine ⟨?_, ?_, hplace.unmade, .idle rfl hbroken⟩
      · rw [hplace.split, List.append_assoc]
        rfl
      · intro x hx
        rcases List.mem_append.mp hx with hold | hnew
        · exact hplace.passed x hold
        · rw [List.mem_singleton.mp hnew]
          exact ⟨outcome, hret, hgo⟩
  | @stop c outcome hawaited hret hstop =>
      obtain ⟨i, rfl, rfl, hbroken⟩ := hplace.current hawaited
      rw [emit, List.append_nil]
      exact ⟨h.reaches, h.asked, h.ordered, before, [(c, i)], s.todo, hplace.split,
        hplace.passed, hplace.unmade, .broken rfl rfl rfl hret hstop⟩

/-- **What a run of the loop is.** -/
theorem progress_run (hnames : (list.map Prod.fst).Nodup) {es : List (Event κ α)}
    (h : run (step P handle body list) (State.init start list) es = some s) :
    Progress P handle body list start (trace P handle body list start es) s := by
  refine run_induction (P := fun es s =>
    Progress P handle body list start (trace P handle body list start es) s)
    (progress_init hnames) ?_ es s h
  intro es e s s' hrun ih hstep
  rw [trace, Simulation.image_concat hrun hstep]
  exact ih.next hnames hstep

end CallerLoop
