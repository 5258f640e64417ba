import Mathlib.Logic.Function.Basic
import Hamlet.Lib.EventRunProofs

/-!
# Get or create, without a transaction

A value is to exist once. Every caller does the same three things: it looks whether the row is
there; if it is not, it makes one of its own; it inserts what it made, and returns what it MADE, not
what is stored. Nothing holds the three together, so other callers act in between; the only
protection is that the slot takes one row and refuses a second.

`Procedure` is such a caller, with everything the environment decides as data of the call, and
`step` interleaves the statements of any number of them. Two results carry over to every procedure:

* `slot_stable` — a row that is there stays there, whatever calls succeed or fail;
* `agreement` — every call that returns a value returns one that fits the row in the slot.

`run_alone` says that the interleaved steps of one call, taken together, are `exec`.
-/

namespace GetOrCreate

open EventRun

variable {ι κ ρ α E : Type*}

/-- One get-or-create procedure. A call is `c : κ`, with how each of its statements goes. -/
structure Procedure (κ ρ α E : Type*) where
  /-- The query goes through, or fails. -/
  query    : κ → Except E Unit
  /-- What is made of the row that was found. -/
  load     : κ → ρ → Except E α
  /-- A new row, with the value it stands for. -/
  generate : κ → Except E (ρ × α)
  /-- The insert into an empty slot goes through, or fails. -/
  insert   : κ → Except E Unit
  /-- The error of an insert into a slot that is taken. -/
  taken    : κ → E

/-- The insert: the slot takes a row only while it is empty. -/
def Procedure.put (P : Procedure κ ρ α E) (c : κ) (row : ρ) (result : α) :
    Option ρ → Except E α × Option ρ
  | some old => (.error (P.taken c), some old)
  | none =>
      match P.insert c with
      | .error e => (.error e, none)
      | .ok ()   => (.ok result, some row)

/-- A whole call with nobody in between. -/
def Procedure.exec (P : Procedure κ ρ α E) (c : κ) (slot : Option ρ) : Except E α × Option ρ :=
  match P.query c with
  | .error e => (.error e, slot)
  | .ok ()   =>
      match slot with
      | some row => (P.load c row, some row)
      | none     =>
          match P.generate c with
          | .error e => (.error e, none)
          | .ok (row, result) => P.put c row result none

/-- How far a call has come. -/
inductive Phase (κ ρ α E : Type*) where
  | idle
  /-- The slot was empty when it looked. -/
  | absent (c : κ)
  | ready (c : κ) (row : ρ) (result : α)
  | done (answer : Except E α)

/-- The slot, and how far each of the callers has come. -/
structure State (ι κ ρ α E : Type*) where
  slot  : Option ρ
  phase : ι → Phase κ ρ α E

/-- The statements of the callers, one at a time. -/
inductive Event (ι κ : Type*) where
  | select (i : ι) (c : κ)
  | generate (i : ι)
  | insert (i : ι)

/-- Nobody has started. -/
def start (slot : Option ρ) : State ι κ ρ α E := ⟨slot, fun _ => .idle⟩

/-- The phase after the query. -/
def Procedure.afterSelect (P : Procedure κ ρ α E) (c : κ) (slot : Option ρ) : Phase κ ρ α E :=
  match P.query c, slot with
  | .error e, _      => .done (.error e)
  | .ok (), some row => .done (P.load c row)
  | .ok (), none     => .absent c

/-- The phase after the generation. -/
def Procedure.afterGenerate (P : Procedure κ ρ α E) (c : κ) : Phase κ ρ α E :=
  match P.generate c with
  | .error e          => .done (.error e)
  | .ok (row, result) => .ready c row result

variable [DecidableEq ι]

/-- The caller goes on to a phase. -/
def State.goTo (s : State ι κ ρ α E) (i : ι) (p : Phase κ ρ α E) : State ι κ ρ α E :=
  { s with phase := Function.update s.phase i p }

/-- One statement of one caller. -/
def step (P : Procedure κ ρ α E) (s : State ι κ ρ α E) : Event ι κ → Option (State ι κ ρ α E)
  | .select i c =>
      match s.phase i with
      | .idle => some (s.goTo i (P.afterSelect c s.slot))
      | _ => none
  | .generate i =>
      match s.phase i with
      | .absent c => some (s.goTo i (P.afterGenerate c))
      | _ => none
  | .insert i =>
      match s.phase i with
      | .ready c row result =>
          let put := P.put c row result s.slot
          some { s.goTo i (.done put.1) with slot := put.2 }
      | _ => none

variable {P : Procedure κ ρ α E} {s s' : State ι κ ρ α E} {e : Event ι κ} {es : List (Event ι κ)}
  {slot : Option ρ}

@[simp] theorem goTo_slot (s : State ι κ ρ α E) (i : ι) (p : Phase κ ρ α E) :
    (s.goTo i p).slot = s.slot := rfl

@[simp] theorem goTo_phase_self (s : State ι κ ρ α E) (i : ι) (p : Phase κ ρ α E) :
    (s.goTo i p).phase i = p := by
  simp [State.goTo]

theorem goTo_phase_of_ne (s : State ι κ ρ α E) {i j : ι} (h : j ≠ i) (p : Phase κ ρ α E) :
    (s.goTo i p).phase j = s.phase j := by
  simp [State.goTo, h]

/-- What a step can do. -/
inductive Moves (P : Procedure κ ρ α E) (s : State ι κ ρ α E) : Event ι κ → State ι κ ρ α E → Prop
  | select (i : ι) (c : κ) (hi : s.phase i = .idle) :
      Moves P s (.select i c) (s.goTo i (P.afterSelect c s.slot))
  | generate (i : ι) (c : κ) (hi : s.phase i = .absent c) :
      Moves P s (.generate i) (s.goTo i (P.afterGenerate c))
  | insert (i : ι) (c : κ) (row : ρ) (result : α) (hi : s.phase i = .ready c row result) :
      Moves P s (.insert i)
        { s.goTo i (.done (P.put c row result s.slot).1) with
          slot := (P.put c row result s.slot).2 }

theorem moves_of_step (h : step P s e = some s') : Moves P s e s' := by
  cases e with
  | select i c =>
      simp only [step] at h
      split at h
      case h_1 hi => cases h; exact .select i c hi
      case h_2 => cases h
  | generate i =>
      simp only [step] at h
      split at h
      case h_1 c hi => cases h; exact .generate i c hi
      case h_2 => cases h
  | insert i =>
      simp only [step] at h
      split at h
      case h_1 c row result hi => cases h; exact .insert i c row result hi
      case h_2 => cases h

/-- An insert leaves a row that is there. -/
theorem put_some (c : κ) (row old : ρ) (result : α) :
    (P.put c row result (some old)).2 = some old := rfl

/-- An insert that succeeds has stored its row. -/
theorem put_ok {c : κ} {row : ρ} {result a : α} {slot : Option ρ}
    (h : (P.put c row result slot).1 = .ok a) :
    (P.put c row result slot).2 = some row ∧ a = result := by
  cases slot with
  | some old => cases h
  | none =>
      simp only [Procedure.put] at h ⊢
      split at h
      case h_1 => cases h
      case h_2 hins =>
          obtain rfl : result = a := Except.ok.inj h
          exact ⟨rfl, rfl⟩

-- ── A row that is there stays ────────────────────────────────────────────────

theorem Moves.slot_some (h : Moves P s e s') {row : ρ} (hs : s.slot = some row) :
    s'.slot = some row := by
  cases h with
  | select i c hi => exact hs
  | generate i c hi => exact hs
  | insert i c row' result hi =>
      show (P.put c row' result s.slot).2 = some row
      rw [hs, put_some]

/-- **A row is never replaced or removed**, by calls that succeed or fail. -/
theorem slot_stable {row : ρ} (hs : s.slot = some row) (h : run (step P) s es = some s') :
    s'.slot = some row :=
  run_induction (P := fun _ t => t.slot = some row) hs
    (fun _ _ _ _ _ ih hstep => (moves_of_step hstep).slot_some ih) es s' h

/-- The same, between two points of a run. -/
theorem slot_stable_append {s₀ : State ι κ ρ α E} {p q : List (Event ι κ)} {row : ρ}
    (hp : run (step P) s₀ p = some s) (h : run (step P) s₀ (p ++ q) = some s')
    (hs : s.slot = some row) : s'.slot = some row := by
  obtain ⟨t, ht, hrest⟩ := run_append_eq_some.mp h
  obtain rfl : s = t := Option.some.inj (hp.symm.trans ht)
  exact slot_stable hs hrest

-- ── What is returned fits the row ────────────────────────────────────────────

section Agreement

variable {Fits : ρ → α → Prop}

/-- Every value returned, and every value about to be, fits its row. -/
structure Consistent (Fits : ρ → α → Prop) (s : State ι κ ρ α E) : Prop where
  answered : ∀ i a, s.phase i = .done (.ok a) → ∃ row, s.slot = some row ∧ Fits row a
  prepared : ∀ i c row a, s.phase i = .ready c row a → Fits row a

/-- One caller goes on while the slot keeps its row: the others are as they were. -/
theorem Consistent.goTo (h : Consistent Fits s) (i : ι) {p : Phase κ ρ α E} {slot : Option ρ}
    (hslot : ∀ row, s.slot = some row → slot = some row)
    (hdone : ∀ a, p = .done (.ok a) → ∃ row, slot = some row ∧ Fits row a)
    (hready : ∀ c row a, p = .ready c row a → Fits row a) :
    Consistent Fits { s.goTo i p with slot := slot } := by
  refine ⟨?_, ?_⟩
  · intro j a hj
    have hj' : (s.goTo i p).phase j = .done (.ok a) := hj
    by_cases hij : j = i
    · rw [hij, goTo_phase_self] at hj'
      exact hdone a hj'
    · rw [goTo_phase_of_ne s hij] at hj'
      obtain ⟨row, hrow, hfits⟩ := h.answered j a hj'
      exact ⟨row, hslot row hrow, hfits⟩
  · intro j c row a hj
    have hj' : (s.goTo i p).phase j = .ready c row a := hj
    by_cases hij : j = i
    · rw [hij, goTo_phase_self] at hj'
      exact hready c row a hj'
    · rw [goTo_phase_of_ne s hij] at hj'
      exact h.prepared j c row a hj'

variable (hload : ∀ c row a, P.load c row = .ok a → Fits row a)
  (hgenerate : ∀ c row a, P.generate c = .ok (row, a) → Fits row a)

include hload in
theorem afterSelect_ok {c : κ} {slot : Option ρ} {a : α}
    (h : P.afterSelect c slot = .done (.ok a)) : ∃ row, slot = some row ∧ Fits row a := by
  unfold Procedure.afterSelect at h
  split at h
  case h_1 => cases h
  case h_2 row _ => exact ⟨row, rfl, hload c row a (Phase.done.inj h)⟩
  case h_3 => cases h

include hgenerate in
theorem afterGenerate_ready {c c' : κ} {row : ρ} {a : α}
    (h : P.afterGenerate c = .ready c' row a) : Fits row a := by
  unfold Procedure.afterGenerate at h
  split at h
  case h_1 => cases h
  case h_2 hgen => cases h; exact hgenerate c row a hgen

include hload hgenerate in
theorem Moves.consistent (h : Moves P s e s') (hs : Consistent Fits s) : Consistent Fits s' := by
  cases h with
  | select i c hi =>
      refine hs.goTo i (fun row hrow => hrow) (fun a ha => afterSelect_ok hload ha) ?_
      intro c' row a ha
      unfold Procedure.afterSelect at ha
      split at ha <;> cases ha
  | generate i c hi =>
      refine hs.goTo i (fun row hrow => hrow) ?_ (fun c' row a => afterGenerate_ready hgenerate)
      intro a ha
      unfold Procedure.afterGenerate at ha
      split at ha <;> cases ha
  | insert i c row result hi =>
      refine hs.goTo i ?_ ?_ (by simp)
      · intro old hold
        rw [hold, put_some]
      · intro a ha
        obtain ⟨hslot, rfl⟩ := put_ok (Phase.done.inj ha)
        exact ⟨row, hslot, hs.prepared i c row a hi⟩

include hload hgenerate in
/-- **Agreement.** In every interleaving, a call that returns a value returns one that fits the row
    in the slot. -/
theorem agreement (h : run (step P) (start slot) es = some s) (i : ι) (a : α)
    (hi : s.phase i = .done (.ok a)) : ∃ row, s.slot = some row ∧ Fits row a := by
  have hconsistent : Consistent Fits s := by
    refine run_induction (P := fun _ t => Consistent Fits t) ?_ ?_ es s h
    · exact ⟨fun _ _ hj => (by cases hj), fun _ _ _ _ hj => (by cases hj)⟩
    · intro _ _ t u _ ih hstep
      exact (moves_of_step hstep).consistent hload hgenerate ih
  exact hconsistent.answered i a hi

end Agreement

-- ── One call by itself ───────────────────────────────────────────────────────

theorem step_select {i : ι} {c : κ} (hi : s.phase i = .idle) :
    step P s (.select i c) = some (s.goTo i (P.afterSelect c s.slot)) := by
  simp only [step, hi]

theorem step_generate {i : ι} {c : κ} (hi : s.phase i = .absent c) :
    step P s (.generate i) = some (s.goTo i (P.afterGenerate c)) := by
  simp only [step, hi]

theorem step_insert {i : ι} {c : κ} {row : ρ} {result : α} (hi : s.phase i = .ready c row result) :
    step P s (.insert i) = some
      { s.goTo i (.done (P.put c row result s.slot).1) with
        slot := (P.put c row result s.slot).2 } := by
  simp only [step, hi]

/-- The statements of one call, with nobody in between, come to the answer and the slot of
    `exec`. -/
theorem run_alone (i : ι) (c : κ) (hi : s.phase i = .idle) :
    ∃ es s', run (step P) s (.select i c :: es) = some s' ∧
      s'.phase i = .done (P.exec c s.slot).1 ∧ s'.slot = (P.exec c s.slot).2 := by
  have hselect := step_select (P := P) (c := c) hi
  cases hquery : P.query c with
  | error err =>
      refine ⟨[], s.goTo i (P.afterSelect c s.slot), ?_, ?_, ?_⟩
      · rw [run_singleton, hselect]
      · simp [Procedure.afterSelect, Procedure.exec, hquery]
      · simp [Procedure.exec, hquery]
  | ok u =>
      cases hslot : s.slot with
      | some row =>
          refine ⟨[], s.goTo i (P.afterSelect c s.slot), ?_, ?_, ?_⟩
          · rw [run_singleton, hselect]
          · simp [Procedure.afterSelect, Procedure.exec, hquery, hslot]
          · simp [Procedure.exec, hquery, hslot]
      | none =>
          have habsent : (s.goTo i (P.afterSelect c s.slot)).phase i = .absent c := by
            simp [Procedure.afterSelect, hquery, hslot]
          have hgenerate := step_generate (P := P) habsent
          cases hgen : P.generate c with
          | error err =>
              have hrun : run (step P) s [.select i c, .generate i]
                  = some ((s.goTo i (P.afterSelect c s.slot)).goTo i (P.afterGenerate c)) := by
                rw [run_cons, hselect, Option.bind_some, run_singleton, hgenerate]
              refine ⟨_, _, hrun, ?_, ?_⟩
              · simp [Procedure.afterGenerate, Procedure.exec, hquery, hgen]
              · simp [Procedure.exec, hquery, hgen, hslot]
          | ok made =>
              obtain ⟨row, result⟩ := made
              have hready : ((s.goTo i (P.afterSelect c s.slot)).goTo i
                  (P.afterGenerate c)).phase i = .ready c row result := by
                simp [Procedure.afterGenerate, hgen]
              have hrun : run (step P) s [.select i c, .generate i, .insert i] =
                  step P ((s.goTo i (P.afterSelect c s.slot)).goTo i (P.afterGenerate c))
                    (.insert i) := by
                rw [run_cons, hselect, Option.bind_some, run_cons, hgenerate, Option.bind_some,
                  run_singleton]
              refine ⟨_, _, hrun.trans (step_insert hready), ?_, ?_⟩
              · simp [State.goTo, Procedure.exec, hquery, hgen, hslot]
              · simp [Procedure.exec, hquery, hgen, hslot]

end GetOrCreate
