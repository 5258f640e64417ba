import Hamlet.Lib.EventRunProofs
import Hamlet.Lib.HistoryProofs
import Hamlet.KeyManagementProofs

/-!
# The life of a broadcast key

A key is generated, is active until the first `get_or_rotate_key` at or after its `rotates_at`,
is retired, and is deleted by the first sweep at or after its `expires_at`. BOTH deadlines are fixed
when the key is generated. This file follows the keys along runs of calls on a clock that does not
go back; a run keeps, beside the table, the last clock reading and three records that the code does
not have: the key used last, the ids drawn so far, and when each key was retired.

* `key_stability` — when nothing fails and keys are configured to outlive their rotation, a key
  stays in use exactly until `rotates_at`, and its row stays until it expires.
* `retained_iff` — `key_expiry` is documented as the time a RETIRED key is kept, but is counted from
  the time the key was GENERATED. A retired key is there for all of that time exactly when no sweep
  falls between the two.
* `rows_bounded` — keys are generated a rotation interval apart, also when statements fail, so that
  the table does not outgrow the quotient of the two settings.
-/

namespace HamletKeyLifecycle

open EventRun KeyedTable HamletKeyManagement

structure KeyRun where
  table     : BroadcastKeys
  /-- The last clock reading. -/
  clock     : ℕ
  /-- The key that the last successful `get_or_rotate_key` returned. -/
  used      : Option BroadcastKey
  /-- Every id that was drawn. -/
  generated : List (List.Vector UInt8 4)
  /-- Every row that was retired, with the clock reading of the rotation that did it. -/
  retired   : List (KeyRow × ℕ)

namespace KeyRun

/-- The empty table; the clock counts from the epoch. -/
def start : KeyRun where
  table     := .empty
  clock     := 0
  used      := none
  generated := []
  retired   := []

/-- The call gets to `rotate_key`. -/
def Rotates (s : KeyRun) (c : GetCall) : Prop :=
  c.query = .ok () ∧ activeRow s.table c.now = none

instance (s : KeyRun) (c : GetCall) : Decidable (s.Rotates c) :=
  inferInstanceAs (Decidable (_ ∧ _))

/-- The `UPDATE` of the rotation took effect. -/
def Retires (s : KeyRun) (c : GetCall) : Prop := s.Rotates c ∧ c.retire = .ok ()

instance (s : KeyRun) (c : GetCall) : Decidable (s.Retires c) :=
  inferInstanceAs (Decidable (_ ∧ _))

def afterGet (m : BroadcastKeyManagement) (s : KeyRun) (c : GetCall) : KeyRun where
  table     := (m.getOrRotateKey s.table c).2
  clock     := if s.Rotates c then c.rotateNow else c.now
  used      :=
    match (m.getOrRotateKey s.table c).1 with
    | .ok k => some k
    | .error _ => s.used
  generated := if s.Rotates c then s.generated ++ [c.keyId] else s.generated
  retired   :=
    if s.Retires c then s.retired ++ (activeRows s.table).map fun r => (r, c.rotateNow)
    else s.retired

def afterSweep (s : KeyRun) (c : SweepCall) : KeyRun :=
  { s with table := (sweepExpired s.table c).2, clock := c.now }

end KeyRun

/-- One call, at readings of a clock that does not go back. -/
def step (m : BroadcastKeyManagement) (s : KeyRun) : KeyCall → Option KeyRun
  | .get c =>
      if s.clock ≤ c.now ∧ (s.Rotates c → c.now ≤ c.rotateNow) then some (s.afterGet m c) else none
  | .sweep c => if s.clock ≤ c.now then some (s.afterSweep c) else none

variable {m : BroadcastKeyManagement} {s s' : KeyRun}

theorem step_get {c : GetCall} :
    step m s (.get c) = some s' ↔
      (s.clock ≤ c.now ∧ (s.Rotates c → c.now ≤ c.rotateNow)) ∧ s' = s.afterGet m c := by
  rw [step, Option.ite_none_right_eq_some, Option.some.injEq, eq_comm (a := s')]

theorem step_sweep {c : SweepCall} :
    step m s (.sweep c) = some s' ↔ s.clock ≤ c.now ∧ s' = s.afterSweep c := by
  rw [step, Option.ite_none_right_eq_some, Option.some.injEq, eq_comm (a := s')]

/-- The table of a step is the table of the call. -/
theorem step_table {d : KeyCall} (h : step m s d = some s') : s'.table = m.call s.table d := by
  cases d with
  | get c => rw [(step_get.mp h).2]; rfl
  | sweep c => rw [(step_sweep.mp h).2]; rfl

/-- The clock does not go back. -/
theorem step_clock {d : KeyCall} (h : step m s d = some s') : s.clock ≤ s'.clock := by
  cases d with
  | get c =>
      obtain ⟨⟨hnow, hrot⟩, rfl⟩ := step_get.mp h
      rw [KeyRun.afterGet]
      by_cases hr : s.Rotates c
      · simp only [if_pos hr]
        exact hnow.trans (hrot hr)
      · simp only [if_neg hr]
        exact hnow
  | sweep c =>
      obtain ⟨hnow, rfl⟩ := step_sweep.mp h
      exact hnow

-- ── Retired rows stay ────────────────────────────────────────────────────────

/-- A retired row survives every call but a sweep at or after its `expires_at`. -/
theorem retired_row_stays {t : BroadcastKeys} {x : KeyRow} (hx : x ∈ t.rows)
    (hretired : x.isActive = false) {d : KeyCall}
    (hd : ∀ c, d = .sweep c → c.now < x.expiresAt) : x ∈ (m.call t d).rows := by
  cases d with
  | get c =>
      show x ∈ (m.getOrRotateKey t c).2.rows
      have hkept : x ∈ (retireActive t).rows := Table.mem_update_of_not hx hretired
      rcases getOrRotateKey_table m t c with heq | ⟨-, -, heq | hins⟩
      · rw [heq]; exact hx
      · rw [heq]; exact hkept
      · rw [(Table.insert?_eq_some.mp hins).2]
        exact List.mem_append_left _ hkept
  | sweep c =>
      show x ∈ (sweepExpired t c).2.rows
      rcases sweepExpired_table t c with ⟨-, heq⟩ | ⟨-, heq⟩
      · rw [heq]; exact hx
      · rw [heq]
        exact mem_deleteExpired.mpr ⟨hx, hd c rfl⟩

/-- No sweep of the run is at or after a time. -/
def NoSweepFrom (time : ℕ) (es : List KeyCall) : Prop :=
  ∀ c, KeyCall.sweep c ∈ es → c.now < time

theorem retired_row_stays_run {x : KeyRow} (hx : x ∈ s.table.rows) (hretired : x.isActive = false)
    {es : List KeyCall} (hrun : run (step m) s es = some s') (hes : NoSweepFrom x.expiresAt es) :
    x ∈ s'.table.rows := by
  refine run_induction
    (P := fun es (u : KeyRun) => NoSweepFrom x.expiresAt es → x ∈ u.table.rows)
    (fun _ => hx) ?_ es s' hrun hes
  intro es d t u _ ih hstep hes
  have ht := ih fun c hc => hes c (List.mem_append_left _ hc)
  rw [step_table hstep]
  exact retired_row_stays ht hretired fun c hd => hes c (by rw [hd]; simp)

-- ── Stability ────────────────────────────────────────────────────────────────

/-- Nothing fails, and an id that is drawn was never drawn before. -/
def Undisturbed (s : KeyRun) : KeyCall → Prop
  | .get c =>
      c.query = .ok () ∧ c.retire = .ok () ∧ c.insert = .ok () ∧
        (s.Rotates c → c.keyId ∉ s.generated)
  | .sweep c => c.delete = .ok ()

/-- What an undisturbed run knows about the key in use: the active row, if there is one, is its
    row, and it is there unless a sweep came at or after its `expires_at`. -/
structure Tracked (es : List KeyCall) (s : KeyRun) : Prop where
  well_formed : WellFormed s.table
  sweeps_past : ∀ c, KeyCall.sweep c ∈ es → c.now ≤ s.clock
  drawn       : ∀ r ∈ s.table.rows, ∃ id ∈ s.generated, r.keyId = id.toList
  active_used : ∀ r ∈ activeRows s.table, ∃ k, s.used = some k ∧ r.Holds k
  used_drawn  : ∀ k, s.used = some k → k.keyId ∈ s.generated
  outlives    : ∀ k, s.used = some k → k.rotatesAt < k.expiresAt
  used_active : ∀ k, s.used = some k → NoSweepFrom k.expiresAt es →
    ∃ r ∈ activeRows s.table, r.Holds k

/-- An undisturbed `get_or_rotate_key` returns the key in use, or a new one. -/
theorem get_undisturbed {es : List KeyCall} (h : Tracked es s) {c : GetCall}
    (hc : Undisturbed s (.get c)) :
    (∃ r k, activeRow s.table c.now = some r ∧ r.Holds k ∧ s.used = some k ∧
        m.getOrRotateKey s.table c = (.ok k, s.table)) ∨
      (s.Rotates c ∧ ∃ t', (retireActive s.table).insert? (m.newRow c) = some t' ∧
        m.getOrRotateKey s.table c = (.ok (m.newKey c), t')) := by
  obtain ⟨hquery, hretire, hinsert, hfresh⟩ := hc
  cases hrow : activeRow s.table c.now with
  | some r =>
      obtain ⟨hr, -⟩ := of_activeRow_eq_some hrow
      obtain ⟨k, hused, hholds⟩ := h.active_used r hr
      obtain ⟨k', hbuild, hholds'⟩ := h.well_formed.buildKey (mem_activeRows.mp hr).1
      obtain rfl := hholds.unique hholds'
      refine .inl ⟨r, k, rfl, hholds, hused, ?_⟩
      simp only [BroadcastKeyManagement.getOrRotateKey, hquery, hrow, hbuild]
  | none =>
      have hrot : s.Rotates c := ⟨hquery, hrow⟩
      -- no row has the id that is drawn, so the `INSERT` goes through
      obtain ⟨t', hins⟩ : ∃ t', (retireActive s.table).insert? (m.newRow c) = some t' := by
        rw [← Option.isSome_iff_exists, ← Option.not_isNone, Bool.not_eq_true',
          ← Bool.not_eq_true, Option.isNone_iff_eq_none, Table.insert?_eq_none]
        rintro ⟨x, hx, hid⟩
        obtain ⟨r, hr, rfl⟩ := mem_retireActive.mp hx
        obtain ⟨id, hmem, hrid⟩ := h.drawn r hr
        have hsame : id = c.keyId := Subtype.ext (hrid.symm.trans hid)
        exact hfresh hrot (hsame ▸ hmem)
      refine .inr ⟨hrot, t', hins, ?_⟩
      simp only [BroadcastKeyManagement.getOrRotateKey, hquery, hrow,
        BroadcastKeyManagement.rotateKey, hretire, hinsert, hins]

theorem tracked_start : Tracked [] .start where
  well_formed := .empty
  sweeps_past := fun _ h => nomatch h
  drawn       := fun _ h => nomatch h
  active_used := fun _ h => nomatch h
  used_drawn  := fun _ h => nomatch h
  outlives    := fun _ h => nomatch h
  used_active := fun _ h => nomatch h

theorem tracked_get (hE : m.rotationInterval < m.keyExpiry) {es : List KeyCall}
    (h : Tracked es s) {c : GetCall} (hc : Undisturbed s (.get c))
    (hstep : step m s (.get c) = some s') : Tracked (es ++ [.get c]) s' := by
  have hclock := step_clock hstep
  have hwf : WellFormed s'.table := by
    rw [step_table hstep]
    exact h.well_formed.call _
  have hsweeps : ∀ d, KeyCall.sweep d ∈ es ++ [.get c] → KeyCall.sweep d ∈ es := by
    intro d hd
    simpa using hd
  have hpast : ∀ d, KeyCall.sweep d ∈ es ++ [.get c] → d.now ≤ s'.clock :=
    fun d hd => (h.sweeps_past d (hsweeps d hd)).trans hclock
  obtain ⟨-, rfl⟩ := step_get.mp hstep
  rcases get_undisturbed (m := m) h hc with ⟨r, k, hrow, hholds, hused, heq⟩ | ⟨hrot, t', hins, heq⟩
  · have hnot : ¬ s.Rotates c := fun hrot => nomatch hrow.symm.trans hrot.2
    have htable : (s.afterGet m c).table = s.table := congrArg Prod.snd heq
    have husedk : (s.afterGet m c).used = s.used := by
      simp only [KeyRun.afterGet, heq, hused]
    have hgen : (s.afterGet m c).generated = s.generated := if_neg hnot
    refine ⟨hwf, hpast, ?_, ?_, ?_, ?_, ?_⟩
    · rw [htable, hgen]; exact h.drawn
    · rw [htable, husedk]; exact h.active_used
    · rw [husedk, hgen]; exact h.used_drawn
    · rw [husedk]; exact h.outlives
    · rw [htable, husedk]
      exact fun k hk hno => h.used_active k hk fun d hd => hno d (List.mem_append_left _ hd)
  · have htable : (s.afterGet m c).table = t' := congrArg Prod.snd heq
    have hrows : t'.rows = (retireActive s.table).rows ++ [m.newRow c] :=
      (Table.insert?_eq_some.mp hins).2
    have hactive : activeRows t' = [m.newRow c] := activeRows_insert hins
    have husedk : (s.afterGet m c).used = some (m.newKey c) := by
      simp only [KeyRun.afterGet, heq]
    have hgen : (s.afterGet m c).generated = s.generated ++ [c.keyId] := if_pos hrot
    have hholds : (m.newRow c).Holds (m.newKey c) := ⟨rfl, rfl, rfl, rfl⟩
    refine ⟨hwf, hpast, ?_, ?_, ?_, ?_, ?_⟩
    · rw [htable, hrows, hgen]
      intro x hx
      rcases List.mem_append.mp hx with hx | hx
      · obtain ⟨r, hr, rfl⟩ := mem_retireActive.mp hx
        obtain ⟨id, hid, hrid⟩ := h.drawn r hr
        exact ⟨id, List.mem_append_left _ hid, hrid⟩
      · rw [List.mem_singleton.mp hx]
        exact ⟨c.keyId, List.mem_append_right _ List.mem_cons_self, rfl⟩
    · rw [htable, husedk, hactive]
      intro r hr
      rw [List.mem_singleton.mp hr]
      exact ⟨_, rfl, hholds⟩
    · rw [husedk, hgen]
      rintro k hk
      obtain rfl := Option.some.inj hk
      exact List.mem_append_right _ List.mem_cons_self
    · rw [husedk]
      rintro k hk
      obtain rfl := Option.some.inj hk
      exact Nat.add_lt_add_left hE _
    · rw [htable, husedk, hactive]
      rintro k hk -
      obtain rfl := Option.some.inj hk
      exact ⟨_, List.mem_cons_self, hholds⟩

theorem tracked_sweep {es : List KeyCall} (h : Tracked es s) {c : SweepCall}
    (hc : Undisturbed s (.sweep c)) (hstep : step m s (.sweep c) = some s') :
    Tracked (es ++ [.sweep c]) s' := by
  have hwf : WellFormed s'.table := by
    rw [step_table hstep]
    exact h.well_formed.call _
  obtain ⟨hnow, rfl⟩ := step_sweep.mp hstep
  have htable : (s.afterSweep c).table = deleteExpired s.table c.now := by
    rcases sweepExpired_table s.table c with ⟨hno, -⟩ | ⟨-, heq⟩
    · exact absurd hc hno
    · exact heq
  have hactive : ∀ r, r ∈ activeRows (deleteExpired s.table c.now) ↔
      r ∈ activeRows s.table ∧ c.now < r.expiresAt := by
    intro r
    rw [mem_activeRows, mem_activeRows, mem_deleteExpired]
    exact and_right_comm
  refine ⟨hwf, ?_, ?_, ?_, h.used_drawn, h.outlives, ?_⟩
  · intro d hd
    rcases List.mem_append.mp hd with hd | hd
    · exact (h.sweeps_past d hd).trans hnow
    · obtain rfl : d = c := by simpa using hd
      exact le_rfl
  · rw [htable]
    exact fun r hr => h.drawn r (mem_deleteExpired.mp hr).1
  · rw [htable]
    exact fun r hr => h.active_used r ((hactive r).mp hr).1
  · rw [htable]
    intro k hk hno
    obtain ⟨r, hr, hholds⟩ := h.used_active k hk fun d hd => hno d (List.mem_append_left _ hd)
    have hlater : c.now < k.expiresAt := hno c (List.mem_append_right _ List.mem_cons_self)
    exact ⟨r, (hactive r).mpr ⟨hr, hholds.2.2.2 ▸ hlater⟩, hholds⟩

/-- The invariant along undisturbed runs. -/
theorem tracked_run (hE : m.rotationInterval < m.keyExpiry) {es : List KeyCall}
    (hrun : run (step m) .start es = some s) (hes : EachStep (step m) .start es Undisturbed) :
    Tracked es s := by
  refine run_induction
    (P := fun es s => EachStep (step m) .start es Undisturbed → Tracked es s)
    (fun _ => tracked_start) ?_ es s hrun hes
  intro es d t u ht ih hstep hes
  cases d with
  | get c => exact tracked_get hE (ih hes.init) (hes.last ht) hstep
  | sweep c => exact tracked_sweep (ih hes.init) (hes.last ht) hstep

/-- The row of a key is in the table, and retired. -/
def RetiredRow (k : BroadcastKey) (t : BroadcastKeys) : Prop :=
  ∃ r ∈ t.rows, r.Holds k ∧ r.isActive = false

/-- **Key stability.** Take an undisturbed run on a clock that does not go back, with keys that
    outlive their rotation, and let `k` be the key it used last. The next `get_or_rotate_key`, at
    `now`, returns `k` exactly when `now < k.rotates_at`. Otherwise it returns a new key with a new
    deadline, and `k` stays in the table, retired, along every continuation of the run as long as
    no sweep has come at or after `k.expires_at`. -/
theorem key_stability (m : BroadcastKeyManagement) (hE : m.rotationInterval < m.keyExpiry)
    (es : List KeyCall) (s : KeyRun) (hrun : run (step m) .start es = some s)
    (hes : EachStep (step m) .start es Undisturbed) (k : BroadcastKey) (hused : s.used = some k)
    (c : GetCall) (hc : Undisturbed s (.get c)) (s' : KeyRun)
    (hstep : step m s (.get c) = some s') :
    ∃ k', (m.getOrRotateKey s.table c).1 = .ok k' ∧ (k' = k ↔ c.now < k.rotatesAt) ∧
      (k.rotatesAt ≤ c.now → k'.keyId ≠ k.keyId ∧
        k'.rotatesAt = c.rotateNow + m.rotationInterval ∧
        ∀ rest u, run (step m) s' rest = some u → NoSweepFrom k.expiresAt (es ++ rest) →
          RetiredRow k u.table) := by
  have h := tracked_run hE hrun hes
  obtain ⟨⟨hnow, -⟩, rfl⟩ := step_get.mp hstep
  rcases get_undisturbed (m := m) h hc with
    ⟨r, k', hrow, hholds, hused', heq⟩ | ⟨hrot, t', hins, heq⟩
  · obtain rfl : k = k' := Option.some.inj (hused.symm.trans hused')
    have hlt : c.now < k.rotatesAt := hholds.2.2.1 ▸ (of_activeRow_eq_some hrow).2
    exact ⟨k, congrArg Prod.fst heq, ⟨fun _ => hlt, fun _ => rfl⟩, fun hle => absurd hle (by omega)⟩
  · have hnew : (m.newKey c).keyId ≠ k.keyId := by
      intro hid
      have hid' : c.keyId = k.keyId := hid
      refine hc.2.2.2 hrot ?_
      rw [hid']
      exact h.used_drawn k hused
    -- a key before its deadline has an active row, which the query would have found
    have hge : k.rotatesAt ≤ c.now := by
      by_contra hlt
      have hout := h.outlives k hused
      have hno : NoSweepFrom k.expiresAt es := by
        intro d hd
        have hpast := h.sweeps_past d hd
        omega
      obtain ⟨r, hr, hholds⟩ := h.used_active k hused hno
      have hdue := activeRow_eq_none.mp hrot.2 r hr
      rw [hholds.2.2.1] at hdue
      exact hlt hdue
    refine ⟨m.newKey c, congrArg Prod.fst heq, ⟨?_, fun hlt => absurd hge (by omega)⟩, ?_⟩
    · rintro rfl
      exact absurd rfl hnew
    · refine fun _ => ⟨hnew, rfl, ?_⟩
      intro rest u hrest hno
      obtain ⟨r, hr, hholds⟩ := h.used_active k hused fun d hd => hno d (List.mem_append_left _ hd)
      have hretired : { r with isActive := false } ∈ (s.afterGet m c).table.rows := by
        have htable : (s.afterGet m c).table = t' := congrArg Prod.snd heq
        rw [htable, (Table.insert?_eq_some.mp hins).2]
        exact List.mem_append_left _
          (mem_retireActive.mpr ⟨r, (mem_activeRows.mp hr).1, rfl⟩)
      refine ⟨_, retired_row_stays_run hretired rfl hrest ?_, hholds, rfl⟩
      intro d hd
      show d.now < r.expiresAt
      rw [hholds.2.2.2]
      exact hno d (List.mem_append_right _ hd)

/-- A `get_or_rotate_key` at one time, drawing one byte over and over, in which nothing fails. -/
def plainGet (time : ℕ) (byte : UInt8) : GetCall where
  now         := time
  query       := .ok ()
  rotateNow   := time
  keyMaterial := .replicate 16 byte
  keyId       := .replicate 4 byte
  retire      := .ok ()
  insert      := .ok ()

/-- A `sweep_expired` that does not fail. -/
def plainSweep (time : ℕ) : SweepCall where
  now    := time
  delete := .ok ()

/-- One broadcast cycle at time 0. -/
def firstCycle : List KeyCall := [.get (plainGet 0 1), .sweep (plainSweep 0)]

/-- The state after it. -/
def afterFirstCycle (m : BroadcastKeyManagement) : KeyRun :=
  (KeyRun.start.afterGet m (plainGet 0 1)).afterSweep (plainSweep 0)

/-- Keys that rotate after ten seconds and expire after twenty: at ten seconds a new key is used,
    and the first one is still in the table. -/
theorem key_stability_rotation :
    run (step ⟨10, 20⟩) .start firstCycle = some (afterFirstCycle ⟨10, 20⟩) ∧
      (afterFirstCycle ⟨10, 20⟩).used =
        some (BroadcastKeyManagement.newKey ⟨10, 20⟩ (plainGet 0 1)) ∧
      RetiredRow (BroadcastKeyManagement.newKey ⟨10, 20⟩ (plainGet 0 1))
        ((afterFirstCycle ⟨10, 20⟩).afterGet ⟨10, 20⟩ (plainGet 10 2)).table := by
  have hrun : run (step ⟨10, 20⟩) .start firstCycle = some (afterFirstCycle ⟨10, 20⟩) := rfl
  have hes : EachStep (step ⟨10, 20⟩) .start firstCycle Undisturbed := by
    refine eachStep_cons ⟨rfl, rfl, rfl, fun _ h => nomatch h⟩ fun t _ => ?_
    exact eachStep_cons rfl fun u _ => eachStep_nil u _
  have hc : Undisturbed (afterFirstCycle ⟨10, 20⟩) (.get (plainGet 10 2)) :=
    ⟨rfl, rfl, rfl, fun _ => by decide⟩
  obtain ⟨k', -, -, hlate⟩ := key_stability ⟨10, 20⟩ (by decide) firstCycle _ hrun hes _ rfl
    (plainGet 10 2) hc _ rfl
  refine ⟨hrun, rfl, (hlate le_rfl).2.2 [] _ rfl ?_⟩
  intro d hd
  obtain rfl : d = plainSweep 0 := by simpa [firstCycle] using hd
  decide

-- ── Retention ────────────────────────────────────────────────────────────────

/-- Every key that a rotation at `r` retired is in the table until `r + key_expiry`. -/
def Retained (m : BroadcastKeyManagement) (s : KeyRun) : Prop :=
  ∀ x ∈ s.retired, s.clock < x.2 + m.keyExpiry → { x.1 with isActive := false } ∈ s.table.rows

/-- A sweep does not fall between the time at which a retired key expires, which was fixed when it
    was generated, and the time until which it is to be kept. -/
def SparesRetired (m : BroadcastKeyManagement) (s : KeyRun) : KeyCall → Prop
  | .get _ => True
  | .sweep c => c.delete = .ok () → ∀ x ∈ s.retired,
      ¬ (x.1.createdAt + m.keyExpiry ≤ c.now ∧ c.now < x.2 + m.keyExpiry)

/-- Every row expires `key_expiry` after it was generated. -/
structure Dated (m : BroadcastKeyManagement) (s : KeyRun) : Prop where
  rows    : ∀ r ∈ s.table.rows, r.expiresAt = r.createdAt + m.keyExpiry
  retired : ∀ x ∈ s.retired, x.1.expiresAt = x.1.createdAt + m.keyExpiry

/-- The record of a rotation that retired the active rows. -/
theorem retired_afterGet (s : KeyRun) (c : GetCall) {x : KeyRow × ℕ}
    (hx : x ∈ (s.afterGet m c).retired) :
    x ∈ s.retired ∨ (s.Retires c ∧ x.1 ∈ activeRows s.table ∧ x.2 = c.rotateNow) := by
  by_cases h : s.Retires c
  · have hret : (s.afterGet m c).retired =
        s.retired ++ (activeRows s.table).map fun r => (r, c.rotateNow) := if_pos h
    rw [hret, List.mem_append, List.mem_map] at hx
    rcases hx with hx | ⟨r, hr, rfl⟩
    · exact .inl hx
    · exact .inr ⟨h, hr, rfl⟩
  · have hret : (s.afterGet m c).retired = s.retired := if_neg h
    exact .inl (hret ▸ hx)

/-- When the `UPDATE` took effect, the rows of before are in the table, retired. -/
theorem retires_mem {c : GetCall} (h : s.Retires c) {r : KeyRow} (hr : r ∈ s.table.rows) :
    { r with isActive := false } ∈ (s.afterGet m c).table.rows := by
  obtain ⟨⟨hquery, hnone⟩, hretire⟩ := h
  have hmem : { r with isActive := false } ∈ (retireActive s.table).rows :=
    mem_retireActive.mpr ⟨r, hr, rfl⟩
  have hget : m.getOrRotateKey s.table c = m.rotateKey s.table c := by
    simp only [BroadcastKeyManagement.getOrRotateKey, hquery, hnone]
  show _ ∈ (m.getOrRotateKey s.table c).2.rows
  rw [hget]
  rcases rotateKey_cases m s.table c with ⟨hno, -⟩ | ⟨-, e, heq⟩ | ⟨-, t', hins, heq⟩
  · exact absurd hretire hno
  · rw [heq]; exact hmem
  · rw [heq, (Table.insert?_eq_some.mp hins).2]
    exact List.mem_append_left _ hmem

theorem dated_start : Dated m .start :=
  ⟨fun _ h => (nomatch h), fun _ h => (nomatch h)⟩

theorem dated_run {es : List KeyCall} (hrun : run (step m) .start es = some s) : Dated m s := by
  refine run_induction (P := fun _ s => Dated m s) dated_start ?_ es s hrun
  intro es d t u _ ih hstep
  refine ⟨?_, ?_⟩
  · rw [step_table hstep]
    exact call_rows (fun _ hr => hr) (fun _ => rfl) ih.rows d
  · cases d with
    | get c =>
        obtain ⟨-, rfl⟩ := step_get.mp hstep
        intro x hx
        rcases retired_afterGet t c hx with hx | ⟨-, hx, -⟩
        · exact ih.retired x hx
        · exact ih.rows _ (mem_activeRows.mp hx).1
    | sweep c =>
        obtain ⟨-, rfl⟩ := step_sweep.mp hstep
        exact ih.retired

/-- A step that spares the retired keys keeps them. -/
theorem retained_step (hdated : Dated m s) (h : Retained m s) {d : KeyCall}
    (hspares : SparesRetired m s d) (hstep : step m s d = some s') : Retained m s' := by
  have hclock := step_clock hstep
  intro x hx htime
  cases d with
  | get c =>
      obtain ⟨-, rfl⟩ := step_get.mp hstep
      rcases retired_afterGet s c hx with hx | ⟨hret, hx, -⟩
      · exact retired_row_stays (d := .get c) (h x hx (by omega)) rfl nofun
      · exact retires_mem hret (mem_activeRows.mp hx).1
  | sweep c =>
      obtain ⟨hnow, rfl⟩ := step_sweep.mp hstep
      have hold : { x.1 with isActive := false } ∈ s.table.rows := h x hx (by omega)
      show _ ∈ (sweepExpired s.table c).2.rows
      rcases sweepExpired_table s.table c with ⟨-, heq⟩ | ⟨hok, heq⟩
      · rw [heq]; exact hold
      · rw [heq]
        refine mem_deleteExpired.mpr ⟨hold, ?_⟩
        show c.now < x.1.expiresAt
        rw [hdated.retired x hx]
        by_contra hle
        exact hspares hok x hx ⟨not_lt.mp hle, htime⟩

/-- A sweep that does not spare them loses one at once. -/
theorem not_retained_step (hdated : Dated m s) {d : KeyCall} (hspares : ¬ SparesRetired m s d)
    (hstep : step m s d = some s') : ¬ Retained m s' := by
  cases d with
  | get c => exact absurd trivial hspares
  | sweep c =>
      obtain ⟨hnow, rfl⟩ := step_sweep.mp hstep
      rw [SparesRetired] at hspares
      push Not at hspares
      obtain ⟨hok, x, hx, hexpired, hearly⟩ := hspares
      intro h
      have hmem : { x.1 with isActive := false } ∈ (sweepExpired s.table c).2.rows := h x hx hearly
      rcases sweepExpired_table s.table c with ⟨hno, -⟩ | ⟨-, heq⟩
      · exact hno hok
      · rw [heq] at hmem
        have hlater : c.now < x.1.expiresAt := (mem_deleteExpired.mp hmem).2
        rw [hdated.retired x hx] at hlater
        omega

/-- **When retired keys are retained.** In a run on a clock that does not go back, every key that
    was retired at `r` is in the table at every time before `r + key_expiry` exactly when no sweep
    takes effect at a time between `created_at + key_expiry` and `r + key_expiry` for a key that was
    retired by then. -/
theorem retained_iff (m : BroadcastKeyManagement) (es : List KeyCall) (s : KeyRun)
    (hrun : run (step m) .start es = some s) :
    Throughout (step m) .start es (Retained m) ↔ EachStep (step m) .start es (SparesRetired m) := by
  refine throughout_iff_eachStep (I := fun _ s => Dated m s) (J := Retained m) hrun
    (fun p q t _ ht => dated_run ht) ?_ ?_ (fun _ _ _ h => h) ?_
  · exact fun x hx => nomatch hx
  · exact fun _ _ _ _ hdated _ h hC hstep => retained_step hdated h hC hstep
  · exact fun _ _ _ _ hdated _ hstep hC => not_retained_step hdated hC hstep

/-- A key is generated at the epoch, rotated out as soon as its time is up, and swept when
    `key_expiry` has passed since it was GENERATED. -/
def lateSweep (m : BroadcastKeyManagement) : List KeyCall :=
  [.get (plainGet 0 1), .get (plainGet (max m.rotationInterval 1) 2),
    .sweep (plainSweep m.keyExpiry)]

/-- No configuration retains its retired keys: every one that keeps keys past their rotation has a
    run that loses one too early, without any failure. -/
theorem no_configuration_retains (m : BroadcastKeyManagement)
    (hE : m.rotationInterval < m.keyExpiry) :
    ∃ s, run (step m) .start (lateSweep m) = some s ∧
      ¬ Throughout (step m) .start (lateSweep m) (Retained m) := by
  let s₁ := KeyRun.start.afterGet m (plainGet 0 1)
  let rotation := plainGet (max m.rotationInterval 1) 2
  have hrot : s₁.Rotates rotation := by
    refine ⟨rfl, activeRow_eq_none.mpr ?_⟩
    intro r hr
    obtain rfl : r = m.newRow (plainGet 0 1) := List.mem_singleton.mp hr
    show 0 + m.rotationInterval ≤ max m.rotationInterval 1
    omega
  have hclock : (s₁.afterGet m rotation).clock = max m.rotationInterval 1 := if_pos hrot
  have hretired : (s₁.afterGet m rotation).retired =
      [(m.newRow (plainGet 0 1), max m.rotationInterval 1)] := if_pos ⟨hrot, rfl⟩
  have hfirst : step m .start (.get (plainGet 0 1)) = some s₁ := rfl
  have hsecond : step m s₁ (.get rotation) = some (s₁.afterGet m rotation) :=
    step_get.mpr ⟨⟨Nat.zero_le _, fun _ => le_rfl⟩, rfl⟩
  have hsweep : step m (s₁.afterGet m rotation) (.sweep (plainSweep m.keyExpiry)) =
      some ((s₁.afterGet m rotation).afterSweep (plainSweep m.keyExpiry)) := by
    refine step_sweep.mpr ⟨?_, rfl⟩
    show (s₁.afterGet m rotation).clock ≤ m.keyExpiry
    omega
  have hrun₂ : run (step m) .start [.get (plainGet 0 1), .get rotation] =
      some (s₁.afterGet m rotation) := by
    rw [run_cons, hfirst, Option.bind_some, run_cons, hsecond]
    rfl
  have hrun : run (step m) .start (lateSweep m) =
      some ((s₁.afterGet m rotation).afterSweep (plainSweep m.keyExpiry)) :=
    run_concat_eq_some.mpr ⟨_, hrun₂, hsweep⟩
  have hspares : ¬ SparesRetired m (s₁.afterGet m rotation) (.sweep (plainSweep m.keyExpiry)) := by
    intro h
    refine h rfl (m.newRow (plainGet 0 1), max m.rotationInterval 1) (by simp [hretired]) ⟨?_, ?_⟩
    · show 0 + m.keyExpiry ≤ m.keyExpiry
      omega
    · show m.keyExpiry < max m.rotationInterval 1 + m.keyExpiry
      omega
  exact ⟨_, hrun, fun h => not_retained_step (dated_run hrun₂) hspares hsweep
    (h (lateSweep m) [] (List.append_nil _).symm _ hrun)⟩

/-- A sweep one second before the first key expires. -/
def timelySweep : List KeyCall :=
  [.get (plainGet 0 1), .get (plainGet 10 2), .sweep (plainSweep 19)]

/-- A run that retains the key it retired. -/
theorem retained_iff_timelySweep :
    ∃ s, run (step ⟨10, 20⟩) .start timelySweep = some s ∧ s.retired ≠ [] ∧
      Throughout (step ⟨10, 20⟩) .start timelySweep (Retained ⟨10, 20⟩) := by
  refine ⟨_, rfl, by decide, (retained_iff ⟨10, 20⟩ timelySweep _ rfl).mpr ?_⟩
  refine eachStep_cons trivial fun s₁ h₁ => ?_
  obtain rfl := (step_get.mp h₁).2
  refine eachStep_cons trivial fun s₂ h₂ => ?_
  obtain rfl := (step_get.mp h₂).2
  refine eachStep_cons ?_ fun u _ => eachStep_nil u _
  intro _ x hx htime
  obtain rfl : x = (BroadcastKeyManagement.newRow ⟨10, 20⟩ (plainGet 0 1), 10) :=
    List.mem_singleton.mp hx
  exact absurd htime.1 (by decide)

/-- **The default configuration loses a retired key too early.** Generated at 0, retired at 3600, it
    is deleted by a sweep at 7200, half way through the two hours it was to be kept. -/
theorem retired_key_lost_early :
    ∃ s, run (step ⟨3600, 7200⟩) .start
        [.get (plainGet 0 1), .get (plainGet 3600 2), .sweep (plainSweep 7200)] = some s ∧
      ¬ Throughout (step ⟨3600, 7200⟩) .start
        [.get (plainGet 0 1), .get (plainGet 3600 2), .sweep (plainSweep 7200)]
        (Retained ⟨3600, 7200⟩) :=
  no_configuration_retains ⟨3600, 7200⟩ (by decide)

-- ── How large the table gets ─────────────────────────────────────────────────

/-- The rows are in the order in which their keys were generated, a rotation interval apart; a
    retired row is one whose time was up. -/
structure RowsSpaced (m : BroadcastKeyManagement) (s : KeyRun) : Prop where
  spaced  : (s.table.rows.map KeyRow.createdAt).Pairwise fun a b => a + m.rotationInterval ≤ b
  rotates : ∀ r ∈ s.table.rows, r.rotatesAt = r.createdAt + m.rotationInterval
  past    : ∀ r ∈ s.table.rows, r.createdAt ≤ s.clock
  retired : ∀ r ∈ s.table.rows, r.isActive = false → r.createdAt + m.rotationInterval ≤ s.clock

theorem createdAt_retireActive (t : BroadcastKeys) :
    (retireActive t).rows.map KeyRow.createdAt = t.rows.map KeyRow.createdAt := by
  rw [retireActive, Table.update, List.map_map]
  refine List.map_congr_left fun r _ => ?_
  show KeyRow.createdAt (if r.isActive then { r with isActive := false } else r) = r.createdAt
  by_cases h : r.isActive = true
  · rw [if_pos h]
  · rw [if_neg h]

/-- When a rotation is due, every row was generated a rotation interval ago. -/
theorem RowsSpaced.due (h : RowsSpaced m s) {now : ℕ} (hclock : s.clock ≤ now)
    (hnone : activeRow s.table now = none) :
    ∀ r ∈ s.table.rows, r.createdAt + m.rotationInterval ≤ now := by
  intro r hr
  cases hactive : r.isActive with
  | true =>
      rw [← h.rotates r hr]
      exact activeRow_eq_none.mp hnone r (mem_activeRows.mpr ⟨hr, hactive⟩)
  | false => exact (h.retired r hr hactive).trans hclock

/-- A call that leaves the table alone. -/
theorem RowsSpaced.keep (h : RowsSpaced m s) (htable : s'.table = s.table)
    (hclock : s.clock ≤ s'.clock) : RowsSpaced m s' := by
  refine ⟨?_, ?_, ?_, ?_⟩
  · rw [htable]; exact h.spaced
  · rw [htable]; exact h.rotates
  · rw [htable]; exact fun r hr => (h.past r hr).trans hclock
  · rw [htable]; exact fun r hr hact => (h.retired r hr hact).trans hclock

theorem rowsSpaced_get (h : RowsSpaced m s) {c : GetCall}
    (hstep : step m s (.get c) = some s') : RowsSpaced m s' := by
  have hclock := step_clock hstep
  obtain ⟨⟨hnow, hrot⟩, rfl⟩ := step_get.mp hstep
  rcases getOrRotateKey_table m s.table c with heq | ⟨hok, hnone, hcase⟩
  · exact h.keep heq hclock
  · -- what a failed query leaves is not a rotation
    by_cases hquery : c.query = .ok ()
    · have hrotates : s.Rotates c := ⟨hquery, hnone⟩
      have hreading : (s.afterGet m c).clock = c.rotateNow := if_pos hrotates
      have hlater := hrot hrotates
      have hdue := h.due hnow hnone
      have hretired : ∀ x ∈ (retireActive s.table).rows,
          x.rotatesAt = x.createdAt + m.rotationInterval ∧
            x.createdAt + m.rotationInterval ≤ c.rotateNow := by
        intro x hx
        obtain ⟨r, hr, rfl⟩ := mem_retireActive.mp hx
        exact ⟨h.rotates r hr, (hdue r hr).trans hlater⟩
      have hspaced : ((retireActive s.table).rows.map KeyRow.createdAt).Pairwise
          fun a b => a + m.rotationInterval ≤ b := by
        rw [createdAt_retireActive]
        exact h.spaced
      rcases hcase with heq | hins
      · have htable : (s.afterGet m c).table = retireActive s.table := heq
        refine ⟨?_, ?_, ?_, ?_⟩
        · rw [htable]; exact hspaced
        · rw [htable]; exact fun x hx => (hretired x hx).1
        · rw [htable, hreading]
          exact fun x hx => (Nat.le_add_right ..).trans (hretired x hx).2
        · rw [htable, hreading]; exact fun x hx _ => (hretired x hx).2
      · have hrows : (s.afterGet m c).table.rows = (retireActive s.table).rows ++ [m.newRow c] :=
          (Table.insert?_eq_some.mp hins).2
        refine ⟨?_, ?_, ?_, ?_⟩
        · rw [hrows, List.map_append]
          refine List.pairwise_append.mpr ⟨hspaced, List.pairwise_singleton .., ?_⟩
          intro a ha b hb
          obtain ⟨x, hx, rfl⟩ := List.mem_map.mp ha
          rw [List.mem_singleton.mp hb]
          exact (hretired x hx).2
        · rw [hrows]
          intro x hx
          rcases List.mem_append.mp hx with hold | hnew
          · exact (hretired x hold).1
          · rw [List.mem_singleton.mp hnew]
            rfl
        · rw [hrows, hreading]
          intro x hx
          rcases List.mem_append.mp hx with hold | hnew
          · exact (Nat.le_add_right ..).trans (hretired x hold).2
          · rw [List.mem_singleton.mp hnew]
            exact le_rfl
        · rw [hrows, hreading]
          intro x hx hact
          rcases List.mem_append.mp hx with hold | hnew
          · exact (hretired x hold).2
          · rw [List.mem_singleton.mp hnew] at hact
            exact nomatch hact
    · have htable : (s.afterGet m c).table = s.table := by
        show (m.getOrRotateKey s.table c).2 = s.table
        cases hq : c.query with
        | error e => simp only [BroadcastKeyManagement.getOrRotateKey, hq]
        | ok u => exact absurd hq hquery
      exact h.keep htable hclock

theorem rowsSpaced_sweep (h : RowsSpaced m s) {c : SweepCall}
    (hstep : step m s (.sweep c) = some s') : RowsSpaced m s' := by
  obtain ⟨hnow, rfl⟩ := step_sweep.mp hstep
  have hsub : (s.afterSweep c).table.rows.Sublist s.table.rows := by
    show (sweepExpired s.table c).2.rows.Sublist s.table.rows
    rcases sweepExpired_table s.table c with ⟨-, heq⟩ | ⟨-, heq⟩
    · rw [heq]
    · rw [heq]
      exact List.filter_sublist
  exact ⟨h.spaced.sublist (hsub.map _), fun r hr => h.rotates r (hsub.subset hr),
    fun r hr => (h.past r (hsub.subset hr)).trans hnow,
    fun r hr hact => (h.retired r (hsub.subset hr) hact).trans hnow⟩

theorem rowsSpaced_run {es : List KeyCall} (hrun : run (step m) .start es = some s) :
    RowsSpaced m s := by
  have hstart : RowsSpaced m .start :=
    ⟨.nil, fun _ h => (nomatch h), fun _ h => (nomatch h), fun _ h => (nomatch h)⟩
  refine run_induction (P := fun _ s => RowsSpaced m s) hstart ?_ es s hrun
  intro es d t u _ ih hstep
  cases d with
  | get c => exact rowsSpaced_get ih hstep
  | sweep c => exact rowsSpaced_sweep ih hstep

/-- The rows that have not expired by the clock. -/
def liveRows (s : KeyRun) : List KeyRow :=
  s.table.rows.filter fun r => decide (s.clock < r.expiresAt)

/-- **How many keys there are.** In every run on a clock that does not go back, whatever its
    statements do: the keys in the table were generated at least a rotation interval apart, and at
    most `⌈key_expiry / key_rotation_interval⌉` of them have not expired — no more rows are left in
    the table after a sweep that took effect. -/
theorem rows_bounded (m : BroadcastKeyManagement) (hR : 0 < m.rotationInterval)
    (es : List KeyCall) (s : KeyRun) (hrun : run (step m) .start es = some s) :
    (s.table.rows.map KeyRow.createdAt).Pairwise (fun a b => a + m.rotationInterval ≤ b) ∧
      (liveRows s).length ≤ (m.keyExpiry + m.rotationInterval - 1) / m.rotationInterval ∧
      ∀ p c, es = p ++ [.sweep c] → c.delete = .ok () →
        s.table.rows.length ≤ (m.keyExpiry + m.rotationInterval - 1) / m.rotationInterval := by
  have hspaced := rowsSpaced_run hrun
  have hdated := dated_run hrun
  have hlive : (liveRows s).length ≤
      (m.keyExpiry + m.rotationInterval - 1) / m.rotationInterval := by
    rw [← List.length_map (f := KeyRow.createdAt)]
    refine History.length_le_of_spaced hR s.clock
      (hspaced.spaced.sublist (List.filter_sublist.map _)) ?_
    intro x hx
    obtain ⟨r, hr, rfl⟩ := List.mem_map.mp hx
    obtain ⟨hmem, hlater⟩ := List.mem_filter.mp hr
    have hexpires := hdated.rows r hmem
    have hlater := of_decide_eq_true hlater
    exact ⟨hspaced.past r hmem, by omega⟩
  refine ⟨hspaced.spaced, hlive, ?_⟩
  rintro p c rfl hok
  obtain ⟨t, -, hstep⟩ := run_concat_eq_some.mp hrun
  obtain ⟨-, rfl⟩ := step_sweep.mp hstep
  -- the sweep has left the live rows only
  have hall : liveRows (t.afterSweep c) = (t.afterSweep c).table.rows := by
    refine List.filter_eq_self.mpr fun r hr => ?_
    have hr : r ∈ (sweepExpired t.table c).2.rows := hr
    rcases sweepExpired_table t.table c with ⟨hno, -⟩ | ⟨-, heq⟩
    · exact absurd hok hno
    · rw [heq] at hr
      exact decide_eq_true (mem_deleteExpired.mp hr).2
  rw [← hall]
  exact hlive

/-- Three keys an hour apart, kept for two hours: after the sweep at the third, two are left. -/
def hourly : List KeyCall :=
  [.get (plainGet 0 1), .get (plainGet 3600 2), .get (plainGet 7200 3), .sweep (plainSweep 7200)]

theorem rows_bounded_hourly :
    ∃ s, run (step ⟨3600, 7200⟩) .start hourly = some s ∧ s.table.rows.length = 2 ∧
      s.table.rows.length ≤ (7200 + 3600 - 1) / 3600 := by
  have hrun : run (step ⟨3600, 7200⟩) .start hourly = some _ := rfl
  refine ⟨_, hrun, by decide +kernel, ?_⟩
  exact (rows_bounded ⟨3600, 7200⟩ (by decide) hourly _ hrun).2.2
    [.get (plainGet 0 1), .get (plainGet 3600 2), .get (plainGet 7200 3)] (plainSweep 7200) rfl rfl

end HamletKeyLifecycle
