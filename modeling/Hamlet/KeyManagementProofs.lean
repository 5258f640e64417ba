import Hamlet.Lib.KeyedTableProofs
import Mathlib.Data.List.MinMax
import Mathlib.Data.Vector.Basic

/-!
# Broadcast keys and their table

Every broadcast is authenticated with a key of the `broadcast_keys` table. Rotation is TWO statements
without a transaction — retire the active rows, insert the new one — and either can fail on its own,
the second also because the random id is taken.

The model has every statement's outcome, every clock reading and every random draw as data of the
call, in any combination. `WellFormed` is what all of it keeps: at most one active row, and ids and
materials of the lengths the code expects. `broadcastKeys_wellFormed` is the run lemma, from the
empty table; that a call returning `Ok` leaves its key as THE active row is read off the two ways it
can return `Ok`.
-/

namespace HamletKeyManagement

open KeyedTable

-- ── The table ────────────────────────────────────────────────────────────────

/-- A row of `broadcast_keys`. The blobs are as long as whoever wrote them made them. -/
structure KeyRow where
  keyId       : List UInt8
  keyMaterial : List UInt8
  createdAt   : ℕ
  rotatesAt   : ℕ
  expiresAt   : ℕ
  isActive    : Bool
  deriving DecidableEq, Repr

/-- The table; `key_id` is its primary key. -/
abbrev BroadcastKeys := Table KeyRow.keyId

structure BroadcastKey where
  keyId       : List.Vector UInt8 4
  keyMaterial : List.Vector UInt8 16
  rotatesAt   : ℕ
  expiresAt   : ℕ
  deriving DecidableEq

/-- The row holds the key. -/
def KeyRow.Holds (r : KeyRow) (k : BroadcastKey) : Prop :=
  r.keyId = k.keyId.toList ∧ r.keyMaterial = k.keyMaterial.toList ∧
    r.rotatesAt = k.rotatesAt ∧ r.expiresAt = k.expiresAt

/-- A row holds at most one key. -/
theorem KeyRow.Holds.unique {r : KeyRow} {k k' : BroadcastKey} (h : r.Holds k) (h' : r.Holds k') :
    k = k' := by
  obtain ⟨id, mat, rotatesAt, expiresAt⟩ := k
  obtain ⟨id', mat', rotatesAt', expiresAt'⟩ := k'
  obtain ⟨hid, hmat, hrot, hexp⟩ := h
  obtain ⟨hid', hmat', hrot', hexp'⟩ := h'
  obtain rfl : id = id' := Subtype.ext (hid.symm.trans hid')
  obtain rfl : mat = mat' := Subtype.ext (hmat.symm.trans hmat')
  obtain rfl : rotatesAt = rotatesAt' := hrot.symm.trans hrot'
  obtain rfl : expiresAt = expiresAt' := hexp.symm.trans hexp'
  rfl

/-- `BroadcastKeyManagement`: both durations in seconds. -/
structure BroadcastKeyManagement where
  rotationInterval : ℕ
  keyExpiry        : ℕ
  deriving DecidableEq, Repr

/-- What a call of `get_or_rotate_key` meets: two clock readings, the random draws, and how its
    three statements go. -/
structure GetCall where
  now         : ℕ
  query       : Except String Unit
  rotateNow   : ℕ
  keyMaterial : List.Vector UInt8 16
  keyId       : List.Vector UInt8 4
  retire      : Except String Unit
  insert      : Except String Unit

/-- What a call of `sweep_expired` meets. -/
structure SweepCall where
  now    : ℕ
  delete : Except String Unit

-- ── The operations ───────────────────────────────────────────────────────────

/-- `build_key`. -/
def buildKey (keyIdBytes keyMaterialBytes : List UInt8) (rotatesAt expiresAt : ℕ) :
    Except String BroadcastKey :=
  if hid : keyIdBytes.length = 4 then
    if hmat : keyMaterialBytes.length = 16 then
      .ok ⟨⟨keyIdBytes, hid⟩, ⟨keyMaterialBytes, hmat⟩, rotatesAt, expiresAt⟩
    else
      .error ("Corrupt broadcast_keys row: key_material is " ++ toString keyMaterialBytes.length ++
        " bytes, expected 16")
  else
    .error ("Corrupt broadcast_keys row: key_id is " ++ toString keyIdBytes.length ++
      " bytes, expected 4")

/-- `SELECT … WHERE is_active = 1 AND rotates_at > ? ORDER BY rotates_at DESC LIMIT 1`. -/
def activeRow (t : BroadcastKeys) (now : ℕ) : Option KeyRow :=
  (t.rows.filter fun r => r.isActive && decide (now < r.rotatesAt)).argmax KeyRow.rotatesAt

/-- `UPDATE broadcast_keys SET is_active = 0 WHERE is_active = 1`. -/
def retireActive (t : BroadcastKeys) : BroadcastKeys :=
  t.update (fun r => r.isActive) (fun r => { r with isActive := false }) fun _ => rfl

/-- `DELETE FROM broadcast_keys WHERE expires_at <= ?`. -/
def deleteExpired (t : BroadcastKeys) (now : ℕ) : BroadcastKeys :=
  t.delete fun r => decide (r.expiresAt ≤ now)

namespace BroadcastKeyManagement

variable (m : BroadcastKeyManagement)

/-- The key a rotation generates. -/
def newKey (c : GetCall) : BroadcastKey where
  keyId       := c.keyId
  keyMaterial := c.keyMaterial
  rotatesAt   := c.rotateNow + m.rotationInterval
  expiresAt   := c.rotateNow + m.keyExpiry

/-- The row it is stored as. -/
def newRow (c : GetCall) : KeyRow where
  keyId       := c.keyId.toList
  keyMaterial := c.keyMaterial.toList
  createdAt   := c.rotateNow
  rotatesAt   := c.rotateNow + m.rotationInterval
  expiresAt   := c.rotateNow + m.keyExpiry
  isActive    := true

/-- `rotate_key`. The `INSERT` fails on its own account, or because the id is taken. -/
def rotateKey (t : BroadcastKeys) (c : GetCall) : Except String BroadcastKey × BroadcastKeys :=
  match c.retire with
  | .error e => (.error ("Failed to retire active broadcast keys: " ++ e), t)
  | .ok () =>
      let t := retireActive t
      match c.insert with
      | .error e => (.error ("Failed to insert new broadcast key: " ++ e), t)
      | .ok () =>
          match t.insert? (m.newRow c) with
          | none =>
              (.error ("Failed to insert new broadcast key: error returned from database: " ++
                "(code: 1555) UNIQUE constraint failed: broadcast_keys.key_id"), t)
          | some t => (.ok (m.newKey c), t)

/-- `get_or_rotate_key`. -/
def getOrRotateKey (t : BroadcastKeys) (c : GetCall) :
    Except String BroadcastKey × BroadcastKeys :=
  match c.query with
  | .error e => (.error ("Failed to query broadcast keys: " ++ e), t)
  | .ok () =>
      match activeRow t c.now with
      | some r => (buildKey r.keyId r.keyMaterial r.rotatesAt r.expiresAt, t)
      | none => m.rotateKey t c

end BroadcastKeyManagement

/-- `sweep_expired`: the number of rows it deleted. -/
def sweepExpired (t : BroadcastKeys) (c : SweepCall) : Except String ℕ × BroadcastKeys :=
  match c.delete with
  | .error e => (.error ("Failed to sweep expired broadcast keys: " ++ e), t)
  | .ok () => (.ok (t.rowsAffected fun r => decide (r.expiresAt ≤ c.now)), deleteExpired t c.now)

/-- One call of the manager. -/
inductive KeyCall where
  | get (c : GetCall)
  | sweep (c : SweepCall)

/-- The table after a call. -/
def BroadcastKeyManagement.call (m : BroadcastKeyManagement) (t : BroadcastKeys) :
    KeyCall → BroadcastKeys
  | .get c => (m.getOrRotateKey t c).2
  | .sweep c => (sweepExpired t c).2

/-- The table after calls one after another, from the empty one. -/
def BroadcastKeyManagement.callAll (m : BroadcastKeyManagement) (calls : List KeyCall) :
    BroadcastKeys :=
  calls.foldl m.call .empty

-- ── What the statements do ───────────────────────────────────────────────────

/-- The active rows. -/
def activeRows (t : BroadcastKeys) : List KeyRow := t.rows.filter fun r => r.isActive

theorem mem_activeRows {t : BroadcastKeys} {r : KeyRow} :
    r ∈ activeRows t ↔ r ∈ t.rows ∧ r.isActive = true :=
  List.mem_filter

theorem of_activeRow_eq_some {t : BroadcastKeys} {now : ℕ} {r : KeyRow}
    (h : activeRow t now = some r) : r ∈ activeRows t ∧ now < r.rotatesAt := by
  have hmem := List.argmax_mem h
  rw [List.mem_filter, Bool.and_eq_true, decide_eq_true_eq] at hmem
  exact ⟨mem_activeRows.mpr ⟨hmem.1, hmem.2.1⟩, hmem.2.2⟩

theorem activeRow_eq_none {t : BroadcastKeys} {now : ℕ} :
    activeRow t now = none ↔ ∀ r ∈ activeRows t, r.rotatesAt ≤ now := by
  rw [activeRow, List.argmax_eq_none, List.filter_eq_nil_iff]
  simp only [mem_activeRows, Bool.and_eq_true, decide_eq_true_eq, not_and, not_lt, and_imp]

/-- A row after the `UPDATE` is a retired row of before. -/
theorem mem_retireActive {t : BroadcastKeys} {x : KeyRow} :
    x ∈ (retireActive t).rows ↔ ∃ r ∈ t.rows, x = { r with isActive := false } := by
  rw [retireActive, Table.mem_update]
  refine exists_congr fun r => and_congr_right fun _ => ?_
  cases hr : r.isActive with
  | true => simp
  | false =>
      have hsame : { r with isActive := false } = r := by rw [← hr]
      simp [hsame]

theorem activeRows_retireActive (t : BroadcastKeys) : activeRows (retireActive t) = [] := by
  rw [activeRows, List.filter_eq_nil_iff]
  intro x hx
  obtain ⟨r, -, rfl⟩ := mem_retireActive.mp hx
  exact Bool.false_ne_true

theorem mem_deleteExpired {t : BroadcastKeys} {now : ℕ} {x : KeyRow} :
    x ∈ (deleteExpired t now).rows ↔ x ∈ t.rows ∧ now < x.expiresAt := by
  rw [deleteExpired, Table.mem_delete, decide_eq_false_iff_not, not_le]

-- ── What a call can do ───────────────────────────────────────────────────────

section Calls

variable (m : BroadcastKeyManagement) (t : BroadcastKeys) (c : GetCall)

/-- A rotation fails before the `UPDATE`, or between the two statements, or goes through. -/
theorem rotateKey_cases :
    (c.retire ≠ .ok () ∧ ∃ e, m.rotateKey t c = (.error e, t)) ∨
      (c.retire = .ok () ∧ ∃ e, m.rotateKey t c = (.error e, retireActive t)) ∨
      (c.retire = .ok () ∧ ∃ t', (retireActive t).insert? (m.newRow c) = some t' ∧
        m.rotateKey t c = (.ok (m.newKey c), t')) := by
  rw [BroadcastKeyManagement.rotateKey]
  cases c.retire with
  | error e => exact .inl ⟨nofun, _, rfl⟩
  | ok u =>
      cases c.insert with
      | error e => exact .inr (.inl ⟨rfl, _, rfl⟩)
      | ok u' =>
          cases hins : (retireActive t).insert? (m.newRow c) with
          | none => exact .inr (.inl ⟨rfl, _, by simp only [hins]; rfl⟩)
          | some t' => exact .inr (.inr ⟨rfl, t', rfl, by simp only [hins]⟩)

/-- A call fails in the query, or finds a valid active row, or rotates. -/
theorem getOrRotateKey_cases :
    (∃ e, m.getOrRotateKey t c = (.error e, t)) ∨
      (∃ r, activeRow t c.now = some r ∧ m.getOrRotateKey t c =
        (buildKey r.keyId r.keyMaterial r.rotatesAt r.expiresAt, t)) ∨
      (activeRow t c.now = none ∧ m.getOrRotateKey t c = m.rotateKey t c) := by
  rw [BroadcastKeyManagement.getOrRotateKey]
  cases c.query with
  | error e => exact .inl ⟨_, rfl⟩
  | ok u =>
      cases hrow : activeRow t c.now with
      | some r => exact .inr (.inl ⟨r, rfl, rfl⟩)
      | none => exact .inr (.inr ⟨rfl, rfl⟩)

/-- The table is as it was, or the active rows are retired, and then the new one may be there. -/
theorem getOrRotateKey_table :
    (m.getOrRotateKey t c).2 = t ∨
      (c.retire = .ok () ∧ activeRow t c.now = none ∧
        ((m.getOrRotateKey t c).2 = retireActive t ∨
          (retireActive t).insert? (m.newRow c) = some (m.getOrRotateKey t c).2)) := by
  rcases getOrRotateKey_cases m t c with ⟨e, heq⟩ | ⟨r, -, heq⟩ | ⟨hnone, heq⟩
  · rw [heq]; exact .inl rfl
  · rw [heq]; exact .inl rfl
  · rw [heq]
    rcases rotateKey_cases m t c with ⟨-, e, heq'⟩ | ⟨hok, e, heq'⟩ | ⟨hok, t', hins, heq'⟩
    · rw [heq']; exact .inl rfl
    · rw [heq']; exact .inr ⟨hok, hnone, .inl rfl⟩
    · rw [heq']; exact .inr ⟨hok, hnone, .inr hins⟩

end Calls

/-- A sweep deletes the expired rows, or nothing. -/
theorem sweepExpired_table (t : BroadcastKeys) (c : SweepCall) :
    (c.delete ≠ .ok () ∧ (sweepExpired t c).2 = t) ∨
      (c.delete = .ok () ∧ (sweepExpired t c).2 = deleteExpired t c.now) := by
  rw [sweepExpired]
  cases c.delete with
  | error e => exact .inl ⟨nofun, rfl⟩
  | ok u => exact .inr ⟨rfl, rfl⟩

-- ── The invariant ────────────────────────────────────────────────────────────

section Rows

variable {m : BroadcastKeyManagement} {t : BroadcastKeys}

/-- **The rule for rows.** What a new row has and retiring does not change holds of every row after
    a call. -/
theorem call_rows {P : KeyRow → Prop} (retire : ∀ r, P r → P { r with isActive := false })
    (new : ∀ c, P (m.newRow c)) (h : ∀ r ∈ t.rows, P r) (d : KeyCall) :
    ∀ r ∈ (m.call t d).rows, P r := by
  have hretired : ∀ x ∈ (retireActive t).rows, P x := by
    intro x hx
    obtain ⟨r, hr, rfl⟩ := mem_retireActive.mp hx
    exact retire r (h r hr)
  cases d with
  | get c =>
      show ∀ r ∈ (m.getOrRotateKey t c).2.rows, P r
      rcases getOrRotateKey_table m t c with heq | ⟨-, -, heq | hins⟩
      · rw [heq]; exact h
      · rw [heq]; exact hretired
      · rw [(Table.insert?_eq_some.mp hins).2]
        intro x hx
        rcases List.mem_append.mp hx with hx | hx
        · exact hretired x hx
        · rw [List.mem_singleton.mp hx]; exact new c
  | sweep c =>
      show ∀ r ∈ (sweepExpired t c).2.rows, P r
      rcases sweepExpired_table t c with ⟨-, heq⟩ | ⟨-, heq⟩
      · rw [heq]; exact h
      · rw [heq]; exact fun x hx => h x (mem_deleteExpired.mp hx).1

/-- After both statements of a rotation the new row is the one active row. -/
theorem activeRows_insert {c : GetCall} {t' : BroadcastKeys}
    (hins : (retireActive t).insert? (m.newRow c) = some t') : activeRows t' = [m.newRow c] := by
  have hnone := activeRows_retireActive t
  rw [activeRows] at hnone
  rw [activeRows, (Table.insert?_eq_some.mp hins).2, List.filter_append, hnone]
  rfl

/-- No call makes a second active row. -/
theorem activeRows_call (h : (activeRows t).length ≤ 1) (d : KeyCall) :
    (activeRows (m.call t d)).length ≤ 1 := by
  cases d with
  | get c =>
      show (activeRows (m.getOrRotateKey t c).2).length ≤ 1
      rcases getOrRotateKey_table m t c with heq | ⟨-, -, heq | hins⟩
      · rw [heq]; exact h
      · rw [heq, activeRows_retireActive]; exact Nat.zero_le _
      · rw [activeRows_insert hins]; exact le_rfl
  | sweep c =>
      show (activeRows (sweepExpired t c).2).length ≤ 1
      rcases sweepExpired_table t c with ⟨-, heq⟩ | ⟨-, heq⟩
      · rw [heq]; exact h
      · rw [heq]
        have hsub : (activeRows (deleteExpired t c.now)).Sublist (activeRows t) :=
          List.filter_sublist.filter _
        exact hsub.length_le.trans h

end Rows

/-- What every sequence of calls keeps of the table. -/
structure WellFormed (t : BroadcastKeys) : Prop where
  one_active   : (activeRows t).length ≤ 1
  key_id       : ∀ r ∈ t.rows, r.keyId.length = 4
  key_material : ∀ r ∈ t.rows, r.keyMaterial.length = 16

namespace WellFormed

variable {m : BroadcastKeyManagement} {t : BroadcastKeys}

theorem empty : WellFormed .empty :=
  ⟨Nat.zero_le _, fun _ h => (nomatch h), fun _ h => (nomatch h)⟩

/-- One call, whatever its clock, its draws and its statements do. -/
theorem call (h : WellFormed t) (d : KeyCall) : WellFormed (m.call t d) where
  one_active   := activeRows_call h.one_active d
  key_id       := call_rows (fun _ hr => hr) (fun c => c.keyId.toList_length) h.key_id d
  key_material :=
    call_rows (fun _ hr => hr) (fun c => c.keyMaterial.toList_length) h.key_material d

/-- The error branches of `build_key` are not reached. -/
theorem buildKey (h : WellFormed t) {r : KeyRow} (hr : r ∈ t.rows) :
    ∃ k, buildKey r.keyId r.keyMaterial r.rotatesAt r.expiresAt = .ok k ∧ r.Holds k := by
  rw [HamletKeyManagement.buildKey, dif_pos (h.key_id r hr), dif_pos (h.key_material r hr)]
  exact ⟨_, rfl, rfl, rfl, rfl, rfl⟩

/-- In a table with one active row, the row found is that row. -/
theorem activeRows_eq (h : WellFormed t) {r : KeyRow} (hr : r ∈ activeRows t) :
    activeRows t = [r] := by
  have hone := h.one_active
  cases hrows : activeRows t with
  | nil => rw [hrows] at hr; exact nomatch hr
  | cons x xs =>
      rw [hrows] at hr hone
      obtain rfl : xs = [] := List.length_eq_zero_iff.mp (by simpa using hone)
      rw [List.mem_singleton.mp hr]

/-- A call that returns a key leaves it as the one active row. -/
theorem returned (h : WellFormed t) {c : GetCall} {k : BroadcastKey} {t' : BroadcastKeys}
    (hget : m.getOrRotateKey t c = (.ok k, t')) : ∃ r, activeRows t' = [r] ∧ r.Holds k := by
  rcases getOrRotateKey_cases m t c with ⟨e, heq⟩ | ⟨r, hrow, heq⟩ | ⟨-, heq⟩
  · rw [heq] at hget
    exact nomatch (Prod.mk.inj hget).1
  · obtain ⟨hr, -⟩ := of_activeRow_eq_some hrow
    obtain ⟨k', hbuild, hholds⟩ := h.buildKey (mem_activeRows.mp hr).1
    rw [heq, hbuild] at hget
    obtain ⟨hk, rfl⟩ := Prod.mk.inj hget
    obtain rfl := Except.ok.inj hk
    exact ⟨r, h.activeRows_eq hr, hholds⟩
  · rw [heq] at hget
    rcases rotateKey_cases m t c with ⟨-, e, heq'⟩ | ⟨-, e, heq'⟩ | ⟨-, t₁, hins, heq'⟩
    · rw [heq'] at hget
      exact nomatch (Prod.mk.inj hget).1
    · rw [heq'] at hget
      exact nomatch (Prod.mk.inj hget).1
    · rw [heq'] at hget
      obtain ⟨hk, rfl⟩ := Prod.mk.inj hget
      obtain rfl := Except.ok.inj hk
      exact ⟨m.newRow c, activeRows_insert hins, rfl, rfl, rfl, rfl⟩

end WellFormed

/-- The invariant holds after every sequence of calls. -/
theorem wellFormed_callAll (m : BroadcastKeyManagement) (calls : List KeyCall) :
    WellFormed (m.callAll calls) := by
  induction calls using List.reverseRecOn with
  | nil => exact .empty
  | append_singleton calls d ih =>
      rw [BroadcastKeyManagement.callAll, List.foldl_append]
      exact ih.call d

/-- **The `broadcast_keys` table**, after any calls with any clock, any draws and any failures: at
    most one row is active, every row's id and material can be read back, and a call that returns a
    key leaves it as the only active row — also the call after a rotation that failed half way. -/
theorem broadcastKeys_wellFormed (m : BroadcastKeyManagement) (calls : List KeyCall) :
    (activeRows (m.callAll calls)).length ≤ 1 ∧
      (∀ r ∈ (m.callAll calls).rows, r.keyId.length = 4 ∧ r.keyMaterial.length = 16 ∧
        ∃ k, buildKey r.keyId r.keyMaterial r.rotatesAt r.expiresAt = .ok k) ∧
      ∀ c k t', m.getOrRotateKey (m.callAll calls) c = (.ok k, t') →
        ∃ r, activeRows t' = [r] ∧ r.Holds k := by
  have h := wellFormed_callAll m calls
  refine ⟨h.one_active, ?_, fun c k t' hget => h.returned hget⟩
  intro r hr
  obtain ⟨k, hbuild, -⟩ := h.buildKey hr
  exact ⟨h.key_id r hr, h.key_material r hr, k, hbuild⟩

end HamletKeyManagement
