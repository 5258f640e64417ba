import Hamlet.ConfigProofs
import Hamlet.KeyManagementProofs

/-!
# One broadcast cycle: get the key, sweep, publish

The broadcast loop obtains the active key, then sweeps the table, then publishes a payload that names
the key. The sweep compares a DIFFERENT deadline from the one the key was chosen by, and it looks at
`expires_at` alone: it deletes an active row as readily as a retired one.

Whether it can hit the key that is about to be published is decided by two settings that nothing
relates to each other. `published_key_active_iff` gives the exact relation: the key survives in every
run exactly when `key_expiry` is positive and at least `key_rotation_interval`.

The HMAC is a parameter: the payload carries a token made with it, and no result depends on it.
-/

namespace HamletBroadcastCycle

open KeyedTable HamletKeyManagement HamletConfig

-- ── The payload ──────────────────────────────────────────────────────────────

/-- One digit of `hex_encode`. -/
def hexDigit (n : ℕ) : Char := "0123456789abcdef".toList.getD n '0'

/-- `hex_encode`: two lowercase digits a byte. -/
def hexEncode (bytes : List UInt8) : String :=
  String.ofList (bytes.flatMap fun b => [hexDigit (b.toNat / 16), hexDigit (b.toNat % 16)])

/-- `u64::to_be_bytes`. -/
def toBeBytes (n : ℕ) : List UInt8 :=
  (List.range 8).reverse.map fun i => UInt8.ofNat (n >>> (8 * i))

structure Payload where
  url : String
  kid : String
  tok : String
  deriving DecidableEq, Repr

section Loop

variable (hmac : List UInt8 → List UInt8 → List UInt8)

/-- `generate_token`: the slot advances with the rotation interval. -/
def generateToken (m : BroadcastKeyManagement) (key : BroadcastKey) (now : ℕ) : List UInt8 :=
  (hmac key.keyMaterial.toList (toBeBytes (now / max m.rotationInterval 1))).take 4

/-- `ota_fields`. -/
def otaFields (m : BroadcastKeyManagement) (key : BroadcastKey) (now : ℕ) : String × String :=
  (hexEncode key.keyId.toList, hexEncode (generateToken hmac m key now))

-- ── The loop ─────────────────────────────────────────────────────────────────

/-- A cycle: every clock reading in it is the same, its statements do not fail on their own, and
    these are the draws of a rotation. -/
structure Cycle where
  time        : ℕ
  keyMaterial : List.Vector UInt8 16
  keyId       : List.Vector UInt8 4

def Cycle.get (c : Cycle) : GetCall where
  now         := c.time
  query       := .ok ()
  rotateNow   := c.time
  keyMaterial := c.keyMaterial
  keyId       := c.keyId
  retire      := .ok ()
  insert      := .ok ()

def Cycle.sweep (c : Cycle) : SweepCall where
  now    := c.time
  delete := .ok ()

/-- What a cycle leaves: the table at the moment it publishes, and the payload, if it got a key. -/
structure Published where
  table   : BroadcastKeys
  payload : Option Payload

/-- The body of `run_broadcast_loop`. An id that is taken makes it skip the cycle. -/
def broadcastCycle (serverUrl : String) (m : BroadcastKeyManagement) (t : BroadcastKeys)
    (c : Cycle) : Published :=
  match m.getOrRotateKey t c.get with
  | (.error _, t) => ⟨t, none⟩
  | (.ok key, t) =>
      let t := (sweepExpired t c.sweep).2
      let fields := otaFields hmac m key c.time
      ⟨t, some ⟨serverUrl, fields.1, fields.2⟩⟩

/-- The table after cycles one after another, from the empty one. -/
def runBroadcastLoop (serverUrl : String) (m : BroadcastKeyManagement) (cycles : List Cycle) :
    BroadcastKeys :=
  cycles.foldl (fun t c => (broadcastCycle hmac serverUrl m t c).table) .empty

end Loop

/-- The payload names an active row. -/
def Published.KeyActive (p : Published) : Prop :=
  ∀ payload, p.payload = some payload → ∃ r ∈ activeRows p.table, hexEncode r.keyId = payload.kid

/-- `BroadcastKeyManagement::new`, as `App::initialize` calls it. -/
def keyManagementOf (c : BeaconManagementConfig) : BroadcastKeyManagement where
  rotationInterval := c.keyRotationInterval
  keyExpiry        := c.keyExpiry

@[simp] theorem keyManagementOf_rotationInterval (c : BeaconManagementConfig) :
    (keyManagementOf c).rotationInterval = c.keyRotationInterval := rfl

@[simp] theorem keyManagementOf_keyExpiry (c : BeaconManagementConfig) :
    (keyManagementOf c).keyExpiry = c.keyExpiry := rfl

-- ── What a cycle does ────────────────────────────────────────────────────────

section Cycles

variable {hmac : List UInt8 → List UInt8 → List UInt8} {serverUrl : String}
  {m : BroadcastKeyManagement} {t : BroadcastKeys}

/-- A cycle without a key leaves what the failed call left. -/
theorem broadcastCycle_error {c : Cycle} {e : String} {t' : BroadcastKeys}
    (hget : m.getOrRotateKey t c.get = (.error e, t')) :
    broadcastCycle hmac serverUrl m t c = ⟨t', none⟩ := by
  rw [broadcastCycle, hget]

/-- A cycle with a key sweeps and names the key. -/
theorem broadcastCycle_ok (hmac : List UInt8 → List UInt8 → List UInt8) (serverUrl : String)
    {c : Cycle} {key : BroadcastKey} {t' : BroadcastKeys}
    (hget : m.getOrRotateKey t c.get = (.ok key, t')) :
    (broadcastCycle hmac serverUrl m t c).table = deleteExpired t' c.time ∧
      (broadcastCycle hmac serverUrl m t c).payload =
        some ⟨serverUrl, hexEncode key.keyId.toList,
          hexEncode (generateToken hmac m key c.time)⟩ := by
  rw [broadcastCycle, hget]
  exact ⟨rfl, rfl⟩

theorem runBroadcastLoop_concat (p : List Cycle) (c : Cycle) :
    runBroadcastLoop hmac serverUrl m (p ++ [c]) =
      (broadcastCycle hmac serverUrl m (runBroadcastLoop hmac serverUrl m p) c).table := by
  rw [runBroadcastLoop, List.foldl_append]
  rfl

-- ── The key survives its own sweep ───────────────────────────────────────────

/-- What the loop keeps when keys do not expire before they rotate. -/
structure Outliving (t : BroadcastKeys) : Prop where
  well_formed : WellFormed t
  outlives    : ∀ r ∈ t.rows, r.rotatesAt ≤ r.expiresAt

theorem Outliving.call (hR : m.rotationInterval ≤ m.keyExpiry) (h : Outliving t) (d : KeyCall) :
    Outliving (m.call t d) where
  well_formed := h.well_formed.call d
  outlives    :=
    call_rows (fun _ hr => hr) (fun _ => Nat.add_le_add_left hR _) h.outlives d

theorem Outliving.broadcastCycle (hR : m.rotationInterval ≤ m.keyExpiry) (h : Outliving t)
    (c : Cycle) : Outliving (broadcastCycle hmac serverUrl m t c).table := by
  have hgot := h.call hR (.get c.get)
  rcases hget : m.getOrRotateKey t c.get with ⟨r, t'⟩
  have ht' : m.call t (.get c.get) = t' := congrArg Prod.snd hget
  rw [ht'] at hgot
  cases r with
  | error e => rw [broadcastCycle_error hget]; exact hgot
  | ok key => rw [(broadcastCycle_ok _ _ hget).1]; exact hgot.call hR (.sweep c.sweep)

theorem outliving_loop (hR : m.rotationInterval ≤ m.keyExpiry) (p : List Cycle) :
    Outliving (runBroadcastLoop hmac serverUrl m p) := by
  induction p using List.reverseRecOn with
  | nil => exact ⟨.empty, fun _ h => nomatch h⟩
  | append_singleton p c ih => rw [runBroadcastLoop_concat]; exact ih.broadcastCycle hR c

/-- The key that a call returns has not expired at the time of the call. -/
theorem Outliving.returned (hE : 0 < m.keyExpiry) (h : Outliving t) {c : Cycle} {k : BroadcastKey}
    {t' : BroadcastKeys} (hget : m.getOrRotateKey t c.get = (.ok k, t')) :
    ∃ r ∈ activeRows t', r.Holds k ∧ c.time < r.expiresAt := by
  obtain ⟨r, hrows, hholds⟩ := h.well_formed.returned hget
  have hr : r ∈ activeRows t' := by rw [hrows]; exact List.mem_cons_self
  refine ⟨r, hr, hholds, ?_⟩
  rcases getOrRotateKey_cases m t c.get with ⟨e, heq⟩ | ⟨r', hrow, heq⟩ | ⟨-, heq⟩
  · exact nomatch (Prod.mk.inj (hget.symm.trans heq)).1
  · -- an old key: it rotates later than now, and expires no earlier than that
    obtain ⟨hr', hlater⟩ := of_activeRow_eq_some hrow
    obtain rfl : t' = t := (Prod.mk.inj (hget.symm.trans heq)).2
    have hsame : r' = r := by
      rw [hrows] at hr'
      exact List.mem_singleton.mp hr'
    rw [hsame] at hlater
    exact hlater.trans_le (h.outlives r (mem_activeRows.mp hr).1)
  · -- a new key: it was generated now
    rw [heq] at hget
    rcases rotateKey_cases m t c.get with ⟨-, e, heq'⟩ | ⟨-, e, heq'⟩ | ⟨-, t₁, hins, heq'⟩
    · exact nomatch (Prod.mk.inj (hget.symm.trans heq')).1
    · exact nomatch (Prod.mk.inj (hget.symm.trans heq')).1
    · obtain rfl : t' = t₁ := (Prod.mk.inj (hget.symm.trans heq')).2
      rw [activeRows_insert hins] at hr
      rw [List.mem_singleton.mp hr]
      show c.time < c.time + m.keyExpiry
      omega

theorem Outliving.keyActive (hE : 0 < m.keyExpiry) (h : Outliving t) (c : Cycle) :
    (HamletBroadcastCycle.broadcastCycle hmac serverUrl m t c).KeyActive := by
  intro payload hpayload
  rcases hget : m.getOrRotateKey t c.get with ⟨r, t'⟩
  cases r with
  | error e =>
      rw [broadcastCycle_error hget] at hpayload
      exact nomatch hpayload
  | ok key =>
      obtain ⟨htable, hpay⟩ := broadcastCycle_ok hmac serverUrl hget
      obtain ⟨row, hrow, hholds, hlater⟩ := h.returned hE hget
      obtain rfl := Option.some.inj (hpay.symm.trans hpayload)
      obtain ⟨hmem, hactive⟩ := mem_activeRows.mp hrow
      refine ⟨row, ?_, congrArg hexEncode hholds.1⟩
      rw [htable, mem_activeRows]
      exact ⟨mem_deleteExpired.mpr ⟨hmem, hlater⟩, hactive⟩

-- ── The settings that break it ───────────────────────────────────────────────

/-- The first cycle generates a key. -/
theorem getOrRotateKey_empty (c : Cycle) :
    ∃ t', m.getOrRotateKey .empty c.get = (.ok (m.newKey c.get), t') ∧
      t'.rows = [m.newRow c.get] :=
  ⟨_, rfl, rfl⟩

/-- A payload without an active row to name. -/
theorem not_keyActive {p : Published} {payload : Payload} (hpayload : p.payload = some payload)
    (hrows : ∀ r ∈ p.table.rows, False) : ¬ p.KeyActive := by
  intro h
  obtain ⟨r, hr, -⟩ := h payload hpayload
  exact hrows r (mem_activeRows.mp hr).1

/-- A key that expires when it is generated does not survive the first cycle. -/
theorem not_keyActive_first (hE : m.keyExpiry = 0) (c : Cycle) :
    ¬ (broadcastCycle hmac serverUrl m .empty c).KeyActive := by
  obtain ⟨t', hget, hrows⟩ := getOrRotateKey_empty (m := m) c
  obtain ⟨htable, hpayload⟩ := broadcastCycle_ok hmac serverUrl hget
  refine not_keyActive hpayload ?_
  intro r hr
  rw [htable, mem_deleteExpired, hrows, List.mem_singleton] at hr
  obtain ⟨rfl, hlater⟩ := hr
  have hexpires : c.time < c.time + m.keyExpiry := hlater
  omega

/-- A key that expires before it rotates does not survive the cycle at its `expires_at`. -/
theorem not_keyActive_second (hE : 0 < m.keyExpiry) (hR : m.keyExpiry < m.rotationInterval)
    {c d : Cycle} (hd : d.time = c.time + m.keyExpiry) :
    ¬ (broadcastCycle hmac serverUrl m
      (broadcastCycle hmac serverUrl m .empty c).table d).KeyActive := by
  obtain ⟨t₁, hget₁, hrows₁⟩ := getOrRotateKey_empty (m := m) c
  have htable₁ := (broadcastCycle_ok hmac serverUrl hget₁).1
  rw [htable₁]
  have hmem : ∀ r, r ∈ (deleteExpired t₁ c.time).rows ↔ r = m.newRow c.get := by
    intro r
    rw [mem_deleteExpired, hrows₁, List.mem_singleton, and_iff_left_iff_imp]
    rintro rfl
    show c.time < c.time + m.keyExpiry
    omega
  -- the row is still the active one: it does not rotate before it expires
  have hactive : m.newRow c.get ∈ activeRows (deleteExpired t₁ c.time) :=
    mem_activeRows.mpr ⟨(hmem _).mpr rfl, rfl⟩
  have hwf : WellFormed (deleteExpired t₁ c.time) := by
    have hcall := (WellFormed.empty.call (m := m) (.get c.get)).call (m := m) (.sweep c.sweep)
    have ht₁ : m.call .empty (.get c.get) = t₁ := congrArg Prod.snd hget₁
    rw [ht₁] at hcall
    exact hcall
  obtain ⟨k, hget₂⟩ : ∃ k, m.getOrRotateKey (deleteExpired t₁ c.time) d.get =
      (.ok k, deleteExpired t₁ c.time) := by
    cases hrow : activeRow (deleteExpired t₁ c.time) d.time with
    | none =>
        have hdue : c.time + m.rotationInterval ≤ d.time := activeRow_eq_none.mp hrow _ hactive
        omega
    | some r =>
        obtain ⟨k, hbuild, -⟩ := hwf.buildKey (mem_activeRows.mp (of_activeRow_eq_some hrow).1).1
        have hget : m.getOrRotateKey (deleteExpired t₁ c.time) d.get =
            (buildKey r.keyId r.keyMaterial r.rotatesAt r.expiresAt, deleteExpired t₁ c.time) := by
          simp only [BroadcastKeyManagement.getOrRotateKey, Cycle.get, hrow]
        exact ⟨k, by rw [hget, hbuild]⟩
  obtain ⟨htable₂, hpayload⟩ := broadcastCycle_ok hmac serverUrl hget₂
  refine not_keyActive hpayload ?_
  intro r hr
  rw [htable₂, mem_deleteExpired, hmem] at hr
  obtain ⟨rfl, hlater⟩ := hr
  have hexpires : d.time < c.time + m.keyExpiry := hlater
  omega

end Cycles

/-- At the moment a cycle publishes, the key it names is an active row of the table: in every run,
    on a clock that does not go back. -/
def KeyOutlivesSweep (hmac : List UInt8 → List UInt8 → List UInt8) (serverUrl : String)
    (m : BroadcastKeyManagement) : Prop :=
  ∀ p c, (p ++ [c]).Pairwise (fun a b => a.time ≤ b.time) →
    (broadcastCycle hmac serverUrl m (runBroadcastLoop hmac serverUrl m p) c).KeyActive

/-- A cycle at a time, that draws zeros if it draws at all. -/
def blankCycle (time : ℕ) : Cycle where
  time        := time
  keyMaterial := .replicate 16 0
  keyId       := .replicate 4 0

/-- The settings for which the key survives, for a manager with any two durations. -/
theorem keyOutlivesSweep_iff (hmac : List UInt8 → List UInt8 → List UInt8) (serverUrl : String)
    (m : BroadcastKeyManagement) :
    KeyOutlivesSweep hmac serverUrl m ↔
      0 < m.keyExpiry ∧ m.rotationInterval ≤ m.keyExpiry := by
  constructor
  · intro h
    have hE : 0 < m.keyExpiry := by
      by_contra hzero
      exact not_keyActive_first (by omega) (blankCycle 0) (h [] (blankCycle 0) (by simp))
    refine ⟨hE, ?_⟩
    by_contra hR
    have hsteady : ([blankCycle 0] ++ [blankCycle m.keyExpiry]).Pairwise
        (fun a b => a.time ≤ b.time) := by simp [blankCycle]
    exact not_keyActive_second hE (not_le.mp hR) (Nat.zero_add _).symm
      (h [blankCycle 0] (blankCycle m.keyExpiry) hsteady)
  · rintro ⟨hE, hR⟩ p c -
    exact (outliving_loop hR p).keyActive hE c

/-- **When the key being broadcast survives the sweep.** For every environment: in every run of the
    broadcast loop exactly when `key_expiry` is positive and at least `key_rotation_interval`. -/
theorem published_key_active_iff (hmac : List UInt8 → List UInt8 → List UInt8) (serverUrl : String)
    (env : Env) :
    KeyOutlivesSweep hmac serverUrl (keyManagementOf (.fromEnv env)) ↔
      0 < (BeaconManagementConfig.fromEnv env).keyExpiry ∧
        (BeaconManagementConfig.fromEnv env).keyRotationInterval ≤
          (BeaconManagementConfig.fromEnv env).keyExpiry := by
  rw [keyOutlivesSweep_iff, keyManagementOf_keyExpiry, keyManagementOf_rotationInterval]

/-- `KEY_EXPIRY=1800`, and the default rotation interval of one hour. -/
def halfHourExpiry : Env := fun name => if name = "KEY_EXPIRY" then some "1800" else none

/-- **A key is published after it was deleted.** With `KEY_EXPIRY=1800` the settings are 3600 and
    1800; the key generated at 0 is still the active one at 1800, is fetched, is deleted by the
    sweep of that cycle, and is then broadcast. -/
theorem deleted_key_published :
    (BeaconManagementConfig.fromEnv halfHourExpiry).keyRotationInterval = 3600 ∧
      (BeaconManagementConfig.fromEnv halfHourExpiry).keyExpiry = 1800 ∧
      ([blankCycle 0] ++ [blankCycle 1800]).Pairwise (fun a b => a.time ≤ b.time) ∧
      ∀ hmac serverUrl,
        ¬ (broadcastCycle hmac serverUrl (keyManagementOf (.fromEnv halfHourExpiry))
          (runBroadcastLoop hmac serverUrl (keyManagementOf (.fromEnv halfHourExpiry))
            [blankCycle 0]) (blankCycle 1800)).KeyActive := by
  have hrotation : (BeaconManagementConfig.fromEnv halfHourExpiry).keyRotationInterval = 3600 := by
    decide
  have hexpiry : (BeaconManagementConfig.fromEnv halfHourExpiry).keyExpiry = 1800 := by decide
  refine ⟨hrotation, hexpiry, by simp [blankCycle], ?_⟩
  intro hmac serverUrl
  have hm : keyManagementOf (.fromEnv halfHourExpiry) = ⟨3600, 1800⟩ := by
    rw [keyManagementOf, hrotation, hexpiry]
  rw [hm]
  exact not_keyActive_second (by decide) (by decide) rfl

end HamletBroadcastCycle
