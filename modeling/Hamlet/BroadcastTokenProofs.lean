import Hamlet.BroadcastCycleProofs

/-!
# The token as a beacon sees it

A broadcast carries a key id and a token, each as eight hexadecimal digits. The token is a truncated
HMAC of the time slot; the key itself is never sent. A beacon that was given the keys looks up the
one the id names and recomputes the token — for the slot of its own clock and for the two slots
beside it, because the two clocks drift. That rule is the protocol's, stated in the documentation of
`BroadcastKeyManagement`; `beaconAccepts` writes it down.

The two sides share nothing but the encoding and the slots, so the agreement rests on three facts:
`hex_encode` loses nothing, ids are unique in the table, and clocks that are close give slots that
are next to each other. `broadcast_accepted` puts them together for every HMAC and every history of
the table; `drift_tolerated_iff` says how much drift the three slots really cover.
-/

namespace HamletBroadcastToken

open KeyedTable HamletKeyManagement HamletBroadcastCycle

-- ── The encoding ─────────────────────────────────────────────────────────────

theorem hexDigit_inj {a b : ℕ} (ha : a < 16) (hb : b < 16) (h : hexDigit a = hexDigit b) :
    a = b := by
  have hall : ∀ a b : Fin 16, hexDigit a = hexDigit b → a = b := by decide +kernel
  exact congrArg Fin.val (hall ⟨a, ha⟩ ⟨b, hb⟩ h)

/-- The digits of a byte determine it. -/
theorem byte_eq_of_digits {a b : UInt8} (hhigh : hexDigit (a.toNat / 16) = hexDigit (b.toNat / 16))
    (hlow : hexDigit (a.toNat % 16) = hexDigit (b.toNat % 16)) : a = b := by
  have ha : a.toNat < 256 := a.toNat_lt
  have hb : b.toNat < 256 := b.toNat_lt
  have hdiv := hexDigit_inj (by omega) (by omega) hhigh
  have hmod := hexDigit_inj (by omega) (by omega) hlow
  refine UInt8.toNat_inj.mp ?_
  omega

/-- `hex_encode` loses nothing. -/
theorem hexEncode_injective : Function.Injective hexEncode := by
  intro bytes
  induction bytes with
  | nil =>
      intro bytes' h
      cases bytes' with
      | nil => rfl
      | cons b bytes' => exact nomatch String.ofList_injective h
  | cons a bytes ih =>
      intro bytes' h
      have hchars := String.ofList_injective h
      cases bytes' with
      | nil => exact nomatch hchars
      | cons b bytes' =>
          simp only [List.flatMap_cons, List.cons_append, List.nil_append, List.cons.injEq]
            at hchars
          obtain ⟨hhigh, hlow, hrest⟩ := hchars
          obtain rfl := byte_eq_of_digits hhigh hlow
          rw [ih (congrArg String.ofList hrest)]

theorem length_hexEncode (bytes : List UInt8) : (hexEncode bytes).length = 2 * bytes.length := by
  rw [hexEncode, String.length_ofList]
  induction bytes with
  | nil => rfl
  | cons b bytes ih =>
      rw [List.flatMap_cons, List.length_append, ih, List.length_cons]
      show 2 + 2 * bytes.length = 2 * (bytes.length + 1)
      omega

-- ── Slots ────────────────────────────────────────────────────────────────────

/-- The slot of a time. -/
def slot (m : BroadcastKeyManagement) (now : ℕ) : ℕ := now / max m.rotationInterval 1

/-- The slots a beacon tries at a time. -/
def triedSlots (m : BroadcastKeyManagement) (clock : ℕ) : List ℕ :=
  [slot m clock - 1, slot m clock, slot m clock + 1]

theorem mem_triedSlots {m : BroadcastKeyManagement} {clock n : ℕ} :
    n ∈ triedSlots m clock ↔ n ≤ slot m clock + 1 ∧ slot m clock ≤ n + 1 := by
  simp only [triedSlots, List.mem_cons, List.not_mem_nil, or_false]
  omega

/-- **How much drift is covered.** Whatever the two clocks read, a drift of up to `drift` seconds
    leaves the node's slot among the three that the beacon tries exactly when `drift` is at most the
    rotation interval. -/
theorem drift_tolerated_iff (m : BroadcastKeyManagement) (drift : ℕ) :
    (∀ now clock, now ≤ clock + drift → clock ≤ now + drift → slot m now ∈ triedSlots m clock) ↔
      drift ≤ max m.rotationInterval 1 := by
  have hpos : 0 < max m.rotationInterval 1 := by omega
  constructor
  · intro h
    by_contra hlarge
    -- the last second of slot 0 and the first of slot 2
    have hmem := h (2 * max m.rotationInterval 1) (max m.rotationInterval 1 - 1) (by omega)
      (by omega)
    have hzero : slot m (max m.rotationInterval 1 - 1) = 0 := Nat.div_eq_of_lt (by omega)
    have htwo : slot m (2 * max m.rotationInterval 1) = 2 := Nat.mul_div_cancel _ hpos
    rw [mem_triedSlots, hzero, htwo] at hmem
    omega
  · intro hdrift now clock hnow hclock
    have hadd : ∀ x y : ℕ, x ≤ y + max m.rotationInterval 1 → slot m x ≤ slot m y + 1 := by
      intro x y hxy
      calc slot m x ≤ (y + max m.rotationInterval 1) / max m.rotationInterval 1 :=
            Nat.div_le_div_right hxy
        _ = slot m y + 1 := Nat.add_div_right _ hpos
    exact mem_triedSlots.mpr ⟨hadd now clock (by omega), hadd clock now (by omega)⟩

-- ── The beacon ───────────────────────────────────────────────────────────────

section Beacon

variable (hmac : List UInt8 → List UInt8 → List UInt8)

/-- The token of a slot, as a beacon computes it. -/
def slotToken (keyMaterial : List UInt8) (n : ℕ) : String :=
  hexEncode ((hmac keyMaterial (toBeBytes n)).take 4)

/-- The beacon's check against one key. -/
def verifies (m : BroadcastKeyManagement) (clock : ℕ) (kid tok : String) (r : KeyRow) : Bool :=
  hexEncode r.keyId == kid && (triedSlots m clock).any fun n => slotToken hmac r.keyMaterial n == tok

/-- The beacon's check against the keys it was given. -/
def beaconAccepts (m : BroadcastKeyManagement) (known : List KeyRow) (clock : ℕ)
    (kid tok : String) : Bool :=
  known.any (verifies hmac m clock kid tok)

variable {hmac}

theorem verifies_iff {m : BroadcastKeyManagement} {clock : ℕ} {kid tok : String} {r : KeyRow} :
    verifies hmac m clock kid tok r = true ↔
      hexEncode r.keyId = kid ∧ ∃ n ∈ triedSlots m clock, slotToken hmac r.keyMaterial n = tok := by
  simp only [verifies, Bool.and_eq_true, beq_iff_eq, List.any_eq_true]

/-- **Broadcasts are accepted.** For every HMAC and after every history of the table: when a cycle
    gets a key, the two fields it sends have eight characters — the token if the HMAC has the 32
    bytes of SHA-256; a beacon that knows the table accepts them on a clock that is off by at most a
    rotation interval; and whatever token comes with this id, on whatever clock, the beacon verifies
    it against that very key and no other. -/
theorem broadcast_accepted (hmac : List UInt8 → List UInt8 → List UInt8)
    (m : BroadcastKeyManagement) (calls : List KeyCall) (c : GetCall) (key : BroadcastKey)
    (t : BroadcastKeys) (hget : m.getOrRotateKey (m.callAll calls) c = (.ok key, t)) (now : ℕ) :
    (otaFields hmac m key now).1.length = 8 ∧
      ((∀ k text, (hmac k text).length = 32) → (otaFields hmac m key now).2.length = 8) ∧
      (∀ clock, now ≤ clock + max m.rotationInterval 1 → clock ≤ now + max m.rotationInterval 1 →
        beaconAccepts hmac m t.rows clock (otaFields hmac m key now).1
          (otaFields hmac m key now).2 = true) ∧
      ∀ clock tok, ∀ r ∈ t.rows,
        verifies hmac m clock (otaFields hmac m key now).1 tok r = true → r.Holds key := by
  have hwf := wellFormed_callAll m calls
  obtain ⟨row, hrows, hholds⟩ := hwf.returned hget
  have hrow : row ∈ t.rows := by
    have hactive : row ∈ activeRows t := by rw [hrows]; exact List.mem_cons_self
    exact (mem_activeRows.mp hactive).1
  refine ⟨?_, ?_, ?_, ?_⟩
  · rw [otaFields, length_hexEncode, List.Vector.toList_length]
  · intro h32
    rw [otaFields, length_hexEncode, generateToken, List.length_take, h32]
    rfl
  · intro clock hnow hclock
    have hslot : slot m now ∈ triedSlots m clock :=
      (drift_tolerated_iff m _).mpr le_rfl now clock hnow hclock
    refine List.any_eq_true.mpr ⟨row, hrow, verifies_iff.mpr ⟨?_, slot m now, hslot, ?_⟩⟩
    · exact congrArg hexEncode hholds.1
    · rw [slotToken, hholds.2.1]
      rfl
  · -- ids are unique, and the id sent is the id of the active row
    intro clock tok r hr hverified
    have hid : r.keyId = row.keyId := by
      rw [hholds.1]
      exact hexEncode_injective (verifies_iff.mp hverified).1
    rw [t.eq_of_key_eq hr hrow hid]
    exact hholds

end Beacon

/-- A fresh node, a key that rotates every hour, and a beacon whose clock is half an hour ahead. -/
theorem broadcast_accepted_fresh :
    beaconAccepts (fun key text => key ++ text) ⟨3600, 86400⟩
      (BroadcastKeyManagement.getOrRotateKey ⟨3600, 86400⟩ .empty (blankCycle 7200).get).2.rows 9000
      (otaFields (fun key text => key ++ text) ⟨3600, 86400⟩
        (BroadcastKeyManagement.newKey ⟨3600, 86400⟩ (blankCycle 7200).get) 7200).1
      (otaFields (fun key text => key ++ text) ⟨3600, 86400⟩
        (BroadcastKeyManagement.newKey ⟨3600, 86400⟩ (blankCycle 7200).get) 7200).2 = true :=
  (broadcast_accepted (fun key text => key ++ text) ⟨3600, 86400⟩ [] (blankCycle 7200).get _ _ rfl
    7200).2.2.1 9000 (by decide) (by decide)

end HamletBroadcastToken
