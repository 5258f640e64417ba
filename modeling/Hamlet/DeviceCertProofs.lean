import Hamlet.Lib.HistoryProofs
import Hamlet.Lib.KeyedTableProofs
import Hamlet.HandshakeProofs

/-!
# The device certificate store against its history

The CA keeps one row of `device_certs` per device: signing a CSR upserts it and clears its
revocation, revoking sets a flag. Five operations read or write the table, each with a statement of
its own.

Two layers:

* the code — `signCsr`, `revoke`, `getCert`, `isRevoked`, `listDevices` on a table with a unique
  `device_id`. Parsing and signing a CSR are arbitrary partial functions, and every statement may
  fail;
* the specification — the HISTORY of successful calls, and two questions to it: which certificate
  was signed last (`SignedLast`), and was it revoked since (`RevokedSince`).

`store_refines_history` answers all five operations from the history. The handshake's view of the
table as a function of the device id is `lookup`; `handshake_signCsr` and `lookup_setRevoked`
connect it to the table.
-/

namespace HamletDeviceCert

open KeyedTable History HamletHandshake

-- ── The table ────────────────────────────────────────────────────────────────

/-- A row of `device_certs`. -/
structure CertRow where
  deviceId  : String
  certPem   : String
  issuedAt  : ℤ
  expiresAt : ℤ
  revoked   : ℕ
  deriving DecidableEq, Repr

/-- The table; `device_id` is unique. -/
abbrev DeviceCerts := Table CertRow.deviceId

structure DeviceCertRecord where
  deviceId  : String
  certPem   : String
  issuedAt  : ℤ
  expiresAt : ℤ
  revoked   : Bool
  deriving DecidableEq, Repr

/-- The CA key: reading a CSR of a type `χ` from its PEM text, and the PEM text of the certificate
    it signs for one. -/
structure CaState (χ : Type) where
  fromPem  : String → Except String χ
  signedBy : χ → Except String String

variable {χ : Type}

/-- `operations::sign_csr`: a certificate is valid for a year. -/
def CaState.signCsr (ca : CaState χ) (csrPem : String) (now : ℤ) :
    Except String (String × ℤ × ℤ) :=
  match ca.fromPem csrPem with
  | .error e => .error ("Invalid CSR: " ++ e)
  | .ok csr =>
      match ca.signedBy csr with
      | .error e => .error ("Failed to sign CSR: " ++ e)
      | .ok pem => .ok (pem, now, now + 365 * 24 * 60 * 60)

-- ── The operations ───────────────────────────────────────────────────────────

/-- `INSERT … ON CONFLICT(device_id) DO UPDATE SET …, revoked = 0`. -/
def storeCert (t : DeviceCerts) (deviceId certPem : String) (issuedAt expiresAt : ℤ) :
    DeviceCerts :=
  t.upsert ⟨deviceId, certPem, issuedAt, expiresAt, 0⟩
    (fun old =>
      { old with certPem := certPem, issuedAt := issuedAt, expiresAt := expiresAt, revoked := 0 })
    fun _ => rfl

/-- `CaService::sign_csr`. -/
def signCsr (state : Option (CaState χ)) (t : DeviceCerts) (deviceId csrPem : String) (now : ℤ)
    (persist : Except String Unit) : Except String String × DeviceCerts :=
  match state with
  | none => (.error "CA not initialised", t)
  | some ca =>
      match ca.signCsr csrPem now with
      | .error e => (.error e, t)
      | .ok (certPem, issuedAt, expiresAt) =>
          match persist with
          | .error e => (.error ("Failed to persist device cert: " ++ e), t)
          | .ok () => (.ok certPem, storeCert t deviceId certPem issuedAt expiresAt)

/-- `UPDATE device_certs SET revoked = 1 WHERE device_id = ?`. -/
def setRevoked (t : DeviceCerts) (deviceId : String) : DeviceCerts :=
  t.update (fun r => decide (r.deviceId = deviceId)) (fun r => { r with revoked := 1 }) fun _ => rfl

/-- `CaService::revoke`: no row affected, no such device. -/
def revoke (t : DeviceCerts) (deviceId : String) (update : Except String Unit) :
    Except String Unit × DeviceCerts :=
  match update with
  | .error e => (.error ("Failed to revoke device cert: " ++ e), t)
  | .ok () =>
      if t.rowsAffected (fun r => decide (r.deviceId = deviceId)) = 0 then
        (.error ("Unknown device: " ++ deviceId), setRevoked t deviceId)
      else (.ok (), setRevoked t deviceId)

/-- `CaService::get_cert`. -/
def getCert (t : DeviceCerts) (deviceId : String) (query : Except String Unit) :
    Except String (Option String) :=
  match query with
  | .error e => .error ("Failed to query device cert: " ++ e)
  | .ok () => .ok ((t.find? deviceId).map CertRow.certPem)

/-- `CaService::is_revoked`: an unknown device is not revoked. -/
def isRevoked (t : DeviceCerts) (deviceId : String) (query : Except String Unit) :
    Except String Bool :=
  match query with
  | .error e => .error ("Failed to query revocation status: " ++ e)
  | .ok () => .ok (((t.find? deviceId).map fun r => decide (r.revoked ≠ 0)).getD false)

/-- A row as `list_devices` returns it. -/
def CertRow.record (r : CertRow) : DeviceCertRecord where
  deviceId  := r.deviceId
  certPem   := r.certPem
  issuedAt  := r.issuedAt
  expiresAt := r.expiresAt
  revoked   := decide (r.revoked ≠ 0)

/-- `CaService::list_devices`. -/
def listDevices (t : DeviceCerts) (query : Except String Unit) :
    Except String (List DeviceCertRecord) :=
  match query with
  | .error e => .error ("Failed to list device certs: " ++ e)
  | .ok () => .ok (t.rows.map CertRow.record)

-- ── What an operation does to the rows ───────────────────────────────────────

section Operations

variable (state : Option (CaState χ)) (t : DeviceCerts)

/-- Signing fails and changes nothing, or stores the certificate it returns. -/
theorem signCsr_cases (deviceId csrPem : String) (now : ℤ) (persist : Except String Unit) :
    (∃ e, signCsr state t deviceId csrPem now persist = (.error e, t)) ∨
      ∃ certPem issuedAt expiresAt, signCsr state t deviceId csrPem now persist =
        (.ok certPem, storeCert t deviceId certPem issuedAt expiresAt) := by
  cases state with
  | none => exact .inl ⟨_, rfl⟩
  | some ca =>
      rw [signCsr]
      cases ca.signCsr csrPem now with
      | error e => exact .inl ⟨_, rfl⟩
      | ok cert =>
          cases persist with
          | error e => exact .inl ⟨_, rfl⟩
          | ok u => exact .inr ⟨_, _, _, rfl⟩

/-- The device has the new row, and nobody else has another. -/
theorem find?_storeCert (deviceId certPem : String) (issuedAt expiresAt : ℤ) (d : String) :
    (storeCert t deviceId certPem issuedAt expiresAt).find? d =
      if deviceId = d then some ⟨deviceId, certPem, issuedAt, expiresAt, 0⟩ else t.find? d := by
  rw [storeCert, Table.find?_upsert]
  by_cases hd : deviceId = d
  · rw [if_pos hd, if_pos hd]
    cases hfind : t.find? d with
    | none => rfl
    | some old =>
        obtain ⟨-, hold⟩ := Table.find?_eq_some.mp hfind
        simp [hold, hd]
  · rw [if_neg hd, if_neg hd]

theorem find?_setRevoked (deviceId d : String) :
    (setRevoked t deviceId).find? d =
      if deviceId = d then (t.find? d).map fun r => { r with revoked := 1 } else t.find? d := by
  rw [setRevoked, Table.find?_update]
  cases hfind : t.find? d with
  | none => simp
  | some r =>
      obtain ⟨-, hr⟩ := Table.find?_eq_some.mp hfind
      by_cases hd : deviceId = d
      · simp [hr, hd]
      · simp [hr, hd, Ne.symm hd]

/-- An `UPDATE` that affects no row changes nothing. -/
theorem setRevoked_of_unknown {deviceId : String} (h : t.find? deviceId = none) :
    setRevoked t deviceId = t := by
  refine Table.ext ?_
  rw [setRevoked, Table.update]
  refine (List.map_congr_left fun r hr => ?_).trans (List.map_id t.rows)
  have hne : r.deviceId ≠ deviceId := Table.find?_eq_none.mp h r hr
  simp [hne]

/-- The rows affected tell whether the device is known. -/
theorem rowsAffected_eq_zero_iff (deviceId : String) :
    t.rowsAffected (fun r => decide (r.deviceId = deviceId)) = 0 ↔ t.find? deviceId = none := by
  rw [Table.rowsAffected, List.countP_eq_zero, Table.find?_eq_none]
  simp

/-- Revoking fails and changes nothing, or finds the device and sets its flag. -/
theorem revoke_cases (deviceId : String) (update : Except String Unit) :
    ((update ≠ .ok () ∨ t.find? deviceId = none) ∧
        ∃ e, revoke t deviceId update = (.error e, t)) ∨
      (update = .ok () ∧ (∃ r, t.find? deviceId = some r) ∧
        revoke t deviceId update = (.ok (), setRevoked t deviceId)) := by
  cases update with
  | error e => exact .inl ⟨.inl nofun, _, rfl⟩
  | ok u =>
      cases hfind : t.find? deviceId with
      | none =>
          refine .inl ⟨.inr rfl, "Unknown device: " ++ deviceId, ?_⟩
          rw [revoke, if_pos ((rowsAffected_eq_zero_iff t deviceId).mpr hfind),
            setRevoked_of_unknown t hfind]
      | some r =>
          refine .inr ⟨rfl, ⟨r, rfl⟩, ?_⟩
          rw [revoke, if_neg]
          rw [rowsAffected_eq_zero_iff, hfind]
          exact Option.some_ne_none r

end Operations

-- ── The history ──────────────────────────────────────────────────────────────

/-- A call that succeeded. -/
inductive CertEvent where
  | signed (deviceId certPem : String)
  | revoked (deviceId : String)
  deriving DecidableEq, Repr

/-- A certificate was signed for the device. -/
def CertEvent.Signs (d : String) (e : CertEvent) : Prop := ∃ certPem, e = .signed d certPem

/-- The certificate that was signed last for a device. -/
def SignedLast (h : List CertEvent) (d certPem : String) : Prop :=
  Since (· = .signed d certPem) (CertEvent.Signs d) h

/-- The device was revoked after its last certificate was signed. -/
def RevokedSince (h : List CertEvent) (d : String) : Prop :=
  Since (· = .revoked d) (CertEvent.Signs d) h

/-- No certificate was ever signed for the device. -/
def NeverSigned (h : List CertEvent) (d : String) : Prop := ∀ certPem, .signed d certPem ∉ h

/-- A call of the CA that writes. -/
inductive CertCall where
  | sign (deviceId csrPem : String) (now : ℤ) (persist : Except String Unit)
  | revoke (deviceId : String) (update : Except String Unit)

/-- The table, and what has succeeded so far. -/
structure Store where
  table   : DeviceCerts
  history : List CertEvent

/-- A result that is recorded when it is `Ok`. -/
def recorded {α : Type} (h : List CertEvent) (event : α → CertEvent) :
    Except String α → List CertEvent
  | .ok a => h ++ [event a]
  | .error _ => h

/-- One call. -/
def Store.call (state : Option (CaState χ)) (s : Store) : CertCall → Store
  | .sign d csrPem now persist =>
      let r := signCsr state s.table d csrPem now persist
      ⟨r.2, recorded s.history (.signed d) r.1⟩
  | .revoke d update =>
      let r := HamletDeviceCert.revoke s.table d update
      ⟨r.2, recorded s.history (fun _ => .revoked d) r.1⟩

/-- Calls one after another, from the empty table. -/
def callAll (state : Option (CaState χ)) (calls : List CertCall) : Store :=
  calls.foldl (Store.call state) ⟨.empty, []⟩

-- ── The rows say what the history says ───────────────────────────────────────

/-- The device a successful call was about. -/
def CertEvent.device : CertEvent → String
  | .signed d _ => d
  | .revoked d => d

/-- What the row of a device, or its absence, says about the history. -/
def RowMatches (h : List CertEvent) (d : String) : Option CertRow → Prop
  | none => NeverSigned h d ∧ .revoked d ∉ h
  | some r => SignedLast h d r.certPem ∧ (r.revoked ≠ 0 ↔ RevokedSince h d)

/-- An event of another device changes nothing. -/
theorem rowMatches_concat_of_ne {h : List CertEvent} {d : String} {row : Option CertRow}
    {e : CertEvent} (hm : RowMatches h d row) (hd : e.device ≠ d) :
    RowMatches (h ++ [e]) d row := by
  have hsigned : ∀ c, e ≠ .signed d c := by rintro c rfl; exact hd rfl
  have hrevoked : e ≠ .revoked d := by rintro rfl; exact hd rfl
  have hsigns : ¬ e.Signs d := fun ⟨c, hc⟩ => hsigned c hc
  cases row with
  | none =>
      refine ⟨fun c hc => ?_, fun hc => ?_⟩
      · rcases List.mem_append.mp hc with hc | hc
        · exact hm.1 c hc
        · exact hsigned c (List.mem_singleton.mp hc).symm
      · rcases List.mem_append.mp hc with hc | hc
        · exact hm.2 hc
        · exact hrevoked (List.mem_singleton.mp hc).symm
  | some r =>
      refine ⟨?_, hm.2.trans ?_⟩
      · have hkeep := since_concat_of_not (P := (· = CertEvent.signed d r.certPem)) (h := h)
          (hsigned r.certPem) hsigns
        exact hkeep.mpr hm.1
      · exact (since_concat_of_not (P := (· = CertEvent.revoked d)) hrevoked hsigns).symm

/-- Signing: the new certificate is the last one, and not revoked. -/
theorem rowMatches_signed (h : List CertEvent) (d certPem : String) (issuedAt expiresAt : ℤ) :
    RowMatches (h ++ [.signed d certPem]) d (some ⟨d, certPem, issuedAt, expiresAt, 0⟩) := by
  refine ⟨since_concat.mpr (.inl rfl), ⟨fun hne => absurd rfl hne, fun hrev => ?_⟩⟩
  rcases since_concat.mp hrev with heq | ⟨-, hno⟩
  · exact nomatch heq
  · exact absurd ⟨certPem, rfl⟩ hno

/-- Revoking: the certificate is the one it was, and revoked now. -/
theorem rowMatches_revoked {h : List CertEvent} {d : String} {r : CertRow}
    (hm : RowMatches h d (some r)) :
    RowMatches (h ++ [.revoked d]) d (some { r with revoked := 1 }) := by
  have hno : ¬ CertEvent.Signs d (.revoked d) := fun ⟨_, hc⟩ => nomatch hc
  exact ⟨(since_concat_of_not nofun hno).mpr hm.1,
    ⟨fun _ => since_concat.mpr (.inl rfl), fun _ => Nat.one_ne_zero⟩⟩

/-- Every row, and every absence of one, says what the history says. -/
def Store.Matches (s : Store) : Prop := ∀ d, RowMatches s.history d (s.table.find? d)

theorem Store.Matches.call (state : Option (CaState χ)) {s : Store} (h : s.Matches)
    (c : CertCall) : (s.call state c).Matches := by
  cases c with
  | sign d csrPem now persist =>
      rcases signCsr_cases state s.table d csrPem now persist with
        ⟨e, heq⟩ | ⟨certPem, issuedAt, expiresAt, heq⟩
      · rw [Store.call, heq]
        exact h
      · rw [Store.call, heq]
        intro d'
        show RowMatches (s.history ++ [.signed d certPem]) d' ((storeCert ..).find? d')
        rw [find?_storeCert]
        by_cases hd : d = d'
        · subst hd
          rw [if_pos rfl]
          exact rowMatches_signed ..
        · rw [if_neg hd]
          exact rowMatches_concat_of_ne (h d') hd
  | revoke d update =>
      rcases revoke_cases s.table d update with ⟨-, e, heq⟩ | ⟨-, ⟨r, hr⟩, heq⟩
      · rw [Store.call, heq]
        exact h
      · rw [Store.call, heq]
        intro d'
        show RowMatches (s.history ++ [.revoked d]) d' ((setRevoked ..).find? d')
        rw [find?_setRevoked]
        by_cases hd : d = d'
        · subst hd
          have hrow := h d
          rw [hr] at hrow
          rw [if_pos rfl, hr]
          exact rowMatches_revoked hrow
        · rw [if_neg hd]
          exact rowMatches_concat_of_ne (h d') hd

theorem matches_callAll (state : Option (CaState χ)) (calls : List CertCall) :
    (callAll state calls).Matches := by
  induction calls using List.reverseRecOn with
  | nil => exact fun d => ⟨fun _ h => (nomatch h), fun h => (nomatch h)⟩
  | append_singleton calls c ih =>
      rw [callAll, List.foldl_append]
      exact ih.call state c

-- ── The operations, answered from the history ────────────────────────────────

section Answers

variable {s : Store} (h : s.Matches) (d : String)

include h

/-- There is a row exactly when a certificate was ever signed. -/
theorem find?_eq_none_iff : s.table.find? d = none ↔ NeverSigned s.history d := by
  have hrow := h d
  cases hfind : s.table.find? d with
  | none =>
      rw [hfind] at hrow
      exact ⟨fun _ => hrow.1, fun _ => rfl⟩
  | some r =>
      rw [hfind] at hrow
      refine ⟨nofun, fun hnever => ?_⟩
      obtain ⟨e, he, rfl⟩ := hrow.1.exists
      exact absurd he (hnever r.certPem)

theorem getCert_some_iff (certPem : String) :
    getCert s.table d (.ok ()) = .ok (some certPem) ↔ SignedLast s.history d certPem := by
  have hrow := h d
  rw [getCert]
  cases hfind : s.table.find? d with
  | none =>
      rw [hfind] at hrow
      refine ⟨nofun, fun hlast => ?_⟩
      obtain ⟨e, he, rfl⟩ := hlast.exists
      exact absurd he (hrow.1 certPem)
  | some r =>
      rw [hfind] at hrow
      constructor
      · intro heq
        obtain rfl : r.certPem = certPem := by simpa using heq
        exact hrow.1
      · intro hlast
        have hsame := since_eq_unique ⟨r.certPem, rfl⟩ ⟨certPem, rfl⟩ hrow.1 hlast
        have hpem : r.certPem = certPem := (CertEvent.signed.inj hsame).2
        rw [Option.map_some, hpem]

theorem getCert_none_iff :
    getCert s.table d (.ok ()) = .ok none ↔ NeverSigned s.history d := by
  rw [getCert, ← find?_eq_none_iff h d]
  simp

theorem isRevoked_iff :
    ∃ b, isRevoked s.table d (.ok ()) = .ok b ∧ (b = true ↔ RevokedSince s.history d) := by
  have hrow := h d
  refine ⟨_, rfl, ?_⟩
  cases hfind : s.table.find? d with
  | none =>
      rw [hfind] at hrow
      refine ⟨nofun, fun hrev => ?_⟩
      obtain ⟨e, he, rfl⟩ := hrev.exists
      exact absurd he hrow.2
  | some r =>
      rw [hfind] at hrow
      simpa using hrow.2

theorem revoke_error_iff (update : Except String Unit) :
    (∃ e, (revoke s.table d update).1 = .error e) ↔
      update ≠ .ok () ∨ NeverSigned s.history d := by
  rw [← find?_eq_none_iff h d]
  rcases revoke_cases s.table d update with ⟨hwhy, e, heq⟩ | ⟨hok, ⟨r, hr⟩, heq⟩
  · rw [heq]
    exact ⟨fun _ => hwhy, fun _ => ⟨e, rfl⟩⟩
  · rw [heq, hok, hr]
    exact ⟨fun ⟨_, herr⟩ => (nomatch herr), fun hwhy => by simp at hwhy⟩

/-- The list has one record for each device that was ever signed, and it says what the history
    says. -/
theorem listDevices_spec :
    ∃ records, listDevices s.table (.ok ()) = .ok records ∧
      (records.map DeviceCertRecord.deviceId).Nodup ∧
      (∀ d, d ∈ records.map DeviceCertRecord.deviceId ↔ ¬ NeverSigned s.history d) ∧
      ∀ x ∈ records, SignedLast s.history x.deviceId x.certPem ∧
        (x.revoked = true ↔ RevokedSince s.history x.deviceId) := by
  have hids : (s.table.rows.map CertRow.record).map DeviceCertRecord.deviceId =
      s.table.rows.map CertRow.deviceId := by
    rw [List.map_map]
    rfl
  refine ⟨_, rfl, ?_, ?_, ?_⟩
  · rw [hids]
    exact s.table.unique
  · intro d
    rw [hids, ← find?_eq_none_iff h d, Table.find?_eq_none]
    simp
  · intro x hx
    obtain ⟨r, hr, rfl⟩ := List.mem_map.mp hx
    have hfind : s.table.find? r.deviceId = some r := Table.find?_eq_some.mpr ⟨hr, rfl⟩
    have hrow := h r.deviceId
    rw [hfind] at hrow
    exact ⟨hrow.1, by simpa [CertRow.record] using hrow.2⟩

end Answers

-- ── What a call leaves alone ─────────────────────────────────────────────────

/-- Everything the operations tell about one device. -/
structure Observed where
  cert    : Except String (Option String)
  revoked : Except String Bool
  revoke  : Except String Unit
  listed  : Except String (List DeviceCertRecord)

def observe (t : DeviceCerts) (d : String) : Observed where
  cert    := getCert t d (.ok ())
  revoked := isRevoked t d (.ok ())
  revoke  := (revoke t d (.ok ())).1
  listed  := (listDevices t (.ok ())).map fun records => records.filter fun x => x.deviceId = d

/-- All of it is read off the row of the device. -/
theorem observe_congr {t t' : DeviceCerts} {d : String} (h : t.find? d = t'.find? d) :
    observe t d = observe t' d := by
  have hlisted : ∀ t : DeviceCerts, (observe t d).listed =
      .ok ((t.find? d).toList.map CertRow.record) := by
    intro t
    rw [← Table.filter_key]
    exact congrArg Except.ok List.filter_map
  have hrevoke : ∀ t : DeviceCerts, (observe t d).revoke =
      if t.find? d = none then .error ("Unknown device: " ++ d) else .ok () := by
    intro t
    simp only [observe, revoke, rowsAffected_eq_zero_iff]
    split <;> rfl
  have hcert : (observe t d).cert = (observe t' d).cert := by
    simp only [observe, getCert, h]
  have hrevoked : (observe t d).revoked = (observe t' d).revoked := by
    simp only [observe, isRevoked, h]
  have hrevoke' : (observe t d).revoke = (observe t' d).revoke := by rw [hrevoke, hrevoke, h]
  have hlisted' : (observe t d).listed = (observe t' d).listed := by rw [hlisted, hlisted, h]
  calc observe t d
      = ⟨(observe t d).cert, (observe t d).revoked, (observe t d).revoke,
          (observe t d).listed⟩ := rfl
    _ = observe t' d := by rw [hcert, hrevoked, hrevoke', hlisted']

/-- The device a call is about. -/
def CertCall.device : CertCall → String
  | .sign d _ _ _ => d
  | .revoke d _ => d

/-- A call touches the row of its own device. -/
theorem find?_call_of_ne (state : Option (CaState χ)) (s : Store) {c : CertCall} {d : String}
    (hd : c.device ≠ d) : (s.call state c).table.find? d = s.table.find? d := by
  cases c with
  | sign d' csrPem now persist =>
      rw [Store.call]
      rcases signCsr_cases state s.table d' csrPem now persist with ⟨e, heq⟩ | ⟨_, _, _, heq⟩
      · rw [heq]
      · rw [heq]
        exact (find?_storeCert ..).trans (if_neg hd)
  | revoke d' update =>
      rw [Store.call]
      rcases revoke_cases s.table d' update with ⟨-, e, heq⟩ | ⟨-, -, heq⟩
      · rw [heq]
      · rw [heq]
        exact (find?_setRevoked ..).trans (if_neg hd)

/-- The result of a call, as success or failure. -/
def CertCall.Fails (state : Option (CaState χ)) (t : DeviceCerts) : CertCall → Prop
  | .sign d csrPem now persist => ∃ e, (signCsr state t d csrPem now persist).1 = .error e
  | .revoke d update => ∃ e, (HamletDeviceCert.revoke t d update).1 = .error e

/-- A call that fails changes nothing. -/
theorem call_of_fails (state : Option (CaState χ)) (s : Store) {c : CertCall}
    (hc : c.Fails state s.table) : s.call state c = s := by
  cases c with
  | sign d csrPem now persist =>
      obtain ⟨e, he⟩ := hc
      rcases signCsr_cases state s.table d csrPem now persist with ⟨e', heq⟩ | ⟨_, _, _, heq⟩
      · rw [Store.call, heq]
        rfl
      · rw [heq] at he
        exact nomatch he
  | revoke d update =>
      obtain ⟨e, he⟩ := hc
      rcases revoke_cases s.table d update with ⟨-, e', heq⟩ | ⟨-, -, heq⟩
      · rw [Store.call, heq]
        rfl
      · rw [heq] at he
        exact nomatch he

-- ── The store refines its history ────────────────────────────────────────────

/-- What the operations and the history of a store say about each other, and what a further call
    leaves alone. -/
structure RefinesHistory (state : Option (CaState χ)) (s : Store) : Prop where
  get_cert      : ∀ d certPem,
    getCert s.table d (.ok ()) = .ok (some certPem) ↔ SignedLast s.history d certPem
  get_none      : ∀ d, getCert s.table d (.ok ()) = .ok none ↔ NeverSigned s.history d
  is_revoked    : ∀ d,
    ∃ b, isRevoked s.table d (.ok ()) = .ok b ∧ (b = true ↔ RevokedSince s.history d)
  revoke_fails  : ∀ d update, (∃ e, (revoke s.table d update).1 = .error e) ↔
    update ≠ .ok () ∨ NeverSigned s.history d
  list_devices  : ∃ records, listDevices s.table (.ok ()) = .ok records ∧
    (records.map DeviceCertRecord.deviceId).Nodup ∧
    (∀ d, d ∈ records.map DeviceCertRecord.deviceId ↔ ¬ NeverSigned s.history d) ∧
    ∀ x ∈ records, SignedLast s.history x.deviceId x.certPem ∧
      (x.revoked = true ↔ RevokedSince s.history x.deviceId)
  failed_calls  : ∀ c : CertCall, c.Fails state s.table → s.call state c = s
  other_devices : ∀ (c : CertCall) (d : String), c.device ≠ d →
    observe (s.call state c).table d = observe s.table d

/-- **The device certificate store refines its history**: for every sequence of `sign_csr` and
    `revoke` calls, with any CA, any CSRs and any failures. -/
theorem store_refines_history (state : Option (CaState χ)) (calls : List CertCall) :
    RefinesHistory state (callAll state calls) := by
  have h := matches_callAll state calls
  exact
    { get_cert      := getCert_some_iff h
      get_none      := getCert_none_iff h
      is_revoked    := isRevoked_iff h
      revoke_fails  := revoke_error_iff h
      list_devices  := listDevices_spec h
      failed_calls  := fun _ hc => call_of_fails state _ hc
      other_devices := fun _ _ hd => observe_congr (find?_call_of_ne state _ hd) }

-- ── The table as a function of the device ────────────────────────────────────

/-- A row without its key. -/
def CertRow.cert (r : CertRow) : DeviceCert where
  certPem   := r.certPem
  issuedAt  := r.issuedAt
  expiresAt := r.expiresAt
  revoked   := decide (r.revoked ≠ 0)

/-- The table, by device id. -/
def lookup (t : DeviceCerts) : String → Option DeviceCert :=
  fun d => (t.find? d).map CertRow.cert

theorem lookup_storeCert (t : DeviceCerts) (deviceId certPem : String) (issuedAt expiresAt : ℤ) :
    lookup (storeCert t deviceId certPem issuedAt expiresAt) =
      Function.update (lookup t) deviceId (some ⟨certPem, issuedAt, expiresAt, false⟩) := by
  funext d
  rw [lookup, find?_storeCert]
  by_cases hd : deviceId = d
  · subst hd
    rw [if_pos rfl, Function.update_self]
    rfl
  · rw [if_neg hd, Function.update_of_ne (Ne.symm hd)]
    rfl

theorem lookup_setRevoked (t : DeviceCerts) (deviceId : String) :
    lookup (setRevoked t deviceId) =
      Function.update (lookup t) deviceId
        ((lookup t deviceId).map fun c => { c with revoked := true }) := by
  funext d
  rw [lookup, find?_setRevoked]
  by_cases hd : deviceId = d
  · subst hd
    rw [if_pos rfl, Function.update_self, lookup, Option.map_map, Option.map_map]
    rfl
  · rw [if_neg hd, Function.update_of_ne (Ne.symm hd)]
    rfl

/-- What a node does with its table when a CSR is signed. -/
theorem handshake_signCsr (state : Option (CaState χ)) (t : DeviceCerts) (app : AppState)
    (node : Node) (hca : app.caReady = state.isSome) (ht : node.deviceCerts = lookup t)
    (deviceId csrPem : String) (now : ℤ) (o : InitOutcome)
    (hsign : ∀ ca, state = some ca → o.sign = ca.signCsr csrPem now) :
    (HamletHandshake.signCsr app node deviceId o).1 =
        (signCsr state t deviceId csrPem now o.persist).1 ∧
      (HamletHandshake.signCsr app node deviceId o).2.deviceCerts =
        lookup (signCsr state t deviceId csrPem now o.persist).2 := by
  rw [HamletHandshake.signCsr, hca]
  cases state with
  | none => exact ⟨rfl, ht⟩
  | some ca =>
      rw [signCsr, hsign ca rfl]
      cases ca.signCsr csrPem now with
      | error e => exact ⟨rfl, ht⟩
      | ok cert =>
          cases o.persist with
          | error e => exact ⟨rfl, ht⟩
          | ok u =>
              refine ⟨rfl, ?_⟩
              show Function.update node.deviceCerts deviceId _ = lookup (storeCert ..)
              rw [lookup_storeCert, ht]

end HamletDeviceCert
