import Mathlib.Data.List.Nodup

/-!
# Tables with a unique key

A database table with a `PRIMARY KEY` or `UNIQUE` column is a list of rows no two of which have the
same key; the constraint is a FIELD of the table, so that a table breaking it cannot be built. The
statements are the four a program issues:

* `insert?` — `INSERT`, refused when the key is taken;
* `upsert` — `INSERT … ON CONFLICT (key) DO UPDATE`;
* `update` — `UPDATE … SET … WHERE …`, of columns other than the key;
* `delete` — `DELETE … WHERE …`.

`find?` is a `SELECT` by key. Its lemmas say what each statement does to it, so that a table can be
read as a partial function of the key; the lemmas about `rows` say the same of the rows.
-/

namespace KeyedTable

variable {ρ κ : Type*}

structure Table (key : ρ → κ) where
  rows   : List ρ
  unique : (rows.map key).Nodup

namespace Table

variable {key : ρ → κ}

@[ext] theorem ext {t t' : Table key} (h : t.rows = t'.rows) : t = t' := by
  cases t
  cases t'
  obtain rfl : _ = _ := h
  rfl

/-- The table right after `CREATE TABLE`. -/
def empty : Table key where
  rows   := []
  unique := List.nodup_nil

/-- Rows with the same key are the same row. -/
theorem eq_of_key_eq (t : Table key) {r r' : ρ} (hr : r ∈ t.rows) (hr' : r' ∈ t.rows)
    (h : key r = key r') : r = r' :=
  List.inj_on_of_nodup_map t.unique hr hr' h

/-- The rows are pairwise different. -/
theorem nodup_rows (t : Table key) : t.rows.Nodup := t.unique.of_map

-- ── UPDATE and DELETE ────────────────────────────────────────────────────────

/-- `UPDATE`: the rows that meet the condition are changed, their keys are not. -/
def update (t : Table key) (p : ρ → Bool) (f : ρ → ρ) (hf : ∀ r, key (f r) = key r) :
    Table key where
  rows   := t.rows.map fun r => if p r then f r else r
  unique := by
    have hkey : ∀ r, key (if p r then f r else r) = key r := by
      intro r
      by_cases hp : p r = true
      · rw [if_pos hp, hf]
      · rw [if_neg hp]
    have hkeys : (t.rows.map fun r => if p r then f r else r).map key = t.rows.map key := by
      rw [List.map_map]
      exact List.map_congr_left fun r _ => hkey r
    rw [hkeys]
    exact t.unique

/-- `DELETE`: the rows that meet the condition are gone. -/
def delete (t : Table key) (p : ρ → Bool) : Table key where
  rows   := t.rows.filter fun r => !p r
  unique := t.unique.sublist (List.filter_sublist.map key)

/-- The number of rows a statement with this condition affects. -/
def rowsAffected (t : Table key) (p : ρ → Bool) : ℕ := t.rows.countP p

theorem mem_update {t : Table key} {p : ρ → Bool} {f : ρ → ρ} {hf : ∀ r, key (f r) = key r}
    {x : ρ} :
    x ∈ (t.update p f hf).rows ↔
      ∃ r ∈ t.rows, (p r = true ∧ x = f r) ∨ (p r = false ∧ x = r) := by
  rw [update, List.mem_map]
  refine exists_congr fun r => and_congr_right fun _ => ?_
  by_cases hp : p r = true
  · simp [hp, eq_comm]
  · simp [hp, eq_comm]

/-- A row that the condition misses stays. -/
theorem mem_update_of_not {t : Table key} {p : ρ → Bool} {f : ρ → ρ}
    {hf : ∀ r, key (f r) = key r} {x : ρ} (hx : x ∈ t.rows) (hp : p x = false) :
    x ∈ (t.update p f hf).rows :=
  mem_update.mpr ⟨x, hx, .inr ⟨hp, rfl⟩⟩

theorem mem_delete {t : Table key} {p : ρ → Bool} {x : ρ} :
    x ∈ (t.delete p).rows ↔ x ∈ t.rows ∧ p x = false := by
  rw [delete, List.mem_filter, Bool.not_eq_true']

-- ── SELECT by key ────────────────────────────────────────────────────────────

variable [DecidableEq κ]

/-- `SELECT` by key. -/
def find? (t : Table key) (k : κ) : Option ρ := t.rows.find? fun r => decide (key r = k)

theorem find?_eq_none {t : Table key} {k : κ} : t.find? k = none ↔ ∀ r ∈ t.rows, key r ≠ k := by
  simp [find?]

theorem find?_eq_some {t : Table key} {k : κ} {r : ρ} :
    t.find? k = some r ↔ r ∈ t.rows ∧ key r = k := by
  constructor
  · intro h
    exact ⟨List.mem_of_find?_eq_some h, by simpa using List.find?_some h⟩
  · rintro ⟨hr, rfl⟩
    cases h : t.find? (key r) with
    | none => exact absurd rfl (find?_eq_none.mp h r hr)
    | some r' =>
        have hkey : key r' = key r := by simpa using List.find?_some h
        rw [t.eq_of_key_eq (List.mem_of_find?_eq_some h) hr hkey]

/-- A `SELECT` by key that returns all rows returns at most one. -/
theorem filter_key (t : Table key) (k : κ) :
    t.rows.filter (fun r => decide (key r = k)) = (t.find? k).toList := by
  cases hfind : t.find? k with
  | none =>
      rw [Option.toList_none, List.filter_eq_nil_iff]
      intro r hr
      simpa using find?_eq_none.mp hfind r hr
  | some x =>
      obtain ⟨hx, hkey⟩ := find?_eq_some.mp hfind
      rw [Option.toList_some]
      refine List.perm_singleton.mp ?_
      rw [List.perm_ext_iff_of_nodup (t.nodup_rows.filter _) (List.nodup_singleton x)]
      intro r
      rw [List.mem_filter, List.mem_singleton, decide_eq_true_eq]
      constructor
      · rintro ⟨hr, hrk⟩
        exact t.eq_of_key_eq hr hx (hrk.trans hkey.symm)
      · rintro rfl
        exact ⟨hx, hkey⟩

theorem find?_update (t : Table key) (p : ρ → Bool) (f : ρ → ρ) (hf : ∀ r, key (f r) = key r)
    (k : κ) :
    (t.update p f hf).find? k = (t.find? k).map fun r => if p r then f r else r := by
  have hkey : ∀ r, key (if p r then f r else r) = key r := by
    intro r
    by_cases hp : p r = true
    · rw [if_pos hp, hf]
    · rw [if_neg hp]
  rw [find?, update, List.find?_map]
  simp only [Function.comp_def, hkey]
  rfl

-- ── INSERT ───────────────────────────────────────────────────────────────────

/-- `INSERT`: refused when a row with the key is there. -/
def insert? (t : Table key) (r : ρ) : Option (Table key) :=
  if h : key r ∈ t.rows.map key then none
  else
    some
      { rows   := t.rows ++ [r]
        unique := by
          rw [List.map_append, List.map_singleton, ← List.concat_eq_append]
          exact t.unique.concat h }

theorem insert?_eq_some {t t' : Table key} {r : ρ} :
    t.insert? r = some t' ↔ (∀ x ∈ t.rows, key x ≠ key r) ∧ t'.rows = t.rows ++ [r] := by
  rw [insert?]
  by_cases h : key r ∈ t.rows.map key
  · rw [dif_pos h]
    obtain ⟨x, hx, hkey⟩ := List.mem_map.mp h
    exact ⟨fun h' => (nomatch h'), fun h' => absurd hkey (h'.1 x hx)⟩
  · rw [dif_neg h]
    have hfree : ∀ x ∈ t.rows, key x ≠ key r :=
      fun x hx hkey => h (List.mem_map.mpr ⟨x, hx, hkey⟩)
    constructor
    · intro h'
      obtain rfl := Option.some.inj h'
      exact ⟨hfree, rfl⟩
    · rintro ⟨-, hrows⟩
      exact congrArg some (Table.ext hrows.symm)

theorem insert?_eq_none {t : Table key} {r : ρ} :
    t.insert? r = none ↔ ∃ x ∈ t.rows, key x = key r := by
  rw [insert?]
  by_cases h : key r ∈ t.rows.map key
  · rw [dif_pos h]
    exact ⟨fun _ => List.mem_map.mp h, fun _ => rfl⟩
  · rw [dif_neg h]
    exact ⟨fun h' => (nomatch h'), fun h' => absurd (List.mem_map.mpr h') h⟩

/-- `INSERT … ON CONFLICT DO UPDATE`: `merge` is what becomes of a row that is there. -/
def upsert (t : Table key) (r : ρ) (merge : ρ → ρ) (hmerge : ∀ x, key (merge x) = key x) :
    Table key :=
  (t.insert? r).getD (t.update (fun x => decide (key x = key r)) merge hmerge)

theorem find?_upsert (t : Table key) (r : ρ) (merge : ρ → ρ) (hmerge : ∀ x, key (merge x) = key x)
    (k : κ) :
    (t.upsert r merge hmerge).find? k =
      if key r = k then some (((t.find? k).map merge).getD r) else t.find? k := by
  rw [upsert]
  cases hins : t.insert? r with
  | some t' =>
      obtain ⟨hfree, hrows⟩ := insert?_eq_some.mp hins
      have hlast : t'.find? k = (t.find? k).or (if key r = k then some r else none) := by
        rw [find?, hrows, List.find?_append, List.find?_singleton]
        simp [find?]
      rw [Option.getD_some, hlast]
      by_cases hk : key r = k
      · have hnone : t.find? k = none := find?_eq_none.mpr fun x hx => hk ▸ hfree x hx
        rw [if_pos hk, if_pos hk, hnone]
        rfl
      · rw [if_neg hk, if_neg hk, Option.or_none]
  | none =>
      rw [Option.getD_none, find?_update]
      obtain ⟨x, hx, hkey⟩ := insert?_eq_none.mp hins
      by_cases hk : key r = k
      · have hfind : t.find? k = some x := find?_eq_some.mpr ⟨hx, hkey.trans hk⟩
        rw [if_pos hk, hfind]
        simp [hkey]
      · rw [if_neg hk]
        -- the row under another key is not the one in conflict
        cases hfind : t.find? k with
        | none => rfl
        | some y =>
            have hy : key y ≠ key r := (find?_eq_some.mp hfind).2 ▸ Ne.symm hk
            simp [hy]

end Table

end KeyedTable
