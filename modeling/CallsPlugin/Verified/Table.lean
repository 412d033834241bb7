import Mathlib.Data.List.Nodup
import Mathlib.Data.List.Sort

/-!
# Tables with a primary key

A `Table key` is a list of rows in which no two rows share a key; the
uniqueness proof is a field, so a table that breaks its primary key cannot be
built.  The operations are the ones an SQL client issues: `insert?` (refused on
a duplicate key), `modify` (`UPDATE ... WHERE key = k`), `filter`
(`DELETE ... WHERE`), `find?` and `select`; `put` is assignment into a map.

The layer is independent of any schema: the row type, the key type and the key
function are parameters.
-/

namespace CallsPlugin.Verified

universe u v

/-- Rows with pairwise distinct keys. -/
structure Table {ρ : Type u} {κ : Type v} (key : ρ → κ) where
  rows : List ρ
  nodup : (rows.map key).Nodup

namespace Table

variable {ρ : Type u} {κ : Type v} {key : ρ → κ}

instance : Membership ρ (Table key) := ⟨fun t r => r ∈ t.rows⟩

theorem mem_def {t : Table key} {r : ρ} : r ∈ t ↔ r ∈ t.rows := Iff.rfl

@[ext] theorem ext {t t' : Table key} (h : t.rows = t'.rows) : t = t' := by
  cases t; cases t'; cases h; rfl

instance [DecidableEq ρ] : DecidableEq (Table key) := fun t t' =>
  decidable_of_iff (t.rows = t'.rows) ⟨ext, fun h => h ▸ rfl⟩

/-- The key determines the row. -/
theorem eq_of_key_eq (t : Table key) {r r' : ρ} (hr : r ∈ t) (hr' : r' ∈ t)
    (h : key r = key r') : r = r' :=
  List.inj_on_of_nodup_map t.nodup hr hr' h

/-! ## Queries -/

/-- `SELECT * WHERE p`. -/
def select (t : Table key) (p : ρ → Bool) : List ρ := t.rows.filter p

@[simp] theorem mem_select {t : Table key} {p : ρ → Bool} {r : ρ} :
    r ∈ t.select p ↔ r ∈ t ∧ p r = true := List.mem_filter

section Find

variable [DecidableEq κ]

/-- `SELECT * WHERE key = k`. -/
def find? (t : Table key) (k : κ) : Option ρ := t.rows.find? (fun r => key r = k)

theorem find?_eq_some {t : Table key} {k : κ} {r : ρ} :
    t.find? k = some r ↔ r ∈ t ∧ key r = k := by
  constructor
  · intro h
    exact ⟨List.mem_of_find?_eq_some h, by simpa using List.find?_some h⟩
  · rintro ⟨hr, rfl⟩
    cases hf : t.rows.find? (fun x => key x = key r) with
    | none => simpa using (List.find?_eq_none.1 hf) r hr
    | some x =>
        have hx : key x = key r := by simpa using List.find?_some hf
        exact hf.trans (congrArg
          some (t.eq_of_key_eq (List.mem_of_find?_eq_some hf) hr hx))

theorem find?_eq_none {t : Table key} {k : κ} :
    t.find? k = none ↔ ∀ r ∈ t, key r ≠ k := by
  simp only [find?, List.find?_eq_none, decide_eq_true_eq]
  exact Iff.rfl

end Find

/-! ## Updates -/

/-- The empty table. -/
def empty : Table key := ⟨[], List.nodup_nil⟩

@[simp] theorem not_mem_empty (r : ρ) : ¬ r ∈ (empty : Table key) := List.not_mem_nil

/-- `DELETE ... WHERE NOT p`. -/
def filter (t : Table key) (p : ρ → Bool) : Table key :=
  ⟨t.rows.filter p, t.nodup.sublist (List.filter_sublist.map key)⟩

@[simp] theorem mem_filter {t : Table key} {p : ρ → Bool} {r : ρ} :
    r ∈ t.filter p ↔ r ∈ t ∧ p r = true := List.mem_filter

theorem filter_eq_self {t : Table key} {p : ρ → Bool} (h : ∀ r ∈ t, p r = true) :
    t.filter p = t := ext (List.filter_eq_self.2 h)

section Keyed

variable [DecidableEq κ]

/-- `INSERT`, refused when the primary key is taken. -/
def insert? (t : Table key) (r : ρ) : Option (Table key) :=
  if h : key r ∈ t.rows.map key then none
  else some ⟨t.rows ++ [r], by
    rw [List.map_append, List.map_singleton]
    exact (List.nodup_append_comm.1 (by simpa using ⟨by simpa using h, t.nodup⟩))⟩

theorem insert?_eq_some {t t' : Table key} {r : ρ} :
    t.insert? r = some t' ↔ (∀ x ∈ t, key x ≠ key r) ∧ t'.rows = t.rows ++ [r] := by
  unfold insert?
  split
  next h =>
    simp only [reduceCtorEq, false_iff, not_and]
    obtain ⟨x, hx, hk⟩ := List.mem_map.1 h
    exact fun hn => absurd hk (hn x hx)
  next h =>
    have hfresh : ∀ x ∈ t, key x ≠ key r :=
      fun x hx hk => h (List.mem_map.2 ⟨x, hx, hk⟩)
    simp only [Option.some.injEq]
    exact ⟨fun e => ⟨hfresh, e ▸ rfl⟩, fun e => ext e.2.symm⟩

theorem insert?_isSome {t : Table key} {r : ρ} (h : ∀ x ∈ t, key x ≠ key r) :
    ∃ t', t.insert? r = some t' := by
  unfold insert?
  split
  next h' =>
    obtain ⟨x, hx, hk⟩ := List.mem_map.1 h'
    exact absurd hk (h x hx)
  next => exact ⟨_, rfl⟩

theorem mem_of_insert? {t t' : Table key} {r x : ρ} (h : t.insert? r = some t') :
    x ∈ t' ↔ x ∈ t ∨ x = r := by
  rw [mem_def, (insert?_eq_some.1 h).2, List.mem_append, List.mem_singleton]
  exact Iff.rfl

/-- `UPDATE ... SET f WHERE key = k`, for an `f` that leaves the key alone. -/
def modify (t : Table key) (k : κ) (f : ρ → ρ) (hf : ∀ r, key (f r) = key r) :
    Table key :=
  ⟨t.rows.map (fun r => if key r = k then f r else r), by
    have : (t.rows.map fun r => if key r = k then f r else r).map key =
        t.rows.map key := by
      rw [List.map_map]
      exact List.map_congr_left fun r _ => by
        by_cases h : key r = k <;> simp [h, hf]
    rw [this]
    exact t.nodup⟩

theorem mem_modify {t : Table key} {k : κ} {f : ρ → ρ}
    (hf : ∀ r, key (f r) = key r) {x : ρ} :
    x ∈ t.modify k f hf ↔ ∃ r ∈ t, (if key r = k then f r else r) = x := List.mem_map

/-- Rows under other keys stay. -/
theorem mem_modify_of_ne {t : Table key} {k : κ} {f : ρ → ρ}
    (hf : ∀ r, key (f r) = key r)
    {x : ρ} (h : key x ≠ k) : x ∈ t.modify k f hf ↔ x ∈ t := by
  rw [mem_modify hf]
  constructor
  · rintro ⟨r, hr, rfl⟩
    split at h
    next hk => exact absurd ((hf r).trans hk) h
    next hk => simpa [hk] using hr
  · exact fun hx => ⟨x, hx, by simp [h]⟩

/-- The row under `k` stays only if it is as the update wants it. -/
theorem mem_modify_self {t : Table key} {k : κ} {f : ρ → ρ}
    (hf : ∀ r, key (f r) = key r)
    {x : ρ} (hx : x ∈ t) (hk : key x = k) : x ∈ t.modify k f hf ↔ f x = x := by
  rw [mem_modify hf]
  constructor
  · rintro ⟨r, hr, he⟩
    split at he
    next hr' => rwa [t.eq_of_key_eq hr hx (hr'.trans hk.symm)] at he
    next hr' => exact absurd (he ▸ hk) hr'
  · exact fun he => ⟨x, hx, by simp [hk, he]⟩

/-- Updating a row that is already as the update wants it changes nothing. -/
theorem modify_eq_self {t : Table key} {k : κ} {f : ρ → ρ} {hf : ∀ r, key (f r) = key r}
    (h : ∀ r ∈ t, key r = k → f r = r) : t.modify k f hf = t := by
  refine ext ?_
  show t.rows.map (fun r => if key r = k then f r else r) = t.rows
  conv_rhs => rw [← List.map_id t.rows]
  refine List.map_congr_left fun r hr => ?_
  by_cases hk : key r = k
  · simpa [hk] using h r hr hk
  · simp [hk]

/-- Assignment `m[key r] = r` into a map. -/
def put (t : Table key) (r : ρ) : Table key :=
  ⟨t.rows.filter (fun x => key x ≠ key r) ++ [r], by
    rw [List.map_append, List.map_singleton]
    refine List.nodup_append_comm.1 ?_
    simp only [List.singleton_append, List.nodup_cons, List.mem_map, List.mem_filter,
      decide_eq_true_eq]
    refine ⟨fun ⟨x, ⟨_, hx⟩, hk⟩ => hx hk,
      t.nodup.sublist (List.filter_sublist.map key)⟩⟩

@[simp] theorem mem_put {t : Table key} {r x : ρ} :
    x ∈ t.put r ↔ (x ∈ t ∧ key x ≠ key r) ∨ x = r := by
  simp only [mem_def, put, List.mem_append, List.mem_filter, decide_eq_true_eq,
    List.mem_singleton]

/-- `delete(m, k)`. -/
def erase (t : Table key) (k : κ) : Table key := t.filter (fun r => key r ≠ k)

@[simp] theorem mem_erase {t : Table key} {k : κ} {r : ρ} :
    r ∈ t.erase k ↔ r ∈ t ∧ key r ≠ k := by
  simp [erase]

theorem find?_erase (t : Table key) (k k' : κ) :
    (t.erase k).find? k' = if k' = k then none else t.find? k' := by
  split
  next h =>
    refine find?_eq_none.2 fun r hr hk => ?_
    exact (mem_erase.1 hr).2 (hk.trans h)
  next h =>
    cases hf : t.find? k' with
    | none => exact find?_eq_none.2 fun r hr => find?_eq_none.1 hf r (mem_erase.1 hr).1
    | some r =>
        obtain ⟨hr, hk⟩ := find?_eq_some.1 hf
        exact find?_eq_some.2 ⟨mem_erase.2 ⟨hr, fun he => h (hk.symm.trans he)⟩, hk⟩

theorem find?_put (t : Table key) (r : ρ) (k : κ) :
    (t.put r).find? k = if k = key r then some r else t.find? k := by
  split
  next h => exact find?_eq_some.2 ⟨mem_put.2 (.inr rfl), h.symm⟩
  next h =>
    cases hf : t.find? k with
    | none =>
        refine find?_eq_none.2 fun x hx => ?_
        rcases mem_put.1 hx with ⟨hx, -⟩ | rfl
        · exact find?_eq_none.1 hf x hx
        · exact fun he => h he.symm
    | some x =>
        obtain ⟨hx, hk⟩ := find?_eq_some.1 hf
        exact find?_eq_some.2
          ⟨mem_put.2 (.inl ⟨hx, fun he => h (hk.symm.trans he)⟩), hk⟩

theorem find?_insert? {t t' : Table key} {r : ρ} (h : t.insert? r = some t') (k : κ) :
    t'.find? k = if k = key r then some r else t.find? k := by
  split
  next hk => exact find?_eq_some.2 ⟨(mem_of_insert? h).2 (.inr rfl), hk.symm⟩
  next hk =>
    cases hf : t.find? k with
    | none =>
        refine find?_eq_none.2 fun x hx => ?_
        rcases (mem_of_insert? h).1 hx with hx | rfl
        · exact find?_eq_none.1 hf x hx
        · exact fun he => hk he.symm
    | some x =>
        obtain ⟨hx, hkey⟩ := find?_eq_some.1 hf
        exact find?_eq_some.2 ⟨(mem_of_insert? h).2 (.inl hx), hkey⟩

theorem find?_modify (t : Table key) (k : κ) {f : ρ → ρ}
    (hf : ∀ r, key (f r) = key r) (k' : κ) :
    (t.modify k f hf).find? k' = if k' = k then (t.find? k').map f else t.find? k' := by
  cases hfind : t.find? k' with
  | none =>
      have hnone : (t.modify k f hf).find? k' = none := by
        refine find?_eq_none.2 fun x hx => ?_
        obtain ⟨r, hr, rfl⟩ := (mem_modify hf).1 hx
        have hne := find?_eq_none.1 hfind r hr
        split
        · exact fun he => hne ((hf r).symm.trans he)
        · exact hne
      rw [hnone]
      split <;> rfl
  | some r =>
      obtain ⟨hr, hkey⟩ := find?_eq_some.1 hfind
      split
      next hk =>
        refine find?_eq_some.2 ⟨(mem_modify hf).2 ⟨r, hr, ?_⟩, (hf r).trans hkey⟩
        rw [if_pos (hkey.trans hk)]
      next hk =>
        refine find?_eq_some.2 ⟨(mem_modify_of_ne hf ?_).2 hr, hkey⟩
        exact fun he => hk (hkey.symm.trans he)

theorem put_rows_of_fresh {t : Table key} {r : ρ} (h : ∀ x ∈ t, key x ≠ key r) :
    (t.put r).rows = t.rows ++ [r] := by
  show t.rows.filter (fun x => key x ≠ key r) ++ [r] = _
  rw [List.filter_eq_self.2 fun x hx => by simpa using h x hx]

end Keyed

end Table

end CallsPlugin.Verified
