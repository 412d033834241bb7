import CallsPlugin.Verified.Table
import Mathlib.Data.List.Dedup
import Mathlib.Data.List.Perm.Subperm

/-!
# Counts by period

A report counts rows by the period they fall in.  The query behind it selects
the rows of a window, groups them by period, sorts the groups and keeps the
first `n`; the report is filled from its result over zeros for the `n` periods
it is about.  Window, limit and zeros are chosen separately, and `exact_iff`
says when they fit together: the window must contain the rows after the oldest
period's start and no others, and rows past the newest period show unless the
limit cuts them off, which it does if every period has a row.
-/

namespace CallsPlugin.Verified.Buckets

universe u v

variable {ρ : Type u} {α : Type v} [LinearOrder α]

/-! ## The query -/

/-- The groups in order. -/
def periods (period : ρ → α) (rows : List ρ) : List α :=
  (rows.map period).dedup.insertionSort (· ≤ ·)

/-- `SELECT period, COUNT(*) ... GROUP BY period ORDER BY period LIMIT n` -/
def countBy (period : ρ → α) (rows : List ρ) (n : Nat) : List (α × Nat) :=
  ((periods period rows).map fun p => (p, rows.countP fun r => period r = p)).take n

@[simp] theorem mem_periods {period : ρ → α} {rows : List ρ} {p : α} :
    p ∈ periods period rows ↔ ∃ r ∈ rows, period r = p := by
  rw [periods, List.mem_insertionSort, List.mem_dedup, List.mem_map]

theorem periods_nodup (period : ρ → α) (rows : List ρ) : (periods period rows).Nodup :=
  (List.perm_insertionSort _ _).nodup_iff.2 (List.nodup_dedup _)

theorem periods_sorted (period : ρ → α) (rows : List ρ) :
    (periods period rows).Pairwise (· < ·) := by
  have hle := List.pairwise_insertionSort (· ≤ ·) (rows.map period).dedup
  have hne : (periods period rows).Pairwise (· ≠ ·) := periods_nodup period rows
  exact hle.imp₂ (fun _ _ h h' => lt_of_le_of_ne h h') hne

/-- A limit commutes with the count. -/
theorem countBy_eq (period : ρ → α) (rows : List ρ) (n : Nat) :
    countBy period rows n =
      ((periods period rows).take n).map fun p =>
        (p, rows.countP fun r => period r = p) :=
  List.map_take.symm

/-- The first `n` of a sorted list are those with fewer than `n` before them. -/
theorem mem_take_iff {l : List α} (hl : l.Pairwise (· < ·)) {n : Nat} {p : α} :
    p ∈ l.take n ↔ p ∈ l ∧ (l.filter fun q => q < p).length < n := by
  induction l generalizing n with
  | nil => simp
  | cons a rest ih =>
      obtain ⟨ha, hrest⟩ := List.pairwise_cons.1 hl
      cases n with
      | zero => simp
      | succ n =>
          rw [List.take_succ_cons, List.mem_cons, List.mem_cons, ih hrest]
          by_cases hp : p = a
          · subst hp
            have hnone : rest.filter (fun q => q < p) = [] :=
              List.filter_eq_nil_iff.2 fun q hq => by simpa using (ha q hq).le
            simp [hnone]
          · by_cases hmem : p ∈ rest
            · simp [hp, ha p hmem, hmem]
            · simp [hp, hmem]

/-- A limit of as many groups as there are periods that shows only periods cuts off
nothing, or shows them all. -/
theorem subset_of_take_subset {α : Type v} {groups keys : List α}
    (hnodup : groups.Nodup) (hsub : ∀ p ∈ groups.take keys.length, p ∈ keys) :
    (∀ p ∈ groups, p ∈ keys) ∨ ∀ k ∈ keys, k ∈ groups := by
  by_cases hlen : groups.length ≤ keys.length
  · rw [List.take_of_length_le hlen] at hsub
    exact .inl hsub
  · -- as many groups as periods, all of them periods: each period is among them
    have htake := (hnodup.sublist (List.take_sublist keys.length groups)).subperm hsub
    have hperm := htake.perm_of_length_le (by rw [List.length_take]; omega)
    exact .inr fun k hk => List.mem_of_mem_take (hperm.mem_iff.2 hk)

/-! ## The report -/

/-- A map filled from pairs has those, and elsewhere what it had. -/
theorem find?_foldl_put {ν : Type u} (f : α → ν) (l : List α)
    (t : Table (Prod.fst : α × ν → α)) (p : α) :
    ((l.map fun a => (a, f a)).foldl Table.put t).find? p =
      if p ∈ l then some (p, f p) else t.find? p := by
  induction l generalizing t with
  | nil => rfl
  | cons a rest ih =>
      rw [List.map_cons, List.foldl_cons, ih, Table.find?_put]
      by_cases hrest : p ∈ rest
      · simp [hrest]
      · by_cases hp : p = a
        · subst hp
          simp
        · simp [hrest, hp]

/-- Zeros for the periods of a report. -/
def zeros (keys : List α) : Table (Prod.fst : α × Nat → α) :=
  (keys.map fun k => (k, 0)).foldl Table.put Table.empty

/-- The report that a query's result gives over zeros. -/
def report (keys : List α) (result : List (α × Nat)) : Table (Prod.fst : α × Nat → α) :=
  result.foldl Table.put (zeros keys)

theorem find?_zeros (keys : List α) (p : α) :
    (zeros keys).find? p = if p ∈ keys then some (p, 0) else none :=
  find?_foldl_put (fun _ => 0) keys Table.empty p

/-- What a report of a query shows under a period. -/
theorem find?_report (period : ρ → α) (keys : List α) (rows : List ρ)
    (n : Nat) (p : α) :
    (report keys (countBy period rows n)).find? p =
      if p ∈ (periods period rows).take n then
        some (p, rows.countP fun r => period r = p)
      else if p ∈ keys then some (p, 0) else none := by
  rw [report, countBy_eq, find?_foldl_put fun p => rows.countP fun r => period r = p,
    find?_zeros]

/-! ## Exact reports -/

/-- A report has the periods it is about, each with the number of its rows, and no
others. -/
def Exact (period : ρ → α) (keys : List α) (rows : List ρ)
    (m : Table (Prod.fst : α × Nat → α)) : Prop :=
  ∀ p, m.find? p = if p ∈ keys then some (p,
    rows.countP fun r => period r = p) else none

/-- The keys are the periods after `lo` up to `hi`, each once. -/
structure Spans (keys : List α) (lo hi : α) : Prop where
  nodup : keys.Nodup
  mem : ∀ p, p ∈ keys ↔ lo < p ∧ p ≤ hi

section Exactness

variable {period : ρ → α} {keys : List α} {lo hi : α} {rows : List ρ}
  {inWindow : ρ → Bool}

/-- The rows of a period that the window contains are all its rows. -/
theorem countP_window (period : ρ → α) {p : α}
    (h : ∀ r ∈ rows, period r = p → inWindow r = true) :
    (rows.filter inWindow).countP (fun r => period r = p) =
      rows.countP fun r => period r = p := by
  rw [List.countP_filter]
  refine List.countP_congr fun r hr => ?_
  simp only [Bool.and_eq_true, decide_eq_true_eq]
  exact ⟨fun h' => h'.1, fun h' => ⟨h', h r hr h'⟩⟩

/-- A row outside the window is missing from its period's count. -/
theorem countP_window_lt (period : ρ → α) {r : ρ} (hr : r ∈ rows)
    (hout : inWindow r = false) :
    (rows.filter inWindow).countP (fun x => period x = period r) <
      rows.countP fun x => period x = period r := by
  have hsplit :=
    List.countP_eq_countP_filter_add rows (fun x => decide (period x = period r))
    inWindow
  have hmem : r ∈ rows.filter fun x => !inWindow x :=
    List.mem_filter.2 ⟨hr, by simp [hout]⟩
  have hpos : 0 < (rows.filter fun x => !inWindow x).countP fun x =>
      period x = period r :=
    List.countP_pos_iff.2 ⟨r, hmem, by simp⟩
  omega

/-- The limit keeps the periods and nothing after them, if all are there. -/
theorem Spans.mem_take (hspan : Spans keys lo hi) {groups : List α}
    (hsorted : groups.Pairwise (· < ·)) (hlo : ∀ p ∈ groups, lo < p)
    (hall : (∀ p ∈ groups, p ≤ hi) ∨ ∀ k ∈ keys, k ∈ groups) {p : α} :
    p ∈ groups.take keys.length ↔ p ∈ groups ∧ p ∈ keys := by
  have hnodup : groups.Nodup := hsorted.imp fun h => h.ne
  -- before a period come only periods, and not itself
  have hkept : ∀ q ∈ groups, q ∈ keys → q ∈ groups.take keys.length := by
    intro q hq hk
    refine (mem_take_iff hsorted).2 ⟨hq, ?_⟩
    have hsub : (q :: groups.filter fun x => x < q) ⊆ keys := by
      intro x hx
      rcases List.mem_cons.1 hx with rfl | hx
      · exact hk
      · obtain ⟨hx, hlt⟩ := List.mem_filter.1 hx
        have hxq : x < q := by simpa using hlt
        exact (hspan.mem x).2 ⟨hlo x hx, hxq.le.trans ((hspan.mem q).1 hk).2⟩
    have hfresh : (q :: groups.filter fun x => x < q).Nodup :=
      List.nodup_cons.2 ⟨by simp, hnodup.filter _⟩
    have hlen := (hfresh.subperm hsub).length_le
    rw [List.length_cons] at hlen
    omega
  constructor
  · intro hp
    have hmem := List.mem_of_mem_take hp
    refine ⟨hmem, ?_⟩
    rcases hall with hhi | hfull
    · exact (hspan.mem p).2 ⟨hlo p hmem, hhi p hmem⟩
    · have hsub : keys ⊆ groups.take keys.length := fun k hk => hkept k (hfull k hk) hk
      have hperm := (hspan.nodup.subperm hsub).perm_of_length_le
        (by rw [List.length_take]; omega)
      exact hperm.mem_iff.2 hp
  · intro hp
    exact hkept p hp.1 hp.2

theorem mem_periods_window {r : ρ} (hr : r ∈ rows) (hw : inWindow r = true) :
    period r ∈ periods period (rows.filter inWindow) :=
  mem_periods.2 ⟨r, List.mem_filter.2 ⟨hr, hw⟩, rfl⟩

/-- The groups an exact report shows are periods. -/
theorem Exact.shown {n : Nat}
    (h : Exact period keys rows
      (report keys (countBy period (rows.filter inWindow) n))) :
    ∀ p ∈ (periods period (rows.filter inWindow)).take n, p ∈ keys := by
  intro p hp
  have hp' := h p
  rw [find?_report, if_pos hp] at hp'
  by_contra hk
  rw [if_neg hk] at hp'
  cases hp'

/-- The window of an exact report starts no earlier than its periods. -/
theorem Exact.lt_of_window (hspan : Spans keys lo hi) (hpos : 0 < keys.length)
    (h : Exact period keys rows
      (report keys (countBy period (rows.filter inWindow) keys.length)))
    {r : ρ} (hr : r ∈ rows) (hw : inWindow r = true) : lo < period r := by
  have hsorted := periods_sorted period (rows.filter inWindow)
  have hmem : period r ∈ periods period (rows.filter inWindow) :=
    mem_periods_window hr hw
  have hshown := h.shown
  -- the first group is shown, so it is a period, and no group comes before it
  cases hg : periods period (rows.filter inWindow) with
  | nil => simp [hg] at hmem
  | cons q rest =>
      rw [hg] at hmem hshown hsorted
      have hq : q ∈ keys := by
        obtain ⟨n, hn⟩ := Nat.exists_eq_succ_of_ne_zero hpos.ne'
        exact hshown q (by rw [hn, List.take_succ_cons]; exact List.mem_cons_self)
      have hle : q ≤ period r := by
        rcases List.mem_cons.1 hmem with h | h
        · exact h.ge
        · exact ((List.pairwise_cons.1 hsorted).1 _ h).le
      exact ((hspan.mem q).1 hq).1.trans_le hle

/-- The window of an exact report leaves out no row of a period. -/
theorem Exact.window_of_mem {n : Nat}
    (h : Exact period keys rows (report keys (countBy period (rows.filter inWindow) n)))
    {r : ρ} (hr : r ∈ rows) (hk : period r ∈ keys) : inWindow r = true := by
  by_contra hw
  have hlt := countP_window_lt period hr (by simpa using hw)
  have hp := h (period r)
  rw [find?_report, if_pos hk, if_pos hk] at hp
  split at hp
  · have hcount := congrArg Prod.snd (Option.some.inj hp)
    dsimp only at hcount
    omega
  · have hcount := congrArg Prod.snd (Option.some.inj hp)
    dsimp only at hcount
    omega

/-- A report is exact if its window starts with its periods and its limit cuts off the
rest. -/
theorem exact_of (hspan : Spans keys lo hi)
    (hw : ∀ r ∈ rows, inWindow r = true ↔ lo < period r)
    (hcut : (∀ r ∈ rows, period r ≤ hi) ∨ ∀ k ∈ keys, ∃ r ∈ rows, period r = k) :
    Exact period keys rows
      (report keys (countBy period (rows.filter inWindow) keys.length)) := by
  have hlo : ∀ q ∈ periods period (rows.filter inWindow), lo < q := by
    intro q hq
    obtain ⟨r, hr, rfl⟩ := mem_periods.1 hq
    exact (hw r (List.mem_of_mem_filter hr)).1 (List.of_mem_filter hr)
  have hall : (∀ q ∈ periods period (rows.filter inWindow), q ≤ hi) ∨
      ∀ k ∈ keys, k ∈ periods period (rows.filter inWindow) := by
    refine hcut.imp (fun h q hq => ?_) (fun h k hk => ?_)
    · obtain ⟨r, hr, rfl⟩ := mem_periods.1 hq
      exact h r (List.mem_of_mem_filter hr)
    · obtain ⟨r, hr, rfl⟩ := h k hk
      exact mem_periods_window hr ((hw r hr).2 ((hspan.mem _).1 hk).1)
  intro p
  rw [find?_report]
  simp only [hspan.mem_take (periods_sorted period _) hlo hall]
  by_cases hk : p ∈ keys
  · have hcount := countP_window period fun r hr hp =>
      (hw r hr).2 (hp ▸ ((hspan.mem p).1 hk).1)
    by_cases hg : p ∈ periods period (rows.filter inWindow)
    · rw [if_pos ⟨hg, hk⟩, if_pos hk, hcount]
    · -- no group: the period has no row
      have hzero : (rows.filter inWindow).countP (fun r => period r = p) = 0 :=
        List.countP_eq_zero.2 fun r hr hp =>
          hg (mem_periods.2 ⟨r, hr, by simpa using hp⟩)
      rw [if_neg fun h => hg h.1, if_pos hk, if_pos hk, ← hcount, hzero]
  · rw [if_neg fun h => hk h.2, if_neg hk, if_neg hk]

/-- When a report is exact. -/
theorem exact_iff (hspan : Spans keys lo hi) (hpos : 0 < keys.length)
    (hnew : ∀ r ∈ rows, hi < period r → inWindow r = true) :
    Exact period keys rows
        (report keys (countBy period (rows.filter inWindow) keys.length)) ↔
      (∀ r ∈ rows, inWindow r = true ↔ lo < period r) ∧
        ((∀ r ∈ rows, period r ≤ hi) ∨ ∀ k ∈ keys, ∃ r ∈ rows, period r = k) := by
  constructor
  · intro hexact
    refine ⟨fun r hr => ⟨hexact.lt_of_window hspan hpos hr, fun hlo => ?_⟩, ?_⟩
    · by_cases hhi : period r ≤ hi
      · exact hexact.window_of_mem hr ((hspan.mem _).2 ⟨hlo, hhi⟩)
      · exact hnew r hr (not_le.1 hhi)
    · have hnodup := periods_nodup period (rows.filter inWindow)
      rcases subset_of_take_subset hnodup hexact.shown with hall | hfull
      · refine .inl fun r hr => le_of_not_gt fun h => ?_
        have hk := hall _ (mem_periods_window hr (hnew r hr h))
        exact absurd ((hspan.mem _).1 hk).2 (not_le.2 h)
      · refine .inr fun k hk => ?_
        obtain ⟨r, hr, hp⟩ := mem_periods.1 (hfull k hk)
        exact ⟨r, List.mem_of_mem_filter hr, hp⟩
  · intro h
    exact exact_of hspan h.1 h.2

end Exactness

end CallsPlugin.Verified.Buckets
