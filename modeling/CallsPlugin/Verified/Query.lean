import CallsPlugin.Verified.Table

/-!
# Sorted queries and the maps filled from them

A query selects rows and sorts them; a map filled from its result keeps, of the
rows with one key, the last one (`find?_foldl_put`), while a query for one row
takes the first.  Selecting more narrowly commutes with sorting
(`filter_insertionSort`), so both can be read off the rows with the key.
-/

namespace CallsPlugin.Verified

universe u v

variable {ρ : Type u} {κ : Type v} {key : ρ → κ}

section Sorting

variable (r : ρ → ρ → Prop) [DecidableRel r] [Std.Total r] [IsTrans ρ r]

/-- Filtering the sorted rows is sorting the filtered ones, if the order tells all rows
apart. -/
theorem filter_insertionSort {l : List ρ} (p : ρ → Bool)
    (hanti : ∀ a ∈ l, ∀ b ∈ l, r a b → r b a → a = b) :
    (l.insertionSort r).filter p = (l.filter p).insertionSort r := by
  have hperm : ((l.insertionSort r).filter p).Perm ((l.filter p).insertionSort r) :=
    ((List.perm_insertionSort r l).filter p).trans (List.perm_insertionSort r _).symm
  apply hperm.eq_of_pairwise
  · intro a b ha hb
    have ha' : a ∈ l := (List.mem_insertionSort r).1 (List.mem_of_mem_filter ha)
    have hb' : b ∈ l := List.mem_of_mem_filter ((List.mem_insertionSort r).1 hb)
    exact hanti a ha' b hb'
  · exact (List.pairwise_insertionSort r l).filter p
  · exact List.pairwise_insertionSort r _

end Sorting

/-- Of rows without repetition the first is the last exactly if there is at most one. -/
theorem head?_eq_getLast?_iff {l : List ρ} (hnodup : l.Nodup) :
    l.head? = l.getLast? ↔ ∀ a ∈ l, ∀ b ∈ l, a = b := by
  cases l with
  | nil =>
      constructor
      · intro _ a ha
        cases ha
      · intro _
        rfl
  | cons a rest =>
    cases rest with
    | nil =>
        constructor
        · intro _ x hx y hy
          rw [List.mem_singleton.1 hx, List.mem_singleton.1 hy]
        · intro _
          rfl
    | cons b rest =>
        have hlast : (b :: rest).getLast (List.cons_ne_nil b rest) ∈ b :: rest :=
          List.getLast_mem _
        have hnot : a ∉ b :: rest := (List.nodup_cons.1 hnodup).1
        constructor
        · intro h
          rw [List.head?_cons, List.getLast?_cons_cons,
            List.getLast?_eq_getLast_of_ne_nil (List.cons_ne_nil b rest)] at h
          exact absurd (Option.some.inj h ▸ hlast) hnot
        · intro h
          have hab :=
            h a List.mem_cons_self b (List.mem_cons_of_mem a List.mem_cons_self)
          exact absurd (hab ▸ List.mem_cons_self) hnot

namespace Table

variable [DecidableEq κ]

/-- A map filled from rows keeps of those with a key the last one. -/
theorem find?_foldl_put (l : List ρ) (t : Table key) (k : κ) :
    (l.foldl put t).find? k = ((l.filter fun r => key r = k).getLast?).or
      (t.find? k) := by
  induction l generalizing t with
  | nil => rfl
  | cons r rest ih =>
      show (rest.foldl put (t.put r)).find? k = _
      rw [ih, find?_put]
      by_cases hk : key r = k
      · have hfilter : (r :: rest).filter (fun r => key r = k) =
            r :: rest.filter fun r => key r = k :=
          List.filter_cons_of_pos (by simpa using hk)
        rw [hfilter, if_pos hk.symm, List.getLast?_cons]
        cases (rest.filter fun r => key r = k).getLast? with
        | none => rfl
        | some x => rfl
      · have hfilter : (r :: rest).filter (fun r => key r = k) =
            rest.filter fun r => key r = k :=
          List.filter_cons_of_neg (by simpa using hk)
        rw [hfilter, if_neg fun h => hk h.symm]

end Table

end CallsPlugin.Verified
