import Mathlib.Data.Prod.Lex
import Mathlib.Data.List.Pairwise
import Mathlib.Order.Defs.LinearOrder

/-!
# Comparators and ranks

A comparator says by the sign of a number which of two elements comes first.  It may put
some elements ahead of everything without a look at the other, so ahead of themselves
too; apart from these it goes by a rank.  Then it orders different elements as the ranks
do, and what is sorted with it is sorted by rank.
-/

namespace CallsPlugin.Verified

universe u v w

/-! ## Signs -/

section Signs

variable {β : Type v} {γ : Type w} [LinearOrder β] [LinearOrder γ] {n : Int} {x y : β}

/-- The sign of `n` tells how `x` compares with `y`. -/
def Tells (n : Int) (x y : β) : Prop := n < 0 ∧ x < y ∨ n = 0 ∧ x = y ∨ 0 < n ∧ y < x

theorem Tells.before (hlt : x < y) : Tells (-1) x y := .inl ⟨by omega, hlt⟩

theorem Tells.after (hlt : y < x) : Tells 1 x y := .inr (.inr ⟨by omega, hlt⟩)

theorem Tells.tied (x : β) : Tells 0 x x := .inr (.inl ⟨rfl, rfl⟩)

theorem Tells.sub (i j : Int) : Tells (i - j) i j := by
  unfold Tells
  omega

/-- Where the first components are the same, the second ones are compared. -/
theorem Tells.snd (h : Tells n x y) (k : γ) :
    Tells n (toLex (k, x)) (toLex (k, y)) := by
  unfold Tells at *
  simpa [Prod.Lex.toLex_lt_toLex] using h

theorem Tells.lt_iff (h : Tells n x y) : n < 0 ↔ x < y := by
  rcases h with ⟨hn, hlt⟩ | ⟨hn, rfl⟩ | ⟨hn, hlt⟩
  · exact iff_of_true hn hlt
  · exact iff_of_false (by omega) (lt_irrefl x)
  · exact iff_of_false (by omega) hlt.not_gt

theorem Tells.le_iff (h : Tells n x y) : n ≤ 0 ↔ x ≤ y := by
  rcases h with ⟨hn, hlt⟩ | ⟨hn, rfl⟩ | ⟨hn, hlt⟩
  · exact iff_of_true (by omega) hlt.le
  · exact iff_of_true (by omega) le_rfl
  · exact iff_of_false (by omega) hlt.not_ge

end Signs

/-! ## Comparators -/

variable {α : Type u} {β : Type v} [LinearOrder β] {cmp : α → α → Int} {rank : α → β}
  {ahead : α → Prop} {a b c : α} {l : List α}

/-- The comparator is a strict weak order between different elements of the list. -/
structure OrdersApart (cmp : α → α → Int) (l : List α) : Prop where
  antisymm : ∀ a ∈ l, ∀ b ∈ l, a ≠ b → (cmp a b < 0 ↔ 0 < cmp b a)
  trans : ∀ a ∈ l, ∀ b ∈ l, ∀ c ∈ l, cmp a b < 0 → cmp b c < 0 → cmp a c < 0
  tied : ∀ a ∈ l, ∀ b ∈ l, ∀ c ∈ l, cmp a b = 0 → cmp b c = 0 → cmp a c = 0

/-- The comparator goes by the rank, but for the elements ahead of all. -/
structure RankedBy (cmp : α → α → Int) (rank : α → β) (ahead : α → Prop) : Prop where
  tells : ∀ a b, ¬ ahead a → Tells (cmp a b) (rank a) (rank b)
  neg_of_ahead : ∀ a b, ahead a → cmp a b < 0
  rank_le : ∀ a b, ahead a → rank a ≤ rank b
  rank_lt : ∀ a b, ahead a → ¬ ahead b → rank a < rank b

namespace RankedBy

theorem le_iff (h : RankedBy cmp rank ahead) (a b : α) :
    cmp a b ≤ 0 ↔ rank a ≤ rank b := by
  by_cases ha : ahead a
  · exact iff_of_true (Int.le_of_lt (h.neg_of_ahead a b ha)) (h.rank_le a b ha)
  · exact (h.tells a b ha).le_iff

theorem pos_iff (h : RankedBy cmp rank ahead) (a b : α) :
    0 < cmp a b ↔ rank b < rank a := by
  rw [← Int.not_le, h.le_iff, not_le]

/-- Of two elements that are not both ahead, each comparison says what the other
does. -/
theorem neg_iff_pos (h : RankedBy cmp rank ahead) (hab : ¬ (ahead a ∧ ahead b)) :
    cmp a b < 0 ↔ 0 < cmp b a := by
  rw [h.pos_iff]
  by_cases ha : ahead a
  · have hb : ¬ ahead b := fun hb => hab ⟨ha, hb⟩
    exact iff_of_true (h.neg_of_ahead a b ha) (h.rank_lt a b ha hb)
  · exact (h.tells a b ha).lt_iff

theorem neg_trans (h : RankedBy cmp rank ahead) (hab : cmp a b < 0)
    (hbc : cmp b c < 0) :
    cmp a c < 0 := by
  by_cases ha : ahead a
  · exact h.neg_of_ahead a c ha
  · have hlt : rank a < rank b := (h.tells a b ha).lt_iff.1 hab
    have hle : rank b ≤ rank c := (h.le_iff b c).1 (Int.le_of_lt hbc)
    exact (h.tells a c ha).lt_iff.2 (hlt.trans_le hle)

/-- What is tied has the same rank, and is not ahead. -/
theorem rank_eq_of_tied (h : RankedBy cmp rank ahead) (hab : cmp a b = 0) :
    ¬ ahead a ∧ rank a = rank b := by
  have ha : ¬ ahead a := fun ha => by
    have hlt := h.neg_of_ahead a b ha
    omega
  rcases h.tells a b ha with ⟨hn, -⟩ | ⟨-, heq⟩ | ⟨hn, -⟩
  · omega
  · exact ⟨ha, heq⟩
  · omega

theorem tied_of_rank_eq (h : RankedBy cmp rank ahead) (ha : ¬ ahead a)
    (heq : rank a = rank b) :
    cmp a b = 0 := by
  have hle : cmp a b ≤ 0 := (h.le_iff a b).2 heq.le
  have hge : ¬ cmp a b < 0 := fun hlt => heq.not_lt ((h.tells a b ha).lt_iff.1 hlt)
  omega

theorem tied_trans (h : RankedBy cmp rank ahead) (hab : cmp a b = 0)
    (hbc : cmp b c = 0) :
    cmp a c = 0 := by
  obtain ⟨ha, hrank⟩ := h.rank_eq_of_tied hab
  obtain ⟨-, hrank'⟩ := h.rank_eq_of_tied hbc
  exact h.tied_of_rank_eq ha (hrank.trans hrank')

/-- Where one element at most is ahead, different elements are ordered. -/
theorem ordersApart (h : RankedBy cmp rank ahead)
    (hsole : ∀ a ∈ l, ∀ b ∈ l, ahead a → ahead b → a = b) : OrdersApart cmp l where
  antisymm a ha b hb hne :=
    h.neg_iff_pos fun hboth => hne (hsole a ha b hb hboth.1 hboth.2)
  trans _ _ _ _ _ _ := h.neg_trans
  tied _ _ _ _ _ _ := h.tied_trans

/-- What is sorted with the comparator is sorted by rank: it is enough that no element
is before one that precedes it. -/
theorem sorted_rank (h : RankedBy cmp rank ahead)
    (hsole : l.Pairwise fun a b => ¬ (ahead a ∧ ahead b))
    (hl : l.Pairwise fun a b => ¬ cmp b a < 0) :
    l.Pairwise fun a b => rank a ≤ rank b := by
  refine (hsole.and hl).imp fun {a b} hab => ?_
  have hpos : ¬ 0 < cmp a b := fun hpos =>
    hab.2 ((h.neg_iff_pos fun hboth => hab.1 ⟨hboth.2, hboth.1⟩).2 hpos)
  exact (h.le_iff a b).1 (Int.not_lt.1 hpos)

/-- A merge sort with the comparator sorts by rank. -/
theorem sorted_mergeSort (h : RankedBy cmp rank ahead) (l : List α) :
    (l.mergeSort fun a b => decide (cmp a b ≤ 0)).Pairwise fun a b =>
      rank a ≤ rank b := by
  have htrans : ∀ a b c, decide (cmp a b ≤ 0) = true → decide (cmp b c ≤ 0) = true →
      decide (cmp a c ≤ 0) = true := by
    intro a b c hab hbc
    simp only [decide_eq_true_eq, h.le_iff] at hab hbc ⊢
    exact hab.trans hbc
  have htotal : ∀ a b, (decide (cmp a b ≤ 0) || decide (cmp b a ≤ 0)) = true := by
    intro a b
    simp only [Bool.or_eq_true, decide_eq_true_eq, h.le_iff]
    exact le_total _ _
  exact (List.pairwise_mergeSort htrans htotal l).imp fun hab =>
    (h.le_iff _ _).1 (of_decide_eq_true hab)

end RankedBy

/-- A list splits where a property ends that goes to all earlier elements. -/
theorem exists_split {p : α → Prop} (hl : l.Pairwise fun a b => p b → p a) :
    ∃ l₁ l₂, l = l₁ ++ l₂ ∧ (∀ a ∈ l₁, p a) ∧ ∀ a ∈ l₂, ¬ p a := by
  induction l with
  | nil => exact ⟨[], [], rfl, nofun, nofun⟩
  | cons a rest ih =>
      obtain ⟨hhead, hrest⟩ := List.pairwise_cons.1 hl
      by_cases ha : p a
      · obtain ⟨l₁, l₂, rfl, h₁, h₂⟩ := ih hrest
        exact ⟨a :: l₁, l₂, rfl, List.forall_mem_cons.2 ⟨ha, h₁⟩, h₂⟩
      · refine ⟨[], a :: rest, rfl, nofun,
          List.forall_mem_cons.2 ⟨ha, fun b hb hpb => ?_⟩⟩
        exact ha (hhead b hb hpb)

end CallsPlugin.Verified
