import Mathlib.Order.Lattice
import Mathlib.Data.List.Basic

/-!
# A running minimum

One pass over a list keeps the element of least rank so far.  Some elements are
void: the pass starts on one, and whatever comes next replaces it, whether or not
it ranks lower.  Which of several elements of least rank is kept then depends on
the order of the list; `foldl_keep_sole` and `foldl_keep_first` say when it does
not, and when it does.
-/

namespace CallsPlugin.Verified

universe u v

variable {γ : Type u} {β : Type v} [LinearOrder β] (void : γ → Prop)
  [DecidablePred void] (rank : γ → β)

/-- The element kept of `best`, the one so far, and `x`. -/
def keep (best x : γ) : γ := if void best ∨ rank x < rank best then x else best

variable {void rank} {best x b : γ} {l : List γ}

/-- A pass never keeps an element it has not seen. -/
theorem foldl_keep_mem (l : List γ) (best : γ) :
    l.foldl (keep void rank) best = best ∨ l.foldl (keep void rank) best ∈ l := by
  induction l generalizing best with
  | nil => exact .inl rfl
  | cons x rest ih =>
      show rest.foldl (keep void rank) (keep void rank best x) = best ∨
        rest.foldl (keep void rank) (keep void rank best x) ∈ x :: rest
      cases ih (keep void rank best x) with
      | inr hRest => exact .inr (List.mem_cons_of_mem x hRest)
      | inl hKept =>
          rw [hKept]
          unfold keep
          split
          · exact .inr List.mem_cons_self
          · exact .inl rfl

/-- What is not void and ranks no higher than the rest is kept to the end. -/
theorem foldl_keep_stays (hb : ¬ void b) (hMin : ∀ y ∈ l, rank b ≤ rank y) :
    l.foldl (keep void rank) b = b := by
  induction l with
  | nil => rfl
  | cons x rest ih =>
      have hKeep : keep void rank b x = b := by
        apply if_neg
        intro h
        cases h with
        | inl hVoid => exact hb hVoid
        | inr hLess => exact absurd (hMin x List.mem_cons_self) (not_le_of_gt hLess)
      show rest.foldl (keep void rank) (keep void rank b x) = b
      rw [hKeep]
      exact ih fun y hy => hMin y (List.mem_cons_of_mem x hy)

/-- **The first of the least**: an element of least rank at the head of the list is
kept. -/
theorem foldl_keep_first (hBest : void best) (hx : ¬ void x)
    (hMin : ∀ y ∈ l, rank x ≤ rank y) :
    (x :: l).foldl (keep void rank) best = x := by
  show l.foldl (keep void rank) (keep void rank best x) = x
  have hKeep : keep void rank best x = x := if_pos (.inl hBest)
  rw [hKeep]
  exact foldl_keep_stays hx hMin

/-- **The only one of the least**: where no other element of the list that is not void
ranks as low, it is kept wherever it stands. -/
theorem foldl_keep_sole (hb : ¬ void b) (hMem : b ∈ l) (hMin : ∀ y ∈ l, rank b ≤ rank y)
    (hSole : ∀ y ∈ l, ¬ void y → rank y ≤ rank b → y = b)
    (hBest : void best ∨ rank b < rank best) : l.foldl (keep void rank) best = b := by
  induction l generalizing best with
  | nil => cases hMem
  | cons x rest ih =>
      show rest.foldl (keep void rank) (keep void rank best x) = b
      have hMinRest : ∀ y ∈ rest, rank b ≤ rank y := fun y hy =>
        hMin y (List.mem_cons_of_mem x hy)
      by_cases hx : x = b
      · have hKeep : keep void rank best x = b := by
          rw [hx]
          exact if_pos hBest
        rw [hKeep]
        exact foldl_keep_stays hb hMinRest
      · have hRest : b ∈ rest := (List.mem_cons.mp hMem).resolve_left (Ne.symm hx)
        apply ih hRest hMinRest fun y hy => hSole y (List.mem_cons_of_mem x hy)
        unfold keep
        split
        · -- `x` replaces the candidate; it is void or ranks above `b`
          by_cases hVoid : void x
          · exact .inl hVoid
          · apply Or.inr
            apply lt_of_not_ge
            intro hLow
            exact hx (hSole x List.mem_cons_self hVoid hLow)
        · exact hBest

/-- Elements that are all void leave a void one. -/
theorem foldl_keep_void (hBest : void best) (hAll : ∀ y ∈ l, void y) :
    void (l.foldl (keep void rank) best) := by
  cases @foldl_keep_mem γ β _ void _ rank l best with
  | inl hEq => rwa [hEq]
  | inr hMem => exact hAll _ hMem

/-- Once a list ends with an element that is not void, the one kept is not. -/
theorem not_void_foldl_concat (hx : ¬ void x) :
    ¬ void ((l ++ [x]).foldl (keep void rank) best) := by
  rw [List.foldl_append]
  show ¬ void (keep void rank (l.foldl (keep void rank) best) x)
  unfold keep
  split
  · exact hx
  · next h => exact fun hVoid => h (.inl hVoid)

/-- A void element that ranks below all that are not is kept if it comes last. -/
theorem foldl_keep_last (hBest : void best)
    (hLow : ∀ y ∈ l, ¬ void y → rank x < rank y) :
    (l ++ [x]).foldl (keep void rank) best = x := by
  rw [List.foldl_append]
  show keep void rank (l.foldl (keep void rank) best) x = x
  apply if_pos
  by_cases hVoid : void (l.foldl (keep void rank) best)
  · exact .inl hVoid
  · apply Or.inr
    cases @foldl_keep_mem γ β _ void _ rank l best with
    | inl hEq =>
        rw [hEq] at hVoid
        exact absurd hBest hVoid
    | inr hMem => exact hLow _ hMem hVoid

end CallsPlugin.Verified
