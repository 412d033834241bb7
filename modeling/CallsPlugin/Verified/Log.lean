import Mathlib.Data.List.Basic

/-!
# Logs

A log is a list that grows at its end.  `Each good l` says of every entry of
`l` that it is good after the entries before it; what only looks back is
settled once and for all when the entry is written.
-/

namespace CallsPlugin.Verified

universe u

variable {E : Type u} {good good' : List E → E → Prop} {l l' es : List E}

/-- Every entry is good after the entries before it. -/
def Each (good : List E → E → Prop) (l : List E) : Prop :=
  ∀ before e after, l = before ++ e :: after → good before e

namespace Each

theorem nil : Each good [] := fun before e after h => by
  have hlen := congrArg List.length h
  rw [List.length_append] at hlen
  simp at hlen

/-- What is written later changes nothing. -/
theorem left (h : Each good (l ++ l')) : Each good l := fun before e after hl =>
  h before e (after ++ l') (by rw [hl, List.append_assoc, List.cons_append])

theorem last {e : E} (h : Each good (l ++ [e])) : good l e := h l e [] rfl

theorem concat {e : E} (h : Each good l) (he : good l e) : Each good (l ++ [e]) := by
  intro before e' after hl
  rcases List.eq_nil_or_concat after with hnil | ⟨after', last, hafter⟩
  · rw [hnil] at hl
    obtain ⟨rfl, he'⟩ := List.append_inj' hl rfl
    obtain rfl := List.singleton_injective he'
    exact he
  · rw [hafter, List.concat_eq_append, ← List.cons_append, ← List.append_assoc] at hl
    exact h before e' after' (List.append_inj' hl rfl).1

/-- Entries that are good wherever they stand. -/
theorem append (h : Each good l) (hes : ∀ e ∈ es, ∀ before, good before e) :
    Each good (l ++ es) := by
  induction es generalizing l with
  | nil => rwa [List.append_nil]
  | cons e es ih =>
    rw [List.append_cons]
    exact ih (h.concat (hes e List.mem_cons_self l)) fun e' he' =>
      hes e' (List.mem_cons_of_mem _ he')

theorem mono (h : Each good l) (himp : ∀ before e, good before e → good' before e) :
    Each good' l :=
  fun before e after hl => himp before e (h before e after hl)

end Each

end CallsPlugin.Verified
