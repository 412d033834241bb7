import Mathlib.Data.Option.Basic
import Mathlib.Data.List.Pairwise

/-!
# Backing off

An entry that is set only where none is left keeps those who set it apart.  Each setting
lasts its own time, or for ever; a list of them, the newest first, is `Spaced` if none
was made while an earlier one lasted.  Then only the newest can still last, so looking
at one entry is as good as looking at all that were ever made.
-/

namespace CallsPlugin.Verified

universe u

/-- An entry as it was set; without a time to last it is for ever. -/
structure Setting (α : Type u) where
  setBy : α
  time : Nat
  lasts : Option Int
  deriving DecidableEq, Repr

variable {α : Type u} {w : Setting α} {l : List (Setting α)} {t t' : Nat}

/-- The setting lasts beyond `t`. -/
def Setting.Covers (w : Setting α) (t : Nat) : Prop :=
  ∀ d ∈ w.lasts, (t : Int) < w.time + d

instance : Decidable (w.Covers t) := inferInstanceAs (Decidable (∀ d ∈ w.lasts, _))

/-- None was made while an earlier one lasted; the newest comes first. -/
def Spaced (l : List (Setting α)) : Prop :=
  l.Pairwise fun later earlier => earlier.time ≤ later.time ∧
    ¬ earlier.Covers later.time

theorem Setting.Covers.earlier (h : w.Covers t) (hle : t' ≤ t) : w.Covers t' := by
  intro d hd
  have hlast := h d hd
  omega

/-- Only the newest setting can last still. -/
theorem Spaced.newest (h : Spaced (w :: l)) (hle : w.time ≤ t) :
    ∀ w' ∈ l, ¬ w'.Covers t := by
  intro w' hw' hcovers
  exact ((List.pairwise_cons.1 h).1 w' hw').2 (hcovers.earlier hle)

/-- A setting made when the newest one is past keeps the list spaced. -/
theorem Spaced.cons (h : Spaced l) (htimes : ∀ w' ∈ l, w'.time ≤ w.time)
    (hpast : ∀ w' ∈ l.head?, ¬ w'.Covers w.time) : Spaced (w :: l) := by
  refine List.pairwise_cons.2 ⟨fun w' hw' => ⟨htimes w' hw', ?_⟩, h⟩
  cases l with
  | nil => cases hw'
  | cons newest older =>
      cases List.mem_cons.1 hw' with
      | inl heq => exact heq ▸ hpast newest rfl
      | inr hold => exact h.newest (htimes newest List.mem_cons_self) w' hold

end CallsPlugin.Verified
