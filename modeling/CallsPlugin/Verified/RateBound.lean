import Mathlib.Data.List.Basic
import Mathlib.Data.List.Sublists
import Mathlib.Data.List.MinMax

/-!
# Rates over windows

Events at times counted in ticks, `unit` of them to a second.  A list of times has the
rate bound `burst` if every window holds at most `burst` of them and one more for each
second of its length.  Windows that begin and end at an event decide it, so the bound
can be computed.
-/

namespace CallsPlugin.Verified

/-- The times in the window of length `d` from `a`. -/
def inWindow (a d : Nat) (times : List Nat) : List Nat :=
  times.filter fun t => a ≤ t ∧ t ≤ a + d

/-- At most `burst` in any window, and one more for each second. -/
def RateBound (burst unit : Nat) (times : List Nat) : Prop :=
  ∀ a d, (inWindow a d times).length * unit ≤ burst * unit + d

variable {burst unit : Nat} {times times' : List Nat}

/-- Fewer events keep the bound. -/
theorem RateBound.sublist (h : RateBound burst unit times)
    (hSub : times'.Sublist times) :
    RateBound burst unit times' := by
  intro a d
  have hLength : (inWindow a d times').length ≤ (inWindow a d times).length :=
    (hSub.filter _).length_le
  exact (Nat.mul_le_mul_right unit hLength).trans (h a d)

theorem rateBound_of_length (h : times.length ≤ burst) :
    RateBound burst unit times := by
  intro a d
  have hLength : (inWindow a d times).length ≤ burst :=
    (List.length_filter_le _ _).trans h
  exact (Nat.mul_le_mul_right unit hLength).trans (Nat.le_add_right _ _)

/-- Windows from one event to another decide the bound. -/
theorem rateBound_iff : RateBound burst unit times ↔
    ∀ a ∈ times, ∀ b ∈ times, a ≤ b →
      (inWindow a (b - a) times).length * unit ≤ burst * unit + (b - a) := by
  constructor
  · exact fun h a _ b _ _ => h a (b - a)
  · intro h a d
    cases hMin : (inWindow a d times).argmin id with
    | none =>
        rw [List.argmin_eq_none.mp hMin]
        exact (Nat.zero_mul unit).le.trans (Nat.zero_le _)
    | some first =>
        cases hMax : (inWindow a d times).argmax id with
        | none =>
            rw [List.argmax_eq_none.mp hMax]
            exact (Nat.zero_mul unit).le.trans (Nat.zero_le _)
        | some last =>
            obtain ⟨hFirst, hFirstIn⟩ := List.mem_filter.mp (List.argmin_mem hMin)
            obtain ⟨hLast, hLastIn⟩ := List.mem_filter.mp (List.argmax_mem hMax)
            have hFirstIn := of_decide_eq_true hFirstIn
            have hLastIn := of_decide_eq_true hLastIn
            have hLe : first ≤ last := List.le_of_mem_argmin (List.argmax_mem hMax) hMin
            -- all events of the window lie between its first and its last
            have hSub : inWindow a d times = inWindow first (last - first)
                (inWindow a d times) := by
              symm
              apply List.filter_eq_self.mpr
              intro t ht
              have hLow : first ≤ t := List.le_of_mem_argmin ht hMin
              have hHigh : t ≤ last := List.le_of_mem_argmax ht hMax
              simp only [decide_eq_true_eq]
              omega
            have hCount : (inWindow a d times).length ≤
                (inWindow first (last - first) times).length := by
              rw [hSub]
              exact (List.filter_sublist.filter _).length_le
            have hBound := h first hFirst last hLast hLe
            calc (inWindow a d times).length * unit
                ≤ (inWindow first (last - first) times).length * unit :=
                  Nat.mul_le_mul_right unit hCount
              _ ≤ burst * unit + (last - first) := hBound
              _ ≤ burst * unit + d := by omega

instance : Decidable (RateBound burst unit times) := decidable_of_iff' _ rateBound_iff

end CallsPlugin.Verified
