import Mathlib.Data.List.Nodup
import Mathlib.Data.List.Perm.Basic

/-!
# Custody of resources

Resources are numbered as they are made.  Every one of them is in custody of
exactly one holder or was released: `live` lists the resources of all holders,
`released` those that were given up.
-/

namespace CallsPlugin.Verified

/-- Each of the first `next` resources is in custody once, or released. -/
structure Custody (live released : List Nat) (next : Nat) : Prop where
  nodup : live.Nodup
  made : ∀ c, c < next ↔ c ∈ live ∨ c ∈ released
  once : ∀ c ∈ live, c ∉ released

namespace Custody

variable {live live' released : List Nat} {next c : Nat}

/-- It does not matter who the holders are. -/
theorem perm (h : Custody live released next) (hp : live.Perm live') :
    Custody live' released next where
  nodup := hp.nodup_iff.1 h.nodup
  made c := by
    rw [h.made, hp.mem_iff]
  once c hc := h.once c (hp.mem_iff.2 hc)

/-- A resource is made and taken into custody. -/
theorem make (h : Custody live released next) :
    Custody (next :: live) released (next + 1) where
  nodup := by
    rw [List.nodup_cons]
    refine ⟨fun hmem => ?_, h.nodup⟩
    exact Nat.lt_irrefl next ((h.made next).2 (.inl hmem))
  made c := by
    rw [Nat.lt_succ_iff_lt_or_eq, h.made, List.mem_cons]
    constructor
    · rintro ((hlive | hrel) | heq)
      · exact .inl (.inr hlive)
      · exact .inr hrel
      · exact .inl (.inl heq)
    · rintro ((heq | hlive) | hrel)
      · exact .inr heq
      · exact .inl (.inl hlive)
      · exact .inl (.inr hrel)
  once c hc := by
    obtain rfl | hlive := List.mem_cons.1 hc
    · exact fun hrel => Nat.lt_irrefl c ((h.made c).2 (.inr hrel))
    · exact h.once c hlive

/-- A resource is released by its holder. -/
theorem release (h : Custody (c :: live) released next) :
    Custody live (c :: released) next where
  nodup := (List.nodup_cons.1 h.nodup).2
  made c' := by
    rw [h.made, List.mem_cons, List.mem_cons, or_assoc, or_left_comm]
  once c' hc' := by
    rw [List.mem_cons, not_or]
    refine ⟨?_, h.once c' (List.mem_cons_of_mem c hc')⟩
    rintro rfl
    exact (List.nodup_cons.1 h.nodup).1 hc'

/-- Releasing a resource once more changes nothing. -/
theorem release_again (h : Custody live released next) (hc : c ∈ released) :
    Custody live (c :: released) next where
  nodup := h.nodup
  made c' := by
    have hsame : c' ∈ c :: released ↔ c' ∈ released := by
      rw [List.mem_cons]
      exact ⟨fun h' => h'.elim (fun heq => heq ▸ hc) id, .inr⟩
    rw [h.made, hsame]
  once c' hc' := by
    rw [List.mem_cons, not_or]
    refine ⟨?_, h.once c' hc'⟩
    rintro rfl
    exact h.once c' hc' hc

theorem live_iff (h : Custody live released next) (hc : c < next) :
    c ∈ live ↔ c ∉ released :=
  ⟨h.once c, fun hrel => ((h.made c).1 hc).resolve_right hrel⟩

end Custody

end CallsPlugin.Verified
