import CallsPlugin.Verified.Monitor

/-!
# What is kept at every step

The lock invariant holds whenever the lock is free.  What every operation keeps, as long
as it is issued under its precondition, holds in between as well.
-/

namespace CallsPlugin.Verified

universe u v w

variable {Op : Type u} {Resp : Op → Type u} {W : Type v} {C T N : Type w}
  [DecidableEq T] [DecidableEq N]

/-- **Upkeep rule**: a property of the world that is kept by the operations under the
lock, each issued under its precondition, and that follows from the lock invariant,
holds in every state of a run. -/
theorem Runs.upkeep {L : Logic Op Resp W C} {m : T → Terms Op W C} {node : T → N}
    {ok : List (Event T C) → Sys Op Resp W T N → T → Act C → Prop}
    {s₀ s : Sys Op Resp W T N} {tr : List (Event T C)} {J : W → Prop}
    (hr : Runs L.sem node ok s₀ tr s) (h0 : s₀.OkFor L m node)
    (hop : ∀ tr s t c o k, ok tr s t (.op c) → s.code t = .op o k →
      (m t).allow (s.holder t) c s.world o)
    (hfail : ∀ tr s t, ok tr s t .giveUp → L.lockMayFail)
    (hstray : L.stray → ∀ tr s t, ok tr s t .unlock →
      s.owner = some t ∨ s.inner (node t) = none)
    (hJ : J s₀.world)
    (hself : ∀ t c w o, J w → (m t).pre w o → (m t).allow .self c w o →
      J (L.sem c w o).2)
    (hinv : ∀ w, L.inv w → J w) : J s.world := by
  induction hr with
  | refl => exact hJ
  | @step tr s s' t a hr hok hs ih =>
      have hi := hr.monitor h0 hop hfail hstray
      rcases Sys.step_cases hs with ⟨k, -, -, -, -, rfl⟩ | ⟨k, -, -, -, -, rfl⟩ |
        ⟨k, -, -, -, rfl⟩ | ⟨k, -, -, rfl⟩ | ⟨c, o, k, rfl, hk, rfl⟩
      · exact ih
      · exact ih
      · exact ih
      · have hworld : (s.release node t).world = s.world := by
          unfold Sys.release
          split <;> rfl
        exact hworld ▸ ih
      · have hallow := hop tr s t c o k hok hk
        by_cases hown : s.owner = some t
        · rw [show s.holder t = .self from if_pos hown] at hallow
          exact hself t c s.world o ih (hi.pre_of_op hown hk) hallow
        · have hne := Sys.holder_ne_self hown
          rcases hi.harmless hown hk hne hallow with hsame | ⟨hnobody, hkeeps⟩
          · exact hsame.symm ▸ ih
          · exact hinv _ (hkeeps (hi.free (Sys.owner_of_nobody hnobody)))

/-- A preorder along which every operation moves the world. -/
theorem Runs.world_rel {sem : C → W → (o : Op) → Resp o × W} {node : T → N}
    {ok : List (Event T C) → Sys Op Resp W T N → T → Act C → Prop}
    {s₀ s : Sys Op Resp W T N} {tr : List (Event T C)} {R : W → W → Prop}
    (hr : Runs sem node ok s₀ tr s) (hrefl : ∀ w, R w w)
    (htrans : ∀ w₁ w₂ w₃, R w₁ w₂ → R w₂ w₃ → R w₁ w₃)
    (hop : ∀ c w o, R w (sem c w o).2) :
    R s₀.world s.world := by
  induction hr with
  | refl => exact hrefl _
  | @step tr s s' t a _ _ hs ih =>
      rcases Sys.step_cases hs with ⟨k, -, -, -, -, rfl⟩ | ⟨k, -, -, -, -, rfl⟩ |
        ⟨k, -, -, -, rfl⟩ | ⟨k, -, -, rfl⟩ | ⟨c, o, k, -, -, rfl⟩
      · exact ih
      · exact ih
      · exact ih
      · have hworld : (s.release node t).world = s.world := by
          unfold Sys.release
          split <;> rfl
        exact hworld ▸ ih
      · exact htrans _ _ _ ih (hop c s.world o)

end CallsPlugin.Verified
