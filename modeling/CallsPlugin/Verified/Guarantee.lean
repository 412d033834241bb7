import CallsPlugin.Verified.Rely

/-!
# Threads that keep an invariant of the world

No lock is taken: each operation, issued under its precondition, keeps an invariant of
the world, and what is known of a world stays true as it goes on (`Guarantee`).  Of
threads that issue their operations under these preconditions the invariant holds in
every state of every run (`Runs.guaranteed`), and no thread comes to an operation whose
precondition fails.
-/

namespace CallsPlugin.Verified

universe u v w

variable {Op : Type u} {Resp : Op → Type u} {W : Type v} {C T N : Type w}

/-- An invariant, an order in which worlds go on, and preconditions that keep both. -/
structure Guarantee (Op : Type u) (Resp : Op → Type u) (W : Type v) (C : Type w) where
  sem : C → W → (o : Op) → Resp o × W
  inv : W → Prop
  later : W → W → Prop
  pre : W → Op → Prop
  later_refl : ∀ w, later w w
  later_trans : ∀ {w w' w''}, later w w' → later w' w'' → later w w''
  step : ∀ c w o, inv w → pre w o → inv (sem c w o).2 ∧ later w (sem c w o).2

namespace Guarantee

/-- What a thread relies on. -/
@[reducible] def rely (G : Guarantee Op Resp W C) : Rely Op Resp W where
  along w w' := G.later w w' ∧ (G.inv w → G.inv w')
  can w o r w' := G.inv w ∧ G.pre w o ∧ ∃ c, r = (G.sem c w o).1 ∧ w' = (G.sem c w o).2
  good := G.pre
  along_refl w := ⟨G.later_refl w, id⟩
  along_trans h h' := ⟨G.later_trans h.1 h'.1, fun hw => h'.2 (h.2 hw)⟩
  can_along := by
    rintro w o _ _ ⟨hw, hpre, c, -, rfl⟩
    obtain ⟨hinv, hlater⟩ := G.step c w o hw hpre
    exact ⟨hlater, fun _ => hinv⟩

variable {G : Guarantee Op Resp W C} {α : Type u} {Q : α → W → Prop} {w : W}

/-- An operation, and what comes after it. -/
theorem meets_op {o : Op} {k : Resp o → Prog Op Resp α} (hw : G.inv w)
    (hpre : ∀ w', G.later w w' → G.inv w' → G.pre w' o)
    (hk : ∀ c w', G.later w w' → G.inv w' → G.inv (G.sem c w' o).2 →
      G.later w (G.sem c w' o).2 →
        (k (G.sem c w' o).1).Meets G.rely Q (G.sem c w' o).2) :
    (Prog.op o k).Meets G.rely Q w := by
  rintro w' ⟨hlater, hinv⟩
  refine ⟨hpre w' hlater (hinv hw), ?_⟩
  rintro _ _ ⟨-, hpre', c, rfl, rfl⟩
  obtain ⟨hnext, hlater'⟩ := G.step c w' o (hinv hw) hpre'
  exact hk c w' hlater (hinv hw) hnext (G.later_trans hlater hlater')

/-- A result that stays good as the world goes on. -/
theorem meets_ret {a : α} (hw : G.inv w) (hQ : ∀ w', G.later w w' → G.inv w' → Q a w') :
    (Prog.ret a).Meets G.rely Q w :=
  fun w' h => hQ w' h.1 (h.2 hw)

end Guarantee

variable [DecidableEq T] [DecidableEq N] {G : Guarantee Op Resp W C} {node : T → N}
  {ok : List (Event T C) → Sys Op Resp W T N → T → Act C → Prop}
  {s₀ s : Sys Op Resp W T N} {tr : List (Event T C)}

/-- **Guarantee rule**: threads that meet the preconditions keep the invariant. -/
theorem Runs.guaranteed (hr : Runs G.sem node ok s₀ tr s) (h0 : G.inv s₀.world)
    (hcode : ∀ t, (s₀.code t).Meets G.rely (fun _ _ => True) s₀.world) :
    G.inv s.world ∧ ∀ t, (s.code t).Meets G.rely (fun _ _ => True) s.world := by
  induction hr with
  | refl => exact ⟨h0, hcode⟩
  | @step tr s s' t a _ _ hs ih =>
      obtain ⟨hinv, hmeets⟩ := ih
      have hnext : G.rely.along s.world s'.world := by
        rcases Sys.step_cases hs with ⟨k, -, -, -, -, rfl⟩ | ⟨k, -, -, -, -, rfl⟩ |
          ⟨k, -, -, -, rfl⟩ | ⟨k, -, -, rfl⟩ | ⟨c, o, k, rfl, hk, rfl⟩
        · exact G.rely.along_refl _
        · exact G.rely.along_refl _
        · exact G.rely.along_refl _
        · have hworld : (s.release node t).world = s.world := by
            unfold Sys.release
            split <;> rfl
          exact hworld ▸ G.rely.along_refl _
        · obtain ⟨hkept, hlater⟩ := G.step c s.world o hinv ((hmeets t).good hk)
          exact ⟨hlater, fun _ => hkept⟩
      refine ⟨hnext.2 hinv, Sys.step_meets hmeets hs (fun c o k ha hk => ?_)
        fun _ => hnext⟩
      subst ha
      refine ⟨hinv, (hmeets t).good hk, c, rfl, ?_⟩
      rcases Sys.step_cases hs with ⟨k', h, -⟩ | ⟨k', h, -⟩ | ⟨k', h, -⟩ | ⟨k', h, -⟩ |
        ⟨c', o', k', h, hk', rfl⟩
      · cases h
      · cases h
      · cases h
      · cases h
      · cases h
        rw [hk] at hk'
        cases hk'
        rfl

end CallsPlugin.Verified
