import CallsPlugin.Verified.History

/-!
# A program among others

While a program runs, the others change the state.  `Rely` fixes how the state may go on
between two operations of the program, what an operation may do to it, and what is
required of each operation; `Prog.Meets` says that the program meets these requirements
whatever the others do.  The lock plays no part: what is known of a state is what stays
true as it goes on.

In a run with a history the state is the world together with the history so far
(`Sys.step_meets`), so that a program can be held to what it has done before.
-/

namespace CallsPlugin.Verified

universe u v w x

variable {Op : Type u} {Resp : Op → Type u} {S : Type v}

/-- How the state goes on, what an operation may do, and what is required of one. -/
structure Rely (Op : Type u) (Resp : Op → Type u) (S : Type v) where
  along : S → S → Prop
  can : S → (o : Op) → Resp o → S → Prop
  good : S → Op → Prop
  along_refl : ∀ s, along s s
  along_trans : ∀ {s s' s''}, along s s' → along s' s'' → along s s''
  can_along : ∀ {s o r s'}, can s o r s' → along s s'

namespace Prog

/-- Every operation of the program meets its requirement, and what the program returns
is in `Q`, in every state in which it may come to it. -/
def Meets (R : Rely Op Resp S) {α : Type u} : Prog Op Resp α → (α → S → Prop) → S → Prop
  | .ret a, Q, s => ∀ s', R.along s s' → Q a s'
  | .op o k, Q, s => ∀ s', R.along s s' →
      R.good s' o ∧ ∀ r s'', R.can s' o r s'' → (k r).Meets R Q s''
  | .lock k, Q, s => ∀ b, (k b).Meets R Q s
  | .unlock k, Q, s => k.Meets R Q s

section Meets

variable {R : Rely Op Resp S} {α β : Type u} {p : Prog Op Resp α} {Q : α → S → Prop}
  {s s' : S}

/-- What is known of a program stays true as the state goes on. -/
theorem Meets.along (h : p.Meets R Q s) (hs : R.along s s') : p.Meets R Q s' := by
  induction p generalizing s s' with
  | ret a => exact fun s₁ h₁ => h s₁ (R.along_trans hs h₁)
  | op o k ih => exact fun s₁ h₁ => h s₁ (R.along_trans hs h₁)
  | lock k ih => exact fun b => ih b (h b) hs
  | unlock k ih => exact ih h hs

/-- Sequencing. -/
theorem Meets.bind {f : α → Prog Op Resp β} {Q' : β → S → Prop} (h : p.Meets R Q s)
    (hf : ∀ a s', Q a s' → (f a).Meets R Q' s') : (p >>= f).Meets R Q' s := by
  induction p generalizing s with
  | ret a => exact hf a s (h s (R.along_refl s))
  | op o k ih =>
      exact fun s₁ h₁ => ⟨(h s₁ h₁).1, fun r s₂ hr => ih r ((h s₁ h₁).2 r s₂ hr)⟩
  | lock k ih => exact fun b => ih b (h b)
  | unlock k ih => exact ih h

/-- Consequence rule. -/
theorem Meets.mono {Q' : α → S → Prop} (h : p.Meets R Q s)
    (hQ : ∀ a s, Q a s → Q' a s) :
    p.Meets R Q' s := by
  induction p generalizing s with
  | ret a => exact fun s₁ h₁ => hQ a s₁ (h s₁ h₁)
  | op o k ih =>
      exact fun s₁ h₁ => ⟨(h s₁ h₁).1, fun r s₂ hr => ih r ((h s₁ h₁).2 r s₂ hr)⟩
  | lock k ih => exact fun b => ih b (h b)
  | unlock k ih => exact ih h

/-- A program of whose operations nothing is required. -/
theorem Meets.of_only {P : Op → Prop} (h : p.Only P)
    (hP : ∀ s o, P o → R.good s o) (s : S) :
    p.Meets R (fun _ _ => True) s := by
  induction p generalizing s with
  | ret a => exact fun _ _ => trivial
  | op o k ih => exact fun s₁ _ => ⟨hP s₁ o h.1, fun r s₂ _ => ih r (h.2 r) s₂⟩
  | lock k ih => exact fun b => ih b (h b) s
  | unlock k ih => exact ih h s

/-- Frame rule: a fact that stays true is still there when the program returns. -/
theorem Meets.frame {F : S → Prop} (h : p.Meets R Q s)
    (hF : ∀ {s s'}, R.along s s' → F s → F s') (hs : F s) :
    p.Meets R (fun a s' => Q a s' ∧ F s') s := by
  induction p generalizing s with
  | ret a => exact fun s₁ h₁ => ⟨h s₁ h₁, hF h₁ hs⟩
  | op o k ih =>
      exact fun s₁ h₁ => ⟨(h s₁ h₁).1, fun r s₂ hr =>
        ih r ((h s₁ h₁).2 r s₂ hr) (hF (R.can_along hr) (hF h₁ hs))⟩
  | lock k ih => exact fun b => ih b (h b) hs
  | unlock k ih => exact ih h hs

end Meets

end Prog

/-! ## Runs -/

section Runs

variable {W : Type v} {C T N : Type w} {B : Type x} [DecidableEq T] [DecidableEq N]

/-- One step: the thread that takes it goes on as it may, and for the others the state
goes on. -/
theorem Sys.step_meets {sem : C → W → (o : Op) → Resp o × W} {node : T → N}
    {R : T → Rely Op Resp S} {s s' : Sys Op Resp W T N} {t : T} {a : Act C} {d d' : S}
    (hm : ∀ t, (s.code t).Meets (R t) (fun _ _ => True) d)
    (hs : s.step sem node t a = some s')
    (hop : ∀ c o k, a = .op c → s.code t = .op o k →
      (R t).can d o (sem c s.world o).1 d')
    (halong : ∀ t, (R t).along d d') (t' : T) :
    (s'.code t').Meets (R t') (fun _ _ => True) d' := by
  have hrest : t' ≠ t → s'.code t' = s.code t' := by
    intro hne
    rcases Sys.step_cases hs with ⟨k, rfl, -, -, -, rfl⟩ | ⟨k, rfl, -, -, -, rfl⟩ |
      ⟨k, rfl, -, -, rfl⟩ | ⟨k, rfl, -, rfl⟩ | ⟨c, o, k, rfl, -, rfl⟩
    · rfl
    all_goals exact Function.update_of_ne hne ..
  by_cases ht : t' = t
  · subst ht
    have hmine := hm t'
    rcases Sys.step_cases hs with ⟨k, rfl, hk, -, -, rfl⟩ | ⟨k, rfl, hk, -, -, rfl⟩ |
      ⟨k, rfl, hk, -, rfl⟩ | ⟨k, rfl, hk, rfl⟩ | ⟨c, o, k, rfl, hk, rfl⟩
    · exact hmine.along (halong t')
    · rw [hk] at hmine
      simpa using Prog.Meets.along (hmine true) (halong t')
    · rw [hk] at hmine
      simpa using Prog.Meets.along (hmine false) (halong t')
    · rw [hk] at hmine
      simpa using Prog.Meets.along (p := k) hmine (halong t')
    · rw [hk] at hmine
      simpa using (hmine d ((R t').along_refl d)).2 _ _ (hop c o k rfl hk)
  · rw [hrest ht]
    exact (hm t').along (halong t')

/-- What is required of an operation holds when a thread comes to it. -/
theorem Prog.Meets.good {R : Rely Op Resp S} {s : S} {p : Prog Op Resp PUnit} {o : Op}
    {k : Resp o → Prog Op Resp PUnit} (h : p.Meets R (fun _ _ => True) s)
    (hk : p = .op o k) :
    R.good s o := by
  subst hk
  exact (h s (R.along_refl s)).1

end Runs

end CallsPlugin.Verified
