/-!
# Guarded machines

A machine has actions that are possible in some states and lead from each state to one
other.  `Runs ok` are its runs in which every step meets the condition `ok`, so that
what holds only as long as nothing of a certain kind happens is a statement about runs
too.
-/

namespace CallsPlugin.Verified

universe u v

/-- A machine with states `S` and actions `A`. -/
structure Machine (S : Type u) (A : Type v) where
  Enabled : S → A → Prop
  step : S → A → S

namespace Machine

variable {S : Type u} {A : Type v} {m : Machine S A} {ok ok' : S → A → Prop} {s₀ s : S}

/-- The states a run from `s₀` leads to, whose steps all meet the condition `ok`. -/
inductive Runs (m : Machine S A) (ok : S → A → Prop) (s₀ : S) : S → Prop
  | refl : Runs m ok s₀ s₀
  | step {s : S} (a : A) (hr : Runs m ok s₀ s) (hen : m.Enabled s a) (hok : ok s a) :
      Runs m ok s₀ (m.step s a)

/-- Every run is one. -/
def Always : S → A → Prop := fun _ _ => True

/-- **Invariant rule**: what holds at the start and is kept by the steps that are taken
holds in every state of a run. -/
theorem Runs.inv {Inv : S → Prop} (hr : m.Runs ok s₀ s) (h₀ : Inv s₀)
    (hstep : ∀ s a, m.Enabled s a → ok s a → Inv s → Inv (m.step s a)) : Inv s := by
  induction hr with
  | refl => exact h₀
  | step a _ hen hok ih => exact hstep _ a hen hok ih

/-- A run meets every weaker condition. -/
theorem Runs.mono (hr : m.Runs ok s₀ s) (h : ∀ s a, m.Enabled s a → ok s a → ok' s a) :
    m.Runs ok' s₀ s := by
  induction hr with
  | refl => exact .refl
  | step a _ hen hok ih => exact ih.step a hen (h _ a hen hok)

/-! ## Runs on fixed actions -/

section Leads

variable [∀ s a, Decidable (m.Enabled s a)] {check : S → A → Bool}

/-- The state a list of actions leads to, if every one is possible and passes the
check. -/
def leads (m : Machine S A) [∀ s a, Decidable (m.Enabled s a)] (check : S → A → Bool) :
    S → List A → Option S
  | s, [] => some s
  | s, a :: rest =>
      if m.Enabled s a ∧ check s a = true then m.leads check (m.step s a) rest else none

theorem Runs.of_leads (hcheck : ∀ s a, check s a = true → ok s a) (l : List A) :
    ∀ {s s'}, m.Runs ok s₀ s → m.leads check s l = some s' → m.Runs ok s₀ s' := by
  induction l with
  | nil =>
      intro s s' hr h
      cases h
      exact hr
  | cons a rest ih =>
      intro s s' hr h
      simp only [leads] at h
      split at h
      next hg => exact ih (hr.step a hg.1 (hcheck s a hg.2)) h
      next => cases h

/-- Such a run, as far as `f` shows it. -/
theorem Runs.exists_of_leads {β : Type} (hcheck : ∀ s a, check s a = true → ok s a)
    {l : List A} {f : S → β} {y : β} (h : (m.leads check s₀ l).map f = some y) :
    ∃ s, m.Runs ok s₀ s ∧ f s = y := by
  obtain ⟨s, hs, hy⟩ := Option.map_eq_some_iff.1 h
  exact ⟨s, Runs.of_leads hcheck l .refl hs, hy⟩

end Leads

end Machine

end CallsPlugin.Verified
