/-!
# What does not depend on the order of events

A state is folded over a list of events.  What an observation shows of it can be
folded by itself where, as long as an invariant holds, every event acts on what
is observed in a way of its own (`foldl_observed`); if these ways commute, the
observation is the same for every order of the events (`observed_perm`).
-/

namespace CallsPlugin.Verified

universe u v w

variable {S : Type u} {E : Type v} {O : Type w} {step : S → E → S} {Inv : S → Prop}
  {obs : S → O} {act : O → E → O} {l l' : List E} {s : S}

/-- An invariant of the events of a list holds after them. -/
theorem foldl_inv (Inv : S → Prop)
    (hstep : ∀ s, ∀ e ∈ l, Inv s → Inv (step s e)) (h : Inv s) :
    Inv (l.foldl step s) := by
  induction l generalizing s with
  | nil => exact h
  | cons e rest ih =>
      apply ih
      · intro s' e' he'
        exact hstep s' e' (List.mem_cons_of_mem e he')
      · exact hstep s e List.mem_cons_self h

/-- The observation after the events is the fold of what each of them does to it. -/
theorem foldl_observed (hstep : ∀ s, ∀ e ∈ l, Inv s → Inv (step s e))
    (hobs : ∀ s, ∀ e ∈ l, Inv s → obs (step s e) = act (obs s) e) (h : Inv s) :
    obs (l.foldl step s) = l.foldl act (obs s) := by
  induction l generalizing s with
  | nil => rfl
  | cons e rest ih =>
      have hrest : obs (rest.foldl step (step s e)) =
          rest.foldl act (obs (step s e)) := by
        apply ih
        · intro s' e' he'
          exact hstep s' e' (List.mem_cons_of_mem e he')
        · intro s' e' he'
          exact hobs s' e' (List.mem_cons_of_mem e he')
        · exact hstep s e List.mem_cons_self h
      show obs (rest.foldl step (step s e)) = rest.foldl act (act (obs s) e)
      rw [hrest, hobs s e List.mem_cons_self h]

/-- **Independence of order**, for observations that the events act on in ways that
commute. -/
theorem observed_perm (obs : S → O) (act : O → E → O) (hp : l'.Perm l)
    (hstep : ∀ s, ∀ e ∈ l, Inv s → Inv (step s e))
    (hobs : ∀ s, ∀ e ∈ l, Inv s → obs (step s e) = act (obs s) e)
    (hcomm : ∀ e ∈ l, ∀ e' ∈ l, ∀ o, act (act o e) e' = act (act o e') e) (h : Inv s) :
    obs (l'.foldl step s) = obs (l.foldl step s) := by
  have hstep' : ∀ s, ∀ e ∈ l', Inv s → Inv (step s e) := fun s e he =>
    hstep s e (hp.mem_iff.1 he)
  have hobs' : ∀ s, ∀ e ∈ l', Inv s → obs (step s e) = act (obs s) e := fun s e he =>
    hobs s e (hp.mem_iff.1 he)
  calc obs (l'.foldl step s) = l'.foldl act (obs s) := foldl_observed hstep' hobs' h
    _ = l.foldl act (obs s) := (hp.symm.foldl_eq' hcomm (obs s)).symm
    _ = obs (l.foldl step s) := (foldl_observed hstep hobs h).symm

/-- Two events of a list without repetitions may come last, in either order. -/
theorem perm_last_two [DecidableEq E] {e e' : E} (he : e ∈ l) (he' : e' ∈ l)
    (hne : e ≠ e') :
    (((l.erase e).erase e') ++ [e, e']).Perm l := by
  have h' : e' ∈ l.erase e := (List.mem_erase_of_ne hne.symm).2 he'
  have h₁ : (e :: e' :: (l.erase e).erase e').Perm l :=
    ((List.perm_cons_erase h').symm.cons e).trans (List.perm_cons_erase he).symm
  exact List.perm_append_comm.trans h₁

end CallsPlugin.Verified
