import CallsPlugin.Verified.Monitor

/-!
# Runs that keep a history

`Histories` is `Runs` with a list that grows as the run goes: what a step may add to it
is told from the step.  A property of the state and of the history so far is proved as
an invariant, on top of what the monitor rule says of every state (`Runs.history`).
-/

namespace CallsPlugin.Verified

universe u v w x

variable {Op : Type u} {Resp : Op → Type u} {W : Type v} {C T N : Type w} {B : Type x}
  [DecidableEq T] [DecidableEq N]

/-- Runs with a history, to which each step adds what `adds` permits. -/
inductive Histories (sem : C → W → (o : Op) → Resp o × W) (node : T → N)
    (ok : List (Event T C) → Sys Op Resp W T N → T → Act C → Prop)
    (adds : Sys Op Resp W T N → T → Act C → Sys Op Resp W T N → List B → Prop)
    (s₀ : Sys Op Resp W T N) : List (Event T C) → Sys Op Resp W T N → List B → Prop
  | refl : Histories sem node ok adds s₀ [] s₀ []
  | step {tr : List (Event T C)} {s s' : Sys Op Resp W T N} {t : T} {a : Act C}
      {l new : List B} (hr : Histories sem node ok adds s₀ tr s l) (hok : ok tr s t a)
      (hs : s.step sem node t a = some s') (hadds : adds s t a s' new) :
      Histories sem node ok adds s₀ (s.event node t a :: tr) s' (l ++ new)

/-- The record, the state and the history a schedule leads to, if every step is possible
and passes the check; `add` is what a step adds. -/
def Sys.schedHistory (sem : C → W → (o : Op) → Resp o × W) (node : T → N)
    (check : List (Event T C) → Sys Op Resp W T N → T → Act C → Bool)
    (add : Sys Op Resp W T N → T → Act C → Sys Op Resp W T N → List B) :
    List (Event T C) → Sys Op Resp W T N → List B → List (T × Act C) →
      Option (List (Event T C) × Sys Op Resp W T N × List B)
  | tr, s, l, [] => some (tr, s, l)
  | tr, s, l, (t, a) :: rest =>
      if check tr s t a then
        match s.step sem node t a with
        | some s' =>
            Sys.schedHistory sem node check add (s.event node t a :: tr) s'
              (l ++ add s t a s') rest
        | none => none
      else none

section Sched

variable {sem : C → W → (o : Op) → Resp o × W} {node : T → N}
  {ok : List (Event T C) → Sys Op Resp W T N → T → Act C → Prop}
  {adds : Sys Op Resp W T N → T → Act C → Sys Op Resp W T N → List B → Prop}
  {check : List (Event T C) → Sys Op Resp W T N → T → Act C → Bool}
  {add : Sys Op Resp W T N → T → Act C → Sys Op Resp W T N → List B}
  {s₀ : Sys Op Resp W T N}

/-- A schedule that goes through is a run with a history. -/
theorem Histories.of_sched (hcheck : ∀ tr s t a, check tr s t a = true → ok tr s t a)
    (hadd : ∀ s t a s', adds s t a s' (add s t a s')) (sched : List (T × Act C)) :
    ∀ {tr tr' : List (Event T C)} {s s' : Sys Op Resp W T N} {l l' : List B},
      Histories sem node ok adds s₀ tr s l →
      s.schedHistory sem node check add tr l sched = some (tr', s', l') →
      Histories sem node ok adds s₀ tr' s' l' := by
  induction sched with
  | nil => intro tr tr' s s' l l' hr h; cases h; exact hr
  | cons ta rest ih =>
      intro tr tr' s s' l l' hr h
      simp only [Sys.schedHistory] at h
      split at h
      next hc =>
        split at h
        next s₁ h₁ => exact ih (hr.step (hcheck _ _ _ _ hc) h₁ (hadd _ _ _ _)) h
        next => cases h
      next => cases h

/-- The run of a schedule and its history, as far as `f` shows them. -/
theorem Histories.exists_of_sched {β : Type*}
    (hcheck : ∀ tr s t a, check tr s t a = true → ok tr s t a)
    (hadd : ∀ s t a s', adds s t a s' (add s t a s')) {sched : List (T × Act C)}
    {f : List (Event T C) × Sys Op Resp W T N × List B → β} {y : β}
    (h : (s₀.schedHistory sem node check add [] [] sched).map f = some y) :
    ∃ tr s l, Histories sem node ok adds s₀ tr s l ∧ f (tr, s, l) = y := by
  obtain ⟨⟨tr, s, l⟩, hs, hy⟩ := Option.map_eq_some_iff.1 h
  exact ⟨tr, s, l, Histories.of_sched hcheck hadd sched .refl hs, hy⟩

end Sched

section Rule

variable {L : Logic Op Resp W C} {m : T → Terms Op W C} {node : T → N}
  {ok : List (Event T C) → Sys Op Resp W T N → T → Act C → Prop}
  {adds : Sys Op Resp W T N → T → Act C → Sys Op Resp W T N → List B → Prop}
  {s₀ s : Sys Op Resp W T N} {tr : List (Event T C)}

/-- A run with a history is a run. -/
theorem Histories.runs {sem : C → W → (o : Op) → Resp o × W} {l : List B}
    (h : Histories sem node ok adds s₀ tr s l) : Runs sem node ok s₀ tr s := by
  induction h with
  | refl => exact .refl
  | step _ hok hs _ ih => exact ih.step hok hs

/-- A run whose history is good throughout meets what a good entry says of its step. -/
theorem Histories.runs_of {sem : C → W → (o : Op) → Resp o × W} {l : List B}
    {P : Sys Op Resp W T N → Prop} (h : Histories sem node ok adds s₀ tr s l)
    (good : B → Prop) (hP : ∀ s t a s' new, adds s t a s' new → (∀ b ∈ new, good b) →
      P s) (hl : ∀ b ∈ l, good b) :
    Runs sem node (fun tr s t a => ok tr s t a ∧ P s) s₀ tr s := by
  induction h with
  | refl => exact .refl
  | step _ hok hs hadds ih =>
      have hnew := hP _ _ _ _ _ hadds fun b hb => hl b (List.mem_append_right _ hb)
      exact (ih fun b hb => hl b (List.mem_append_left _ hb)).step ⟨hok, hnew⟩ hs

/-- An invariant of the state and the history, on top of what the monitor rule says of
every state. -/
theorem Histories.invariant {l : List B} (hl : Histories L.sem node ok adds s₀ tr s l)
    (h0 : s₀.OkFor L m node)
    (hop : ∀ tr s t c o k, ok tr s t (.op c) → s.code t = .op o k →
      (m t).allow (s.holder t) c s.world o)
    (hfail : ∀ tr s t, ok tr s t .giveUp → L.lockMayFail)
    (hstray : L.stray → ∀ tr s t, ok tr s t .unlock → s.owner = some t ∨
      s.inner (node t) = none)
    {J : Sys Op Resp W T N → List B → Prop} (hJ : J s₀ [])
    (hstep : ∀ tr s t a s' l new, Runs L.sem node ok s₀ tr s → s.OkFor L m node →
      ok tr s t a →
      s.step L.sem node t a = some s' → adds s t a s' new → J s l → J s' (l ++ new)) :
      J s l := by
  induction hl with
  | refl => exact hJ
  | step hr hok hs hadds ih =>
      exact hstep _ _ _ _ _ _ _ hr.runs (hr.runs.monitor h0 hop hfail hstray)
        hok hs hadds ih

/-- **History rule**: if every thread meets its precondition, and from a state and a
history in `J` each permitted step adds something that leads to `J` again, then every
run keeps a history in `J`. -/
theorem Runs.history (hr : Runs L.sem node ok s₀ tr s) (h0 : s₀.OkFor L m node)
    (hop : ∀ tr s t c o k, ok tr s t (.op c) → s.code t = .op o k →
      (m t).allow (s.holder t) c s.world o)
    (hfail : ∀ tr s t, ok tr s t .giveUp → L.lockMayFail)
    (hstray : L.stray → ∀ tr s t, ok tr s t .unlock → s.owner = some t ∨
      s.inner (node t) = none)
    {J : Sys Op Resp W T N → List B → Prop} (hJ : J s₀ [])
    (hstep : ∀ tr s t a s' l, Runs L.sem node ok s₀ tr s → s.OkFor L m node →
      ok tr s t a →
      s.step L.sem node t a = some s' → J s l → ∃ new, adds s t a s' new ∧
        J s' (l ++ new)) :
    ∃ l, Histories L.sem node ok adds s₀ tr s l ∧ J s l := by
  induction hr with
  | refl => exact ⟨[], .refl, hJ⟩
  | step hr hok hs ih =>
      obtain ⟨l, hl, hj⟩ := ih
      have hsafe := hr.monitor h0 hop hfail hstray
      obtain ⟨new, hnew, hj'⟩ := hstep _ _ _ _ _ _ hr hsafe hok hs hj
      exact ⟨_, hl.step hok hs hnew, hj'⟩

end Rule

end CallsPlugin.Verified
