import CallsPlugin.Verified.Pool

/-!
# Lock discipline

`Disciplined` is code that locks only when it does not hold the lock and, if it
may not stray, releases only when it does.  A stray release is one by a thread
whose last attempt to lock failed or that has released since; it may unlock what
another thread of its node has locked.  `Runs.discipline` says what disciplined
threads guarantee in every run whose stray releases find the mutex of their node
unlocked.
-/

namespace CallsPlugin.Verified

universe u v w

variable {Op : Type u} {Resp : Op → Type u} {W : Type v} {C T N : Type w} {α β : Type u}

/-- The code keeps the discipline, and what it leaves of the lock (`true` if it
holds it) and its result satisfy `Q`.  It may stray only if `stray`. -/
def Disciplined (stray : Prop) : Bool → Prog Op Resp α → (Bool → α → Prop) → Prop
  | h, .ret a, Q => Q h a
  | h, .op _ k, Q => ∀ r, Disciplined stray h (k r) Q
  | true, .lock _, _ => False
  | false, .lock k, Q =>
      Disciplined stray true (k true) Q ∧ Disciplined stray false (k false) Q
  | true, .unlock k, Q => Disciplined stray false k Q
  | false, .unlock k, Q => stray ∧ Disciplined stray false k Q

namespace Disciplined

variable {stray : Prop} {h : Bool} {Q : Bool → α → Prop}

@[simp] theorem ret {a : α} :
    Disciplined stray h (.ret a : Prog Op Resp α) Q ↔ Q h a := by
  cases h <;> exact Iff.rfl

@[simp] theorem op {o : Op} {k : Resp o → Prog Op Resp α} :
    Disciplined stray h (.op o k) Q ↔ ∀ r, Disciplined stray h (k r) Q := by
  cases h <;> exact Iff.rfl

@[simp] theorem lock {k : Bool → Prog Op Resp α} : Disciplined stray false (.lock k) Q ↔
    Disciplined stray true (k true) Q ∧ Disciplined stray false (k false) Q := Iff.rfl

@[simp] theorem unlock_held {k : Prog Op Resp α} :
    Disciplined stray true (.unlock k) Q ↔ Disciplined stray false k Q := Iff.rfl

@[simp] theorem unlock_stray {k : Prog Op Resp α} :
    Disciplined stray false (.unlock k) Q ↔ stray ∧ Disciplined stray false k Q :=
  Iff.rfl

/-- Code that holds the lock does not lock. -/
theorem eq_false_of_lock {k : Bool → Prog Op Resp α}
    (hp : Disciplined stray h (.lock k) Q) :
    h = false := by
  cases h
  · rfl
  · exact hp.elim

/-- Sequencing rule. -/
@[simp] theorem bind {p : Prog Op Resp α} {f : α → Prog Op Resp β}
    {Q : Bool → β → Prop} :
    Disciplined stray h (p >>= f) Q ↔
      Disciplined stray h p fun h' a => Disciplined stray h' (f a) Q := by
  induction p generalizing h with
  | ret a => simp
  | op o k ih => simp [ih]
  | lock k ih =>
      cases h
      · simp [ih]
      · exact Iff.rfl
  | unlock k ih => cases h <;> simp [ih]

/-- Code that leaves the lock alone keeps the hold it finds. -/
@[simp] theorem lift {c : Code Op Resp α} :
    Disciplined stray h (.lift c : Prog Op Resp α) Q ↔ c.All fun a => Q h a := by
  induction c with
  | ret a => simp
  | op o k ih => simp [ih]

/-- Consequence rule. -/
theorem mono {p : Prog Op Resp α} {Q' : Bool → α → Prop} (hp : Disciplined stray h p Q)
    (hQ : ∀ h a, Q h a → Q' h a) : Disciplined stray h p Q' := by
  induction p generalizing h with
  | ret a => exact ret.2 (hQ _ _ (ret.1 hp))
  | op o k ih => exact op.2 fun r => ih r (op.1 hp r)
  | lock k ih =>
      obtain rfl := hp.eq_false_of_lock
      exact ⟨ih true hp.1, ih false hp.2⟩
  | unlock k ih =>
      cases h
      · exact ⟨hp.1, ih hp.2⟩
      · exact ih hp

end Disciplined

/-! ## Runs of disciplined threads -/

section Record

variable [DecidableEq T]

/-- `t` has obtained the lock and not released since: what it knows itself. -/
def holding (t : T) : List (Event T C) → Bool
  | [] => false
  | e :: tr =>
      if e.thread = t then
        match e.act with
        | .acquire => true
        | .giveUp => false
        | .unlock => false
        | .enter => holding t tr
        | .op _ => holding t tr
      else holding t tr

/-- How often `t` has obtained the lock. -/
def acquired (t : T) : List (Event T C) → Nat
  | [] => 0
  | e :: tr =>
      match e.act with
      | .acquire => if e.thread = t then acquired t tr + 1 else acquired t tr
      | _ => acquired t tr

/-- How often a release has unlocked the mutex that `t` had locked. -/
def freed (t : T) : List (Event T C) → Nat
  | [] => 0
  | e :: tr => if e.freed = some t then freed t tr + 1 else freed t tr

/-- A stray release of a thread that may stray finds the mutex of its node
unlocked. -/
def StrayHarmless (node : T → N) (stray : T → Prop) (tr : List (Event T C))
    (s : Sys Op Resp W T N) (t : T) (a : Act C) : Prop :=
  match a with
  | .unlock => stray t → holding t tr = false → s.inner (node t) = none
  | _ => True

/-- What holds of a pool of disciplined threads and the record of its run. -/
structure Paired (node : T → N) (stray : T → Prop) (tr : List (Event T C))
    (s : Sys Op Resp W T N) : Prop where
  layered : s.Layered node
  holding : ∀ t, holding t tr = true ↔ s.owner = some t
  code : ∀ t, Disciplined (stray t) (Verified.holding t tr) (s.code t)
    fun h _ => h = false
  own : ∀ e ∈ tr, ∀ t, e.freed = some t → e.thread = t
  count : ∀ t, acquired t tr = freed t tr + if s.owner = some t then 1 else 0

namespace Paired

variable {node : T → N} {stray : T → Prop} {tr : List (Event T C)}
  {s s' : Sys Op Resp W T N} {t : T} {a : Act C}

/-- A permitted release is the owner's or unlocks nothing. -/
theorem owner_of_unlock (h : Paired node stray tr s) {k : Prog Op Resp PUnit}
    (hk : s.code t = .unlock k) (hok : StrayHarmless node stray tr s t .unlock) :
    s.owner = some t ∨ s.inner (node t) = none := by
  cases hh : Verified.holding t tr with
  | true => exact .inl ((h.holding t).1 hh)
  | false =>
      have hc := h.code t
      rw [hh, hk, Disciplined.unlock_stray] at hc
      exact .inr (hok hc.1 hh)

/-- A thread that is done has released what it obtained. -/
theorem done (h : Paired node stray tr s) (ht : s.code t = .ret ⟨⟩) :
    acquired t tr = freed t tr := by
  have hc := h.code t
  rw [ht, Disciplined.ret] at hc
  have hown : s.owner ≠ some t := fun ho => by simp [(h.holding t).2 ho] at hc
  simpa [hown] using h.count t

/-- What a thread knows is not changed by what others do. -/
theorem holding_of_ne {e : Event T C} {t' : T} (he : e.thread ≠ t') :
    Verified.holding t' (e :: tr) = Verified.holding t' tr := by
  simp [Verified.holding, he]

variable [DecidableEq N] {sem : C → W → (o : Op) → Resp o × W}

omit [DecidableEq N] in
/-- The parts of `step` that are the same for every action that unlocks nothing. -/
theorem of_step (h : Paired node stray tr s) (t : T) {e : Event T C} (he : e.thread = t)
    (hf : e.freed = none) (hlay : s'.Layered node)
    (hmine : (Verified.holding t (e :: tr) = true ↔ s'.owner = some t) ∧
      Disciplined (stray t) (Verified.holding t (e :: tr)) (s'.code t)
        fun h _ => h = false)
    (hrest : ∀ t', t' ≠ t → (s'.owner = some t' ↔ s.owner = some t') ∧
      s'.code t' = s.code t')
    (hcount : acquired t (e :: tr) = freed t tr + if s'.owner = some t then 1 else 0)
    (hsame : ∀ t', t' ≠ t → acquired t' (e :: tr) = acquired t' tr) :
    Paired node stray (e :: tr) s' := by
  have hfreed : ∀ t', freed t' (e :: tr) = freed t' tr := fun t' => by simp [freed, hf]
  refine ⟨hlay, fun t' => ?_, fun t' => ?_, fun e' he' t' hf' => ?_, fun t' => ?_⟩
  · by_cases hne : t' = t
    · exact hne ▸ hmine.1
    · rw [holding_of_ne (he ▸ Ne.symm hne), (hrest t' hne).1]
      exact h.holding t'
  · by_cases hne : t' = t
    · exact hne ▸ hmine.2
    · rw [holding_of_ne (he ▸ Ne.symm hne), (hrest t' hne).2]
      exact h.code t'
  · rcases List.mem_cons.1 he' with rfl | he'
    · rw [hf] at hf'
      cases hf'
    · exact h.own e' he' t' hf'
  · by_cases hne : t' = t
    · subst hne
      rw [hfreed, hcount]
    · simp only [hfreed, hsame t' hne, h.count t', (hrest t' hne).1]

/-- Step lemma. -/
theorem step (h : Paired node stray tr s) (hs : s.step sem node t a = some s')
    (hok : StrayHarmless node stray tr s t a) :
    Paired node stray (s.event node t a :: tr) s' := by
  have hrel : a = .unlock → s.owner = some t ∨ s.inner (node t) = none := by
    rintro rfl
    rcases Sys.step_cases hs with h' | h' | h' | ⟨k, _, hk, _⟩ | h'
    · simp at h'
    · simp at h'
    · simp at h'
    · exact h.owner_of_unlock hk hok
    · simp at h'
  have hlay := h.layered.step hs hrel
  have hc := h.code t
  have hh := h.holding t
  have hn := h.count t
  obtain ⟨k, rfl, hk, hp, hin, rfl⟩ | ⟨k, rfl, hk, hp, ho, rfl⟩ |
    ⟨k, rfl, hk, hp, rfl⟩ | ⟨k, rfl, hk, rfl⟩ | ⟨c, o, k, rfl, hk, rfl⟩ :=
      Sys.step_cases hs
  · refine h.of_step t rfl rfl hlay ?_ (fun _ _ => ⟨Iff.rfl, rfl⟩) ?_ (fun _ _ => rfl)
    · simpa [Verified.holding, Sys.event] using ⟨hh, hc⟩
    · simpa [acquired, Sys.event] using hn
  · rw [hk] at hc
    have hfalse := hc.eq_false_of_lock
    rw [hfalse] at hc
    refine h.of_step t rfl rfl hlay ?_ (fun t' hne => ?_) ?_ (fun t' hne => ?_)
    · simpa [Verified.holding, Sys.event] using hc.1
    · simp [ho, hne, Ne.symm hne]
    · simpa [acquired, Sys.event, ho] using hn
    · simp [acquired, Sys.event, Ne.symm hne]
  · rw [hk] at hc
    have hfalse := hc.eq_false_of_lock
    rw [hfalse] at hc
    have hown := (h.layered.polls t hp).2
    refine h.of_step t rfl rfl hlay ?_ (fun t' hne => ?_) ?_ (fun _ _ => rfl)
    · simpa [Verified.holding, Sys.event, hown] using hc.2
    · simp [hne]
    · simpa [acquired, Sys.event, hown] using hn
  · rw [hk] at hc
    rcases hrel rfl with hown | hin
    · have hmine := h.layered.owner t hown
      rw [hh.2 hown, Disciplined.unlock_held] at hc
      rw [h.layered.release_owner hown] at hlay ⊢
      refine ⟨hlay, fun t' => ?_, fun t' => ?_, fun e he t' hf => ?_, fun t' => ?_⟩
      · by_cases hne : t' = t
        · subst hne
          simp [Verified.holding, Sys.event]
        · rw [holding_of_ne (by exact Ne.symm hne), h.holding t']
          simp [hown, Ne.symm hne]
      · by_cases hne : t' = t
        · subst hne
          simpa [Verified.holding, Sys.event] using hc
        · rw [holding_of_ne (by exact Ne.symm hne)]
          simpa [hne] using h.code t'
      · rcases List.mem_cons.1 he with rfl | he
        · exact Option.some.inj (hmine.symm.trans hf)
        · exact h.own e he t' hf
      · have hn' := h.count t'
        by_cases hne : t = t'
        · subst hne
          simpa [acquired, freed, Sys.event, hmine, hown] using hn'
        · simpa [acquired, freed, Sys.event, hmine, hown, hne] using hn'
    · have hown : s.owner ≠ some t := fun ho => by simp [h.layered.owner t ho] at hin
      have hfalse : Verified.holding t tr = false := by
        simpa using fun e => hown (hh.1 e)
      have hsame : s.release node t = s := by simp [Sys.release, hin]
      rw [hfalse, Disciplined.unlock_stray] at hc
      rw [hsame] at hlay ⊢
      refine h.of_step t rfl hin hlay ?_ (fun t' hne => ?_) ?_ (fun _ _ => rfl)
      · simpa [Verified.holding, Sys.event, hown] using hc.2
      · simp [hne]
      · simpa [acquired, Sys.event, hown] using hn
  · rw [hk, Disciplined.op] at hc
    refine h.of_step t rfl rfl hlay ?_ (fun t' hne => ?_) ?_ (fun _ _ => rfl)
    · simpa [Verified.holding, Sys.event] using ⟨hh, hc _⟩
    · simp [hne]
    · simpa [acquired, Sys.event] using hn

end Paired

/-- Run lemma: a pool of disciplined threads stays paired in every run whose stray
releases are harmless. -/
theorem Runs.discipline [DecidableEq N] {sem : C → W → (o : Op) → Resp o × W}
    {node : T → N} {stray : T → Prop} {s₀ s : Sys Op Resp W T N} {tr : List (Event T C)}
    (hr : Runs sem node (StrayHarmless node stray) s₀ tr s) (hu : s₀.Unlocked)
    (hcode : ∀ t, Disciplined (stray t) false (s₀.code t) fun h _ => h = false) :
    Paired node stray tr s := by
  induction hr with
  | refl =>
      refine ⟨hu.layered, fun t => ?_, hcode, by simp, fun t => ?_⟩
      · simp [holding, hu.2.1]
      · simp [acquired, freed, hu.2.1]
  | step hr hok hs ih => exact ih.step hs hok

end Record

end CallsPlugin.Verified
