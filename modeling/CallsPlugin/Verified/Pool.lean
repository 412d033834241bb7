import CallsPlugin.Verified.Prog
import Mathlib.Logic.Function.Basic

/-!
# Pools of programs that share one lock

`Sys` is a pool of programs over a shared world, guarded by one lock.  The
programs run on nodes, and the lock has two layers: a mutex on each node, which
a caller keeps from its first attempt to its release, and one entry that all
nodes see.  A release acts on whatever it finds locked on its node, since the
lock cannot tell its callers apart.  A step lets one thread do one thing, and
`Runs` keeps the record of what was done.
-/

namespace CallsPlugin.Verified

universe u v w

open Prog

variable {Op : Type u} {Resp : Op → Type u} {W : Type v} {C : Type w}

/-- A pool: the shared world, who has locked the mutex of each node, whose the
shared entry is, who is trying for it, and what each thread still has to do. -/
structure Sys (Op : Type u) (Resp : Op → Type u) (W : Type v) (T N : Type w) where
  world : W
  inner : N → Option T
  owner : Option T
  polling : T → Bool
  code : T → Prog Op Resp PUnit

/-- What a thread may do in one step: lock the mutex of its node, set the shared
entry, give up trying, release, or issue one operation. -/
inductive Act (C : Type w) where
  | enter
  | acquire
  | giveUp
  | unlock
  | op (c : C)

variable {T N : Type w}

section Step

variable [DecidableEq T] [DecidableEq N]

namespace Sys

/-- The pool after thread `t` released: nothing happens if the mutex of its node
is not locked, else the node gives up all it has. -/
def release (node : T → N) (s : Sys Op Resp W T N) (t : T) : Sys Op Resp W T N :=
  if s.inner (node t) = none then s
  else { s with
    inner := Function.update s.inner (node t) none
    owner := s.owner.filter fun t' => node t' ≠ node t }

/-- One step of thread `t`; `none` when the thread cannot do that. -/
def step (sem : C → W → (o : Op) → Resp o × W) (node : T → N)
    (s : Sys Op Resp W T N) (t : T) :
    Act C → Option (Sys Op Resp W T N)
  | .enter =>
      match s.code t with
      | .lock _ =>
          if s.polling t = false ∧ s.inner (node t) = none then
            some { s with
              inner := Function.update s.inner (node t) (some t)
              polling := Function.update s.polling t true }
          else none
      | _ => none
  | .acquire =>
      match s.code t with
      | .lock k =>
          if s.polling t = true ∧ s.owner = none then
            some { s with
              owner := some t
              polling := Function.update s.polling t false
              code := Function.update s.code t (k true) }
          else none
      | _ => none
  | .giveUp =>
      match s.code t with
      | .lock k =>
          if s.polling t = true then
            some { s with
              inner := Function.update s.inner (node t) none
              polling := Function.update s.polling t false
              code := Function.update s.code t (k false) }
          else none
      | _ => none
  | .unlock =>
      match s.code t with
      | .unlock k =>
          some { s.release node t with code := Function.update s.code t k }
      | _ => none
  | .op c =>
      match s.code t with
      | .op o k =>
          some { s with
            world := (sem c s.world o).2
            code := Function.update s.code t (k (sem c s.world o).1) }
      | _ => none

/-- What one step can be, read off the code of the thread that takes it. -/
theorem step_cases {sem : C → W → (o : Op) → Resp o × W} {node : T → N}
    {s s' : Sys Op Resp W T N} {t : T} {a : Act C} (h : s.step sem node t a = some s') :
    (∃ k, a = .enter ∧ s.code t = .lock k ∧ s.polling t = false ∧
      s.inner (node t) = none ∧ s' = { s with
        inner := Function.update s.inner (node t) (some t)
        polling := Function.update s.polling t true }) ∨
    (∃ k, a = .acquire ∧ s.code t = .lock k ∧ s.polling t = true ∧ s.owner = none ∧
      s' = { s with
        owner := some t
        polling := Function.update s.polling t false
        code := Function.update s.code t (k true) }) ∨
    (∃ k, a = .giveUp ∧ s.code t = .lock k ∧ s.polling t = true ∧
      s' = { s with
        inner := Function.update s.inner (node t) none
        polling := Function.update s.polling t false
        code := Function.update s.code t (k false) }) ∨
    (∃ k, a = .unlock ∧ s.code t = .unlock k ∧
      s' = { s.release node t with code := Function.update s.code t k }) ∨
    (∃ c o k, a = .op c ∧ s.code t = .op o k ∧
      s' = { s with
        world := (sem c s.world o).2
        code := Function.update s.code t (k (sem c s.world o).1) }) := by
  cases a with
  | enter =>
      simp only [step] at h
      split at h
      next k hk =>
        split at h
        next hg => exact .inl ⟨k, rfl, hk, hg.1, hg.2, (Option.some.inj h).symm⟩
        next => cases h
      next => cases h
  | acquire =>
      simp only [step] at h
      split at h
      next k hk =>
        split at h
        next hg => exact .inr (.inl ⟨k, rfl, hk, hg.1, hg.2, (Option.some.inj h).symm⟩)
        next => cases h
      next => cases h
  | giveUp =>
      simp only [step] at h
      split at h
      next k hk =>
        split at h
        next hg => exact .inr (.inr (.inl ⟨k, rfl, hk, hg, (Option.some.inj h).symm⟩))
        next => cases h
      next => cases h
  | unlock =>
      simp only [step] at h
      split at h
      next k hk =>
        exact .inr (.inr (.inr (.inl ⟨k, rfl, hk, (Option.some.inj h).symm⟩)))
      next => cases h
  | op c =>
      simp only [step] at h
      split at h
      next o k hk =>
        exact .inr (.inr (.inr (.inr ⟨c, o, k, rfl, hk, (Option.some.inj h).symm⟩)))
      next => cases h

end Sys

/-- One step as an observer records it; `freed` is the thread whose mutex a
release unlocked. -/
structure Event (T : Type w) (C : Type w) where
  thread : T
  act : Act C
  freed : Option T

/-- The record of thread `t` doing `a` in state `s`. -/
def Sys.event (node : T → N) (s : Sys Op Resp W T N) (t : T) (a : Act C) : Event T C :=
  ⟨t, a, match a with
    | .unlock => s.inner (node t)
    | _ => none⟩

/-- Runs with their record, newest event first, all of whose steps meet `ok`:
a condition on the record and the state before the step, the thread and what
it does. -/
inductive Runs (sem : C → W → (o : Op) → Resp o × W) (node : T → N)
    (ok : List (Event T C) → Sys Op Resp W T N → T → Act C → Prop)
    (s₀ : Sys Op Resp W T N) : List (Event T C) → Sys Op Resp W T N → Prop
  | refl : Runs sem node ok s₀ [] s₀
  | step {tr : List (Event T C)} {s s' : Sys Op Resp W T N} {t : T} {a : Act C}
      (hr : Runs sem node ok s₀ tr s) (hok : ok tr s t a)
      (hs : s.step sem node t a = some s') :
      Runs sem node ok s₀ (s.event node t a :: tr) s'

/-- Runs whose steps meet a weaker condition. -/
theorem Runs.mono {sem : C → W → (o : Op) → Resp o × W} {node : T → N}
    {ok ok' : List (Event T C) → Sys Op Resp W T N → T → Act C → Prop}
    {s₀ s : Sys Op Resp W T N} {tr : List (Event T C)} (hr : Runs sem node ok s₀ tr s)
    (h : ∀ tr s t a, ok tr s t a → ok' tr s t a) : Runs sem node ok' s₀ tr s := by
  induction hr with
  | refl => exact .refl
  | step _ hok hs ih => exact ih.step (h _ _ _ _ hok) hs

/-- The schedule of a thread that takes the lock, issues `n` operations and releases it,
while all others rest. -/
def inTurn (t : T) (n : Nat) (c : C) : List (T × Act C) :=
  (t, .enter) :: (t, .acquire) :: (List.replicate n (t, .op c)).concat (t, .unlock)

/-- The record and the state a schedule of threads and actions leads to, if every
step is possible and passes the check. -/
def Sys.sched (sem : C → W → (o : Op) → Resp o × W) (node : T → N)
    (check : List (Event T C) → Sys Op Resp W T N → T → Act C → Bool) :
    List (Event T C) → Sys Op Resp W T N → List (T × Act C) →
      Option (List (Event T C) × Sys Op Resp W T N)
  | tr, s, [] => some (tr, s)
  | tr, s, (t, a) :: rest =>
      if check tr s t a then
        match s.step sem node t a with
        | some s' => Sys.sched sem node check (s.event node t a :: tr) s' rest
        | none => none
      else none

/-- A schedule that goes through is a run. -/
theorem Runs.of_sched {sem : C → W → (o : Op) → Resp o × W} {node : T → N}
    {ok : List (Event T C) → Sys Op Resp W T N → T → Act C → Prop}
    {check : List (Event T C) → Sys Op Resp W T N → T → Act C → Bool}
    {s₀ : Sys Op Resp W T N} (hcheck : ∀ tr s t a, check tr s t a = true → ok tr s t a)
    (l : List (T × Act C)) :
    ∀ {tr tr' : List (Event T C)} {s s' : Sys Op Resp W T N}, Runs sem node ok s₀ tr s →
      s.sched sem node check tr l = some (tr', s') → Runs sem node ok s₀ tr' s' := by
  induction l with
  | nil => intro tr tr' s s' hr h; cases h; exact hr
  | cons ta rest ih =>
      intro tr tr' s s' hr h
      simp only [Sys.sched] at h
      split at h
      next hc =>
        split at h
        next s₁ h₁ => exact ih (hr.step (hcheck _ _ _ _ hc) h₁) h
        next => cases h
      next => cases h

/-- The run of a schedule, as far as `f` shows it. -/
theorem Runs.exists_of_sched {β : Type*} {sem : C → W → (o : Op) → Resp o × W}
    {node : T → N} {ok : List (Event T C) → Sys Op Resp W T N → T → Act C → Prop}
    {check : List (Event T C) → Sys Op Resp W T N → T → Act C → Bool}
    {s₀ : Sys Op Resp W T N} (hcheck : ∀ tr s t a, check tr s t a = true → ok tr s t a)
    {l : List (T × Act C)} {f : List (Event T C) × Sys Op Resp W T N → β} {y : β}
    (h : (s₀.sched sem node check [] l).map f = some y) :
    ∃ tr s, Runs sem node ok s₀ tr s ∧ f (tr, s) = y := by
  obtain ⟨⟨tr, s⟩, hs, hy⟩ := Option.map_eq_some_iff.1 h
  exact ⟨tr, s, Runs.of_sched hcheck l .refl hs, hy⟩

/-- A step leaves each thread with operations it had. -/
theorem Sys.step_only {sem : C → W → (o : Op) → Resp o × W} {node : T → N}
    {P : T → Op → Prop} {s s' : Sys Op Resp W T N} {t : T} {a : Act C}
    (h : ∀ t, (s.code t).Only (P t))
    (hs : s.step sem node t a = some s') : ∀ t, (s'.code t).Only (P t) := by
  have hnext : ∀ c : Prog Op Resp PUnit, c.Only (P t) →
      ∀ t', (Function.update s.code t c t').Only (P t') := by
    intro c hc t'
    by_cases ht : t' = t
    · subst ht
      simpa using hc
    · simpa [ht] using h t'
  have ht := h t
  obtain ⟨k, rfl, hk, -, -, rfl⟩ | ⟨k, rfl, hk, -, -, rfl⟩ | ⟨k, rfl, hk, -, rfl⟩ |
    ⟨k, rfl, hk, rfl⟩ | ⟨c, o, k, rfl, hk, rfl⟩ := Sys.step_cases hs
  · exact h
  · rw [hk] at ht
    exact hnext _ (ht true)
  · rw [hk] at ht
    exact hnext _ (ht false)
  · rw [hk] at ht
    exact hnext _ ht
  · rw [hk] at ht
    exact hnext _ (ht.2 _)

/-- In a run each thread issues only operations its code has. -/
theorem Runs.only {sem : C → W → (o : Op) → Resp o × W} {node : T → N}
    {P : T → Op → Prop} {ok : List (Event T C) → Sys Op Resp W T N → T → Act C → Prop}
    {s₀ s : Sys Op Resp W T N} {tr : List (Event T C)} (hr : Runs sem node ok s₀ tr s)
    (h0 : ∀ t, (s₀.code t).Only (P t)) :
    ∀ t, (s.code t).Only (P t) := by
  induction hr with
  | refl => exact h0
  | step _ _ hs ih => exact Sys.step_only ih hs

end Step

/-! ## The two layers agree -/

/-- As long as nobody releases what another locked, the mutex of a node is locked
by the thread on it that tries for the entry or has it. -/
structure Sys.Layered (node : T → N) (s : Sys Op Resp W T N) : Prop where
  owner : ∀ t, s.owner = some t → s.inner (node t) = some t
  polls : ∀ t, s.polling t = true → s.inner (node t) = some t ∧ s.owner ≠ some t
  locked : ∀ n t, s.inner n = some t →
    node t = n ∧ (s.polling t = true ∨ s.owner = some t)

/-- Nobody has the lock and nobody tries for it. -/
def Sys.Unlocked (s : Sys Op Resp W T N) : Prop :=
  (∀ n, s.inner n = none) ∧ s.owner = none ∧ ∀ t, s.polling t = false

theorem Sys.Unlocked.layered {node : T → N} {s : Sys Op Resp W T N} (h : s.Unlocked) :
    s.Layered node where
  owner t ht := by rw [h.2.1] at ht; cases ht
  polls t ht := by rw [h.2.2 t] at ht; cases ht
  locked n t hn := by rw [h.1 n] at hn; cases hn

namespace Sys.Layered

variable {node : T → N} {s s' : Sys Op Resp W T N} {t : T}

/-- Two threads that have locked the mutex of one node are one. -/
theorem eq_of_node {t' : T} (ht : s.inner (node t) = some t)
    (ht' : s.inner (node t') = some t') (hn : node t' = node t) : t' = t := by
  rw [hn, ht] at ht'
  exact (Option.some.inj ht').symm

variable [DecidableEq N]

/-- The release of the owner frees the entry and its node. -/
theorem release_owner (h : s.Layered node) (ht : s.owner = some t) :
    s.release node t =
      { s with inner := Function.update s.inner (node t) none, owner := none } := by
  simp [release, h.owner t ht, ht]

variable [DecidableEq T] {sem : C → W → (o : Op) → Resp o × W} {a : Act C}

/-- Step lemma, for a release that is the owner's or finds its node unlocked. -/
theorem step (h : s.Layered node) (hs : s.step sem node t a = some s')
    (hrel : a = .unlock → s.owner = some t ∨ s.inner (node t) = none) :
    s'.Layered node := by
  obtain ⟨k, rfl, hk, hp, hi, rfl⟩ | ⟨k, rfl, hk, hp, ho, rfl⟩ | ⟨k, rfl, hk, hp, rfl⟩ |
    ⟨k, rfl, hk, rfl⟩ | ⟨c, o, k, rfl, hk, rfl⟩ := step_cases hs
  · -- the mutex of the node was free, so nobody there polls or owns
    have hnone : ∀ t', s.inner (node t') = some t' → node t' ≠ node t := by
      rintro t' ht' hn
      rw [hn, hi] at ht'
      cases ht'
    refine ⟨fun t' ht' => ?_, fun t' ht' => ?_, fun n t' hn => ?_⟩
    · have hne := hnone t' (h.owner t' ht')
      simpa [hne] using h.owner t' ht'
    · by_cases e : t' = t
      · subst e
        exact ⟨by simp, fun ho => hnone t' (h.owner t' ho) rfl⟩
      · have hp' : s.polling t' = true := by simpa [e] using ht'
        have hne := hnone t' (h.polls t' hp').1
        simpa [hne] using h.polls t' hp'
    · by_cases e : n = node t
      · subst e
        obtain rfl : t = t' := by simpa using hn
        exact ⟨rfl, .inl (by simp)⟩
      · have hn' : s.inner n = some t' := by simpa [e] using hn
        obtain ⟨rfl, hx⟩ := h.locked n t' hn'
        refine ⟨rfl, hx.imp (fun hp' => ?_) id⟩
        have hne : t' ≠ t := fun e' => e (e' ▸ rfl)
        simpa [hne] using hp'
  · refine ⟨fun t' ht' => ?_, fun t' ht' => ?_, fun n t' hn => ?_⟩
    · obtain rfl : t = t' := Option.some.inj ht'
      exact (h.polls t hp).1
    · have hne : t' ≠ t := by
        rintro rfl
        simp at ht'
      have hp' : s.polling t' = true := by simpa [hne] using ht'
      exact ⟨(h.polls t' hp').1, fun e => hne (Option.some.inj e).symm⟩
    · obtain ⟨hn', hx⟩ := h.locked n t' hn
      refine ⟨hn', ?_⟩
      by_cases e : t' = t
      · exact .inr (congrArg some e.symm)
      · refine .inl ?_
        have := hx.resolve_right (by simp [ho])
        simpa [e] using this
  · have hmine := (h.polls t hp).1
    refine ⟨fun t' ht' => ?_, fun t' ht' => ?_, fun n t' hn => ?_⟩
    · have hne : node t' ≠ node t := fun hn =>
        (h.polls t hp).2 (eq_of_node hmine (h.owner t' ht') hn ▸ ht')
      simpa [hne] using h.owner t' ht'
    · have hne : t' ≠ t := by
        rintro rfl
        simp at ht'
      have hp' : s.polling t' = true := by simpa [hne] using ht'
      have hnode : node t' ≠ node t :=
        fun hn => hne (eq_of_node hmine (h.polls t' hp').1 hn)
      simpa [hnode] using h.polls t' hp'
    · have e : n ≠ node t := by
        rintro rfl
        simp at hn
      have hn' : s.inner n = some t' := by simpa [e] using hn
      obtain ⟨rfl, hx⟩ := h.locked n t' hn'
      have hne : t' ≠ t := fun e' => e (e' ▸ rfl)
      simpa [hne] using hx
  · rcases hrel rfl with ho | hi
    · have hmine := h.owner t ho
      rw [h.release_owner ho]
      refine ⟨fun t' ht' => ?_, fun t' ht' => ?_, fun n t' hn => ?_⟩
      · cases ht'
      · have hp' := h.polls t' ht'
        have hnode : node t' ≠ node t := fun hn =>
          hp'.2 (eq_of_node hmine hp'.1 hn ▸ ho)
        exact ⟨by simpa [hnode] using hp'.1, by simp⟩
      · have e : n ≠ node t := by
          rintro rfl
          simp at hn
        have hn' : s.inner n = some t' := by simpa [e] using hn
        obtain ⟨rfl, hx⟩ := h.locked n t' hn'
        refine ⟨rfl, .inl (hx.resolve_right fun ho' => e ?_)⟩
        rw [Option.some.inj (ho'.symm.trans ho)]
    · have : s.release node t = s := by simp [release, hi]
      rw [this]
      exact ⟨h.owner, h.polls, h.locked⟩
  · exact ⟨h.owner, h.polls, h.locked⟩

end Sys.Layered

/-! ## Seeing part of the world

What an invariant does not mention may change at any moment, also by code that
does not hold the lock.  `Sys.view` keeps the part `f` shows; the rest goes into
the choice that settles an operation's answer. -/

section View

variable {W : Type w} {V : Type v}

/-- The pool as far as `f` shows its world. -/
def Sys.view (f : W → V) (s : Sys Op Resp W T N) : Sys Op Resp V T N where
  world := f s.world
  inner := s.inner
  owner := s.owner
  polling := s.polling
  code := s.code

/-- The meaning of the operations on what is seen; the choice holds the world. -/
def viewSem (sem : C → W → (o : Op) → Resp o × W) (f : W → V) :
    C × W → V → (o : Op) → Resp o × V :=
  fun cw _ o => ((sem cw.1 cw.2 o).1, f (sem cw.1 cw.2 o).2)

/-- An action with the world it happens in. -/
def Act.inWorld (w : W) : Act C → Act (C × W)
  | .enter => .enter
  | .acquire => .acquire
  | .giveUp => .giveUp
  | .unlock => .unlock
  | .op c => .op (c, w)

variable [DecidableEq T] [DecidableEq N]

/-- A step is a step of what is seen. -/
theorem Sys.step_view {sem : C → W → (o : Op) → Resp o × W} {node : T → N} (f : W → V)
    {s s' : Sys Op Resp W T N} {t : T} {a : Act C} (h : s.step sem node t a = some s') :
    (s.view f).step (viewSem sem f) node t (a.inWorld s.world) = some (s'.view f) := by
  obtain ⟨k, rfl, hk, hp, hi, rfl⟩ | ⟨k, rfl, hk, hp, ho, rfl⟩ | ⟨k, rfl, hk, hp, rfl⟩ |
    ⟨k, rfl, hk, rfl⟩ | ⟨c, o, k, rfl, hk, rfl⟩ := Sys.step_cases h
  · simp [step, view, Act.inWorld, hk, hp, hi]
  · simp [step, view, Act.inWorld, hk, hp, ho]
  · simp [step, view, Act.inWorld, hk, hp]
  · by_cases hi : s.inner (node t) = none <;>
      simp [step, view, Act.inWorld, hk, release, hi]
  · simp [step, view, Act.inWorld, hk, viewSem]

/-- A run is a run of what is seen, whose steps come from permitted ones. -/
theorem Runs.view {sem : C → W → (o : Op) → Resp o × W} {node : T → N} (f : W → V)
    {ok : List (Event T C) → Sys Op Resp W T N → T → Act C → Prop}
    {s₀ s : Sys Op Resp W T N} {tr : List (Event T C)} (hr : Runs sem node ok s₀ tr s) :
    ∃ tr', Runs (viewSem sem f) node
      (fun _ v t b => ∃ tr s a, v = Sys.view f s ∧ b = a.inWorld s.world ∧ ok tr s t a)
      (s₀.view f) tr' (s.view f) := by
  induction hr with
  | refl => exact ⟨[], .refl⟩
  | step hr hok hs ih =>
      obtain ⟨tr', ih⟩ := ih
      exact ⟨_, ih.step ⟨_, _, _, rfl, rfl, hok⟩ (Sys.step_view f hs)⟩

end View

end CallsPlugin.Verified
