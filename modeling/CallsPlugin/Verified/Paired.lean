import CallsPlugin.Verified.Sums
import Mathlib.Data.List.Forall2

/-!
# Two runs in lockstep

Two pools whose worlds are alike run side by side: threads issue operations that are
alike, and alike choices give them answers that are alike (`Pairing`).  Code is paired
with code if this carries it from one operation to the next; then each run has, for
every record that is alike, a run with that record, and the worlds stay alike
(`Runs.paired`).  What is the same in alike worlds does not depend on what they differ
in.
-/

namespace CallsPlugin.Verified

universe u v w

variable {Op : Type u} {Resp : Op → Type u} {W : Type v} {C : Type w}
  {α β α' β' : Type u}

/-- Which operations are alike, and which of their answers. -/
structure Likeness (Op : Type u) (Resp : Op → Type u) where
  ops : Op → Op → Prop
  resps : (o o' : Op) → Resp o → Resp o' → Prop

/-- Operations that are alike lead from alike worlds to alike worlds. -/
structure Pairing (Op : Type u) (Resp : Op → Type u) (W : Type v) (C : Type w) extends
    Likeness Op Resp where
  sem : C → W → (o : Op) → Resp o × W
  worlds : W → W → Prop
  choices : C → C → Prop
  step : ∀ {c c' w w' o o'}, choices c c' → worlds w w' → ops o o' →
    resps o o' (sem c w o).1 (sem c' w' o').1 ∧ worlds (sem c w o).2 (sem c' w' o').2

variable (L : Likeness Op Resp)

/-- Code that goes the same way on answers that are alike, to results related by `R`. -/
def Code.Paired (R : α → β → Prop) : Code Op Resp α → Code Op Resp β → Prop
  | .ret a, .ret b => R a b
  | .op o k, .op o' k' =>
      L.ops o o' ∧ ∀ r r', L.resps o o' r r' → Code.Paired R (k r) (k' r')
  | _, _ => False

/-- Programs that do. -/
inductive Prog.Paired (R : α → β → Prop) : Prog Op Resp α → Prog Op Resp β → Prop
  | ret {a : α} {b : β} (h : R a b) : Prog.Paired R (.ret a) (.ret b)
  | op {o o' : Op} {k : Resp o → Prog Op Resp α} {k' : Resp o' → Prog Op Resp β}
      (ho : L.ops o o') (hk : ∀ r r', L.resps o o' r r' → Prog.Paired R (k r) (k' r')) :
      Prog.Paired R (.op o k) (.op o' k')
  | lock {k : Bool → Prog Op Resp α} {k' : Bool → Prog Op Resp β}
      (hk : ∀ b, Prog.Paired R (k b) (k' b)) : Prog.Paired R (.lock k) (.lock k')
  | unlock {k : Prog Op Resp α} {k' : Prog Op Resp β} (hk : Prog.Paired R k k') :
      Prog.Paired R (.unlock k) (.unlock k')

section Rules

variable {L} {R : α → β → Prop} {R' : α' → β' → Prop}

namespace Code

@[simp] theorem paired_ret {a : α} {b : β} :
    (ret a : Code Op Resp α).Paired L R (ret b) ↔ R a b := Iff.rfl

@[simp] theorem paired_op {o o' : Op} {k : Resp o → Code Op Resp α}
    {k' : Resp o' → Code Op Resp β} : (op o k).Paired L R (op o' k') ↔
      L.ops o o' ∧ ∀ r r', L.resps o o' r r' → (k r).Paired L R (k' r') := Iff.rfl

/-- The result of an operation. -/
theorem paired_perform {o o' : Op} (h : L.ops o o') :
    (perform o : Code Op Resp _).Paired L (L.resps o o') (perform o') :=
  ⟨h, fun _ _ hr => hr⟩

/-- Sequencing. -/
theorem Paired.bind {p : Code Op Resp α} {p' : Code Op Resp β} {f : α → Code Op Resp α'}
    {f' : β → Code Op Resp β'} (h : p.Paired L R p')
    (hf : ∀ a b, R a b → (f a).Paired L R' (f' b)) :
    (p >>= f).Paired L R' (p' >>= f') := by
  induction p generalizing p' with
  | ret a =>
      cases p' with
      | ret b => exact hf a b h
      | op o' k' => exact h.elim
  | op o k ih =>
      cases p' with
      | ret b => exact h.elim
      | op o' k' => exact ⟨h.1, fun r r' hr => ih r (h.2 r r' hr)⟩

/-- Both take the same branch. -/
theorem paired_ite {b b' : Prop} [Decidable b] [Decidable b'] (h : b ↔ b')
    {p q : Code Op Resp α} {p' q' : Code Op Resp β} (hp : p.Paired L R p')
    (hq : q.Paired L R q') :
    (if b then p else q).Paired L R (if b' then p' else q') := by
  by_cases hb : b
  · rw [if_pos hb, if_pos (h.1 hb)]
    exact hp
  · rw [if_neg hb, if_neg fun hb' => hb (h.2 hb')]
    exact hq

/-- Weaker results. -/
theorem Paired.mono {R'' : α → β → Prop} {p : Code Op Resp α} {p' : Code Op Resp β}
    (h : p.Paired L R p') (hR : ∀ a b, R a b → R'' a b) : p.Paired L R'' p' := by
  induction p generalizing p' with
  | ret a =>
      cases p' with
      | ret b => exact hR a b h
      | op o' k' => exact h.elim
  | op o k ih =>
      cases p' with
      | ret b => exact h.elim
      | op o' k' => exact ⟨h.1, fun r r' hr => ih r (h.2 r r' hr)⟩

end Code

/-- Code as programs. -/
theorem Code.Paired.lift {p : Code Op Resp α} {p' : Code Op Resp β}
    (h : p.Paired L R p') :
    (Prog.lift p).Paired L R (Prog.lift p') := by
  induction p generalizing p' with
  | ret a =>
      cases p' with
      | ret b => exact .ret h
      | op o' k' => exact h.elim
  | op o k ih =>
      cases p' with
      | ret b => exact h.elim
      | op o' k' => exact .op h.1 fun r r' hr => ih r (h.2 r r' hr)

namespace Prog

theorem Paired.lock_left {k : Bool → Prog Op Resp α} {p' : Prog Op Resp β}
    (h : (Prog.lock k).Paired L R p') : ∃ k', p' = .lock k' ∧
    ∀ b, Prog.Paired L R (k b) (k' b) := by
  cases h with
  | lock hk => exact ⟨_, rfl, hk⟩

theorem Paired.unlock_left {k : Prog Op Resp α} {p' : Prog Op Resp β}
    (h : (Prog.unlock k).Paired L R p') : ∃ k', p' = .unlock k' ∧
    Prog.Paired L R k k' := by
  cases h with
  | unlock hk => exact ⟨_, rfl, hk⟩

theorem Paired.op_left {o : Op} {k : Resp o → Prog Op Resp α} {p' : Prog Op Resp β}
    (h : (Prog.op o k).Paired L R p') : ∃ o' k', p' = .op o' k' ∧ L.ops o o' ∧
      ∀ r r', L.resps o o' r r' → Prog.Paired L R (k r) (k' r') := by
  cases h with
  | op ho hk => exact ⟨_, _, rfl, ho, hk⟩

end Prog

end Rules

/-! ## Operations of two kinds -/

section Sums

variable {Op' : Type u} {Resp' : Op' → Type u}

/-- Operations of the same kind. -/
def Likeness.sum (L : Likeness Op Resp) (L' : Likeness Op' Resp') :
    Likeness (Op ⊕ Op') (Sum.elim Resp Resp') where
  ops
    | .inl o, .inl o' => L.ops o o'
    | .inr o, .inr o' => L'.ops o o'
    | _, _ => False
  resps
    | .inl o, .inl o' => L.resps o o'
    | .inr o, .inr o' => L'.resps o o'
    | _, _ => fun _ _ => False

theorem Code.Paired.inl {L : Likeness Op Resp} {L' : Likeness Op' Resp'}
    {R : α → β → Prop} {p : Code Op Resp α} {p' : Code Op Resp β}
    (h : p.Paired L R p') :
    p.inl.Paired (L.sum L') R p'.inl := by
  induction p generalizing p' with
  | ret a =>
      cases p' with
      | ret b => exact h
      | op o' k' => exact h.elim
  | op o k ih =>
      cases p' with
      | ret b => exact h.elim
      | op o' k' => exact ⟨h.1, fun r r' hr => ih r (h.2 r r' hr)⟩

/-- Both kinds of operations keep worlds alike. -/
def Pairing.sum (G : Pairing Op Resp W C) (L' : Likeness Op' Resp')
    (sem' : C → W → (o : Op') → Resp' o × W)
    (step' : ∀ {c c' w w' o o'}, G.choices c c' → G.worlds w w' → L'.ops o o' →
      L'.resps o o' (sem' c w o).1 (sem' c' w' o').1 ∧
        G.worlds (sem' c w o).2 (sem' c' w' o').2) :
    Pairing (Op ⊕ Op') (Sum.elim Resp Resp') W C where
  toLikeness := G.toLikeness.sum L'
  sem := sumSem G.sem sem'
  worlds := G.worlds
  choices := G.choices
  step {c c' w w' o o'} hc hw ho := by
    cases o with
    | inl o =>
        cases o' with
        | inl o' => exact G.step hc hw ho
        | inr o' => exact ho.elim
    | inr o =>
        cases o' with
        | inl o' => exact ho.elim
        | inr o' => exact step' hc hw ho

end Sums

/-! ## Pools -/

variable {T N : Type w} (G : Pairing Op Resp W C)

/-- The same step, with choices that are alike. -/
def Act.Paired : Act C → Act C → Prop
  | .enter, .enter => True
  | .acquire, .acquire => True
  | .giveUp, .giveUp => True
  | .unlock, .unlock => True
  | .op c, .op c' => G.choices c c'
  | _, _ => False

/-- The same step of the same thread. -/
structure Event.Paired (e e' : Event T C) : Prop where
  thread : e.thread = e'.thread
  act : e.act.Paired G e'.act
  freed : e.freed = e'.freed

/-- The step with another choice. -/
def Act.mapChoice (f : C → C) : Act C → Act C
  | .op c => .op (f c)
  | a => a

/-- The record of the step with another choice. -/
def Event.mapChoice (f : C → C) (e : Event T C) : Event T C :=
  { e with act := e.act.mapChoice f }

/-- Pools that differ in their worlds and in what was read from them. -/
structure Sys.Paired (s s' : Sys Op Resp W T N) : Prop where
  world : G.worlds s.world s'.world
  inner : s.inner = s'.inner
  owner : s.owner = s'.owner
  polling : s.polling = s'.polling
  code : ∀ t, (s.code t).Paired G.toLikeness (fun _ _ => True) (s'.code t)

variable {G} in
/-- Every choice is replaced by one that is alike. -/
theorem forall₂_mapChoice {f : C → C} (hf : ∀ c, G.choices c (f c))
    (tr : List (Event T C)) :
    List.Forall₂ (Event.Paired G) tr (tr.map (Event.mapChoice f)) := by
  rw [List.forall₂_map_right_iff, List.forall₂_same]
  intro e _
  refine ⟨rfl, ?_, rfl⟩
  unfold Event.mapChoice
  cases e.act with
  | op c => exact hf c
  | _ => trivial

section Steps

variable {G} {s s' s₁ : Sys Op Resp W T N} {t : T} {a a' : Act C}

/-- One thread goes on in both. -/
theorem Sys.Paired.goes [DecidableEq T] (h : s.Paired G s') {p p' : Prog Op Resp PUnit}
    (hp : p.Paired G.toLikeness (fun _ _ => True) p') (t' : T) :
    (Function.update s.code t p t').Paired G.toLikeness (fun _ _ => True)
      (Function.update s'.code t p' t') := by
  by_cases ht : t' = t
  · subst ht
    rw [Function.update_self, Function.update_self]
    exact hp
  · rw [Function.update_of_ne ht, Function.update_of_ne ht]
    exact h.code t'

/-- A release acts on what is the same in both. -/
theorem Sys.Paired.release [DecidableEq N] (h : s.Paired G s') (node : T → N) (t : T) :
    (s.release node t).Paired G (s'.release node t) := by
  unfold Sys.release
  rw [← h.inner, ← h.owner]
  split
  · exact h
  · exact ⟨h.world, rfl, rfl, h.polling, h.code⟩

/-- A record that is alike is the record of the other pool. -/
theorem Sys.Paired.event_eq {node : T → N} (h : s.Paired G s') {e' : Event T C}
    (he : (s.event node t a).Paired G e') : e' = s'.event node t e'.act := by
  obtain ⟨hthread, hact, hfreed⟩ := he
  cases e' with
  | mk t' a' freed' =>
      dsimp only at hthread hact hfreed
      subst hthread hfreed
      cases a with
      | unlock =>
          cases a' with
          | unlock => simp only [Sys.event, h.inner]
          | _ => exact hact.elim
      | enter =>
          cases a' with
          | enter => rfl
          | _ => exact hact.elim
      | acquire =>
          cases a' with
          | acquire => rfl
          | _ => exact hact.elim
      | giveUp =>
          cases a' with
          | giveUp => rfl
          | _ => exact hact.elim
      | op c =>
          cases a' with
          | op c' => rfl
          | _ => exact hact.elim

variable [DecidableEq T] [DecidableEq N] {node : T → N}

/-- **Step lemma**: the other pool can do the same. -/
theorem Sys.Paired.step (h : s.Paired G s') (ha : a.Paired G a')
    (hs : s.step G.sem node t a = some s₁) :
    ∃ s₁', s'.step G.sem node t a' = some s₁' ∧ s₁.Paired G s₁' := by
  have hcode := h.code t
  rcases Sys.step_cases hs with ⟨k, rfl, hk, hpoll, hinner, rfl⟩ |
    ⟨k, rfl, hk, hpoll, howner, rfl⟩ | ⟨k, rfl, hk, hpoll, rfl⟩ | ⟨k, rfl, hk, rfl⟩ |
    ⟨c, o, k, rfl, hk, rfl⟩
  · cases a' with
    | enter =>
        rw [hk] at hcode
        obtain ⟨k', hk', -⟩ := hcode.lock_left
        rw [h.polling] at hpoll
        rw [h.inner] at hinner
        simp only [Sys.step, hk', hpoll, hinner, and_self, if_true]
        exact ⟨_, rfl, h.world, by rw [h.inner], h.owner, by rw [h.polling], h.code⟩
    | _ => exact ha.elim
  · cases a' with
    | acquire =>
        rw [hk] at hcode
        obtain ⟨k', hk', hcont⟩ := hcode.lock_left
        rw [h.polling] at hpoll
        rw [h.owner] at howner
        simp only [Sys.step, hk', hpoll, howner, and_self, if_true]
        exact ⟨_, rfl, h.world, h.inner, rfl, by rw [h.polling], h.goes (hcont true)⟩
    | _ => exact ha.elim
  · cases a' with
    | giveUp =>
        rw [hk] at hcode
        obtain ⟨k', hk', hcont⟩ := hcode.lock_left
        rw [h.polling] at hpoll
        simp only [Sys.step, hk', hpoll, if_true]
        exact ⟨_, rfl, h.world, by rw [h.inner], h.owner, by rw [h.polling],
          h.goes (hcont false)⟩
    | _ => exact ha.elim
  · cases a' with
    | unlock =>
        rw [hk] at hcode
        obtain ⟨k', hk', hcont⟩ := hcode.unlock_left
        have hfreed := h.release node t
        simp only [Sys.step, hk']
        exact ⟨_, rfl, hfreed.world, hfreed.inner, hfreed.owner,
          hfreed.polling, h.goes hcont⟩
    | _ => exact ha.elim
  · cases a' with
    | op c' =>
        rw [hk] at hcode
        obtain ⟨o', k', hk', hops, hcont⟩ := hcode.op_left
        obtain ⟨hresp, hworld⟩ := G.step ha h.world hops
        simp only [Sys.step, hk']
        exact ⟨_, rfl, hworld, h.inner, h.owner, h.polling, h.goes (hcont _ _ hresp)⟩
    | _ => exact ha.elim

/-- **Run lemma**: to every record that is alike there is a run, and it ends in a world
that is alike. -/
theorem Runs.paired {ok : List (Event T C) → Sys Op Resp W T N → T → Act C → Prop}
    {s₀ s₀' : Sys Op Resp W T N} {tr tr' : List (Event T C)} (h₀ : s₀.Paired G s₀')
    (hr : Runs G.sem node ok s₀ tr s) (htr : List.Forall₂ (Event.Paired G) tr tr') :
    ∃ s', Runs G.sem node (fun _ _ _ _ => True) s₀' tr' s' ∧ s.Paired G s' := by
  induction hr generalizing tr' with
  | refl =>
      cases htr
      exact ⟨s₀', .refl, h₀⟩
  | @step tr s s₁ t a _ _ hs ih =>
      cases htr with
      | @cons _ e' _ rest hhead htail =>
          obtain ⟨s', hr', hpaired⟩ := ih htail
          obtain ⟨s₁', hs', hpaired'⟩ := hpaired.step hhead.act hs
          rw [hpaired.event_eq hhead]
          exact ⟨s₁', hr'.step trivial hs', hpaired'⟩

end Steps

end CallsPlugin.Verified
