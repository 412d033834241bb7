import CallsPlugin.Verified.Guarantee
import Mathlib.Logic.Function.Basic

/-!
# Values that are stored and then announced

Threads store values under keys and announce each value once it is stored; who listens
knows what was announced last.  No lock is taken, so of two threads that store under one
key the first may announce last, and what is heard is then not what is stored.  If
nobody stores under a key that another is about to announce, then what was heard of a
key is what is stored, as long as nobody is about to announce it (`Runs.announced`).
-/

namespace CallsPlugin.Verified

universe u v w x

variable {Op : Type u} {Resp : Op → Type u} {W : Type v} {C T N : Type w} {K V : Type x}

/-- What an operation is to who listens. -/
inductive Saying (K V : Type x) where
  | write (key : K) (v : V)
  | announce (key : K) (v : V)
  | other

/-- Values by key, what is heard of them, and operations that write or announce one. -/
structure Announcing (Op : Type u) (Resp : Op → Type u) (W : Type v) (C : Type w)
    (K V : Type x) [DecidableEq K] extends Guarantee Op Resp W C where
  saying : Op → Saying K V
  succeeds : (o : Op) → Resp o → Prop
  stored : W → K → Option V
  heard : W → K → Option V
  write : ∀ {c w o key v}, inv w → pre w o → saying o = .write key v →
    (succeeds o (sem c w o).1 →
      stored (sem c w o).2 = Function.update (stored w) key (some v)) ∧
    (¬ succeeds o (sem c w o).1 → stored (sem c w o).2 = stored w) ∧
    heard (sem c w o).2 = heard w
  announce : ∀ {c w o key v}, saying o = .announce key v →
    stored (sem c w o).2 = stored w ∧
    heard (sem c w o).2 = Function.update (heard w) key (some v)
  other : ∀ {c w o}, saying o = .other →
    stored (sem c w o).2 = stored w ∧ heard (sem c w o).2 = heard w

variable [DecidableEq K]

/-- Code that announces what it has stored, at once, and nothing else.  The argument
tells what is stored and not yet announced. -/
def Prog.Announces (A : Announcing Op Resp W C K V) {α : Type u} :
    Option (K × V) → Prog Op Resp α → Prop
  | none, .ret _ => True
  | some _, .ret _ => False
  | none, .op o k =>
      match A.saying o with
      | .write key v => ∀ r, (A.succeeds o r → (k r).Announces A (some (key, v))) ∧
          (¬ A.succeeds o r → (k r).Announces A none)
      | .announce _ _ => False
      | .other => ∀ r, (k r).Announces A none
  | some (key, v), .op o k => A.saying o = .announce key v ∧ ∀ r, (k r).Announces A none
  | none, .lock k => ∀ b, (k b).Announces A none
  | some _, .lock _ => False
  | none, .unlock k => k.Announces A none
  | some _, .unlock _ => False

/-- The next operation announces the value. -/
def Prog.AboutToSay (A : Announcing Op Resp W C K V) {α : Type u} (key : K) (v : V) :
    Prog Op Resp α → Prop
  | .op o _ => A.saying o = .announce key v
  | .ret _ | .lock _ | .unlock _ => False

/-- Nobody writes under a key that another is about to announce. -/
def Announcing.Apart (A : Announcing Op Resp W C K V) (_ : List (Event T C))
    (s : Sys Op Resp W T N) (t : T) (a : Act C) : Prop :=
  ∀ c o k key v, a = .op c → s.code t = .op o k → A.saying o = .write key v →
    ∀ t' v', ¬ (s.code t').AboutToSay A key v'

/-- What is about to be announced is stored, and what nobody is about to announce is
heard. -/
structure Announcing.InTouch (A : Announcing Op Resp W C K V) (s : Sys Op Resp W T N) :
    Prop where
  code : ∀ t, ∃ x, (s.code t).Announces A x
  about : ∀ t key v, (s.code t).AboutToSay A key v → A.stored s.world key = some v
  heard : ∀ key, (∀ t v, ¬ (s.code t).AboutToSay A key v) →
    A.heard s.world key = A.stored s.world key

section Rules

variable {A : Announcing Op Resp W C K V} {α β : Type u}

/-- Sequencing. -/
theorem Prog.Announces.bind {p : Prog Op Resp α} {f : α → Prog Op Resp β}
    {x : Option (K × V)} (hp : p.Announces A x) (hf : ∀ a, (f a).Announces A none) :
    (p >>= f).Announces A x := by
  induction p generalizing x with
  | ret a =>
      cases x with
      | none => exact hf a
      | some _ => exact hp.elim
  | op o k ih =>
      cases x with
      | some kv => exact ⟨hp.1, fun r => ih r (hp.2 r)⟩
      | none =>
          simp only [op_bind, Announces] at hp ⊢
          cases hs : A.saying o with
          | write key v =>
              simp only [hs] at hp ⊢
              exact fun r => ⟨fun h => ih r ((hp r).1 h), fun h => ih r ((hp r).2 h)⟩
          | announce key v => simp only [hs] at hp
          | other =>
              simp only [hs] at hp ⊢
              exact fun r => ih r (hp r)
  | lock k ih =>
      cases x with
      | none => exact fun b => ih b (hp b)
      | some _ => exact hp.elim
  | unlock k ih =>
      cases x with
      | none => exact ih hp
      | some _ => exact hp.elim

/-- Code that saying nothing. -/
theorem Prog.Announces.of_silent {p : Prog Op Resp α}
    (hp : p.Only fun o => A.saying o = .other) :
    p.Announces A none := by
  induction p with
  | ret a => trivial
  | op o k ih =>
      simp only [Announces, hp.1]
      exact fun r => ih r (hp.2 r)
  | lock k ih => exact fun b => ih b (hp b)
  | unlock k ih => exact ih hp

/-- An operation that saying nothing. -/
theorem Prog.Announces.silent {o : Op} {k : Resp o → Prog Op Resp α}
    (ho : A.saying o = .other) (hk : ∀ r, (k r).Announces A none) :
    (Prog.op o k).Announces A none := by
  simp only [Announces, ho]
  exact hk

/-- Code that has nothing to announce is not about to. -/
theorem Prog.Announces.not_about {p : Prog Op Resp α} (hp : p.Announces A none)
    (key : K) (v : V) :
    ¬ p.AboutToSay A key v := by
  intro h
  cases p with
  | op o k =>
      simp only [Announces, show A.saying o = .announce key v from h] at hp
  | _ => exact h

/-- Code that has something to announce is about to. -/
theorem Prog.Announces.about_iff {p : Prog Op Resp α} {key key' : K} {v v' : V}
    (hp : p.Announces A (some (key, v))) : p.AboutToSay A key' v' ↔
    key' = key ∧ v' = v := by
  cases p with
  | op o k =>
      rw [AboutToSay, hp.1, Saying.announce.injEq]
      exact ⟨fun h => ⟨h.1.symm, h.2.symm⟩, fun h => ⟨h.1.symm, h.2.symm⟩⟩
  | ret a => exact hp.elim
  | lock k => exact hp.elim
  | unlock k => exact hp.elim

end Rules

section Steps

variable {A : Announcing Op Resp W C K V} [DecidableEq T] {s s' : Sys Op Resp W T N}
  {t : T}

/-- A thread that goes on without having anything to announce, in the same world. -/
theorem Announcing.InTouch.quiet (h : A.InTouch s) {p : Prog Op Resp PUnit}
    (hcode : s'.code = Function.update s.code t p) (hp : p.Announces A none)
    (hnow : ∀ key v, ¬ (s.code t).AboutToSay A key v)
    (hst : A.stored s'.world = A.stored s.world)
    (hheard : A.heard s'.world = A.heard s.world) :
    A.InTouch s' := by
  have hsame : ∀ t' key v,
      (s'.code t').AboutToSay A key v ↔ (s.code t').AboutToSay A key v := by
    intro t' key v
    rw [hcode]
    by_cases e : t' = t
    · subst e
      rw [Function.update_self]
      exact iff_of_false (hp.not_about key v) (hnow key v)
    · rw [Function.update_of_ne e]
  refine ⟨fun t' => ?_, fun t' key v ha => ?_, fun key hno => ?_⟩
  · rw [hcode]
    by_cases e : t' = t
    · subst e
      rw [Function.update_self]
      exact ⟨none, hp⟩
    · rw [Function.update_of_ne e]
      exact h.code t'
  · rw [hst]
    exact h.about t' key v ((hsame t' key v).1 ha)
  · rw [hst, hheard]
    exact h.heard key fun t' v ha => hno t' v ((hsame t' key v).2 ha)

/-- A thread that has stored a value which nobody else is about to announce. -/
theorem Announcing.InTouch.wrote (h : A.InTouch s) {p : Prog Op Resp PUnit} {key : K}
    {v : V} (hcode : s'.code = Function.update s.code t p)
    (hp : p.Announces A (some (key, v)))
    (hapart : ∀ t' v', ¬ (s.code t').AboutToSay A key v')
    (hnow : ∀ key' v', ¬ (s.code t).AboutToSay A key' v')
    (hst : A.stored s'.world = Function.update (A.stored s.world) key (some v))
    (hheard : A.heard s'.world = A.heard s.world) : A.InTouch s' := by
  have hself : s'.code t = p := by rw [hcode, Function.update_self]
  have hother : ∀ t', t' ≠ t → s'.code t' = s.code t' := by
    intro t' e
    rw [hcode, Function.update_of_ne e]
  refine ⟨fun t' => ?_, fun t' key' v' ha => ?_, fun key' hno => ?_⟩
  · by_cases e : t' = t
    · subst e
      rw [hself]
      exact ⟨_, hp⟩
    · rw [hother t' e]
      exact h.code t'
  · by_cases e : t' = t
    · subst e
      rw [hself] at ha
      obtain ⟨rfl, rfl⟩ := hp.about_iff.1 ha
      rw [hst, Function.update_self]
    · rw [hother t' e] at ha
      have hne : key' ≠ key := by
        rintro rfl
        exact hapart t' v' ha
      rw [hst, Function.update_of_ne hne]
      exact h.about t' key' v' ha
  · have hne : key' ≠ key := by
      rintro rfl
      exact hno t v (by rw [hself]; exact hp.about_iff.2 ⟨rfl, rfl⟩)
    rw [hst, hheard, Function.update_of_ne hne]
    refine h.heard key' fun t' v' ha => ?_
    by_cases e : t' = t
    · subst e
      exact hnow key' v' ha
    · exact hno t' v' (by rwa [hother t' e])

/-- A thread that has announced a value. -/
theorem Announcing.InTouch.said (h : A.InTouch s) {p : Prog Op Resp PUnit} {key : K}
    {v : V} (hcode : s'.code = Function.update s.code t p) (hp : p.Announces A none)
    (hnow : (s.code t).Announces A (some (key, v)))
    (hst : A.stored s'.world = A.stored s.world)
    (hheard : A.heard s'.world = Function.update (A.heard s.world) key (some v)) :
    A.InTouch s' := by
  have hself : s'.code t = p := by rw [hcode, Function.update_self]
  have hother : ∀ t', t' ≠ t → s'.code t' = s.code t' := by
    intro t' e
    rw [hcode, Function.update_of_ne e]
  refine ⟨fun t' => ?_, fun t' key' v' ha => ?_, fun key' hno => ?_⟩
  · by_cases e : t' = t
    · subst e
      rw [hself]
      exact ⟨none, hp⟩
    · rw [hother t' e]
      exact h.code t'
  · by_cases e : t' = t
    · subst e
      rw [hself] at ha
      exact absurd ha (hp.not_about key' v')
    · rw [hother t' e] at ha
      rw [hst]
      exact h.about t' key' v' ha
  · by_cases e : key' = key
    · subst e
      rw [hst, hheard, Function.update_self]
      exact (h.about t key' v (hnow.about_iff.2 ⟨rfl, rfl⟩)).symm
    · rw [hst, hheard, Function.update_of_ne e]
      refine h.heard key' fun t' v' ha => ?_
      by_cases e' : t' = t
      · subst e'
        exact e (hnow.about_iff.1 ha).1
      · exact hno t' v' (by rwa [hother t' e'])

variable [DecidableEq N] {node : T → N} {tr : List (Event T C)} {a : Act C}

/-- **Step lemma**. -/
theorem Announcing.InTouch.step (h : A.InTouch s) (hinv : A.inv s.world)
    (hpre : ∀ o k, s.code t = .op o k → A.pre s.world o) (hok : A.Apart tr s t a)
    (hs : s.step A.sem node t a = some s') : A.InTouch s' := by
  obtain ⟨x, hx⟩ := h.code t
  obtain ⟨k, rfl, hk, -, -, rfl⟩ | ⟨k, rfl, hk, -, -, rfl⟩ | ⟨k, rfl, hk, -, rfl⟩ |
    ⟨k, rfl, hk, rfl⟩ | ⟨c, o, k, rfl, hk, rfl⟩ := Sys.step_cases hs
  · exact ⟨h.code, h.about, h.heard⟩
  · rw [hk] at hx
    cases x with
    | none => exact h.quiet rfl (hx true) (by simp [hk, Prog.AboutToSay]) rfl rfl
    | some _ => exact hx.elim
  · rw [hk] at hx
    cases x with
    | none => exact h.quiet rfl (hx false) (by simp [hk, Prog.AboutToSay]) rfl rfl
    | some _ => exact hx.elim
  · have hworld : (s.release node t).world = s.world := by
      unfold Sys.release
      split <;> rfl
    rw [hk] at hx
    cases x with
    | none =>
        refine h.quiet rfl hx (by simp [hk, Prog.AboutToSay]) ?_ ?_
        · exact congrArg A.stored hworld
        · exact congrArg A.heard hworld
    | some _ => exact hx.elim
  · have hx' := hx
    rw [hk] at hx'
    cases x with
    | some kv =>
        obtain ⟨hsaying, hrest⟩ := hx'
        obtain ⟨hst, hheard⟩ := A.announce (c := c) (w := s.world) hsaying
        exact h.said rfl (hrest _) hx hst hheard
    | none =>
        have hnow := hx.not_about
        simp only [Prog.Announces] at hx'
        cases hsaying : A.saying o with
        | other =>
            simp only [hsaying] at hx'
            obtain ⟨hst, hheard⟩ := A.other (c := c) (w := s.world) hsaying
            exact h.quiet rfl (hx' _) hnow hst hheard
        | announce key v => simp only [hsaying] at hx'
        | write key v =>
            simp only [hsaying] at hx'
            obtain ⟨hdone, hfailed, hheard⟩ :=
              A.write (c := c) hinv (hpre o k hk) hsaying
            by_cases hr : A.succeeds o (A.sem c s.world o).1
            · exact h.wrote rfl ((hx' _).1 hr) (hok c o k key v rfl hk hsaying) hnow
                (hdone hr) hheard
            · exact h.quiet rfl ((hx' _).2 hr) hnow (hfailed hr) hheard

/-- **Announcing rule**: of threads that announce what they have stored, and of which
none writes what another is about to announce, each value that nobody is about to
announce is heard. -/
theorem Runs.announced {s₀ : Sys Op Resp W T N} (hr : Runs A.sem node A.Apart s₀ tr s)
    (h0 : A.inv s₀.world) (hheard : A.heard s₀.world = A.stored s₀.world)
    (hmeets : ∀ t, (s₀.code t).Meets A.rely (fun _ _ => True) s₀.world)
    (hcode : ∀ t, (s₀.code t).Announces A none) : A.InTouch s := by
  induction hr with
  | refl =>
      refine ⟨fun t => ⟨none, hcode t⟩, fun t key v ha => ?_,
        fun key _ => by rw [hheard]⟩
      exact absurd ha ((hcode t).not_about key v)
  | step hr hok hs ih =>
      obtain ⟨hinv, hgood⟩ := hr.guaranteed h0 hmeets
      exact ih.step hinv (fun o k hk => (hgood _).good hk) hok hs

end Steps

end CallsPlugin.Verified
