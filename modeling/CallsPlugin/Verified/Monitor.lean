import CallsPlugin.Verified.Pool

/-!
# The monitor rule

`wp` is the weakest precondition of a program under a lock invariant: code
that holds the lock sees a world nobody else changes and must restore
`L.inv` before it releases; code that does not hold it may only look, or keep
`L.inv` while nobody holds it.
`Runs.monitor` packages the induction once: if every thread meets its `wp`,
the invariant holds whenever the lock is free, in every run.
-/

namespace CallsPlugin.Verified

universe u v w

open Prog

variable {Op : Type u} {Resp : Op → Type u} {W : Type v} {C : Type w}

/-! ## Weakest preconditions under a lock invariant -/

/-- Who has the lock, as one thread sees it. -/
inductive Holder where
  | self
  | nobody
  | other
  deriving DecidableEq

/-- What a proof about code under a lock fixes: the meaning of the operations
(one per choice `c`), the choices that can occur, by who has the lock, what an
operation issued under the lock requires, what holds whenever the lock is free,
whether an attempt to lock may fail, and whether code may release without
holding. -/
structure Logic (Op : Type u) (Resp : Op → Type u) (W : Type v) (C : Type w) where
  sem : C → W → (o : Op) → Resp o × W
  allow : Holder → C → W → Op → Prop
  pre : W → Op → Prop
  inv : W → Prop
  lockMayFail : Prop
  stray : Prop

/-- What may differ from thread to thread: the choices that can occur, and what is
required of the operations issued under the lock. -/
structure Terms (Op : Type u) (W : Type v) (C : Type w) where
  allow : Holder → C → W → Op → Prop
  pre : W → Op → Prop

/-- The terms of the logic itself. -/
@[reducible]
def Logic.terms (L : Logic Op Resp W C) : Terms Op W C := ⟨L.allow, L.pre⟩

/-- The same logic on other terms. -/
@[reducible]
def Logic.on (L : Logic Op Resp W C) (m : Terms Op W C) : Logic Op Resp W C :=
  { L with allow := m.allow, pre := m.pre }

/-- What an operation issued without the lock may do to the world. -/
def Logic.Harmless (L : Logic Op Resp W C) (h : Holder) (w w' : W) : Prop :=
  w' = w ∨ h = .nobody ∧ (L.inv w → L.inv w')

/-- Weakest precondition.  The Boolean is whether the lock is held; while it
is not, the world argument carries no information. -/
def wp (L : Logic Op Resp W C) {α : Type u} :
    Bool → Prog Op Resp α → (Bool → α → W → Prop) → W → Prop
  | h, .ret a, Q, w => Q h a w
  | true, .op o k, Q, w =>
      L.pre w o ∧ ∀ c, L.allow .self c w o →
        wp L true (k (L.sem c w o).1) Q (L.sem c w o).2
  | false, .op o k, Q, _ =>
      ∀ h c w', h ≠ .self → L.allow h c w' o →
        L.Harmless h w' (L.sem c w' o).2 ∧ ∀ w'', wp L false (k (L.sem c w' o).1) Q w''
  | true, .lock _, _, _ => False
  | false, .lock k, Q, _ =>
      (∀ w', L.inv w' → wp L true (k true) Q w') ∧
        (L.lockMayFail → ∀ w', wp L false (k false) Q w')
  | true, .unlock k, Q, w => L.inv w ∧ ∀ w', wp L false k Q w'
  | false, .unlock k, Q, _ => L.stray ∧ ∀ w', wp L false k Q w'

/-- Weakest precondition of code under the lock. -/
def Code.wp (L : Logic Op Resp W C) {α : Type u} : Code Op Resp α → (α → W → Prop) → W →
    Prop
  | .ret a, Q, w => Q a w
  | .op o k, Q, w =>
      L.pre w o ∧ ∀ c, L.allow .self c w o → (k (L.sem c w o).1).wp L Q (L.sem c w o).2

section Wp

variable {L : Logic Op Resp W C} {α β : Type u}

@[simp] theorem wp_ret {h : Bool} {a : α} {Q : Bool → α → W → Prop} {w : W} :
    wp L h (.ret a) Q w ↔ Q h a w := by
  cases h <;> exact Iff.rfl

@[simp] theorem wp_op {o : Op} {k : Resp o → Prog Op Resp α} {Q : Bool → α → W → Prop}
    {w : W} : wp L true (.op o k) Q w ↔
      L.pre w o ∧ ∀ c, L.allow .self c w o →
      wp L true (k (L.sem c w o).1) Q (L.sem c w o).2 :=
  Iff.rfl

@[simp] theorem wp_op_free {o : Op} {k : Resp o → Prog Op Resp α}
    {Q : Bool → α → W → Prop} {w : W} : wp L false (.op o k) Q w ↔
      ∀ h c w', h ≠ .self → L.allow h c w' o →
        L.Harmless h w' (L.sem c w' o).2 ∧
        ∀ w'', wp L false (k (L.sem c w' o).1) Q w'' :=
  Iff.rfl

@[simp] theorem wp_lock {k : Bool → Prog Op Resp α} {Q : Bool → α → W → Prop} {w : W} :
    wp L false (.lock k) Q w ↔ (∀ w', L.inv w' → wp L true (k true) Q w') ∧
      (L.lockMayFail → ∀ w', wp L false (k false) Q w') := Iff.rfl

@[simp] theorem wp_unlock {k : Prog Op Resp α} {Q : Bool → α → W → Prop} {w : W} :
    wp L true (.unlock k) Q w ↔ L.inv w ∧ ∀ w', wp L false k Q w' := Iff.rfl

@[simp] theorem wp_unlock_free {k : Prog Op Resp α} {Q : Bool → α → W → Prop} {w : W} :
    wp L false (.unlock k) Q w ↔ L.stray ∧ ∀ w', wp L false k Q w' := Iff.rfl

/-- Sequencing rule. -/
@[simp] theorem wp_bind {h : Bool} {p : Prog Op Resp α} {f : α → Prog Op Resp β}
    {Q : Bool → β → W → Prop} {w : W} :
    wp L h (p >>= f) Q w ↔ wp L h p (fun h' a w' => wp L h' (f a) Q w') w := by
  induction p generalizing h w with
  | ret a => simp
  | op o k ih => cases h <;> simp [ih]
  | lock k ih =>
      cases h
      · simp [ih]
      · exact Iff.rfl
  | unlock k ih => cases h <;> simp [ih]

@[simp] theorem wp_ite {P : Prop} [Decidable P] {h : Bool} {p q : Prog Op Resp α}
    {Q : Bool → α → W → Prop} {w : W} :
    wp L h (if P then p else q) Q w ↔ (P → wp L h p Q w) ∧ (¬ P → wp L h q Q w) := by
  split <;> simp_all

/-- Consequence rule. -/
theorem wp_mono {h : Bool} {p : Prog Op Resp α} {Q Q' : Bool → α → W → Prop} {w : W}
    (hp : wp L h p Q w) (hQ : ∀ h a w, Q h a w → Q' h a w) : wp L h p Q' w := by
  induction p generalizing h w with
  | ret a => exact wp_ret.2 (hQ _ _ _ (wp_ret.1 hp))
  | op o k ih =>
      cases h
      · exact fun h c w' hh hc =>
          ⟨(hp h c w' hh hc).1, fun w'' => ih _ ((hp h c w' hh hc).2 w'')⟩
      · exact ⟨hp.1, fun c hc => ih _ (hp.2 c hc)⟩
  | lock k ih =>
      cases h
      · exact ⟨fun w' hw => ih true (hp.1 w' hw), fun hf w' => ih false (hp.2 hf w')⟩
      · exact hp
  | unlock k ih => cases h <;> exact ⟨hp.1, fun w' => ih (hp.2 w')⟩

@[simp] theorem Code.wp_ret {a : α} {Q : α → W → Prop} {w : W} :
    (Code.ret a : Code Op Resp α).wp L Q w ↔ Q a w := Iff.rfl

@[simp] theorem Code.wp_op {o : Op} {k : Resp o → Code Op Resp α}
    {Q : α → W → Prop} {w : W} :
    (Code.op o k).wp L Q w ↔
      L.pre w o ∧ ∀ c, L.allow .self c w o →
      (k (L.sem c w o).1).wp L Q (L.sem c w o).2 := Iff.rfl

@[simp] theorem Code.wp_perform {o : Op} {Q : Resp o → W → Prop} {w : W} :
    (Code.perform o).wp L Q w ↔
      L.pre w o ∧ ∀ c, L.allow .self c w o → Q (L.sem c w o).1 (L.sem c w o).2 :=
    Iff.rfl

@[simp] theorem Code.wp_bind {p : Code Op Resp α} {f : α → Code Op Resp β}
    {Q : β → W → Prop} {w : W} : (p >>= f).wp L Q w ↔
    p.wp L (fun a w' => (f a).wp L Q w') w := by
  induction p generalizing w with
  | ret a => simp
  | op o k ih => simp [ih]

@[simp] theorem Code.wp_ite {P : Prop} [Decidable P] {p q : Code Op Resp α}
    {Q : α → W → Prop} {w : W} : (if P then p else q).wp L Q w ↔ (P → p.wp L Q w) ∧
    (¬ P → q.wp L Q w) := by
  split <;> simp_all

/-- Consequence rule for code. -/
theorem Code.wp_mono {p : Code Op Resp α} {Q Q' : α → W → Prop} {w : W}
    (hp : p.wp L Q w) (hQ : ∀ a w, Q a w → Q' a w) : p.wp L Q' w := by
  induction p generalizing w with
  | ret a => exact hQ _ _ hp
  | op o k ih => exact ⟨hp.1, fun c hc => ih _ (hp.2 c hc)⟩

/-- Frame rule: operations in `P` that keep `I` keep it, whatever else the code
does. -/
theorem Code.Only.wp {P : Op → Prop} {I : W → Prop} {Q : α → Prop} {p : Code Op Resp α}
    {w : W} (hp : p.Only P) (hQ : p.All Q) (hpre : ∀ w o, P o → I w → L.pre w o)
    (hI : ∀ c w o, P o → I w → L.allow .self c w o → I (L.sem c w o).2) (hw : I w) :
    p.wp L (fun a w' => Q a ∧ I w') w := by
  induction p generalizing w with
  | ret a => exact ⟨hQ, hw⟩
  | op o k ih =>
      exact ⟨hpre w o hp.1 hw, fun c hc =>
        ih _ (hp.2 _) (hQ _) (hI c w o hp.1 hw hc)⟩

/-- From the world `w` the code can end with `a` in the world `w'`. -/
inductive Code.Yields (sem : C → W → (o : Op) → Resp o × W) {α : Type u} :
    Code Op Resp α → W → α → W → Prop
  | ret (a : α) (w : W) : Code.Yields sem (.ret a) w a w
  | op {o : Op} {k : Resp o → Code Op Resp α} {w w' : W} {a : α} (c : C)
      (h : Code.Yields sem (k (sem c w o).1) (sem c w o).2 a w') :
      Code.Yields sem (.op o k) w a w'

/-- One of the ends is that of a run with one choice. -/
theorem Code.yields_run {sem : C → W → (o : Op) → Resp o × W} (c : C)
    (p : Code Op Resp α) (w : W) :
    p.Yields sem w (p.run (sem c) w).1 (p.run (sem c) w).2 := by
  induction p generalizing w with
  | ret a => exact .ret a w
  | op o k ih => exact .op c (ih _ _)

/-- What the precondition promises holds at every end of the code. -/
theorem Code.wp_yields {p : Code Op Resp α} {Q : α → W → Prop} {w w' : W} {a : α}
    (hallow : ∀ c w o, L.allow .self c w o) (hp : p.wp L Q w)
    (hy : p.Yields L.sem w a w') :
    Q a w' := by
  induction hy with
  | ret a w => exact hp
  | op c _ ih => exact ih (hp.2 c (hallow c _ _))

/-- What holds of every result holds of the one the code ends with. -/
theorem Code.All.yields {sem : C → W → (o : Op) → Resp o × W} {p : Code Op Resp α}
    {Q : α → Prop} {w w' : W} {a : α} (hp : p.All Q)
    (hy : p.Yields sem w a w') : Q a := by
  induction hy with
  | ret a w => exact hp
  | op c _ ih => exact ih (hp _)

/-- Code under the lock leaves the lock where it was. -/
@[simp] theorem wp_lift {p : Code Op Resp α} {Q : Bool → α → W → Prop} {w : W} :
    wp L true (.lift p) Q w ↔ p.wp L (fun a w' => Q true a w') w := by
  induction p generalizing w with
  | ret a => simp
  | op o k ih => simp [ih]

/-- Code without the lock, all of whose operations are harmless. -/
theorem Code.Only.wp_free {P : Op → Prop} {p : Code Op Resp α} {Q : Bool → α → W → Prop}
    {w : W} (hp : p.Only P) (hP : ∀ h c w o, P o → h ≠ .self → L.allow h c w o →
      L.Harmless h w (L.sem c w o).2) (hQ : ∀ a w, Q false a w) :
      Verified.wp L false (.lift p) Q w := by
  induction p generalizing w with
  | ret a => exact hQ a w
  | op o k ih =>
      exact fun h c w' hh hc => ⟨hP h c w' o hp.1 hh hc, fun w'' => ih _ (hp.2 _)⟩

end Wp

/-! ## The rule -/

variable {T N : Type w} [DecidableEq T] [DecidableEq N]

/-- Who has the lock, as thread `t` sees it. -/
def Sys.holder (s : Sys Op Resp W T N) (t : T) : Holder :=
  if s.owner = some t then .self else if s.owner = none then .nobody else .other

omit [DecidableEq N] in
theorem Sys.holder_ne_self {s : Sys Op Resp W T N} {t : T} (h : s.owner ≠ some t) :
    s.holder t ≠ .self := by
  unfold Sys.holder
  rw [if_neg h]
  split <;> simp

omit [DecidableEq N] in
theorem Sys.owner_of_nobody {s : Sys Op Resp W T N} {t : T} (h : s.holder t = .nobody) :
    s.owner = none := by
  unfold Sys.holder at h
  split at h
  · cases h
  · split at h
    · assumption
    · cases h

/-- What holds of a pool in which every thread meets its precondition on its terms. -/
structure Sys.OkFor (L : Logic Op Resp W C) (m : T → Terms Op W C) (node : T → N)
    (s : Sys Op Resp W T N) : Prop where
  layered : s.Layered node
  free : s.owner = none → L.inv s.world
  held : ∀ t, s.owner = some t →
    wp (L.on (m t)) true (s.code t) (fun h _ _ => h = false) s.world
  rest : ∀ t, s.owner ≠ some t →
    ∀ w, wp (L.on (m t)) false (s.code t) (fun h _ _ => h = false) w

section Ops

variable {L : Logic Op Resp W C} {m : T → Terms Op W C} {node : T → N}
  {s : Sys Op Resp W T N} {t : T} {o : Op} {k : Resp o → Prog Op Resp PUnit}

omit [DecidableEq T] [DecidableEq N] in
/-- What is required of an operation holds when the holder of the lock issues it. -/
theorem Sys.OkFor.pre_of_op (hi : s.OkFor L m node) (ht : s.owner = some t)
    (hk : s.code t = .op o k) : (m t).pre s.world o := by
  have hw := hi.held t ht
  rw [hk, wp_op] at hw
  exact hw.1

omit [DecidableEq T] [DecidableEq N] in
/-- Code that does not hold the lock is harmless. -/
theorem Sys.OkFor.harmless (hi : s.OkFor L m node) (ht : s.owner ≠ some t)
    (hk : s.code t = .op o k) {h : Holder} {c : C} (hh : h ≠ .self)
    (hc : (m t).allow h c s.world o) : L.Harmless h s.world (L.sem c s.world o).2 := by
  have hw := hi.rest t ht s.world
  rw [hk, wp_op_free] at hw
  exact (hw h c s.world hh hc).1

end Ops

/-- Step lemma: a permitted step keeps every thread on its precondition. -/
theorem Sys.OkFor.step {L : Logic Op Resp W C} {m : T → Terms Op W C} {node : T → N}
    {s s' : Sys Op Resp W T N} {t : T} {a : Act C} (hi : s.OkFor L m node)
    (hs : s.step L.sem node t a = some s')
    (hop : ∀ c o k, a = .op c → s.code t = .op o k →
      (m t).allow (s.holder t) c s.world o)
    (hfail : a = .giveUp → L.lockMayFail)
    (hstray : L.stray → a = .unlock → s.owner = some t ∨ s.inner (node t) = none) :
    s'.OkFor L m node := by
  -- code that does not hold the lock may release only where `hstray` applies
  have hrel : a = .unlock → s.owner = some t ∨ s.inner (node t) = none := by
    intro ha
    by_cases hown : s.owner = some t
    · exact .inl hown
    · obtain ⟨k, hk⟩ : ∃ k, s.code t = .unlock k := by
        subst ha
        rcases Sys.step_cases hs with h | h | h | ⟨k, _, hk, _⟩ | h
        · simp at h
        · simp at h
        · simp at h
        · exact ⟨k, hk⟩
        · simp at h
      have hw := hi.rest t hown s.world
      rw [hk, wp_unlock_free] at hw
      exact hstray hw.1 ha
  have hlay := hi.layered.step hs hrel
  obtain ⟨k, rfl, hk, hp, hn, rfl⟩ | ⟨k, rfl, hk, hp, ho, rfl⟩ | ⟨k, rfl, hk, hp, rfl⟩ |
    ⟨k, rfl, hk, rfl⟩ | ⟨c, o, k, rfl, hk, rfl⟩ := Sys.step_cases hs
  · exact ⟨hlay, hi.free, hi.held, hi.rest⟩
  · -- the entry was free: the invariant holds and now protects `t`
    have hw := hi.rest t (by simp [ho]) s.world
    rw [hk, wp_lock] at hw
    refine ⟨hlay, fun h => by simp at h, fun t' ht' => ?_, fun t' ht' w => ?_⟩
    · obtain rfl : t = t' := Option.some.inj ht'
      simpa using hw.1 _ (hi.free ho)
    · have hne : t' ≠ t := fun e => ht' (e ▸ rfl)
      simpa [hne] using hi.rest t' (by simp [ho]) w
  · have hown := (hi.layered.polls t hp).2
    have hw := hi.rest t hown s.world
    rw [hk, wp_lock] at hw
    refine ⟨hlay, hi.free, fun t' ht' => ?_, fun t' ht' w => ?_⟩
    · have hne : t' ≠ t := fun e => hown (e ▸ ht')
      simpa [hne] using hi.held t' ht'
    · by_cases e : t' = t
      · subst e
        simpa using hw.2 (hfail rfl) w
      · simpa [e] using hi.rest t' ht' w
  · by_cases hown : s.owner = some t
    · have hw := hi.held t hown
      rw [hk, wp_unlock] at hw
      rw [hi.layered.release_owner hown] at hlay ⊢
      refine ⟨hlay, fun _ => hw.1, fun t' ht' => by simp at ht', fun t' _ w => ?_⟩
      by_cases e : t' = t
      · subst e
        simpa using hw.2 w
      · simpa [e] using hi.rest t' (fun h => e (Option.some.inj (h.symm.trans hown))) w
    · have hw := hi.rest t hown s.world
      rw [hk, wp_unlock_free] at hw
      have hsame : s.release node t = s := by
        simp [Sys.release, (hrel rfl).resolve_left hown]
      rw [hsame] at hlay ⊢
      refine ⟨hlay, hi.free, fun t' ht' => ?_, fun t' ht' w => ?_⟩
      · have hne : t' ≠ t := fun e => hown (e ▸ ht')
        simpa [hne] using hi.held t' ht'
      · by_cases e : t' = t
        · subst e
          simpa using hw.2 w
        · simpa [e] using hi.rest t' ht' w
  · have hallow := hop c o k rfl hk
    by_cases hown : s.owner = some t
    · rw [show s.holder t = .self from if_pos hown] at hallow
      have hw := hi.held t hown
      rw [hk, wp_op] at hw
      refine ⟨hlay, fun h => absurd (hown.symm.trans h) (by simp), fun t' ht' => ?_,
        fun t' ht' w => ?_⟩
      · obtain rfl : t = t' := Option.some.inj (hown.symm.trans ht')
        simpa using hw.2 c hallow
      · have hne : t' ≠ t := fun e => ht' (e ▸ hown)
        simpa [hne] using hi.rest t' ht' w
    · have hw := hi.rest t hown s.world
      rw [hk, wp_op_free] at hw
      obtain ⟨hharm, hnext⟩ := hw _ c s.world (Sys.holder_ne_self hown) hallow
      have hharm : (L.sem c s.world o).2 = s.world ∨
          s.holder t = .nobody ∧ (L.inv s.world → L.inv (L.sem c s.world o).2) := hharm
      refine ⟨hlay, fun h => ?_, fun t' ht' => ?_, fun t' ht' w => ?_⟩
      · rcases hharm with hsame | ⟨-, hinv⟩
        · simpa [hsame] using hi.free h
        · exact hinv (hi.free h)
      · -- somebody holds the lock, so the world is left alone
        have hne : t' ≠ t := fun e => hown (e ▸ ht')
        rcases hharm with hsame | ⟨hfree, -⟩
        · simpa [hne, hsame] using hi.held t' ht'
        · exact absurd ((Sys.owner_of_nobody hfree).symm.trans ht') (by simp)
      · by_cases e : t' = t
        · subst e
          simpa using hnext w
        · simpa [e] using hi.rest t' ht' w

omit [DecidableEq T] [DecidableEq N] in
/-- A pool of threads that all meet their precondition, with the lock free. -/
theorem Sys.OkFor.start {L : Logic Op Resp W C} {m : T → Terms Op W C} {node : T → N}
    {s : Sys Op Resp W T N} (hu : s.Unlocked) (hinv : L.inv s.world)
    (hcode : ∀ t w, wp (L.on (m t)) false (s.code t) (fun h _ _ => h = false) w) :
    s.OkFor L m node where
  layered := hu.layered
  free _ := hinv
  held t ht := by rw [hu.2.1] at ht; cases ht
  rest t _ w := hcode t w

/-- **Monitor rule**: if every thread meets its precondition, the pool stays so
in every run, and the lock invariant holds whenever the lock is free. -/
theorem Runs.monitor {L : Logic Op Resp W C} {m : T → Terms Op W C} {node : T → N}
    {ok : List (Event T C) → Sys Op Resp W T N → T → Act C → Prop}
    {s₀ s : Sys Op Resp W T N} {tr : List (Event T C)} (hr : Runs L.sem node ok s₀ tr s)
    (h0 : s₀.OkFor L m node)
    (hop : ∀ tr s t c o k, ok tr s t (.op c) → s.code t = .op o k →
      (m t).allow (s.holder t) c s.world o)
    (hfail : ∀ tr s t, ok tr s t .giveUp → L.lockMayFail)
    (hstray : L.stray → ∀ tr s t, ok tr s t .unlock →
      s.owner = some t ∨ s.inner (node t) = none) : s.OkFor L m node := by
  induction hr with
  | refl => exact h0
  | step hr hok hs ih =>
      refine ih.step hs (fun c o k ha hk => ?_) (fun ha => ?_) (fun hst ha => ?_)
      · subst ha
        exact hop _ _ _ c o k hok hk
      · subst ha
        exact hfail _ _ _ hok
      · subst ha
        exact hstray hst _ _ _ hok

end CallsPlugin.Verified
