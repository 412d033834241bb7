import CallsPlugin.Verified.Discipline
import CallsPlugin.Verified.History

/-!
# Sections are atomic

What a thread does from obtaining the lock to releasing it is a section.  `Alone` says
what a pool comes to that has no lock, and whose threads do each section at once.  While
one thread of a pool with the lock is in its section, others lock the mutexes of their
nodes, give up, or run code outside their sections.  If that code touches nothing that
is shared (`Guarded`), the pool refines one without the lock: the sections that have
ended were done one after the other, and the open one began where they left off
(`Ahead`).
-/

namespace CallsPlugin.Verified

universe u v w

variable {Op : Type u} {Resp : Op → Type u} {W : Type v} {C T N : Type w} {α β : Type u}

/-- An operation that neither reads nor changes the world. -/
def Free (sem : C → W → (o : Op) → Resp o × W) (o : Op) : Prop :=
  ∀ c, ∃ r, ∀ w, sem c w o = (r, w)

/-- Code that issues only operations in `free` while it does not hold the lock (`true`
if it does); what it leaves of the lock and its result satisfy `Q`. -/
def Guarded (free : Op → Prop) : Bool → Prog Op Resp α → (Bool → α → Prop) → Prop
  | h, .ret a, Q => Q h a
  | h, .op o k, Q => (h = false → free o) ∧ ∀ r, Guarded free h (k r) Q
  | _, .lock k, Q => Guarded free true (k true) Q ∧ Guarded free false (k false) Q
  | _, .unlock k, Q => Guarded free false k Q

namespace Guarded

variable {free : Op → Prop} {h : Bool} {Q : Bool → α → Prop}

@[simp] theorem ret {a : α} : Guarded free h (.ret a : Prog Op Resp α) Q ↔
    Q h a := Iff.rfl

@[simp] theorem op {o : Op} {k : Resp o → Prog Op Resp α} : Guarded free h (.op o k) Q ↔
    (h = false → free o) ∧ ∀ r, Guarded free h (k r) Q := Iff.rfl

@[simp] theorem lock {k : Bool → Prog Op Resp α} : Guarded free h (.lock k) Q ↔
    Guarded free true (k true) Q ∧ Guarded free false (k false) Q := Iff.rfl

@[simp] theorem unlock {k : Prog Op Resp α} :
    Guarded free h (.unlock k) Q ↔ Guarded free false k Q := Iff.rfl

/-- Sequencing rule. -/
@[simp] theorem bind {p : Prog Op Resp α} {f : α → Prog Op Resp β}
    {Q : Bool → β → Prop} :
    Guarded free h (p >>= f) Q ↔
    Guarded free h p fun h' a => Guarded free h' (f a) Q := by
  induction p generalizing h with
  | ret a => simp
  | op o k ih => simp [ih]
  | lock k ih => simp [ih]
  | unlock k ih => simp [ih]

/-- Consequence rule. -/
theorem mono {p : Prog Op Resp α} {Q' : Bool → α → Prop} (hp : Guarded free h p Q)
    (hQ : ∀ h a, Q h a → Q' h a) : Guarded free h p Q' := by
  induction p generalizing h with
  | ret a => exact hQ h a hp
  | op o k ih => exact ⟨hp.1, fun r => ih r (hp.2 r)⟩
  | lock k ih => exact ⟨ih true hp.1, ih false hp.2⟩
  | unlock k ih => exact ih hp

/-- In a section any operation will do. -/
@[simp] theorem lift {c : Code Op Resp α} :
    Guarded free true (.lift c : Prog Op Resp α) Q ↔ c.All (Q true) := by
  induction c with
  | ret a => simp
  | op o k ih => simp [ih]

end Guarded

/-- A step changes the code of one thread. -/
theorem Sys.step_code [DecidableEq T] [DecidableEq N]
    {sem : C → W → (o : Op) → Resp o × W}
    {node : T → N} {s s' : Sys Op Resp W T N} {t t' : T} {a : Act C}
    (hs : s.step sem node t a = some s') (ht : t' ≠ t) : s'.code t' = s.code t' := by
  obtain ⟨k, rfl, hk, -, -, rfl⟩ | ⟨k, rfl, hk, -, -, rfl⟩ | ⟨k, rfl, hk, -, rfl⟩ |
    ⟨k, rfl, hk, rfl⟩ | ⟨c, o, k, rfl, hk, rfl⟩ := Sys.step_cases hs
  · rfl
  all_goals exact Function.update_of_ne ht _ _

/-- Run lemma: what is left of guarded code is guarded. -/
theorem Runs.guarded [DecidableEq T] [DecidableEq N] {free : Op → Prop}
    {sem : C → W → (o : Op) → Resp o × W} {node : T → N}
    {ok : List (Event T C) → Sys Op Resp W T N → T → Act C → Prop}
    {s₀ s : Sys Op Resp W T N} {tr : List (Event T C)} (hr : Runs sem node ok s₀ tr s)
    (h : ∀ t, Guarded free false (s₀.code t) fun _ _ => True) :
    ∀ t, Guarded free (holding t tr) (s.code t) fun _ _ => True := by
  induction hr with
  | refl => exact h
  | @step tr s s' t a _ _ hs ih =>
      have ht := ih t
      intro t'
      by_cases hne : t' = t
      · subst hne
        obtain ⟨k, rfl, hk, -, -, rfl⟩ | ⟨k, rfl, hk, -, -, rfl⟩ |
          ⟨k, rfl, hk, -, rfl⟩ | ⟨k, rfl, hk, rfl⟩ | ⟨c, o, k, rfl, hk, rfl⟩ :=
            Sys.step_cases hs
        · simpa [holding, Sys.event] using ht
        · simpa [holding, Sys.event] using (Guarded.lock.1 (hk ▸ ht)).1
        · simpa [holding, Sys.event] using (Guarded.lock.1 (hk ▸ ht)).2
        · simpa [holding, Sys.event] using Guarded.unlock.1 (hk ▸ ht)
        · simpa [holding, Sys.event] using (Guarded.op.1 (hk ▸ ht)).2 _
      · rw [Paired.holding_of_ne (by exact Ne.symm hne)]
        rw [Sys.step_code hs hne]
        exact ih t'

/-! ## Pools without a lock -/

/-- A pool without a lock: the shared world, and what each thread still has to do. -/
structure Plain (Op : Type u) (Resp : Op → Type u) (W : Type v) (T : Type w) where
  world : W
  code : T → Prog Op Resp PUnit

/-- The part of a pool that is left without its lock. -/
def Sys.plain (s : Sys Op Resp W T N) : Plain Op Resp W T := ⟨s.world, s.code⟩

/-- Code on its own gets from `p` in world `w` to `p'` in world `w'`; the list has what
it issues, with the answers. -/
inductive Part (sem : C → W → (o : Op) → Resp o × W) (w : W) (p : Prog Op Resp α) :
    List ((o : Op) × Resp o) → W → Prog Op Resp α → Prop
  | refl : Part sem w p [] w p
  | op {l : List ((o : Op) × Resp o)} {w' : W} {o : Op} {k : Resp o → Prog Op Resp α}
      {c : C} (h : Part sem w p l w' (.op o k)) :
      Part sem w p (l ++ [⟨o, (sem c w' o).1⟩]) (sem c w' o).2 (k (sem c w' o).1)

variable [DecidableEq T]

/-- The pool in which a thread goes on with `p`. -/
def Plain.goOn (b : Plain Op Resp W T) (t : T) (p : Prog Op Resp PUnit) :
    Plain Op Resp W T :=
  { b with code := Function.update b.code t p }

@[simp] theorem Plain.goOn_code_self (b : Plain Op Resp W T) (t : T)
    (p : Prog Op Resp PUnit) :
    (b.goOn t p).code t = p := Function.update_self _ _ _

theorem Plain.goOn_code_of_ne (b : Plain Op Resp W T) {t t' : T} (h : t' ≠ t)
    (p : Prog Op Resp PUnit) : (b.goOn t p).code t' = b.code t' :=
    Function.update_of_ne h _ _

/-- What becomes of a pool without a lock.  A thread does a section at once, or does not
get to it; outside its sections it issues operations that are free.  The list has the
sections, in order, with who does them. -/
inductive Alone (sem : C → W → (o : Op) → Resp o × W) (a : Plain Op Resp W T) :
    List (T × List ((o : Op) × Resp o)) → Plain Op Resp W T → Prop
  | refl : Alone sem a [] a
  | done {L : List (T × List ((o : Op) × Resp o))} {b : Plain Op Resp W T} {t : T}
      {k : Bool → Prog Op Resp PUnit} {l : List ((o : Op) × Resp o)} {w : W}
      {p : Prog Op Resp PUnit} (h : Alone sem a L b) (hk : b.code t = .lock k)
      (hp : Part sem b.world (k true) l w (.unlock p)) :
      Alone sem a (L ++ [(t, l)]) { b.goOn t p with world := w }
  | failed {L : List (T × List ((o : Op) × Resp o))} {b : Plain Op Resp W T} {t : T}
      {k : Bool → Prog Op Resp PUnit} (h : Alone sem a L b) (hk : b.code t = .lock k) :
      Alone sem a L (b.goOn t (k false))
  | stray {L : List (T × List ((o : Op) × Resp o))} {b : Plain Op Resp W T} {t : T}
      {k : Prog Op Resp PUnit} (h : Alone sem a L b) (hk : b.code t = .unlock k) :
      Alone sem a L (b.goOn t k)
  | op {L : List (T × List ((o : Op) × Resp o))} {b : Plain Op Resp W T} {t : T}
      {o : Op} {k : Resp o → Prog Op Resp PUnit} {c : C} (h : Alone sem a L b)
      (hk : b.code t = .op o k) (hfree : Free sem o) :
      Alone sem a L (b.goOn t (k (sem c b.world o).1))

/-- The operations of sections, each with who issues it. -/
def flat (L : List (T × List ((o : Op) × Resp o))) : List (T × (o : Op) × Resp o) :=
  L.flatMap fun e => e.2.map (e.1, ·)

/-! ## Refinement -/

/-- The pool is where a pool without a lock is, or in a section that begins there; the
list has what the section has issued. -/
inductive Ahead (sem : C → W → (o : Op) → Resp o × W) (s : Sys Op Resp W T N)
    (b : Plain Op Resp W T) : List (T × (o : Op) × Resp o) → Prop
  | level (ho : s.owner = none) (hb : b = s.plain) : Ahead sem s b []
  | inside {u : T} {k : Bool → Prog Op Resp PUnit} {l : List ((o : Op) × Resp o)}
      (ho : s.owner = some u) (hk : b.code u = .lock k)
      (hp : Part sem b.world (k true) l s.world (s.code u))
      (hrest : ∀ t, t ≠ u → b.code t = s.code t) : Ahead sem s b (l.map (u, ·))

/-- What a step adds to the operations of the sections. -/
def Sys.issues (sem : C → W → (o : Op) → Resp o × W) (s : Sys Op Resp W T N) (t : T) :
    Act C → List (T × (o : Op) × Resp o)
  | .op c =>
      match s.code t with
      | .op o _ => if s.owner = some t then [(t, ⟨o, (sem c s.world o).1⟩)] else []
      | _ => []
  | .enter | .acquire | .giveUp | .unlock => []

/-- The history of a run: the operations of its sections. -/
def AddsIssued (sem : C → W → (o : Op) → Resp o × W) (s : Sys Op Resp W T N) (t : T)
    (a : Act C) (_ : Sys Op Resp W T N) (new : List (T × (o : Op) × Resp o)) : Prop :=
  new = s.issues sem t a

theorem addsIssued_issues (sem : C → W → (o : Op) → Resp o × W) (s : Sys Op Resp W T N)
    (t : T) (a : Act C) (s' : Sys Op Resp W T N) :
    AddsIssued sem s t a s' (s.issues sem t a) := rfl

section Steps

variable {sem : C → W → (o : Op) → Resp o × W} {node : T → N} {s s' : Sys Op Resp W T N}
  {a b : Plain Op Resp W T} {m : List (T × (o : Op) × Resp o)} {t : T}

theorem Alone.trans {b' : Plain Op Resp W T}
    {L L' : List (T × List ((o : Op) × Resp o))}
    (h : Alone sem a L b) (h' : Alone sem b L' b') : Alone sem a (L ++ L') b' := by
  induction h' with
  | refl => simpa using h
  | done _ hk hp ih => simpa using ih.done hk hp
  | failed _ hk ih => exact ih.failed hk
  | stray _ hk ih => exact ih.stray hk
  | op _ hk hfree ih => exact ih.op hk hfree

omit [DecidableEq T] in
@[simp] theorem flat_append (L L' : List (T × List ((o : Op) × Resp o))) :
    flat (L ++ L') = flat L ++ flat L' := List.flatMap_append

omit [DecidableEq T] in
/-- A step that a pool without a lock does not see. -/
theorem Ahead.same (h : Ahead sem s b m) (ho : s'.owner = s.owner)
    (hw : s'.world = s.world) (hc : s'.code = s.code) : Ahead sem s' b m := by
  cases h with
  | level hown hb =>
      exact .level (ho.trans hown) (by rw [hb, Sys.plain, Sys.plain, hw, hc])
  | inside hown hk hp hrest =>
      exact .inside (ho.trans hown) hk (by rwa [hw, hc]) (by rwa [hc])

omit [DecidableEq T] in
/-- What a thread that is not in its section has left to do is the same in both
pools. -/
theorem Ahead.code_eq (h : Ahead sem s b m) (ht : s.owner ≠ some t) :
    b.code t = s.code t := by
  cases h with
  | level _ hb => rw [hb, Sys.plain]
  | inside hown _ _ hrest => exact hrest t fun e => ht (e ▸ hown)

/-- A thread that is not in its section goes on in both pools. -/
theorem Ahead.outside (h : Ahead sem s b m) (ht : s.owner ≠ some t)
    {p : Prog Op Resp PUnit} (ho : s'.owner = s.owner) (hw : s'.world = s.world)
    (hc : s'.code = Function.update s.code t p) : Ahead sem s' (b.goOn t p) m := by
  cases h with
  | level hown hb =>
      subst hb
      exact .level (ho.trans hown) (by rw [Sys.plain, Plain.goOn, Sys.plain, hw, hc])
  | @inside u k l hown hk hp hrest =>
      have hne : u ≠ t := fun e => ht (e ▸ hown)
      refine .inside (k := k) (ho.trans hown) ?_ ?_ fun t' ht' => ?_
      · rw [Plain.goOn_code_of_ne b hne]
        exact hk
      · rw [hw, hc, Function.update_of_ne hne]
        exact hp
      · rw [hc]
        by_cases e : t' = t
        · subst e
          rw [Plain.goOn_code_self, Function.update_self]
        · rw [Plain.goOn_code_of_ne b e, Function.update_of_ne e]
          exact hrest t' ht'

/-- The section of a thread begins. -/
theorem Ahead.begins (h : Ahead sem s b m) (ho : s.owner = none)
    {k : Bool → Prog Op Resp PUnit} (hk : s.code t = .lock k) (ho' : s'.owner = some t)
    (hw : s'.world = s.world) (hc : s'.code = Function.update s.code t (k true)) :
    Ahead sem s' b m := by
  cases h with
  | level _ hb =>
      subst hb
      refine .inside (k := k) (l := []) ho' hk ?_ fun t' ht' => ?_
      · rw [hw, hc, Function.update_self]
        exact .refl
      · rw [hc, Function.update_of_ne ht']
        rfl
  | inside hown => rw [ho] at hown; cases hown

/-- The section of a thread goes on. -/
theorem Ahead.goesOn (h : Ahead sem s b m) (ho : s.owner = some t) {c : C} {o : Op}
    {k : Resp o → Prog Op Resp PUnit} (hk : s.code t = .op o k)
    (ho' : s'.owner = some t) (hw : s'.world = (sem c s.world o).2)
    (hc : s'.code = Function.update s.code t (k (sem c s.world o).1)) :
    Ahead sem s' b (m ++ [(t, ⟨o, (sem c s.world o).1⟩)]) := by
  cases h with
  | level hown => rw [ho] at hown; cases hown
  | @inside u k' l hown hk' hp hrest =>
      obtain rfl : u = t := Option.some.inj (hown.symm.trans ho)
      rw [hk] at hp
      have hall := Ahead.inside (b := b) ho' hk'
        (by rw [hw, hc, Function.update_self]; exact hp.op)
        fun t' ht' => by rw [hc, Function.update_of_ne ht']; exact hrest t' ht'
      simpa using hall

/-- The section of a thread ends. -/
theorem Ahead.ends (h : Ahead sem s b m) (ho : s.owner = some t)
    {p : Prog Op Resp PUnit} (hk : s.code t = .unlock p) :
    ∃ L, Alone sem b L ⟨s.world, Function.update s.code t p⟩ ∧ flat L = m := by
  cases h with
  | level hown => rw [ho] at hown; cases hown
  | @inside u k' l hown hk' hp hrest =>
      obtain rfl : u = t := Option.some.inj (hown.symm.trans ho)
      rw [hk] at hp
      have hcode : Function.update b.code u p = Function.update s.code u p := by
        funext t'
        by_cases e : t' = u
        · subst e
          rw [Function.update_self, Function.update_self]
        · rw [Function.update_of_ne e, Function.update_of_ne e, hrest t' e]
      have hdone := Alone.done .refl hk' hp
      rw [Plain.goOn, hcode] at hdone
      exact ⟨_, hdone, by simp [flat]⟩

variable [DecidableEq N] {stray : T → Prop} {tr : List (Event T C)} {act : Act C}

/-- **Step lemma**: a step of a disciplined and guarded thread is none of the pool
without the lock, one outside the sections, or a step of the open section, which its
release ends. -/
theorem Ahead.step (h : Ahead sem s b m) (hp : Paired node stray tr s)
    (hg : Guarded (Free sem) (holding t tr) (s.code t) fun _ _ => True)
    (hok : StrayHarmless node stray tr s t act) (hs : s.step sem node t act = some s') :
    ∃ L b' m', Alone sem b L b' ∧ Ahead sem s' b' m' ∧
    m ++ s.issues sem t act = flat L ++ m' := by
  have hcode := hp.code t
  obtain ⟨k, rfl, hk, hpoll, hin, rfl⟩ | ⟨k, rfl, hk, hpoll, ho, rfl⟩ |
    ⟨k, rfl, hk, hpoll, rfl⟩ | ⟨k, rfl, hk, rfl⟩ | ⟨c, o, k, rfl, hk, rfl⟩ :=
      Sys.step_cases hs
  · exact ⟨[], b, m, .refl, h.same rfl rfl rfl, List.append_nil m⟩
  · exact ⟨[], b, m, .refl, h.begins ho hk rfl rfl rfl, List.append_nil m⟩
  · have ht : s.owner ≠ some t := (hp.layered.polls t hpoll).2
    exact ⟨[], _, m, .failed .refl ((h.code_eq ht).trans hk), h.outside ht rfl rfl rfl,
      List.append_nil m⟩
  · rcases hp.owner_of_unlock hk hok with hown | hin
    · obtain ⟨L, hL, hflat⟩ := h.ends hown hk
      rw [hp.layered.release_owner hown]
      exact ⟨L, _, [], hL, .level rfl rfl, by rw [hflat]; rfl⟩
    · have ht : s.owner ≠ some t := fun ho => by simp [hp.layered.owner t ho] at hin
      rw [show s.release node t = s by simp [Sys.release, hin]]
      exact ⟨[], _, m, .stray .refl ((h.code_eq ht).trans hk), h.outside ht rfl rfl rfl,
        List.append_nil m⟩
  · by_cases ht : s.owner = some t
    · refine ⟨[], b, _, .refl, h.goesOn ht hk ht rfl rfl, ?_⟩
      simp [Sys.issues, hk, ht, flat]
    · have hfree : Free sem o := by
        rw [hk] at hg
        exact (Guarded.op.1 hg).1 (by simpa using fun e => ht ((hp.holding t).1 e))
      obtain ⟨r, hr⟩ := hfree c
      refine ⟨[], _, m, .op (c := c) .refl ((h.code_eq ht).trans hk) hfree, ?_, ?_⟩
      · exact h.outside ht rfl (by rw [hr]) (by rw [hr, hr])
      · simp [Sys.issues, hk, ht, flat]

/-- **Run lemma**: disciplined and guarded threads that share a lock do what threads do
that take turns without one, up to the open section. -/
theorem Histories.ahead {s₀ : Sys Op Resp W T N} {l : List (T × (o : Op) × Resp o)}
    (hr : Histories sem node (StrayHarmless node stray) (AddsIssued sem) s₀ tr s l)
    (hu : s₀.Unlocked) (hd : ∀ t, Disciplined (stray t) false (s₀.code t)
      fun h _ => h = false)
    (hg : ∀ t, Guarded (Free sem) false (s₀.code t) fun _ _ => True) :
    ∃ L b m, Alone sem s₀.plain L b ∧ Ahead sem s b m ∧ l = flat L ++ m := by
  induction hr with
  | refl => exact ⟨[], s₀.plain, [], .refl, .level hu.2.1 rfl, rfl⟩
  | step hr hok hs hadds ih =>
      obtain ⟨L, b, m, hL, hahead, rfl⟩ := ih
      obtain ⟨L', b', m', hL', hahead', hm⟩ := hahead.step (hr.runs.discipline hu hd)
        (hr.runs.guarded hg _) hok hs
      refine ⟨L ++ L', b', m', hL.trans hL', hahead', ?_⟩
      rw [hadds, List.append_assoc, hm, flat_append, List.append_assoc]

/-- When nobody has the lock, the sections were all done one after the other. -/
theorem Histories.alone {s₀ : Sys Op Resp W T N} {l : List (T × (o : Op) × Resp o)}
    (hr : Histories sem node (StrayHarmless node stray) (AddsIssued sem) s₀ tr s l)
    (hu : s₀.Unlocked) (hd : ∀ t, Disciplined (stray t) false (s₀.code t)
      fun h _ => h = false)
    (hg : ∀ t, Guarded (Free sem) false (s₀.code t) fun _ _ => True)
    (ho : s.owner = none) :
    ∃ L, Alone sem s₀.plain L s.plain ∧ l = flat L := by
  obtain ⟨L, b, m, hL, hahead, rfl⟩ := hr.ahead hu hd hg
  cases hahead with
  | level _ hb => exact ⟨L, hb ▸ hL, List.append_nil _⟩
  | inside hown => rw [ho] at hown; cases hown

end Steps

end CallsPlugin.Verified
