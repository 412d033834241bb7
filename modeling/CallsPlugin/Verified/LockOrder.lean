import CallsPlugin.Verified.Prog
import CallsPlugin.Verified.Machine
import Mathlib.Logic.Relation
import Mathlib.Logic.Function.Basic

/-!
# Routines that share several locks

A crew is any number of routines that take and release locks, each of which has one
holder, or several that share it.  A routine that asks for a lock waits for its holders,
and a cycle of such waits is a deadlock.

The usual way to exclude it is an order of the locks that every routine keeps to.  Here
a routine may go against the order if it says so first (`LockOrder.warns`), and the
rule, `Crew.no_cycle`, asks for what is then left to check: that whoever has the lock it
asks for asks for nothing before giving it back.
-/

namespace CallsPlugin.Verified

/-- What a routine does, as far as locks go: take one, give it back, or read something
that decides how it goes on. -/
inductive LockOp (R Q : Type) where
  | lock (r : R) (shared : Bool)
  | unlock (r : R)
  | ask (q : Q)

/-- The answer to `lock` tells whether the lock was obtained. -/
abbrev LockOp.Resp {R Q : Type} : LockOp R Q → Type
  | .lock _ _ => Bool
  | .unlock _ => Unit
  | .ask _ => Bool

/-- The code of a routine. -/
abbrev Routine (R Q α : Type) := Code (LockOp R Q) LockOp.Resp α

/-- A routine has a lock, perhaps with others. -/
structure Hold (T R : Type) where
  thread : T
  lock : R
  shared : Bool
  deriving DecidableEq

/-- Who has which locks, and what each routine still has to do. -/
structure Crew (T R Q : Type) where
  held : List (Hold T R)
  code : T → Routine R Q Unit

variable {T R Q α β : Type}

/-! ## Waiting -/

namespace Crew

/-- The routine has the lock. -/
def Has (s : Crew T R Q) (t : T) (r : R) : Prop :=
  ∃ h ∈ s.held, h.thread = t ∧ h.lock = r

/-- The routine asks for the lock. -/
def Wants (s : Crew T R Q) (t : T) (r : R) : Prop :=
  ∃ shared k, s.code t = .op (.lock r shared) k

/-- The routine `t` waits for `t'`. -/
def Waits (s : Crew T R Q) (t t' : T) : Prop := ∃ r, s.Wants t r ∧ s.Has t' r

/-- A cycle of waits. -/
def Cycle (s : Crew T R Q) : Prop := ∃ t, Relation.TransGen s.Waits t t

theorem Wants.unique {s : Crew T R Q} {t : T} {r r' : R} (h : s.Wants t r)
    (h' : s.Wants t r') :
    r = r' := by
  obtain ⟨sh, k, hk⟩ := h
  obtain ⟨sh', k', hk'⟩ := h'
  rw [hk] at hk'
  cases hk'
  rfl

end Crew

/-- The lock the routine asks for. -/
def Crew.next (s : Crew T R Q) (t : T) : Option R :=
  match s.code t with
  | .op (.lock r _) _ => some r
  | _ => none

theorem Crew.wants_of_next {s : Crew T R Q} {t : T} {r : R} (h : s.next t = some r) :
    s.Wants t r := by
  unfold next at h
  split at h
  next shared k hk =>
    cases h
    exact ⟨shared, k, hk⟩
  next => cases h

/-! ## Running -/

section Run

variable [DecidableEq T] [DecidableEq R]

/-- A lock is obtained when nobody has it, or when all who have it share it; asking for
one of `mayFail` can also end without it. -/
def crew (mayFail : R → Prop) : Machine (Crew T R Q) (T × Bool) where
  Enabled s a :=
    match s.code a.1 with
    | .ret _ => False
    | .op (.lock r shared) _ =>
        if a.2 then ∀ h ∈ s.held, h.lock = r → shared = true ∧ h.shared = true
        else mayFail r
    | .op (.unlock _) _ => True
    | .op (.ask _) _ => True
  step s a :=
    match s.code a.1 with
    | .ret _ => s
    | .op (.lock r shared) k =>
        { held := if a.2 then ⟨a.1, r, shared⟩ :: s.held else s.held
          code := Function.update s.code a.1 (k a.2) }
    | .op (.unlock r) k =>
        { held := s.held.filter fun h => ¬ (h.thread = a.1 ∧ h.lock = r)
          code := Function.update s.code a.1 (k ()) }
    | .op (.ask _) k => { s with code := Function.update s.code a.1 (k a.2) }

instance (mayFail : R → Prop) [DecidablePred mayFail] (s : Crew T R Q) (a : T × Bool) :
    Decidable ((crew mayFail).Enabled s a) := by
  unfold crew
  dsimp only
  split <;> infer_instance

/-- All routines are at their start. -/
def Crew.start (code : T → Routine R Q Unit) : Crew T R Q := ⟨[], code⟩

/-- What one step can be. -/
theorem crew_cases {mayFail : R → Prop} {s : Crew T R Q} {t : T} {b : Bool}
    (h : (crew mayFail).Enabled s (t, b)) :
    (∃ r shared k, s.code t = .op (.lock r shared) k ∧ (crew mayFail).step s (t, b) =
      ⟨if b then ⟨t, r, shared⟩ :: s.held else s.held,
        Function.update s.code t (k b)⟩) ∨
    (∃ r k, s.code t = .op (.unlock r) k ∧ (crew mayFail).step s (t, b) =
      ⟨s.held.filter fun h => ¬ (h.thread = t ∧ h.lock = r),
        Function.update s.code t (k ())⟩) ∨
    (∃ q k, s.code t = .op (.ask q) k ∧
      (crew mayFail).step s (t, b) = ⟨s.held, Function.update s.code t (k b)⟩) := by
  cases hc : s.code t with
  | ret a => simp [crew, hc] at h
  | op o k =>
      cases o with
      | lock r shared => exact .inl ⟨r, shared, k, rfl, by simp [crew, hc]⟩
      | unlock r => exact .inr (.inl ⟨r, k, rfl, by simp [crew, hc]⟩)
      | ask q => exact .inr (.inr ⟨q, k, rfl, by simp [crew, hc]⟩)

end Run

/-! ## The order of the locks -/

/-- An order of the locks, and the readings by which a routine says that it goes against
it. -/
structure LockOrder (R Q : Type) where
  rank : R → Nat
  warns : Q → Option R

section Order

variable [DecidableEq R] {ord : LockOrder R Q}

/-- The code keeps to the order, if it starts with the locks `hs` and has just warned of
`w`; it ends with locks as `P` says. -/
def Orderly (ord : LockOrder R Q) (P : α → List R → Prop) :
    Routine R Q α → List R → Option R → Prop
  | .ret a, hs, _ => P a hs
  | .op (.lock r _) k, hs, w =>
      (w = some r ∨ ∀ r' ∈ hs, ord.rank r' < ord.rank r) ∧
        Orderly ord P (k true) (r :: hs) none ∧ Orderly ord P (k false) hs none
  | .op (.unlock r) k, hs, _ => Orderly ord P (k ()) (hs.filter (· ≠ r)) none
  | .op (.ask q) k, hs, _ => ∀ b, Orderly ord P (k b) hs (ord.warns q)

/-- A warning that is not needed does no harm. -/
theorem Orderly.warned {P : α → List R → Prop} {c : Routine R Q α} {hs : List R}
    (h : Orderly ord P c hs none) (w : Option R) : Orderly ord P c hs w := by
  cases c with
  | ret a => exact h
  | op o k =>
      cases o with
      | lock r shared => exact ⟨.inr (h.1.resolve_left fun he => nomatch he), h.2⟩
      | unlock r => exact h
      | ask q => exact h

theorem Orderly.mono {P P' : α → List R → Prop} (hP : ∀ a hs, P a hs → P' a hs)
    {c : Routine R Q α} {hs : List R} {w : Option R} (h : Orderly ord P c hs w) :
    Orderly ord P' c hs w := by
  induction c generalizing hs w with
  | ret a => exact hP a hs h
  | op o k ih =>
      cases o with
      | lock r shared => exact ⟨h.1, ih _ h.2.1, ih _ h.2.2⟩
      | unlock r => exact ih _ h
      | ask q => exact fun b => ih b (h b)

/-- Sequencing. -/
theorem Orderly.bind {P : α → List R → Prop} {P' : β → List R → Prop}
    {c : Routine R Q α} {f : α → Routine R Q β} {hs : List R} {w : Option R}
    (h : Orderly ord P c hs w) (hf : ∀ a hs, P a hs → Orderly ord P' (f a) hs none) :
    Orderly ord P' (c >>= f) hs w := by
  induction c generalizing hs w with
  | ret a => exact (hf a hs h).warned w
  | op o k ih =>
      cases o with
      | lock r shared => exact ⟨h.1, ih _ h.2.1, ih _ h.2.2⟩
      | unlock r => exact ih _ h
      | ask q => exact fun b => ih b (h b)

/-- The code asks for no lock before it gives `r` back. -/
def Quiet (r : R) : Routine R Q α → Prop
  | .ret _ => True
  | .op (.lock _ _) _ => False
  | .op (.unlock r') k => r' = r ∨ Quiet r (k ())
  | .op (.ask _) k => ∀ b, Quiet r (k b)

end Order

/-! ## No cycle -/

namespace Crew

variable {s : Crew T R Q} {ord : LockOrder R Q}

/-- The routine asks for `r` though it has a lock that comes no earlier. -/
def Against (ord : LockOrder R Q) (s : Crew T R Q) (t : T) (r : R) : Prop :=
  s.Wants t r ∧ ∃ r', s.Has t r' ∧ ord.rank r ≤ ord.rank r'

/-- Whoever has a lock that is asked for against the order asks for nothing before
giving it back. -/
def Tolerant (ord : LockOrder R Q) (s : Crew T R Q) : Prop :=
  ∀ t r, s.Against ord t r → ∀ t', s.Has t' r → Quiet r (s.code t')

theorem Quiet.not_wants {t : T} {r r' : R} (h : Quiet r (s.code t)) :
    ¬ s.Wants t r' := by
  rintro ⟨shared, k, hk⟩
  rw [hk] at h
  exact h

/-- The routine waits for one that asks for a lock itself. -/
def Stuck (s : Crew T R Q) (t : T) : Prop := ∃ t', s.Waits t t' ∧ ∃ r, s.Wants t' r

/-- A routine that is stuck asks in order. -/
theorem Tolerant.in_order (h : s.Tolerant ord) {t : T} (hs : s.Stuck t) {r r' : R}
    (hr : s.Wants t r) (hhas : s.Has t r') : ord.rank r' < ord.rank r := by
  obtain ⟨t', ⟨r₁, hr₁, hhas'⟩, r₂, hr₂⟩ := hs
  obtain rfl := hr.unique hr₁
  by_contra hle
  have hquiet : Quiet r (s.code t') := h t r ⟨hr, r', hhas, by omega⟩ t' hhas'
  exact Quiet.not_wants hquiet hr₂

/-- In a chain of waits the locks asked for come later and later. -/
theorem Tolerant.rank_lt (h : s.Tolerant ord) {t t' : T}
    (hw : Relation.TransGen s.Waits t t')
    {r r' : R} (hr : s.Wants t r) (hr' : s.Wants t' r') (hs : s.Stuck t') :
    ord.rank r < ord.rank r' := by
  induction hw generalizing r' with
  | single hw =>
      obtain ⟨r₁, hr₁, hhas⟩ := hw
      obtain rfl := hr.unique hr₁
      exact h.in_order hs hr' hhas
  | @tail b c _ hw ih =>
      obtain ⟨r₁, hr₁, hhas⟩ := id hw
      have hfirst : ord.rank r < ord.rank r₁ := ih hr₁ ⟨c, hw, r', hr'⟩
      have hlast : ord.rank r₁ < ord.rank r' := h.in_order hs hr' hhas
      omega

theorem Waits.wants {t t' : T} (h : s.Waits t t') : ∃ r, s.Wants t r := by
  obtain ⟨r, hr, -⟩ := h
  exact ⟨r, hr⟩

/-- **No deadlock**, when those who have a lock that is asked for against the order ask
for nothing. -/
theorem Tolerant.no_cycle (h : s.Tolerant ord) : ¬ s.Cycle := by
  rintro ⟨t, hcycle⟩
  obtain ⟨t', hw, hrest⟩ := Relation.TransGen.head'_iff.1 hcycle
  obtain ⟨r, hr⟩ := hw.wants
  have hwants : ∃ r', s.Wants t' r' := by
    rcases Relation.ReflTransGen.cases_head hrest with rfl | ⟨t'', hw', -⟩
    · exact ⟨r, hr⟩
    · exact hw'.wants
  have hlt : ord.rank r < ord.rank r := h.rank_lt hcycle hr hr ⟨t', hw, hwants⟩
  omega

/-! ## Runs -/

section Runs

variable [DecidableEq R]

/-- A condition on a step: who warns of a lock, finds it with routines that ask for
nothing before giving it back; and who obtains such a lock while it is asked for against
the order, asks for nothing before giving it back. -/
def Permits (ord : LockOrder R Q) (s : Crew T R Q) (a : T × Bool) : Prop :=
  (∀ q k r, s.code a.1 = .op (.ask q) k → ord.warns q = some r →
    ∀ t', s.Has t' r → Quiet r (s.code t')) ∧
  ∀ q r shared k, ord.warns q = some r → s.code a.1 = .op (.lock r shared) k →
    a.2 = true → (∃ t, s.Against ord t r) → Quiet r (k true)

/-- Every routine keeps to the order or says that it does not. -/
structure Keeps (ord : LockOrder R Q) (s : Crew T R Q) : Prop where
  orderly : ∀ t, ∃ hs w, Orderly ord (fun _ _ => True) (s.code t) hs w ∧
    (∀ r, s.Has t r → r ∈ hs) ∧ ∀ r, w = some r → ∃ q, ord.warns q = some r
  tolerant : s.Tolerant ord

/-- Only a lock that is warned of is asked for against the order. -/
theorem Keeps.warned (h : s.Keeps ord) {t : T} {r : R} (hagainst : s.Against ord t r) :
    ∃ q, ord.warns q = some r := by
  obtain ⟨⟨shared, k, hk⟩, r', hr', hle⟩ := hagainst
  obtain ⟨hs, w, ho, hhas, hw⟩ := h.orderly t
  rw [hk] at ho
  refine hw r (ho.1.resolve_right fun hlt => ?_)
  have hbelow := hlt r' (hhas r' hr')
  omega

theorem start_keeps {code : T → Routine R Q Unit}
    (hcode : ∀ t, Orderly ord (fun _ _ => True) (code t) [] none) :
    (start code).Keeps ord := by
  refine ⟨fun t => ⟨[], none, hcode t, fun r hr => ?_, fun r he => nomatch he⟩,
    fun t r hagainst => ?_⟩
  · obtain ⟨h, hh, -⟩ := hr
    cases hh
  · obtain ⟨-, r', ⟨h, hh, -⟩, -⟩ := hagainst
    cases hh

variable [DecidableEq T] {mayFail : R → Prop}

/-- The other routines have the code and the locks they had. -/
theorem step_others {t t' : T} {b : Bool} (hen : (crew mayFail).Enabled s (t, b))
    (hne : t' ≠ t) :
    ((crew mayFail).step s (t, b)).code t' = s.code t' ∧
      ∀ r, ((crew mayFail).step s (t, b)).Has t' r ↔ s.Has t' r := by
  obtain ⟨r₀, shared, k, -, hs⟩ | ⟨r₀, k, -, hs⟩ | ⟨q, k, -, hs⟩ := crew_cases hen
  · rw [hs]
    refine ⟨Function.update_of_ne hne _ _, fun r => ?_⟩
    cases b with
    | false => exact Iff.rfl
    | true =>
        constructor
        · rintro ⟨h, hh, ht, hr⟩
          rcases List.mem_cons.1 hh with rfl | hh
          · exact absurd ht.symm hne
          · exact ⟨h, hh, ht, hr⟩
        · rintro ⟨h, hh, hp⟩
          exact ⟨h, List.mem_cons_of_mem _ hh, hp⟩
  · rw [hs]
    refine ⟨Function.update_of_ne hne _ _, fun r => ?_⟩
    constructor
    · rintro ⟨h, hh, hp⟩
      exact ⟨h, (List.mem_filter.1 hh).1, hp⟩
    · rintro ⟨h, hh, ht, hr⟩
      exact ⟨h, List.mem_filter.2 ⟨hh, by simp [ht, hne]⟩, ht, hr⟩
  · rw [hs]
    exact ⟨Function.update_of_ne hne _ _, fun r => Iff.rfl⟩

/-- The routine itself keeps to the order, or has just warned. -/
theorem step_self {t : T} {b : Bool} (hen : (crew mayFail).Enabled s (t, b))
    {hs : List R} {w : Option R} (ho : Orderly ord (fun _ _ => True) (s.code t) hs w)
    (hhas : ∀ r, s.Has t r → r ∈ hs) :
    ∃ hs' w', Orderly ord (fun _ _ => True) (((crew mayFail).step s (t, b)).code t) hs'
      w' ∧ (∀ r, ((crew mayFail).step s (t, b)).Has t r → r ∈ hs') ∧
      ∀ r, w' = some r → ∃ q k, s.code t = .op (.ask q) k ∧ ord.warns q = some r := by
  obtain ⟨r₀, shared, k, hk, hstep⟩ | ⟨r₀, k, hk, hstep⟩ | ⟨q, k, hk, hstep⟩ :=
    crew_cases hen
  · rw [hk] at ho
    rw [hstep]
    simp only [Function.update_self]
    cases b with
    | false => exact ⟨hs, none, ho.2.2, hhas, fun r he => nomatch he⟩
    | true =>
        refine ⟨r₀ :: hs, none, ho.2.1, fun r => ?_, fun r he => nomatch he⟩
        rintro ⟨h, hh, ht, hr⟩
        rcases List.mem_cons.1 hh with rfl | hh
        · exact hr ▸ List.mem_cons_self ..
        · exact List.mem_cons_of_mem _ (hhas r ⟨h, hh, ht, hr⟩)
  · rw [hk] at ho
    rw [hstep]
    simp only [Function.update_self]
    refine ⟨hs.filter (· ≠ r₀), none, ho, fun r => ?_, fun r he => nomatch he⟩
    rintro ⟨h, hh, ht, hr⟩
    obtain ⟨hh, hkept⟩ := List.mem_filter.1 hh
    have hne : r ≠ r₀ := by
      intro he
      simp [ht, hr, he] at hkept
    exact List.mem_filter.2 ⟨hhas r ⟨h, hh, ht, hr⟩, by simpa using hne⟩
  · rw [hk] at ho
    rw [hstep]
    simp only [Function.update_self]
    exact ⟨hs, ord.warns q, ho b, hhas, fun r hw => ⟨q, k, hk, hw⟩⟩

/-- A routine that has a lock asks for nothing after the step, if it did not before. -/
theorem step_quiet {t : T} {b : Bool} (hen : (crew mayFail).Enabled s (t, b)) {r : R}
    (hold : s.Has t r → Quiet r (s.code t))
    (hnew : ∀ shared k, s.code t = .op (.lock r shared) k → b = true → Quiet r (k true))
    (hhas : ((crew mayFail).step s (t, b)).Has t r) :
    Quiet r (((crew mayFail).step s (t, b)).code t) := by
  obtain ⟨r₀, shared, k, hk, hstep⟩ | ⟨r₀, k, hk, hstep⟩ | ⟨q, k, hk, hstep⟩ :=
    crew_cases hen
  · rw [hstep] at hhas ⊢
    simp only [Function.update_self]
    have hnot : ¬ s.Has t r := by
      intro hh
      have hquiet := hold hh
      rw [hk] at hquiet
      exact hquiet
    cases b with
    | false => exact absurd hhas hnot
    | true =>
        obtain ⟨h, hh, ht, hr⟩ := hhas
        rcases List.mem_cons.1 hh with rfl | hh
        · subst hr
          exact hnew shared k hk rfl
        · exact absurd ⟨h, hh, ht, hr⟩ hnot
  · rw [hstep] at hhas ⊢
    simp only [Function.update_self]
    obtain ⟨h, hh, ht, hr⟩ := hhas
    obtain ⟨hh, hkept⟩ := List.mem_filter.1 hh
    have hquiet := hold ⟨h, hh, ht, hr⟩
    rw [hk] at hquiet
    refine hquiet.resolve_left fun he => ?_
    simp [ht, hr, he] at hkept
  · rw [hstep] at hhas ⊢
    simp only [Function.update_self]
    have hquiet := hold hhas
    rw [hk] at hquiet
    exact hquiet b

/-- A step that is permitted keeps it so. -/
theorem Keeps.step (h : s.Keeps ord) {a : T × Bool} (hen : (crew mayFail).Enabled s a)
    (hok : Permits ord s a) : ((crew mayFail).step s a).Keeps ord := by
  obtain ⟨t₀, b⟩ := a
  obtain ⟨hs, w, ho, hhas, -⟩ := h.orderly t₀
  obtain ⟨hs', w', ho', hhas', hw'⟩ := step_self hen ho hhas
  refine ⟨fun t => ?_, fun t r hagainst t' ht' => ?_⟩
  · by_cases hne : t = t₀
    · subst hne
      refine ⟨hs', w', ho', hhas', fun r hw => ?_⟩
      obtain ⟨q, -, -, hq⟩ := hw' r hw
      exact ⟨q, hq⟩
    · obtain ⟨hcode, hiff⟩ := step_others hen hne
      obtain ⟨hs, w, ho, hhas, hw⟩ := h.orderly t
      exact ⟨hs, w, hcode ▸ ho, fun r hr => hhas r ((hiff r).1 hr), hw⟩
  -- whoever had the lock before the step asked for nothing
  have hbefore : (∀ x, s.Has x r → Quiet r (s.code x)) ∧
      ∀ shared k, s.code t₀ = .op (.lock r shared) k → b = true → Quiet r (k true) := by
    by_cases hne : t = t₀
    · subst hne
      obtain ⟨⟨shared, k, hk⟩, r', hr', hle⟩ := hagainst
      rw [hk] at ho'
      have hwarned : w' = some r := ho'.1.resolve_right fun hlt => by
        have hbelow := hlt r' (hhas' r' hr')
        omega
      obtain ⟨q, k', hk', hq⟩ := hw' r hwarned
      refine ⟨hok.1 q k' r hk' hq, fun shared k hk => ?_⟩
      rw [hk'] at hk
      cases hk
    · obtain ⟨hcode, hiff⟩ := step_others hen hne
      have hagainst : s.Against ord t r := by
        obtain ⟨⟨shared, k, hk⟩, r', hr', hle⟩ := hagainst
        exact ⟨⟨shared, k, hcode ▸ hk⟩, r', (hiff r').1 hr', hle⟩
      obtain ⟨q, hq⟩ := h.warned hagainst
      exact ⟨h.tolerant t r hagainst, fun shared k hk hb =>
        hok.2 q r shared k hq hk hb ⟨t, hagainst⟩⟩
  by_cases hne : t' = t₀
  · subst hne
    exact step_quiet hen (hbefore.1 t') hbefore.2 ht'
  · obtain ⟨hcode, hiff⟩ := step_others hen hne
    rw [hcode]
    exact hbefore.1 t' ((hiff r).1 ht')

/-- In a run whose steps are permitted, whoever has a lock that is asked for against the
order asks for nothing before giving it back. -/
theorem tolerant_of_runs {code : T → Routine R Q Unit}
    (hcode : ∀ t, Orderly ord (fun _ _ => True) (code t) [] none)
    (hr : (crew mayFail).Runs (Permits ord) (start code) s) : s.Tolerant ord :=
  (hr.inv (start_keeps hcode) fun _ _ hen hok h => h.step hen hok).tolerant

end Runs

end Crew

end CallsPlugin.Verified
