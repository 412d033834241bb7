import CallsPlugin.Verified.Expiring
import Mathlib.Data.Fintype.Basic
import Mathlib.Logic.Function.Basic

/-!
# The cluster mutex (`server/cluster/mutex.go`)

One key of the plugin KV store and the `Mutex` objects for it, one on each node,
used by any number of goroutines.  Every step is one statement that others can
observe: locking the process-local mutex, a KV call, a refresh tick, the stop of
the refresher.  A KV call that fails has no effect.  Time passes by `tick`, at
any moment and by any amount.

An acquisition is a goroutine with the number of its call of `Lock`.  `lease` is
the time until which the last successful set on behalf of a goroutine's current
acquisition keeps its key; the code does not know it.
-/

namespace CallsPlugin.Ports.Cluster

open CallsPlugin.Verified

/-- Where a goroutine is in `Lock` and `Unlock`. -/
inductive Pc where
  | idle
  /-- in `Lock`, at `m.mut.Lock()` -/
  | wantMut
  /-- at `tryLock` -/
  | trying
  /-- between two attempts -/
  | polling
  /-- `Lock` has returned nil -/
  | held
  /-- in `Unlock`, waiting for the refresher -/
  | stopping
  /-- at `KVDelete` -/
  | deleting
  /-- at the deferred `m.mut.Unlock()` -/
  | unlocking
  deriving DecidableEq, Repr

/-- The key has been set by the goroutine and not deleted yet. -/
@[grind]
def Pc.owns : Pc → Bool
  | .held | .stopping | .deleting => true
  | _ => false

/-- The goroutine has locked the process-local mutex. -/
@[grind]
def Pc.inMut : Pc → Bool
  | .idle | .wantMut => false
  | _ => true

variable {G N : Type}

/-- The cluster as one key sees it. -/
structure State (G N : Type) where
  now : Nat
  entry : Cell (G × Nat)
  localMut : N → Option G
  refresher : N → Option G
  calls : G → Nat
  lease : G → Nat
  pc : G → Pc

/-- The start: nothing is stored and nobody has called. -/
def State.init : State G N where
  now := 0
  entry := none
  localMut _ := none
  refresher _ := none
  calls _ := 0
  lease _ := 0
  pc _ := .idle

/-- What can happen next; `fails` is the outcome of a KV call. -/
inductive Act (G N : Type) where
  | tick (d : Nat)
  | callLock (g : G)
  | lockMut (g : G)
  | tryLock (g : G) (fails : Bool)
  | retry (g : G)
  | cancel (g : G)
  | refreshLock (n : N) (fails : Bool)
  | refresherStops (n : N)
  | callUnlock (g : G)
  | refresherDone (g : G)
  | delete (g : G) (fails : Bool)
  | unlockMut (g : G)

namespace State

/-- The current acquisition of a goroutine. -/
def acq (s : State G N) (g : G) : G × Nat := (g, s.calls g)

/-- The live entry. -/
def live (s : State G N) : Option (Entry (G × Nat)) := s.entry.live s.now

section Step

variable [DecidableEq G] [DecidableEq N]

/-- The goroutine moves on. -/
def goto (s : State G N) (g : G) (pc : Pc) : State G N :=
  { s with pc := Function.update s.pc g pc }

/-- `tryLock` inside the loop of `Lock`, when the KV call does not fail. -/
def tryLock (node : G → N) (ttl : Nat) (s : State G N) (g : G) : State G N :=
  match s.entry.setIfAbsent s.now ttl (s.acq g) with
  | (false, _) => s.goto g .polling
  | (true, entry) =>
      { s.goto g .held with
        entry := entry
        refresher := Function.update s.refresher (node g) (some g)
        lease := Function.update s.lease g (s.now + ttl) }

/-- `refreshLock` by the refresher of node `n`, which runs for `g`, when the KV call
does not fail; without success the refresher returns. -/
def refreshLock (ttl : Nat) (s : State G N) (n : N) (g : G) : State G N :=
  match s.entry.rewrite s.now ttl (s.acq g) with
  | (false, _) => { s with refresher := Function.update s.refresher n none }
  | (true, entry) =>
      { s with
        entry := entry
        lease := Function.update s.lease g (s.now + ttl) }

/-- One step, if it is possible. -/
def step (node : G → N) (ttl : Nat) (s : State G N) : Act G N → Option (State G N)
  | .tick d => some { s with now := s.now + d }
  | .callLock g =>
      if s.pc g = .idle then
        some { s.goto g .wantMut with
          calls := Function.update s.calls g (s.calls g + 1) }
      else none
  | .lockMut g =>
      if s.pc g = .wantMut ∧ s.localMut (node g) = none then
        some { s.goto g .trying with
          localMut := Function.update s.localMut (node g) (some g) }
      else none
  | .tryLock g fails =>
      if s.pc g = .trying then
        some (if fails then s.goto g .polling else s.tryLock node ttl g)
      else none
  | .retry g => if s.pc g = .polling then some (s.goto g .trying) else none
  | .cancel g =>
      if s.pc g = .polling then
        some { s.goto g .idle with
          localMut := Function.update s.localMut (node g) none }
      else none
  | .refreshLock n fails =>
      match s.refresher n with
      | none => none
      | some g =>
          some (if fails then { s with refresher := Function.update s.refresher n none }
            else s.refreshLock ttl n g)
  | .refresherStops n =>
      match s.refresher n with
      | none => none
      | some g =>
          if s.pc g = .stopping then
            some { s with refresher := Function.update s.refresher n none }
          else none
  | .callUnlock g =>
      if s.pc g = .held then
        -- `TryLock` finds the process-local mutex locked, else there is nothing to
        -- unlock
        some (s.goto g (if s.localMut (node g) = none then .idle else .stopping))
      else none
  | .refresherDone g =>
      if s.pc g = .stopping ∧ s.refresher (node g) = none then some (s.goto g .deleting)
      else none
  | .delete g fails =>
      if s.pc g = .deleting then
        some { s.goto g .unlocking with entry := if fails then s.entry else none }
      else none
  | .unlockMut g =>
      if s.pc g = .unlocking then
        some { s.goto g .idle with
          localMut := Function.update s.localMut (node g) none }
      else none

end Step

end State

/-- Runs from the start all of whose steps meet `ok`, a condition on the state
before, the step and the state after. -/
inductive Runs [DecidableEq G] [DecidableEq N] (node : G → N) (ttl : Nat)
    (ok : State G N → Act G N → State G N → Prop) : State G N → Prop
  | init : Runs node ttl ok .init
  | step {s s' : State G N} {a : Act G N} (hr : Runs node ttl ok s)
      (hs : s.step node ttl a = some s') (hok : ok s a s') : Runs node ttl ok s'

section Sched

variable [DecidableEq G] [DecidableEq N] {node : G → N} {ttl : Nat}
  {ok : State G N → Act G N → State G N → Prop}

/-- The state a schedule leads to, if every step is possible and passes the check. -/
def State.sched (node : G → N) (ttl : Nat)
    (check : State G N → Act G N → State G N → Bool) :
    State G N → List (Act G N) → Option (State G N)
  | s, [] => some s
  | s, a :: rest =>
      match s.step node ttl a with
      | some s' => if check s a s' then State.sched node ttl check s' rest else none
      | none => none

/-- A schedule that goes through is a run. -/
theorem Runs.of_sched {check : State G N → Act G N → State G N → Bool}
    (hcheck : ∀ s a s', check s a s' = true → ok s a s') (l : List (Act G N)) :
    ∀ {s s' : State G N}, Runs node ttl ok s → s.sched node ttl check l = some s' →
      Runs node ttl ok s' := by
  induction l with
  | nil => intro s s' hr h; cases h; exact hr
  | cons a rest ih =>
      intro s s' hr h
      simp only [State.sched] at h
      split at h
      next s₁ hs =>
        split at h
        next hc => exact ih (hr.step hs (hcheck _ _ _ hc)) h
        next => cases h
      next => cases h

/-- The run of a schedule, as far as `f` shows it. -/
theorem Runs.exists_of_sched {β : Type} {check : State G N → Act G N → State G N → Bool}
    (hcheck : ∀ s a s', check s a s' = true → ok s a s') {l : List (Act G N)}
    {f : State G N → β} {y : β}
    (h : ((State.init).sched node ttl check l).map f = some y) :
    ∃ s, Runs node ttl ok s ∧ f s = y := by
  obtain ⟨s, hs, hy⟩ := Option.map_eq_some_iff.1 h
  exact ⟨s, Runs.of_sched hcheck l .init hs, hy⟩

end Sched

/-! ## The invariant -/

/-- `Lock` has been called and has not set the key yet. -/
@[grind]
def Pc.waits : Pc → Bool
  | .wantMut | .trying | .polling => true
  | _ => false

/-- What every step keeps that is on time. -/
structure Inv (node : G → N) (s : State G N) : Prop where
  /-- the process-local mutex is locked by the goroutine that went past it -/
  inMut : ∀ g, (s.pc g).inMut = true → s.localMut (node g) = some g
  /-- a refresher runs for a goroutine that has not reached `KVDelete` -/
  refresher : ∀ n g, s.refresher n = some g →
    node g = n ∧ (s.pc g = .held ∨ s.pc g = .stopping)
  /-- while its lease lasts, the key is the goroutine's own -/
  lease : ∀ g, (s.pc g).owns = true → s.now < s.lease g →
    s.entry = some ⟨s.acq g, s.acq g, s.lease g⟩
  /-- an entry does not outlast the lease of its acquisition -/
  expiry : ∀ e g, s.entry = some e → e.setBy = s.acq g → (s.pc g).owns = true →
    e.expiresAt ≤ s.lease g
  /-- a live entry was written by the acquisition that set it -/
  written : ∀ e, s.live = some e → e.writtenBy = e.setBy
  /-- entries are set by calls of `Lock` that were made -/
  called : ∀ e g, s.entry = some e → e.setBy.1 = g → e.setBy.2 ≤ s.calls g
  /-- a call of `Lock` that has not got the key has set none -/
  unset : ∀ e g, s.entry = some e → (s.pc g).waits = true → e.setBy ≠ s.acq g

theorem Inv.init {node : G → N} : Inv node (.init : State G N) := by
  constructor <;> simp [State.init, Pc.inMut, Pc.owns, Pc.waits, State.live, Cell.live]

section Inv

variable [DecidableEq G] [DecidableEq N] {node : G → N} {ttl : Nat} {s s' : State G N}

/-- A refresh or a delete that reaches the store does so before the lease of its
acquisition has run out, or finds no live entry. -/
def OnTime (s : State G N) : Act G N → Prop
  | .refreshLock n false =>
      ∀ g, s.refresher n = some g → s.now < s.lease g ∨ s.live = none
  | .delete g false => s.now < s.lease g ∨ s.live = none
  | _ => True

namespace Inv

omit [DecidableEq G] [DecidableEq N] in
theorem tick (h : Inv node s) (d : Nat) : Inv node { s with now := s.now + d } := by
  obtain ⟨h1, h2, h3, h4, h5, h6, h7⟩ := h
  constructor
  all_goals simp only [State.acq, State.live] at *
  all_goals grind

omit [DecidableEq N] in
/-- Moving a goroutine on without touching the key. -/
theorem goto (h : Inv node s) {g : G} {pc : Pc}
    (hin : pc.inMut = true → s.localMut (node g) = some g)
    (hrun : s.refresher (node g) = some g → pc = .held ∨ pc = .stopping)
    (howns : pc.owns = true → (s.pc g).owns = true)
    (hwaits : pc.waits = true → (s.pc g).waits = true) : Inv node (s.goto g pc) := by
  obtain ⟨h1, h2, h3, h4, h5, h6, h7⟩ := h
  constructor
  all_goals simp only [State.goto, Function.update_apply, State.acq, State.live] at *
  all_goals grind

omit [DecidableEq N] in
theorem callLock (h : Inv node s) {g : G} (hpc : s.pc g = .idle) :
    Inv node { s.goto g .wantMut with
      calls := Function.update s.calls g (s.calls g + 1) } := by
  obtain ⟨h1, h2, h3, h4, h5, h6, h7⟩ := h
  constructor
  all_goals simp only [State.goto, Function.update_apply, State.acq, State.live] at *
  all_goals grind

theorem lockMut (h : Inv node s) {g : G} (hpc : s.pc g = .wantMut)
    (hfree : s.localMut (node g) = none) :
    Inv node { s.goto g .trying with
      localMut := Function.update s.localMut (node g) (some g) } := by
  obtain ⟨h1, h2, h3, h4, h5, h6, h7⟩ := h
  constructor
  all_goals simp only [State.goto, Function.update_apply, State.acq, State.live] at *
  all_goals grind

/-- Unlocking the process-local mutex. -/
theorem unlockMut (h : Inv node s) {g : G}
    (hpc : s.pc g = .polling ∨ s.pc g = .unlocking) :
    Inv node { s.goto g .idle with
      localMut := Function.update s.localMut (node g) none } := by
  obtain ⟨h1, h2, h3, h4, h5, h6, h7⟩ := h
  constructor
  all_goals simp only [State.goto, Function.update_apply, State.acq, State.live] at *
  all_goals grind

theorem tryLock (h : Inv node s) {g : G} (hpc : s.pc g = .trying) :
    Inv node (s.tryLock node ttl g) := by
  unfold State.tryLock Cell.setIfAbsent
  cases hlive : s.entry.live s.now with
  | some e =>
      exact h.goto (by grind [h.inMut g]) (by grind [h.refresher (node g) g])
        (by grind) (by grind)
  | none =>
      obtain ⟨h1, h2, h3, h4, h5, h6, h7⟩ := h
      simp only [Cell.fresh]
      constructor
      all_goals simp only [State.goto, Function.update_apply, State.acq,
        State.live] at *
      all_goals grind

omit [DecidableEq G] in
theorem refresherEnds (h : Inv node s) (n : N) :
    Inv node { s with refresher := Function.update s.refresher n none } := by
  obtain ⟨h1, h2, h3, h4, h5, h6, h7⟩ := h
  constructor
  all_goals simp only [Function.update_apply, State.acq, State.live] at *
  all_goals grind

theorem refreshLock (h : Inv node s) {n : N} {g : G} (hr : s.refresher n = some g)
    (hok : s.now < s.lease g ∨ s.live = none) : Inv node (s.refreshLock ttl n g) := by
  unfold State.refreshLock Cell.rewrite
  cases hlive : s.entry.live s.now with
  | none => exact h.refresherEnds n
  | some e =>
      obtain ⟨h1, h2, h3, h4, h5, h6, h7⟩ := h
      constructor
      all_goals simp only [Function.update_apply, State.acq, State.live] at *
      all_goals grind

omit [DecidableEq N] in
theorem delete (h : Inv node s) {g : G} (hpc : s.pc g = .deleting)
    (hok : s.now < s.lease g ∨ s.live = none) :
    Inv node { s.goto g .unlocking with entry := none } := by
  obtain ⟨h1, h2, h3, h4, h5, h6, h7⟩ := h
  constructor
  all_goals simp only [State.goto, Function.update_apply, State.acq, State.live] at *
  all_goals grind

/-- Step lemma: what is on time keeps the invariant. -/
theorem step {a : Act G N} (h : Inv node s) (hs : s.step node ttl a = some s')
    (hok : OnTime s a) : Inv node s' := by
  cases a with
  | tick d =>
      cases hs
      exact h.tick d
  | callLock g =>
      obtain ⟨hpc, hs⟩ := Option.ite_none_right_eq_some.1 hs
      cases hs
      exact h.callLock hpc
  | lockMut g =>
      obtain ⟨hpc, hs⟩ := Option.ite_none_right_eq_some.1 hs
      cases hs
      exact h.lockMut hpc.1 hpc.2
  | tryLock g fails =>
      obtain ⟨hpc, hs⟩ := Option.ite_none_right_eq_some.1 hs
      cases hs
      cases fails with
      | true =>
          exact h.goto (by grind [h.inMut g]) (by grind [h.refresher (node g) g])
            (by grind) (by grind)
      | false => exact h.tryLock hpc
  | retry g =>
      obtain ⟨hpc, hs⟩ := Option.ite_none_right_eq_some.1 hs
      cases hs
      exact h.goto (by grind [h.inMut g]) (by grind [h.refresher (node g) g]) (by grind)
        (by grind)
  | cancel g =>
      obtain ⟨hpc, hs⟩ := Option.ite_none_right_eq_some.1 hs
      cases hs
      exact h.unlockMut (.inl hpc)
  | refreshLock n fails =>
      simp only [State.step] at hs
      split at hs
      · cases hs
      next g hg =>
        cases hs
        cases fails with
        | true => exact h.refresherEnds n
        | false => exact h.refreshLock hg (hok g hg)
  | refresherStops n =>
      simp only [State.step] at hs
      split at hs
      · cases hs
      next g hg =>
        obtain ⟨hpc, hs⟩ := Option.ite_none_right_eq_some.1 hs
        cases hs
        exact h.refresherEnds n
  | callUnlock g =>
      obtain ⟨hpc, hs⟩ := Option.ite_none_right_eq_some.1 hs
      cases hs
      have hmut := h.inMut g (by grind)
      simp only [hmut, reduceCtorEq, if_false]
      exact h.goto (by grind) (by grind) (by grind) (by grind)
  | refresherDone g =>
      obtain ⟨hpc, hs⟩ := Option.ite_none_right_eq_some.1 hs
      cases hs
      exact h.goto (by grind [h.inMut g]) (by grind) (by grind) (by grind)
  | delete g fails =>
      obtain ⟨hpc, hs⟩ := Option.ite_none_right_eq_some.1 hs
      cases hs
      cases fails with
      | true =>
          exact h.goto (by grind [h.inMut g]) (by grind [h.refresher (node g) g])
            (by grind) (by grind)
      | false => exact h.delete hpc hok
  | unlockMut g =>
      obtain ⟨hpc, hs⟩ := Option.ite_none_right_eq_some.1 hs
      cases hs
      exact h.unlockMut (.inr hpc)

end Inv

/-- Run lemma. -/
theorem Runs.inv (hr : Runs node ttl (fun s a _ => OnTime s a) s) : Inv node s := by
  induction hr with
  | init => exact Inv.init
  | step hr hs hok ih => exact ih.step hs hok

/-! ## Stale holders -/

/-- The acquisition on whose behalf a step refreshes or deletes the key. -/
def State.actor (s : State G N) : Act G N → Option (G × Nat)
  | .refreshLock n _ => (s.refresher n).map s.acq
  | .delete g _ => some (s.acq g)
  | _ => none

/-- A refresh or a delete on behalf of one acquisition deletes, overwrites or
extends the live entry that another one has set. -/
def Disturbs (s : State G N) (a : Act G N) (s' : State G N) : Prop :=
  ∃ b e, s.actor a = some b ∧ s.live = some e ∧ e.setBy ≠ b ∧ s'.live ≠ some e

omit [DecidableEq G] [DecidableEq N] in
/-- A refresh or a delete after the lease has run out meets an entry of another. -/
theorem Inv.live_of_late (h : Inv node s) {g : G} (howns : (s.pc g).owns = true)
    (hlate : s.lease g ≤ s.now) {e : Entry (G × Nat)} (he : s.live = some e) :
    e.setBy ≠ s.acq g := by
  intro hset
  have he' := Cell.live_eq_some.1 he
  have := h.expiry e g he'.1 hset howns
  omega

omit [DecidableEq G] [DecidableEq N] in
/-- A refresh or a delete on time meets the entry of its own acquisition. -/
theorem Inv.live_of_onTime (h : Inv node s) {g : G} (howns : (s.pc g).owns = true)
    (hok : s.now < s.lease g ∨ s.live = none) {e : Entry (G × Nat)}
    (he : s.live = some e) :
    e.setBy = s.acq g := by
  have he' := Cell.live_eq_some.1 he
  rcases hok with hok | hok
  · have := h.lease g howns hok
    rw [he'.1] at this
    rw [Option.some.inj this]
  · simp [he] at hok

/-- The goroutine a refresh or a delete acts for owns the key, as far as it knows. -/
theorem Inv.owns_of_actor (h : Inv node s) {a : Act G N}
    (hs : s.step node ttl a = some s')
    {b : G × Nat} (hb : s.actor a = some b) : ∃ g, b = s.acq g ∧
    (s.pc g).owns = true := by
  cases a with
  | refreshLock n fails =>
      obtain ⟨g, hg, rfl⟩ := Option.map_eq_some_iff.1 hb
      refine ⟨g, rfl, ?_⟩
      rcases (h.refresher n g hg).2 with hpc | hpc <;> rw [hpc] <;> rfl
  | delete g fails =>
      obtain ⟨hpc, -⟩ := Option.ite_none_right_eq_some.1 hs
      exact ⟨g, (Option.some.inj hb).symm, by rw [hpc]; rfl⟩
  | _ => simp [State.actor] at hb

/-- In a run all of whose refreshes and deletes so far were on time, the next step
disturbs the entry of another acquisition if and only if it is not on time. -/
theorem disturbs_iff_not_onTime {a : Act G N}
    (hr : Runs node ttl (fun s a _ => OnTime s a) s)
    (hs : s.step node ttl a = some s') : Disturbs s a s' ↔ ¬ OnTime s a := by
  have h := hr.inv
  constructor
  · rintro ⟨b, e, hb, he, hne, hchange⟩ hok
    obtain ⟨g, rfl, howns⟩ := h.owns_of_actor hs hb
    cases a with
    | refreshLock n fails =>
        obtain ⟨g', hg', heq⟩ := Option.map_eq_some_iff.1 hb
        obtain rfl : g' = g := congrArg Prod.fst heq
        cases fails with
        | true =>
            simp only [State.step, hg', Option.some.injEq, if_true] at hs
            exact hchange (hs ▸ he)
        | false => exact hne (h.live_of_onTime howns (hok g' hg') he)
    | delete g' fails =>
        obtain rfl : g' = g := congrArg Prod.fst (Option.some.inj hb)
        obtain ⟨-, hs⟩ := Option.ite_none_right_eq_some.1 hs
        cases fails with
        | true =>
            cases hs
            exact hchange he
        | false => exact hne (h.live_of_onTime howns hok he)
    | _ => simp [State.actor] at hb
  · intro hlate
    cases a with
    | refreshLock n fails =>
        cases fails with
        | true => exact absurd trivial hlate
        | false =>
            simp only [OnTime, not_forall, not_or, Nat.not_lt] at hlate
            obtain ⟨g, hg, hlease, hlive⟩ := hlate
            obtain ⟨e, he⟩ := Option.ne_none_iff_exists'.1 hlive
            have hb : s.actor (.refreshLock n false) = some (s.acq g) := by
              simp [State.actor, hg]
            obtain ⟨g', hgg, howns⟩ := h.owns_of_actor hs hb
            obtain rfl : g = g' := congrArg Prod.fst hgg
            have hne := h.live_of_late howns hlease he
            refine ⟨_, e, hb, he, hne, fun he' => ?_⟩
            -- the entry now carries the name of the stale acquisition
            simp only [State.step, hg, Option.some.injEq, Bool.false_eq_true,
              if_false] at hs
            have hw := h.written e he
            rw [← hs, State.refreshLock, Cell.rewrite,
              show s.entry.live s.now = some e from he] at he'
            have := (Cell.live_eq_some.1 he').1
            grind
    | delete g fails =>
        cases fails with
        | true => exact absurd trivial hlate
        | false =>
            simp only [OnTime, not_or, Nat.not_lt] at hlate
            obtain ⟨e, he⟩ := Option.ne_none_iff_exists'.1 hlate.2
            obtain ⟨hpc, hs⟩ := Option.ite_none_right_eq_some.1 hs
            have hne := h.live_of_late (by rw [hpc]; rfl) hlate.1 he
            refine ⟨_, e, rfl, he, hne, fun he' => ?_⟩
            cases hs
            simp [State.live, Cell.live] at he'
    | _ => exact absurd trivial hlate

/-! ### A holder that comes back

Two nodes with one goroutine each.  The first one sets the key and is delayed
until it has expired; the second one sets it again. -/

/-- `Lock` that succeeds at once. -/
def lockSteps (g : Bool) : List (Act Bool Bool) :=
  [.callLock g, .lockMut g, .tryLock g false]

/-- Both hold the key, as far as they know. -/
def staleSchedule : List (Act Bool Bool) := lockSteps false ++ .tick 5 :: lockSteps true

/-- `Unlock` up to its `KVDelete`. -/
def unlockSteps (g : Bool) : List (Act Bool Bool) :=
  [.callUnlock g, .refresherStops g, .refresherDone g]

/-- The refresher of the first holder extends the entry of the second. -/
theorem refreshLock_extends_other : ∃ s s' : State Bool Bool,
    Runs id 4 (fun _ _ _ => True) s ∧ s.step id 4 (.refreshLock false false) = some s' ∧
      Disturbs s (.refreshLock false false) s' := by
  have hsched :
      ((State.init).sched id 4 (fun _ _ _ => true) (staleSchedule ++ [.tick 1])).map
      (fun s => (s.actor (.refreshLock false false), s.live,
        (s.step id 4 (.refreshLock false false)).map fun s' => s'.live)) =
      some (some (false, 1), some ⟨(true, 1), (true, 1), 9⟩,
        some (some ⟨(true, 1), (false, 1), 10⟩)) := rfl
  obtain ⟨s, hr, hf⟩ := Runs.exists_of_sched (fun _ _ _ _ => trivial) hsched
  simp only [Prod.mk.injEq] at hf
  obtain ⟨s', hs', hlive⟩ := Option.map_eq_some_iff.1 hf.2.2
  exact ⟨s, s', hr, hs', _, _, hf.1, hf.2.1, by decide, by rw [hlive]; decide⟩

/-- `Unlock` of the first holder deletes the entry of the second. -/
theorem unlock_deletes_other : ∃ s s' : State Bool Bool,
    Runs id 4 (fun _ _ _ => True) s ∧ s.step id 4 (.delete false false) = some s' ∧
      Disturbs s (.delete false false) s' := by
  have hsched : ((State.init).sched id 4 (fun _ _ _ => true)
      (staleSchedule ++ unlockSteps false)).map
      (fun s => (s.actor (.delete false false), s.live,
        (s.step id 4 (.delete false false)).map fun s' => s'.live)) =
      some (some (false, 1), some ⟨(true, 1), (true, 1), 9⟩, some none) := rfl
  obtain ⟨s, hr, hf⟩ := Runs.exists_of_sched (fun _ _ _ _ => trivial) hsched
  simp only [Prod.mk.injEq] at hf
  obtain ⟨s', hs', hlive⟩ := Option.map_eq_some_iff.1 hf.2.2
  exact ⟨s, s', hr, hs', _, _, hf.1, hf.2.1, by decide, by rw [hlive]; decide⟩

/-- A check that nothing is refreshed or deleted. -/
def quiet (_ : State G N) (a : Act G N) (_ : State G N) : Bool :=
  match a with
  | .refreshLock _ _ => false
  | .delete _ _ => false
  | _ => true

omit [DecidableEq G] [DecidableEq N] in
theorem onTime_of_quiet (s : State G N) (a : Act G N) (s' : State G N)
    (h : quiet s a s' = true) : OnTime s a := by
  cases a <;> simp_all [OnTime, quiet]

/-- A refresh in time disturbs nobody. -/
theorem disturbs_iff_not_onTime_of_refresh : ∃ s s' : State Bool Bool,
    s.step id 4 (.refreshLock true false) = some s' ∧
      s'.live = some ⟨(true, 1), (true, 1), 6⟩ ∧
      ¬ Disturbs s (.refreshLock true false) s' := by
  have hsched : ((State.init).sched id 4 quiet (lockSteps true ++ [.tick 2])).map
      (fun s => (s.now, s.lease true, s.refresher true,
        (s.step id 4 (.refreshLock true false)).map fun s' => s'.live)) =
      some (2, 4, some true, some (some ⟨(true, 1), (true, 1), 6⟩)) := rfl
  obtain ⟨s, hr, hf⟩ := Runs.exists_of_sched onTime_of_quiet hsched
  simp only [Prod.mk.injEq] at hf
  obtain ⟨hnow, hlease, hrefr, hlive⟩ := hf
  obtain ⟨s', hs', hlive⟩ := Option.map_eq_some_iff.1 hlive
  refine ⟨s, s', hs', hlive, fun hd => (disturbs_iff_not_onTime hr hs').1 hd
    fun g hg => ?_⟩
  obtain rfl : true = g := Option.some.inj (hrefr.symm.trans hg)
  exact .inl (by omega)

/-! ## Mutual exclusion -/

/-- A refresh that reaches the store does so before the lease has run out. -/
def RefreshesInTime (s : State G N) : Act G N → Prop
  | .refreshLock n false => ∀ g, s.refresher n = some g → s.now < s.lease g
  | _ => True

/-- So does the delete of an `Unlock`, or there is no live entry it could delete. -/
def DeletesInTime (s : State G N) : Act G N → Prop
  | .delete g false => s.now < s.lease g ∨ s.live = none
  | _ => True

/-- The key of every holder is refreshed before it expires. -/
def Refreshed (s : State G N) (a : Act G N) (s' : State G N) : Prop :=
  RefreshesInTime s a ∧ ∀ g, s'.pc g = .held → s'.now < s'.lease g

instance [Fintype G] (s : State G N) (a : Act G N) : Decidable (RefreshesInTime s a) :=
  match a with
  | .refreshLock n false =>
      inferInstanceAs (Decidable (∀ g, s.refresher n = some g → s.now < s.lease g))
  | .refreshLock _ true | .tick _ | .callLock _ | .lockMut _ | .tryLock _ _ | .retry _
  | .cancel _ | .refresherStops _ | .callUnlock _ | .refresherDone _ | .delete _ _
  | .unlockMut _ => isTrue trivial

instance (s : State G N) (a : Act G N) : Decidable (DeletesInTime s a) :=
  match a with
  | .delete g false => inferInstanceAs (Decidable (s.now < s.lease g ∨ s.live = none))
  | .delete _ true | .tick _ | .callLock _ | .lockMut _ | .tryLock _ _ | .retry _
  | .cancel _ | .refreshLock _ _ | .refresherStops _ | .callUnlock _ | .refresherDone _
  | .unlockMut _ => isTrue trivial

instance [Fintype G] (s : State G N) (a : Act G N) (s' : State G N) :
    Decidable (Refreshed s a s') := inferInstanceAs (Decidable (_ ∧ _))

omit [DecidableEq G] [DecidableEq N] in
theorem Refreshed.onTime {a : Act G N} (h : Refreshed s a s') (hd : DeletesInTime s a) :
    OnTime s a := by
  cases a with
  | refreshLock n fails =>
      cases fails with
      | true => trivial
      | false => exact fun g hg => .inl (h.1 g hg)
  | delete g fails => cases fails <;> exact hd
  | _ => trivial

theorem Runs.refreshed
    (hr : Runs node ttl (fun s a s' => Refreshed s a s' ∧ DeletesInTime s a) s) :
    (∀ g, s.pc g = .held → s.now < s.lease g) ∧ Inv node s := by
  induction hr with
  | init => exact ⟨fun g hg => by simp [State.init] at hg, Inv.init⟩
  | step hr hs hok ih => exact ⟨hok.1.2, ih.2.step hs (hok.1.onTime hok.2)⟩

omit [DecidableEq G] [DecidableEq N] in
/-- Two goroutines whose leases last are one if both own the key. -/
theorem Inv.owner_unique (h : Inv node s) {g g' : G} (hg : (s.pc g).owns = true)
    (hlease : s.now < s.lease g) (hg' : (s.pc g').owns = true)
    (hlease' : s.now < s.lease g') :
    g = g' := by
  have he := h.lease g hg hlease
  rw [h.lease g' hg' hlease'] at he
  have := congrArg (fun e => e.setBy.1) (Option.some.inj he)
  exact this.symm

/-- In every run in which holders refresh their keys in time and no `Unlock` deletes the
key of another, at most one goroutine of the cluster is between a `Lock` that returned
nil and its `Unlock`, and a `Lock` that returns an error unlocks the process-local mutex
and leaves neither an entry nor a refresher of its own. -/
theorem lock_exclusive
    (hr : Runs node ttl (fun s a s' => Refreshed s a s' ∧ DeletesInTime s a) s) :
    (∀ g g', s.pc g = .held → s.pc g' = .held → g = g') ∧
    ∀ g s', s.step node ttl (.cancel g) = some s' →
      s'.localMut (node g) = none ∧ (∀ e, s'.entry = some e → e.setBy ≠ s'.acq g) ∧
      (∀ n, s'.refresher n ≠ some g) ∧ s'.pc g = .idle := by
  obtain ⟨hl, h⟩ := hr.refreshed
  refine ⟨fun g g' hg hg' => h.owner_unique (by rw [hg]; rfl) (hl g hg)
    (by rw [hg']; rfl) (hl g' hg'), ?_⟩
  intro g s' hs
  obtain ⟨hpc, hs⟩ := Option.ite_none_right_eq_some.1 hs
  cases hs
  refine ⟨by simp, fun e he => h.unset e g he (by rw [hpc]; rfl), fun n hn => ?_,
    by simp [State.goto]⟩
  have := (h.refresher n g hn).2
  simp [hpc] at this

/-- The second of two goroutines of one node gets its turn. -/
theorem lock_exclusive_of_turns : ∃ s : State Bool Unit, s.pc true = .held ∧
    ∀ g, s.pc g = .held → g = true := by
  have hsched : ((State.init).sched (fun _ => ()) 4
      (fun s a s' => decide (Refreshed s a s' ∧ DeletesInTime s a))
      [.callLock false, .lockMut false, .tryLock false false, .callLock true, .tick 3,
        .refreshLock () false, .tick 2, .callUnlock false, .refresherStops (),
        .refresherDone false, .delete false false, .unlockMut false, .lockMut true,
        .tryLock true false]).map (fun s => s.pc true) = some .held := by decide
  obtain ⟨s, hr, hf⟩ :=
    Runs.exists_of_sched (fun _ _ s' h => of_decide_eq_true h) hsched
  exact ⟨s, hf, fun g hg => (lock_exclusive hr).1 g true hg hf⟩

/-- Holders refresh in time, and yet two goroutines hold the key: the `Unlock` of the
first one is delayed until its key has expired and deletes that of the second, whereupon
the first one locks again. -/
theorem lock_shared_of_lateDelete : ∃ s : State Bool Bool, Runs id 4 Refreshed s ∧
    s.pc false = .held ∧ s.pc true = .held := by
  have hsched : ((State.init).sched id 4 (fun s a s' => decide (Refreshed s a s'))
      (lockSteps false ++ unlockSteps false ++ .tick 5 :: lockSteps true ++
        [.delete false false, .unlockMut false] ++ lockSteps false)).map
      (fun s => (s.pc false, s.pc true)) = some (.held, .held) := by decide
  obtain ⟨s, hr, hf⟩ :=
    Runs.exists_of_sched (fun _ _ s' h => of_decide_eq_true h) hsched
  exact ⟨s, hr, Prod.mk.inj hf⟩

end Inv

end CallsPlugin.Ports.Cluster
