import CallsPlugin.Ports.Batching
import Mathlib.Data.List.Nodup

/-!
# What the batchers run

In every run the locks have their holders, so that a batcher is taken out of the maps
only while nobody is about to push to it: its queue is empty then, and stays so.  A join
or a removal that was pushed is therefore run once, or waits in the queue of a batcher
that goes on; and while it is run, its batcher has the lock of the call.
-/

namespace CallsPlugin.Ports

open CallsPlugin.Verified

/-! ## Who has the locks -/

def BatchStage.HasMut : BatchStage → Prop
  | .begin | .removing => False
  | _ => True

def BatchPlace.HasMut : BatchPlace → Prop
  | .looking _ | .pushing _ | .returning _ => True
  | .direct stage => stage.HasMut
  | _ => False

def BatchPlace.HasLock : BatchPlace → Prop
  | .direct _ | .unlocking => True
  | _ => False

def PluginBatcher.HasMut {T : Type} (b : PluginBatcher T) : Prop :=
  match b.phase with
  | .item _ _ => b.stage.HasMut
  | _ => False

namespace Batching

variable {T : Type} {req : T → BatchRequest} {s s' : Batching T}
  {but : Option (BatchHolder T)} {w : BatchHolder T} {t : T} {b : Nat} {p : BatchPlace}
  {batcher : PluginBatcher T} {key : BatcherKey}

/-- The holder is where `p.mut` is held. -/
def HoldsMut (s : Batching T) : BatchHolder T → Prop
  | .routine t => (s.place t).HasMut
  | .batcher b => (s.batchers b).HasMut
  | .others => False

/-- The holder is where the lock of the call is held. -/
def HoldsLock (req : T → BatchRequest) (s : Batching T) (channelID : String) :
    BatchHolder T → Prop
  | .routine t => (s.place t).HasLock ∧ (req t).key.channelID = channelID
  | .batcher b => (s.batchers b).batch ≠ none ∧ (s.batchers b).key.channelID = channelID
  | .others => False

/-- Locks have their holders, `but` perhaps apart; only the batchers in the maps are
pushed to, and those that are not are empty; and the batchers have in their logs what
the goroutines have pushed. -/
structure Sound (req : T → BatchRequest) (but : Option (BatchHolder T))
    (s : Batching T) : Prop where
  pmut : ∀ w, some w ≠ but → s.HoldsMut w → s.pmut = some w
  lock : ∀ w channelID, some w ≠ but → s.HoldsLock req channelID w →
    s.lock channelID = some w
  mapped : ∀ key b, s.batcherOf key = some b →
    b < s.made ∧ (s.batchers b).key = key ∧ (s.batchers b).detached = false
  pushing : ∀ t b, s.place t = .pushing b → s.batcherOf (req t).key = some b
  unmade : ∀ b, s.made ≤ b → (s.batchers b).toBatcher = .new 0 ∧
    (s.batchers b).detached = false
  batcher : ∀ b, (s.batchers b).Sound
  detached : ∀ b, (s.batchers b).detached = true → (s.batchers b).queue = []
  stopping : ∀ b, (s.batchers b).stopping = true → (s.batchers b).detached = true
  accepted : ∀ t b, t ∈ pushes (s.batchers b).log ↔
    s.place t = .returning (.queued b) ∨ s.place t = .done (.queued b)
  once : ∀ b, (pushes (s.batchers b).log).Nodup
  keyed : ∀ t b, t ∈ pushes (s.batchers b).log → (s.batchers b).key = (req t).key

theorem sound_initial (req : T → BatchRequest) (row : String → Bool) :
    (initial row).Sound req none where
  pmut w _ h := by
    cases w <;> exact h.elim
  lock w _ _ h := by
    cases w with
    | routine t => exact h.1.elim
    | batcher b => exact absurd rfl h.1
    | others => exact h.elim
  mapped _ _ h := nomatch h
  pushing _ _ h := nomatch h
  unmade _ _ := ⟨rfl, rfl⟩
  batcher _ := Batcher.sound_new 0
  detached _ h := nomatch h
  stopping _ h := nomatch h
  accepted _ _ := ⟨fun h => (nomatch h), fun h => by rcases h with h | h <;> cases h⟩
  once _ := List.nodup_nil
  keyed _ _ h := nomatch h

/-- Nobody is followed less closely. -/
theorem Sound.weaken (h : s.Sound req none) (w : BatchHolder T) :
    s.Sound req (some w) :=
  { h with
    pmut := fun w' _ => h.pmut w' (Option.some_ne_none w')
    lock := fun w' channelID _ => h.lock w' channelID (Option.some_ne_none w') }

/-- Rows and flags do not matter. -/
theorem Sound.rows (h : s.Sound req but) (row : String → Bool)
    (removed : SessionRef → Bool) :
    Sound req but { s with row := row, removed := removed } :=
  ⟨h.pmut, h.lock, h.mapped, h.pushing, h.unmade, h.batcher, h.detached, h.stopping,
    h.accepted, h.once, h.keyed⟩

/-- `p.mut` is locked while it is free. -/
theorem Sound.lockMut (h : s.Sound req none) (hfree : s.pmut = none)
    (w : BatchHolder T) :
    Sound req none { s with pmut := some w } :=
  { h with
    pmut := fun w' hne hw' => by
      have hheld : s.pmut = some w' := h.pmut w' hne hw'
      rw [hfree] at hheld
      cases hheld }

/-- `p.mut` is unlocked by its holder. -/
theorem Sound.unlockMut (h : s.Sound req none) (hheld : s.pmut = some w) :
    Sound req (some w) { s with pmut := none } :=
  { h.weaken w with
    pmut := fun w' hne hw' => by
      have hother : s.pmut = some w' := h.pmut w' (Option.some_ne_none w') hw'
      exact absurd (hother.symm.trans hheld) hne }

/-- The lock of a call is taken while it is free. -/
theorem Sound.takeLock (h : s.Sound req none) {channelID : String}
    (hfree : s.lock channelID = none)
    (w : BatchHolder T) : Sound req none (s.setLock channelID (some w)) :=
  { h with
    lock := fun w' channelID' hne hw' => by
      have hheld : s.lock channelID' = some w' := h.lock w' channelID' hne hw'
      have hne : channelID' ≠ channelID := by
        rintro rfl
        rw [hfree] at hheld
        cases hheld
      exact (Function.update_of_ne hne ..).trans hheld }

/-- The lock of a call is released by its holder. -/
theorem Sound.freeLock (h : s.Sound req none) {channelID : String}
    (hheld : s.lock channelID = some w) :
    Sound req (some w) (s.setLock channelID none) :=
  { h.weaken w with
    lock := fun w' channelID' hne hw' => by
      have hother : s.lock channelID' = some w' :=
        h.lock w' channelID' (Option.some_ne_none w') hw'
      have hne : channelID' ≠ channelID := by
        rintro rfl
        exact hne (hother.symm.trans hheld)
      exact (Function.update_of_ne hne ..).trans hother }

/-- Others are not followed. -/
theorem Sound.others (h : s.Sound req (some .others)) : s.Sound req none :=
  { h with
    pmut := fun w _ hw => by
      by_cases heq : w = .others
      · exact (heq ▸ hw : s.HoldsMut .others).elim
      · exact h.pmut w (fun he => heq (Option.some.inj he)) hw
    lock := fun w channelID _ hw => by
      by_cases heq : w = .others
      · exact (heq ▸ hw : s.HoldsLock req channelID .others).elim
      · exact h.lock w channelID (fun he => heq (Option.some.inj he)) hw }

section Moves

variable [DecidableEq T]

theorem goto_place (s : Batching T) (t : T) (place : BatchPlace) (t' : T) :
    (s.goto t place).place t' = if t' = t then place else s.place t' :=
  Function.update_apply s.place t place t'

omit [DecidableEq T] in
theorem set_batchers (s : Batching T) (b : Nat) (batcher : PluginBatcher T) (b' : Nat) :
    (s.set b batcher).batchers b' = if b' = b then batcher else s.batchers b' :=
  Function.update_apply s.batchers b batcher b'

/-- A goroutine goes on: to a place where it has what it holds, and what it has
pushed. -/
theorem Sound.goto (h : s.Sound req (some (.routine t)))
    (hmut : p.HasMut → s.pmut = some (.routine t))
    (hlock : p.HasLock → s.lock (req t).key.channelID = some (.routine t))
    (hpushing : ∀ b, p = .pushing b → s.batcherOf (req t).key = some b)
    (haccepted : ∀ b, t ∈ pushes (s.batchers b).log ↔
      p = .returning (.queued b) ∨ p = .done (.queued b)) :
    Sound req none (s.goto t p) :=
  { h with
    pmut := fun w _ hw => by
      by_cases hwt : w = .routine t
      · subst hwt
        have hw : ((s.goto t p).place t).HasMut := hw
        rw [goto_place, if_pos rfl] at hw
        exact hmut hw
      · refine h.pmut w (fun heq => hwt (Option.some.inj heq)) ?_
        cases w with
        | routine t' =>
            have hw : ((s.goto t p).place t').HasMut := hw
            rwa [goto_place, if_neg fun heq =>
              hwt (congrArg BatchHolder.routine heq)] at hw
        | batcher b => exact hw
        | others => exact hw
    lock := fun w channelID _ hw => by
      by_cases hwt : w = .routine t
      · subst hwt
        obtain ⟨hhas, rfl⟩ := hw
        rw [goto_place, if_pos rfl] at hhas
        exact hlock hhas
      · refine h.lock w channelID (fun heq => hwt (Option.some.inj heq)) ?_
        cases w with
        | routine t' =>
            obtain ⟨hhas, hchannel⟩ := hw
            rw [goto_place, if_neg fun heq =>
              hwt (congrArg BatchHolder.routine heq)] at hhas
            exact ⟨hhas, hchannel⟩
        | batcher b => exact hw
        | others => exact hw
    pushing := fun t' b hplace => by
      rw [goto_place] at hplace
      split at hplace
      next heq =>
        rw [heq]
        exact hpushing b hplace
      next => exact h.pushing t' b hplace
    accepted := fun t' b => by
      rw [goto_place]
      split
      next heq =>
        rw [heq]
        exact haccepted b
      next => exact h.accepted t' b }

/-- A goroutine that has pushed nothing goes on to a place where it has not either. -/
theorem Sound.moves (h : s.Sound req (some (.routine t)))
    (hmut : p.HasMut → s.pmut = some (.routine t))
    (hlock : p.HasLock → s.lock (req t).key.channelID = some (.routine t))
    (hpushing : ∀ b, p = .pushing b → s.batcherOf (req t).key = some b)
    (hbefore : ∀ b, s.place t ≠ .returning (.queued b) ∧ s.place t ≠ .done (.queued b))
    (hafter : ∀ b, p ≠ .returning (.queued b) ∧ p ≠ .done (.queued b)) :
    Sound req none (s.goto t p) := by
  refine h.goto hmut hlock hpushing fun b => ⟨fun hmem => ?_, fun hplace => ?_⟩
  · rcases (h.accepted t b).1 hmem with hp | hp
    · exact absurd hp (hbefore b).1
    · exact absurd hp (hbefore b).2
  · rcases hplace with hp | hp
    · exact absurd hp (hafter b).1
    · exact absurd hp (hafter b).2

omit [DecidableEq T] in
/-- One batcher changes, and perhaps the maps and the number of batchers made. -/
theorem Sound.change (h : s.Sound req (some (.batcher b)))
    {batcherOf : BatcherKey → Option Nat}
    {made : Nat} (hmut : batcher.HasMut → s.pmut = some (.batcher b))
    (hlock : batcher.batch ≠ none → s.lock batcher.key.channelID = some (.batcher b))
    (hmapped : ∀ key b', batcherOf key = some b' → b' < made ∧
      ((s.set b batcher).batchers b').key = key ∧
        ((s.set b batcher).batchers b').detached = false)
    (hpushing : ∀ t b', s.place t = .pushing b' → batcherOf (req t).key = some b')
    (hunmade : ∀ b', made ≤ b' → ((s.set b batcher).batchers b').toBatcher = .new 0 ∧
      ((s.set b batcher).batchers b').detached = false)
    (hbatcher : batcher.toBatcher.Sound)
    (hqueue : batcher.detached = true → batcher.queue = [])
    (hstopping : batcher.stopping = true → batcher.detached = true)
    (hpushes : pushes batcher.log = pushes (s.batchers b).log)
    (hkeyed : ∀ t ∈ pushes batcher.log, batcher.key = (req t).key) :
    Sound req none { s.set b batcher with batcherOf := batcherOf, made := made } where
  pmut w _ hw := by
    by_cases hwb : w = .batcher b
    · subst hwb
      have hw : ((s.set b batcher).batchers b).HasMut := hw
      rw [set_batchers, if_pos rfl] at hw
      exact hmut hw
    · refine h.pmut w (fun heq => hwb (Option.some.inj heq)) ?_
      cases w with
      | routine t => exact hw
      | batcher b' =>
          have hw : ((s.set b batcher).batchers b').HasMut := hw
          rwa [set_batchers, if_neg fun heq =>
            hwb (congrArg BatchHolder.batcher heq)] at hw
      | others => exact hw
  lock w channelID _ hw := by
    by_cases hwb : w = .batcher b
    · subst hwb
      have hw : (s.set b batcher).HoldsLock req channelID (.batcher b) := hw
      obtain ⟨hbatch, hchannel⟩ := hw
      rw [set_batchers, if_pos rfl] at hbatch hchannel
      exact hchannel ▸ hlock hbatch
    · refine h.lock w channelID (fun heq => hwb (Option.some.inj heq)) ?_
      cases w with
      | routine t => exact hw
      | batcher b' =>
          have hw : (s.set b batcher).HoldsLock req channelID (.batcher b') := hw
          obtain ⟨hbatch, hchannel⟩ := hw
          rw [set_batchers, if_neg fun heq => hwb (congrArg BatchHolder.batcher heq)]
            at hbatch hchannel
          exact ⟨hbatch, hchannel⟩
      | others => exact hw
  mapped := hmapped
  pushing := hpushing
  unmade := hunmade
  batcher b' := by
    show ((s.set b batcher).batchers b').Sound
    rw [set_batchers]
    split
    next => exact hbatcher
    next => exact h.batcher b'
  detached b' := by
    show ((s.set b batcher).batchers b').detached = true →
      ((s.set b batcher).batchers b').queue = []
    rw [set_batchers]
    split
    next => exact hqueue
    next => exact h.detached b'
  stopping b' := by
    show ((s.set b batcher).batchers b').stopping = true →
      ((s.set b batcher).batchers b').detached = true
    rw [set_batchers]
    split
    next => exact hstopping
    next => exact h.stopping b'
  accepted t' b' := by
    show t' ∈ pushes ((s.set b batcher).batchers b').log ↔ _
    rw [set_batchers]
    split
    next heq =>
      subst heq
      rw [hpushes]
      exact h.accepted t' b'
    next => exact h.accepted t' b'
  once b' := by
    show (pushes ((s.set b batcher).batchers b').log).Nodup
    rw [set_batchers]
    split
    next heq =>
      subst heq
      rw [hpushes]
      exact h.once b'
    next => exact h.once b'
  keyed t' b' := by
    show t' ∈ pushes ((s.set b batcher).batchers b').log →
      ((s.set b batcher).batchers b').key = _
    rw [set_batchers]
    split
    next => exact hkeyed t'
    next => exact h.keyed t' b'

omit [DecidableEq T] in
/-- A batcher goes on. -/
theorem Sound.set (h : s.Sound req (some (.batcher b)))
    (hmut : batcher.HasMut → s.pmut = some (.batcher b))
    (hlock : batcher.batch ≠ none → s.lock batcher.key.channelID = some (.batcher b))
    (hkey : batcher.key = (s.batchers b).key)
    (hdetached : batcher.detached = (s.batchers b).detached)
    (hunmade : s.made ≤ b → batcher.toBatcher = .new 0)
    (hbatcher : batcher.toBatcher.Sound)
    (hqueue : batcher.detached = true → batcher.queue = [])
    (hstopping : batcher.stopping = true → batcher.detached = true)
    (hpushes : pushes batcher.log = pushes (s.batchers b).log) :
    Sound req none (s.set b batcher) := by
  refine h.change hmut hlock (fun key b' hb' => ?_) h.pushing (fun b' hb' => ?_)
    hbatcher hqueue hstopping hpushes fun t ht =>
    hkey.trans (h.keyed t b (hpushes ▸ ht))
  · obtain ⟨hlt, hk, hd⟩ := h.mapped key b' hb'
    rw [set_batchers]
    split
    next heq =>
      subst heq
      exact ⟨hlt, hkey.trans hk, hdetached.trans hd⟩
    next => exact ⟨hlt, hk, hd⟩
  · obtain ⟨hnew, hd⟩ := h.unmade b' hb'
    rw [set_batchers]
    split
    next heq =>
      subst heq
      exact ⟨hunmade hb', hdetached.trans hd⟩
    next => exact ⟨hnew, hd⟩

omit [DecidableEq T] in
/-- A batcher is made for an entry that has none. -/
theorem Sound.make (h : s.Sound req none) (hnone : s.batcherOf key = none)
    (size : Nat) :
    Sound req none (s.make key size) := by
  obtain ⟨hnew, -⟩ := h.unmade s.made (Nat.le_refl _)
  have hmap : ∀ key', Function.update s.batcherOf key (some s.made) key' =
      if key' = key then some s.made else s.batcherOf key' := fun key' =>
    Function.update_apply s.batcherOf key _ key'
  refine (h.weaken (.batcher s.made)).change (fun hmut => hmut.elim)
    (fun hbatch => absurd rfl hbatch)
    (fun key' b hb => ?_) (fun t b hplace => ?_) (fun b hb => ?_)
    (Batcher.sound_new size) (fun hd => nomatch hd) (fun hd => nomatch hd) ?_
    fun t ht => nomatch ht
  · rw [hmap] at hb
    rw [set_batchers]
    split at hb
    next hkey =>
      cases hb
      rw [if_pos rfl]
      exact ⟨Nat.lt_succ_self _, hkey.symm, rfl⟩
    next =>
      obtain ⟨hlt, hkey, hdetached⟩ := h.mapped key' b hb
      rw [if_neg (Nat.ne_of_lt hlt)]
      exact ⟨Nat.lt_succ_of_lt hlt, hkey, hdetached⟩
  · have hb : s.batcherOf (req t).key = some b := h.pushing t b hplace
    rw [hmap, if_neg]
    · exact hb
    · rintro hkey
      rw [hkey, hnone] at hb
      cases hb
  · have hlt : s.made < b := hb
    rw [set_batchers, if_neg (Nat.ne_of_gt hlt)]
    exact h.unmade b (Nat.le_of_lt hlt)
  · rw [hnew]
    rfl

omit [DecidableEq T] in
/-- A batcher is taken out of the map while no goroutine is about to push. -/
theorem Sound.detach (h : s.Sound req none) (hnone : ∀ t b, s.place t ≠ .pushing b) :
    Sound req none (s.detach key) := by
  unfold Batching.detach
  split
  next => exact h
  next b hb =>
    split
    next hempty =>
      obtain ⟨hlt, hkey, -⟩ := h.mapped key b hb
      have hmap : ∀ key', Function.update s.batcherOf key none key' =
          if key' = key then none else s.batcherOf key' := fun key' =>
        Function.update_apply s.batcherOf key none key'
      refine (h.weaken (.batcher b)).change
        (h.pmut (.batcher b) (Option.some_ne_none _))
        (fun hbatch => h.lock (.batcher b) _ (Option.some_ne_none _) ⟨hbatch, rfl⟩)
        (fun key' b' hb' => ?_) (fun t b' hplace => absurd hplace (hnone t b'))
        (fun b' hb' => ?_) (h.batcher b) (fun _ => List.isEmpty_iff.1 hempty)
        (fun _ => rfl) rfl fun t => h.keyed t b
      · rw [hmap] at hb'
        split at hb'
        next => cases hb'
        next hne =>
          obtain ⟨hlt', hkey', hdetached⟩ := h.mapped key' b' hb'
          have hother : b' ≠ b := by
            rintro rfl
            exact hne (hkey'.symm.trans hkey)
          rw [set_batchers, if_neg hother]
          exact ⟨hlt', hkey', hdetached⟩
      · have hother : b' ≠ b := fun heq => absurd (heq ▸ hlt) (Nat.not_lt.2 hb')
        rw [set_batchers, if_neg hother]
        exact h.unmade b' hb'
    next => exact h

/-! ### A push -/

/-- The goroutine `t` has pushed to `b`, whose batcher is `c` now. -/
def pushedTo (s : Batching T) (t : T) (b : Nat) (c : Batcher T) : Batching T :=
  (s.set b { s.batchers b with toBatcher := c }).goto t (.returning (.queued b))

theorem pushedTo_place (s : Batching T) (t : T) (b : Nat) (c : Batcher T) (t' : T) :
    (s.pushedTo t b c).place t' = if t' =
    t then .returning (.queued b) else s.place t' :=
  goto_place _ t _ t'

theorem pushedTo_batchers (s : Batching T) (t : T) (b : Nat)
    (c : Batcher T) (b' : Nat) :
    (s.pushedTo t b c).batchers b' =
      if b' = b then { s.batchers b with toBatcher := c } else s.batchers b' :=
  set_batchers s b _ b'

section Pushed

variable {c : Batcher T}

/-- Who holds `p.mut` after a push held it before. -/
theorem HoldsMut.of_pushedTo (hplace : s.place t = .pushing b)
    (hpush : (s.batchers b).push t = some c) (hw : (s.pushedTo t b c).HoldsMut w) :
    s.HoldsMut w := by
  obtain rfl := Batcher.push_eq_some hpush
  cases w with
  | routine t' =>
      have hw : BatchPlace.HasMut ((s.pushedTo t b _).place t') := hw
      show (s.place t').HasMut
      rw [pushedTo_place] at hw
      split at hw
      next heq =>
        rw [heq, hplace]
        trivial
      next => exact hw
  | batcher b' =>
      have hw : PluginBatcher.HasMut ((s.pushedTo t b _).batchers b') := hw
      rw [pushedTo_batchers] at hw
      split at hw
      next heq => exact heq ▸ hw
      next => exact hw
  | others => exact hw

/-- Who holds the lock of a call after a push held it before. -/
theorem HoldsLock.of_pushedTo (hpush : (s.batchers b).push t = some c)
    {channelID : String} (hw : (s.pushedTo t b c).HoldsLock req channelID w) :
    s.HoldsLock req channelID w := by
  obtain rfl := Batcher.push_eq_some hpush
  cases w with
  | routine t' =>
      obtain ⟨hhas, hchannel⟩ := hw
      rw [pushedTo_place] at hhas
      split at hhas
      next => exact hhas.elim
      next => exact ⟨hhas, hchannel⟩
  | batcher b' =>
      obtain ⟨hbatch, hchannel⟩ := hw
      rw [pushedTo_batchers] at hbatch hchannel
      split at hbatch
      next heq =>
        rw [if_pos heq] at hchannel
        exact ⟨heq ▸ hbatch, heq ▸ hchannel⟩
      next hb =>
        rw [if_neg hb] at hchannel
        exact ⟨hbatch, hchannel⟩
  | others => exact hw

omit [DecidableEq T] in
theorem pushes_of_push (hpush : (s.batchers b).push t = some c) :
    pushes c.log = pushes (s.batchers b).log ++ [t] := by
  obtain rfl := Batcher.push_eq_some hpush
  exact pushes_concat _ _

omit [DecidableEq T] in
/-- A goroutine that is about to push has pushed nothing before. -/
theorem Sound.not_pushed (h : s.Sound req none)
    (hplace : s.place t = .pushing b) (b' : Nat) :
    t ∉ pushes (s.batchers b').log := by
  intro hmem
  rcases (h.accepted t b').1 hmem with hp | hp
  · cases hplace.symm.trans hp
  · cases hplace.symm.trans hp

omit [DecidableEq T] in
/-- The batcher that is pushed to is the one in the map, and goes on. -/
theorem Sound.pushes_to (h : s.Sound req none) (hplace : s.place t = .pushing b) :
    b < s.made ∧ (s.batchers b).key = (req t).key ∧ (s.batchers b).detached = false ∧
      (s.batchers b).stopping = false := by
  obtain ⟨hlt, hkey, hattached⟩ := h.mapped _ b (h.pushing t b hplace)
  refine ⟨hlt, hkey, hattached, ?_⟩
  by_contra hstopping
  have hdetached := h.stopping b (Bool.not_eq_false _ ▸ hstopping)
  rw [hattached] at hdetached
  cases hdetached

/-- The log of the batcher has the push. -/
theorem Sound.accepted_pushedTo (h : s.Sound req none) (hplace : s.place t = .pushing b)
    (hpush : (s.batchers b).push t = some c) (t' : T) (b' : Nat) :
    t' ∈ pushes ((s.pushedTo t b c).batchers b').log ↔
      (s.pushedTo t b c).place t' = .returning (.queued b') ∨
        (s.pushedTo t b c).place t' = .done (.queued b') := by
  rw [pushedTo_place, pushedTo_batchers]
  by_cases ht : t' = t
  · rw [if_pos ht, ht]
    split
    next heq =>
      rw [pushes_of_push hpush, heq]
      exact ⟨fun _ => .inl rfl,
        fun _ => List.mem_append_right _ (List.mem_singleton_self t)⟩
    next hb =>
      refine ⟨fun hmem => absurd hmem (h.not_pushed hplace b'), fun hp => ?_⟩
      rcases hp with hp | hp
      · cases hp
        exact absurd rfl hb
      · cases hp
  · rw [if_neg ht]
    split
    next heq =>
      rw [pushes_of_push hpush, heq, List.mem_append, List.mem_singleton,
        or_iff_left ht]
      exact h.accepted t' b
    next => exact h.accepted t' b'

/-- What is in the log of a batcher was pushed for its entry of the map. -/
theorem Sound.keyed_pushedTo (h : s.Sound req none) (hplace : s.place t = .pushing b)
    (hpush : (s.batchers b).push t = some c) (t' : T) (b' : Nat) :
    t' ∈ pushes ((s.pushedTo t b c).batchers b').log →
      ((s.pushedTo t b c).batchers b').key = (req t').key := by
  rw [pushedTo_batchers]
  split
  next =>
    intro hmem
    rw [pushes_of_push hpush, List.mem_append, List.mem_singleton] at hmem
    rcases hmem with hmem | rfl
    · exact h.keyed t' b hmem
    · exact (h.pushes_to hplace).2.1
  next => exact h.keyed t' b'

/-- A goroutine pushes to the batcher it has in hand, which is the one in the map. -/
theorem Sound.push (h : s.Sound req none) (hplace : s.place t = .pushing b)
    (hpush : (s.batchers b).push t = some c) : Sound req none (s.pushedTo t b c) := by
  obtain ⟨hlt, -, hattached, hgoes⟩ := h.pushes_to hplace
  have hsound : c.Sound := (h.batcher b).push hpush hgoes
  refine ⟨fun w hne hw => h.pmut w hne (.of_pushedTo hplace hpush hw),
    fun w channelID hne hw => h.lock w channelID hne (.of_pushedTo hpush hw),
    fun key b' hb' => ?_, fun t' b' hp => ?_, fun b' hb' => ?_, fun b' => ?_,
    fun b' => ?_,
    fun b' => ?_, h.accepted_pushedTo hplace hpush, fun b' => ?_,
      h.keyed_pushedTo hplace hpush⟩
  · have hold := h.mapped key b' hb'
    rw [pushedTo_batchers]
    split
    next heq => exact heq ▸ hold
    next => exact hold
  · rw [pushedTo_place] at hp
    split at hp
    next => cases hp
    next => exact h.pushing t' b' hp
  · have hother : b' ≠ b := fun heq => absurd (heq ▸ hlt) (Nat.not_lt.2 hb')
    rw [pushedTo_batchers, if_neg hother]
    exact h.unmade b' hb'
  · rw [pushedTo_batchers]
    split
    next => exact hsound
    next => exact h.batcher b'
  · rw [pushedTo_batchers]
    split
    next => exact fun hd => absurd (hattached.symm.trans hd) Bool.false_ne_true
    next => exact h.detached b'
  · obtain rfl := Batcher.push_eq_some hpush
    rw [pushedTo_batchers]
    split
    next => exact fun hs => absurd (hgoes.symm.trans hs) Bool.false_ne_true
    next => exact h.stopping b'
  · rw [pushedTo_batchers]
    split
    next =>
      rw [pushes_of_push hpush, ← List.concat_eq_append]
      exact List.Nodup.concat (h.not_pushed hplace b) (h.once b)
    next => exact h.once b'

end Pushed

/-! ## Steps -/

omit [DecidableEq T] in
theorem set_set (s : Batching T) (b : Nat) (batcher batcher' : PluginBatcher T) :
    (s.set b batcher).set b batcher' = s.set b batcher' := by
  unfold Batching.set
  rw [Function.update_idem]

omit [DecidableEq T] in
/-- Only the holder of `p.mut` can be about to push. -/
theorem Sound.not_pushing (h : s.Sound req none) (hheld : s.pmut = some w)
    (hw : ∀ t b, w = .routine t → s.place t ≠ .pushing b) :
    ∀ t b, s.place t ≠ .pushing b := by
  intro t b hplace
  have hmut : s.HoldsMut (.routine t) := by
    show (s.place t).HasMut
    rw [hplace]
    trivial
  have hother : s.pmut = some (.routine t) :=
    h.pmut (.routine t) (Option.some_ne_none _) hmut
  exact hw t b (Option.some.inj (hheld.symm.trans hother)) hplace

/-- What a step under the lock of the call leaves alone. -/
structure Works (s s' : Batching T) : Prop where
  lock : s'.lock = s.lock
  place : s'.place = s.place
  removed : s'.removed = s.removed
  rows : ∀ x, s'.row x = true → s.row x = true
  batchers : ∀ b, (s'.batchers b).toBatcher = (s.batchers b).toBatcher ∧
    (s'.batchers b).key = (s.batchers b).key

omit [DecidableEq T] in
theorem works_pmut (s : Batching T) (pmut : Option (BatchHolder T)) :
    s.Works { s with pmut := pmut } :=
  ⟨rfl, rfl, rfl, fun _ h => h, fun _ => ⟨rfl, rfl⟩⟩

omit [DecidableEq T] in
theorem detach_pmut (s : Batching T) (key : BatcherKey) :
    (s.detach key).pmut = s.pmut := by
  unfold Batching.detach
  split
  next => rfl
  next => split <;> rfl

omit [DecidableEq T] in
theorem works_detach (s : Batching T) (key : BatcherKey) : s.Works (s.detach key) := by
  unfold Batching.detach
  split
  next => exact works_pmut s _
  next b _ =>
    split
    next =>
      refine ⟨rfl, rfl, rfl, fun _ h => h, fun b' => ?_⟩
      show ((s.set b _).batchers b').toBatcher = _ ∧ ((s.set b _).batchers b').key = _
      rw [set_batchers]
      split
      next heq => exact heq ▸ ⟨rfl, rfl⟩
      next => exact ⟨rfl, rfl⟩
    next => exact works_pmut s _

omit [DecidableEq T] in
theorem works_delete (s : Batching T) (x : String) :
    s.Works { s with row := Function.update s.row x false } := by
  refine ⟨rfl, rfl, rfl, fun x' hx' => ?_, fun _ => ⟨rfl, rfl⟩⟩
  have hx' : Function.update s.row x false x' = true := hx'
  rw [Function.update_apply] at hx'
  split at hx'
  next => cases hx'
  next => exact hx'

omit [DecidableEq T] in
theorem works_of_work {r : BatchRequest} {ok : Bool} {stage : BatchStage}
    {next : Option BatchStage} (hwork : s.work w r ok stage = some (s', next)) :
    s.Works s' := by
  have hsame : s.Works s := works_pmut s s.pmut
  unfold Batching.work at hwork
  cases stage with
  | begin =>
      dsimp only at hwork
      split at hwork
      next =>
        cases hwork
        exact hsame
      next =>
        split at hwork
        next =>
          cases hwork
          exact works_pmut s _
        next => cases hwork
  | locked =>
      dsimp only at hwork
      split at hwork <;> cases hwork
      · exact hsame
      · exact hsame
  | noneLeft =>
      cases hwork
      exact works_detach s _
  | addsDone =>
      cases hwork
      exact works_detach s _
  | unlocking =>
      dsimp only at hwork
      split at hwork <;> cases hwork
      · exact works_pmut s _
      · exact works_pmut s _
  | removing =>
      dsimp only at hwork
      split at hwork
      next => cases hwork
      next us =>
        cases hwork
        split
        next => exact works_delete s _
        next => exact hsame

omit [DecidableEq T] in
/-- A step of `addSessionToCall` or `removeSessionFromCall` by a holder that is not
about to push: until the holder goes on, only its own place may not fit. -/
theorem Sound.work (h : s.Sound req none) {r : BatchRequest} {ok : Bool}
    {stage : BatchStage} {next : Option BatchStage}
    (hmut : stage.HasMut → s.pmut = some w)
    (hpushing : s.pmut = some w → ∀ t b, s.place t ≠ .pushing b)
    (hwork : s.work w r ok stage = some (s', next)) :
    s'.Sound req (some w) ∧ ∀ stage', next = some stage' → stage'.HasMut →
    s'.pmut = some w := by
  cases stage with
  | begin =>
      unfold Batching.work at hwork
      dsimp only at hwork
      split at hwork
      next =>
        cases hwork
        exact ⟨h.weaken w, nofun⟩
      next =>
        split at hwork
        next hfree =>
          cases hwork
          exact ⟨(h.lockMut hfree w).weaken w, fun _ _ _ => rfl⟩
        next => cases hwork
  | locked =>
      unfold Batching.work at hwork
      dsimp only at hwork
      split at hwork <;> cases hwork
      · exact ⟨h.weaken w, fun _ _ _ => hmut trivial⟩
      · exact ⟨h.weaken w, fun _ _ _ => hmut trivial⟩
  | noneLeft =>
      have hheld : s.pmut = some w := hmut trivial
      cases hwork
      exact ⟨(h.detach (hpushing hheld)).weaken w,
        fun _ _ _ => (detach_pmut s _).trans hheld⟩
  | addsDone =>
      have hheld : s.pmut = some w := hmut trivial
      cases hwork
      exact ⟨(h.detach (hpushing hheld)).weaken w,
        fun _ _ _ => (detach_pmut s _).trans hheld⟩
  | unlocking =>
      have hfrees := h.unlockMut (hmut trivial)
      unfold Batching.work at hwork
      dsimp only at hwork
      split at hwork <;> cases hwork
      · exact ⟨hfrees, nofun⟩
      · refine ⟨hfrees, fun stage' hstage hheld => ?_⟩
        cases hstage
        exact hheld.elim
  | removing =>
      unfold Batching.work at hwork
      dsimp only at hwork
      split at hwork
      next => cases hwork
      next us =>
        cases hwork
        refine ⟨?_, nofun⟩
        split
        next => exact (h.rows _ s.removed).weaken w
        next => exact h.weaken w

/-! ### The steps of `handleJoin` and `removeSession`, by the place the goroutine is
at -/

section Goes

variable {a : BatchAnswer} {count : Nat}

omit [DecidableEq T] in
/-- A goroutine that is elsewhere has not pushed. -/
theorem unpushed_of_place (hplace : s.place t = p)
    (hp : ∀ b, p ≠ .returning (.queued b) ∧ p ≠ .done (.queued b)) (b : Nat) :
    s.place t ≠ .returning (.queued b) ∧ s.place t ≠ .done (.queued b) :=
  hplace ▸ hp b

omit [DecidableEq T] in
/-- A goroutine holds `p.mut` where it has it. -/
theorem Sound.pmut_of_place (h : s.Sound req none) (hplace : s.place t = p)
    (hp : p.HasMut) :
    s.pmut = some (.routine t) :=
  h.pmut (.routine t) (Option.some_ne_none _) (hplace ▸ hp : (s.place t).HasMut)

omit [DecidableEq T] in
/-- A goroutine holds the lock of the call where it has it. -/
theorem Sound.lock_of_place (h : s.Sound req none) (hplace : s.place t = p)
    (hp : p.HasLock) :
    s.lock (req t).key.channelID = some (.routine t) :=
  h.lock (.routine t) _ (Option.some_ne_none _)
    ⟨(hplace ▸ hp : (s.place t).HasLock), rfl⟩

theorem Sound.go_start (h : s.Sound req none) (hplace : s.place t = .start)
    (hgo : s.go req t a = some s') : s'.Sound req none := by
  have hw := h.weaken (.routine t)
  have hbefore := unpushed_of_place hplace fun b => ⟨nofun, nofun⟩
  unfold Batching.go at hgo
  rw [hplace] at hgo
  dsimp only at hgo
  split at hgo
  next =>
    cases hgo
    exact hw.moves nofun nofun nofun hbefore fun b => ⟨nofun, nofun⟩
  next us _ =>
    split at hgo
    next =>
      cases hgo
      exact hw.moves nofun nofun nofun hbefore fun b => ⟨nofun, nofun⟩
    next =>
      cases hgo
      exact (hw.moves (p := .counting) nofun nofun nofun hbefore fun b =>
        ⟨nofun, nofun⟩).rows s.row (Function.update s.removed us true)

theorem Sound.go_wantsMut (h : s.Sound req none) (hplace : s.place t = .wantsMut count)
    (hgo : s.go req t a = some s') : s'.Sound req none := by
  unfold Batching.go at hgo
  rw [hplace] at hgo
  dsimp only at hgo
  split at hgo
  next hfree =>
    cases hgo
    have hlocked := (h.lockMut hfree (.routine t)).weaken (.routine t)
    exact hlocked.moves (p := .looking count) (fun _ => rfl) nofun nofun
      (unpushed_of_place (s := { s with pmut := _ }) hplace fun b => ⟨nofun, nofun⟩)
      fun b => ⟨nofun, nofun⟩
  next => cases hgo

/-- The goroutine finds a batcher, makes one, or goes on without. -/
theorem Sound.go_looking (h : s.Sound req none) (hplace : s.place t = .looking count)
    (hgo : s.go req t a = some s') : s'.Sound req none := by
  have hw := h.weaken (.routine t)
  have hbefore := unpushed_of_place hplace fun b => ⟨nofun, nofun⟩
  have hmut := h.pmut_of_place hplace trivial
  unfold Batching.go at hgo
  rw [hplace] at hgo
  dsimp only at hgo
  split at hgo
  next b hb =>
    cases hgo
    exact hw.moves (fun _ => hmut) nofun (fun b' heq => by cases heq; exact hb) hbefore
      fun b => ⟨nofun, nofun⟩
  next hnone =>
    split at hgo
    next =>
      cases hgo
      exact (h.unlockMut hmut).moves (p := .wantsLock) nofun nofun nofun hbefore
        fun b => ⟨nofun, nofun⟩
    next =>
      split at hgo
      next =>
        cases hgo
        have hmade := (h.make hnone ((req t).batchSize count)).weaken (.routine t)
        refine hmade.moves (fun _ => hmut) nofun (fun b' heq => ?_) hbefore fun b =>
          ⟨nofun, nofun⟩
        cases heq
        exact Function.update_self ..
      next =>
        cases hgo
        exact hw.moves (fun _ => hmut) nofun nofun hbefore fun b => ⟨nofun, nofun⟩

theorem Sound.go_pushing (h : s.Sound req none) (hplace : s.place t = .pushing b)
    (hgo : s.go req t a = some s') : s'.Sound req none := by
  have hmut := h.pmut_of_place hplace trivial
  unfold Batching.go at hgo
  rw [hplace] at hgo
  dsimp only at hgo
  split at hgo
  next pushed hpush =>
    cases hgo
    exact h.push hplace hpush
  next =>
    cases hgo
    exact (h.weaken (.routine t)).moves (fun _ => hmut) nofun nofun
      (unpushed_of_place hplace fun b => ⟨nofun, nofun⟩) fun b => ⟨nofun, nofun⟩

theorem Sound.go_returning {res : BatchResult} (h : s.Sound req none)
    (hplace : s.place t = .returning res) (hgo : s.go req t a = some s') :
    s'.Sound req none := by
  have hmut := h.pmut_of_place hplace trivial
  unfold Batching.go at hgo
  rw [hplace] at hgo
  cases hgo
  refine (h.unlockMut hmut).goto (p := .done res) nofun nofun nofun fun b => ?_
  have haccepted := h.accepted t b
  rw [hplace] at haccepted
  refine haccepted.trans ⟨fun hp => ?_, fun hp => ?_⟩
  · rcases hp with hp | hp <;> cases hp
    exact .inr rfl
  · rcases hp with hp | hp <;> cases hp
    exact .inl rfl

theorem Sound.go_wantsLock (h : s.Sound req none) (hplace : s.place t = .wantsLock)
    (hgo : s.go req t a = some s') : s'.Sound req none := by
  have hbefore := unpushed_of_place hplace fun b => ⟨nofun, nofun⟩
  unfold Batching.go at hgo
  rw [hplace] at hgo
  dsimp only at hgo
  split at hgo
  next =>
    split at hgo
    next hfree =>
      cases hgo
      have htaken := (h.takeLock hfree (.routine t)).weaken (.routine t)
      exact htaken.moves (p := .direct .begin) (fun hm => hm.elim)
        (fun _ => Function.update_self ..) nofun hbefore fun b => ⟨nofun, nofun⟩
    next => cases hgo
  next =>
    cases hgo
    exact (h.weaken (.routine t)).moves nofun nofun nofun hbefore fun b =>
      ⟨nofun, nofun⟩

/-- A step under the lock of the call, without a batcher. -/
theorem Sound.go_direct {stage : BatchStage} (h : s.Sound req none)
    (hplace : s.place t = .direct stage) (hgo : s.go req t a = some s') :
    s'.Sound req none := by
  have hmut : stage.HasMut → s.pmut = some (.routine t) := h.pmut_of_place hplace
  have hlocked := h.lock_of_place hplace trivial
  have hpushing : s.pmut = some (.routine t) → ∀ t' b, s.place t' ≠ .pushing b :=
      fun hmut =>
    h.not_pushing hmut fun t' b heq => by
      cases heq
      rw [hplace]
      exact nofun
  unfold Batching.go at hgo
  rw [hplace] at hgo
  dsimp only at hgo
  split at hgo
  next s₁ stage' hwork =>
    cases hgo
    obtain ⟨hsound, hkeeps⟩ := h.work hmut hpushing hwork
    have hrest := works_of_work hwork
    have hplace₁ := (congrFun hrest.place t).trans hplace
    exact hsound.moves (hkeeps stage' rfl) (fun _ => hrest.lock ▸ hlocked) nofun
      (unpushed_of_place hplace₁ fun b => ⟨nofun, nofun⟩) fun b => ⟨nofun, nofun⟩
  next s₁ hwork =>
    cases hgo
    have hsound := (h.work hmut hpushing hwork).1
    have hrest := works_of_work hwork
    have hplace₁ := (congrFun hrest.place t).trans hplace
    exact hsound.moves nofun (fun _ => hrest.lock ▸ hlocked) nofun
      (unpushed_of_place hplace₁ fun b => ⟨nofun, nofun⟩) fun b => ⟨nofun, nofun⟩
  next => cases hgo

theorem Sound.go_unlocking (h : s.Sound req none) (hplace : s.place t = .unlocking)
    (hgo : s.go req t a = some s') : s'.Sound req none := by
  have hlocked := h.lock_of_place hplace trivial
  have hbefore := unpushed_of_place hplace fun b => ⟨nofun, nofun⟩
  unfold Batching.go at hgo
  rw [hplace] at hgo
  cases hgo
  exact (h.freeLock hlocked).moves (p := .done .ran) nofun nofun nofun hbefore
    fun b => ⟨nofun, nofun⟩

/-- A step of `handleJoin` or `removeSession`. -/
theorem Sound.go (h : s.Sound req none) (hgo : s.go req t a = some s') :
    s'.Sound req none := by
  rcases hplace : s.place t with _ | _ | count | count | b | res | _ | stage | _ | res
  case start => exact h.go_start hplace hgo
  case counting =>
    unfold Batching.go at hgo
    rw [hplace] at hgo
    cases hgo
    exact (h.weaken (.routine t)).moves nofun nofun nofun
      (unpushed_of_place hplace fun b => ⟨nofun, nofun⟩) fun b => ⟨nofun, nofun⟩
  case wantsMut => exact h.go_wantsMut hplace hgo
  case looking => exact h.go_looking hplace hgo
  case pushing => exact h.go_pushing hplace hgo
  case returning => exact h.go_returning hplace hgo
  case wantsLock => exact h.go_wantsLock hplace hgo
  case direct => exact h.go_direct hplace hgo
  case unlocking => exact h.go_unlocking hplace hgo
  case done =>
    unfold Batching.go at hgo
    rw [hplace] at hgo
    cases hgo

end Goes

omit [DecidableEq T] in
/-- A step of the routine of a batcher, which has the locks it needs afterwards. -/
theorem Sound.routine (h : s.Sound req (some (.batcher b))) {c : Batcher T}
    {stage : BatchStage} (hcont : (s.batchers b).toBatcher.Continues c)
    (hsound : c.Sound) (hmut :
      PluginBatcher.HasMut { s.batchers b with toBatcher := c, stage := stage } →
      s.pmut = some (.batcher b))
    (hlock : c.batch ≠ none → s.lock (s.batchers b).key.channelID = some (.batcher b))
    (hidle : (s.batchers b).toBatcher = .new 0 → c = .new 0) :
    Sound req none (s.set b { s.batchers b with toBatcher := c, stage := stage }) := by
  refine h.set hmut hlock rfl rfl (fun hunmade => hidle (h.unmade b hunmade).1) hsound
    (fun hd => hcont.queue (h.detached b hd)) (fun hs => h.stopping b ?_) hcont.pushes
  have hstopping : c.stopping = true := hs
  rwa [hcont.stopping] at hstopping

omit [DecidableEq T] in
theorem hasMut_item {b : PluginBatcher T} {n : Nat} (hphase : b.phase = .item t n) :
    b.HasMut ↔ b.stage.HasMut := by
  unfold PluginBatcher.HasMut
  rw [hphase]

omit [DecidableEq T] in
/-- Between the items nothing is locked but the call. -/
theorem not_hasMut {b : PluginBatcher T} (hphase : ∀ t n, b.phase ≠ .item t n) :
    ¬ b.HasMut := by
  intro h
  unfold PluginBatcher.HasMut at h
  split at h
  next t n heq => exact hphase t n heq
  next => exact h

omit [DecidableEq T] in
theorem Sound.tick (h : s.Sound req none)
    (htick : s.onBatcher b Batcher.tick = some s') :
    s'.Sound req none := by
  obtain ⟨c, hc, rfl⟩ := Option.map_eq_some_iff.1 htick
  have hphase : (∀ t n, c.phase ≠ .item t n) ∧ c.batch = none := by
    obtain ⟨hwaiting, ⟨-, rfl⟩ | ⟨-, rfl⟩⟩ := Batcher.tick_eq_some hc
    · rw [Batcher.batch, hwaiting]
      exact ⟨fun _ _ heq => (by cases heq), rfl⟩
    · exact ⟨fun _ _ heq => (by cases heq), rfl⟩
  refine (h.weaken (.batcher b)).routine (Batcher.tick_continues hc)
    ((h.batcher b).tick hc) (fun hmut => absurd hmut (not_hasMut hphase.1))
    (fun hb => absurd hphase.2 hb) fun heq => ?_
  rw [heq] at hc
  cases hc
  rfl

/-- `PreRunCb` takes the lock of the call, or fails. -/
theorem Sound.preRun (h : s.Sound req none) {ok : Bool}
    (hpre : next req s (.preRun b ok) = some s') : s'.Sound req none := by
  cases ok with
  | false =>
      obtain ⟨c, hc, rfl⟩ := Option.map_eq_some_iff.1 hpre
      have hw := h.weaken (.batcher b)
      have hcont := Batcher.preRun_continues hc
      have hsound := (h.batcher b).preRun hc
      obtain ⟨n, hphase, ⟨hok, -⟩ | ⟨-, rfl⟩⟩ := Batcher.preRun_eq_some hc
      · cases hok
      refine hw.routine hcont hsound (fun hmut => hmut.elim)
        (fun hb => absurd rfl hb) fun heq => ?_
      rw [heq] at hphase
      cases hphase
  | true =>
      unfold Batching.next at hpre
      dsimp only at hpre
      split at hpre
      next hfree =>
        obtain ⟨s₁, hs₁, rfl⟩ := Option.map_eq_some_iff.1 hpre
        obtain ⟨c, hc, rfl⟩ := Option.map_eq_some_iff.1 hs₁
        have hcont := Batcher.preRun_continues hc
        have hsound := (h.batcher b).preRun hc
        obtain ⟨n, hphase, ⟨-, rfl⟩ | ⟨hok, -⟩⟩ := Batcher.preRun_eq_some hc
        · have htaken := (h.takeLock hfree (.batcher b)).weaken (.batcher b)
          refine htaken.routine hcont hsound (fun hmut => hmut.elim)
            (fun _ => Function.update_self ..) fun heq => ?_
          have heq : (s.batchers b).toBatcher = .new 0 := heq
          rw [heq] at hphase
          cases hphase
        · cases hok
      next => cases hpre

theorem Sound.receive (h : s.Sound req none)
    (hrec : next req s (.receive b) = some s') :
    s'.Sound req none := by
  obtain ⟨c, hc, rfl⟩ := Option.map_eq_some_iff.1 hrec
  have hset : (s.set b { s.batchers b with stage := .begin }).batchers b =
      { s.batchers b with stage := .begin } := Function.update_self ..
  rw [hset] at hc ⊢
  have hcont := Batcher.receive_continues hc
  have hsound := (h.batcher b).receive hc
  have hheld : (s.batchers b).batch ≠ none →
      s.lock (s.batchers b).key.channelID = some (.batcher b) :=
    fun hb => h.lock (.batcher b) _ (Option.some_ne_none _) ⟨hb, rfl⟩
  obtain ⟨n, t, rest, hphase, -, rfl⟩ := Batcher.receive_eq_some hc
  have hphase : (s.batchers b).phase = .running (n + 1) := hphase
  have hbatch : (s.batchers b).batch ≠ none := by
    rw [Batcher.batch, hphase]
    exact Option.some_ne_none _
  rw [set_set]
  refine (h.weaken (.batcher b)).routine hcont hsound (fun hmut => hmut.elim)
    (fun _ => hheld hbatch) fun heq => ?_
  rw [heq] at hphase
  cases hphase

omit [DecidableEq T] in
theorem Sound.item {ok : Bool} (h : s.Sound req none)
    (hitem : s.item req b ok = some s') :
    s'.Sound req none := by
  unfold Batching.item at hitem
  split at hitem
  next t n hphase =>
    have hmut : (s.batchers b).stage.HasMut →
        s.pmut = some (.batcher b) := fun hstage =>
      h.pmut (.batcher b) (Option.some_ne_none _) ((hasMut_item hphase).2 hstage)
    have hbatch : (s.batchers b).batch ≠ none := by
      rw [Batcher.batch, hphase]
      exact Option.some_ne_none _
    have hlock : s.lock (s.batchers b).key.channelID = some (.batcher b) :=
      h.lock (.batcher b) _ (Option.some_ne_none _) ⟨hbatch, rfl⟩
    have hpushing : s.pmut = some (.batcher b) → ∀ t' b', s.place t' ≠ .pushing b' :=
        fun hheld =>
      h.not_pushing hheld fun _ _ heq => by cases heq
    split at hitem
    next s₁ stage hwork =>
      cases hitem
      obtain ⟨hsound, hkeeps⟩ := h.work hmut hpushing hwork
      have hrest := works_of_work hwork
      obtain ⟨hsame, hkey⟩ := hrest.batchers b
      have hphase₁ : (s₁.batchers b).phase = .item t n := by rw [hsame, hphase]
      have hnew : (s₁.batchers b).toBatcher ≠ .new 0 := fun heq => by
        rw [heq] at hphase₁
        cases hphase₁
      have hitem := hasMut_item (b := { s₁.batchers b with stage := stage }) hphase₁
      refine hsound.routine (.refl _) (hsound.batcher b)
        (fun hm => hkeeps stage rfl (hitem.1 hm))
        (fun _ => ?_) fun heq => absurd heq hnew
      rw [hrest.lock, hkey, hlock]
    next s₁ hwork =>
      have hsound := (h.work hmut hpushing hwork).1
      have hrest := works_of_work hwork
      obtain ⟨-, hkey⟩ := hrest.batchers b
      obtain ⟨c, hc, rfl⟩ := Option.map_eq_some_iff.1 hitem
      have hcont := Batcher.returns_continues hc
      have hreturned := (hsound.batcher b).returns hc
      obtain ⟨t', n', hphase', rfl⟩ := Batcher.returns_eq_some hc
      refine hsound.routine hcont hreturned (fun hm => hm.elim)
        (fun _ => ?_) fun heq => ?_
      · rw [hrest.lock, hkey, hlock]
      · rw [heq] at hphase'
        cases hphase'
    next => cases hitem
  next => cases hitem

/-- `PostRunCb` releases the lock of the call. -/
theorem Sound.postRun (h : s.Sound req none)
    (hpost : next req s (.postRun b) = some s') :
    s'.Sound req none := by
  obtain ⟨s₁, hs₁, rfl⟩ := Option.map_eq_some_iff.1 hpost
  obtain ⟨c, hc, rfl⟩ := Option.map_eq_some_iff.1 hs₁
  have hcont := Batcher.postRun_continues hc
  have hsound := (h.batcher b).postRun hc
  obtain ⟨hphase, rfl⟩ := Batcher.postRun_eq_some hc
  have hbatch : (s.batchers b).batch ≠ none := by
    rw [Batcher.batch, hphase]
    exact Option.some_ne_none _
  have hheld : s.lock (s.batchers b).key.channelID = some (.batcher b) :=
    h.lock (.batcher b) _ (Option.some_ne_none _) ⟨hbatch, rfl⟩
  refine (h.freeLock hheld).routine hcont hsound (fun hm => hm.elim)
    (fun hb => absurd rfl hb) fun heq => ?_
  have heq : (s.batchers b).toBatcher = .new 0 := heq
  rw [heq] at hphase
  cases hphase

/-- A batcher that was taken out of the map is stopped. -/
theorem Sound.stop (h : s.Sound req none) (hstop : next req s (.stop b) = some s') :
    s'.Sound req none := by
  unfold Batching.next at hstop
  dsimp only at hstop
  split at hstop
  next hguard =>
    cases hstop
    have hqueue := h.detached b hguard.1
    refine (h.weaken (.batcher b)).set (h.pmut (.batcher b) (Option.some_ne_none _))
      (fun hb => h.lock (.batcher b) _ (Option.some_ne_none _) ⟨hb, rfl⟩) rfl rfl
      (fun hunmade => ?_) ((h.batcher b).stop hqueue) (fun _ => hqueue)
      (fun _ => hguard.1) ((pushes_concat _ _).trans (List.append_nil _))
    have hattached := (h.unmade b hunmade).2
    rw [hguard.1] at hattached
    cases hattached
  next => cases hstop

omit [DecidableEq T] in
theorem Sound.exit (h : s.Sound req none)
    (hexit : s.onBatcher b Batcher.exit = some s') :
    s'.Sound req none := by
  obtain ⟨c, hc, rfl⟩ := Option.map_eq_some_iff.1 hexit
  have hcont := Batcher.exit_continues hc
  have hsound := (h.batcher b).exit hc
  obtain ⟨-, hstopping, rfl⟩ := Batcher.exit_eq_some hc
  refine (h.weaken (.batcher b)).routine hcont hsound (fun hm => hm.elim)
    (fun hb => absurd rfl hb) fun heq => ?_
  rw [heq] at hstopping
  cases hstopping

/-- One step. -/
theorem Sound.next (h : s.Sound req none) {a : BatchAction T}
    (hnext : s.next req a = some s') :
    s'.Sound req none := by
  cases a with
  | go t a => exact h.go hnext
  | tick b => exact h.tick hnext
  | preRun b ok => exact h.preRun hnext
  | receive b => exact h.receive hnext
  | work b ok => exact h.item hnext
  | postRun b => exact h.postRun hnext
  | stop b => exact h.stop hnext
  | exit b => exact h.exit hnext
  | othersMut =>
      unfold Batching.next at hnext
      dsimp only at hnext
      split at hnext
      next hfree =>
        cases hnext
        exact h.lockMut hfree .others
      next => cases hnext
  | othersUnmut =>
      unfold Batching.next at hnext
      dsimp only at hnext
      split at hnext
      next hheld =>
        cases hnext
        exact (h.unlockMut hheld).others
      next => cases hnext
  | othersLock channelID =>
      unfold Batching.next at hnext
      dsimp only at hnext
      split at hnext
      next hfree =>
        cases hnext
        exact h.takeLock hfree .others
      next => cases hnext
  | othersUnlock channelID =>
      unfold Batching.next at hnext
      dsimp only at hnext
      split at hnext
      next hheld =>
        cases hnext
        exact (h.freeLock hheld).others
      next => cases hnext

/-- Every state of a run. -/
theorem Sound.of_runs {row : String → Bool}
    (hr : (machine req).Runs Machine.Always (initial row) s) :
    s.Sound req none := by
  refine hr.inv (sound_initial req row) fun s a hen _ h => ?_
  obtain ⟨s', hs'⟩ := Option.isSome_iff_exists.1 hen
  show ((s.next req a).getD s).Sound req none
  rw [hs']
  exact h.next hs'

end Moves

/-! ## The items -/

/-- An item whose `Push` returned is run or waits in a batcher that goes on, and is run
by no other and not by its own goroutine; items are run once each and in order, in
batches, under the lock of their call; and nothing is left in a batcher that is
stopped. -/
structure Batched (req : T → BatchRequest) (s : Batching T) : Prop where
  kept : ∀ t b, s.place t = .done (.queued b) → t ∈ runs (s.batchers b).log ∨
    t ∈ (s.batchers b).queue ∧ (s.batchers b).stopping = false ∧
    (s.batchers b).phase ≠ .exited
  own : ∀ t b, t ∈ runs (s.batchers b).log →
    s.place t = .returning (.queued b) ∨ s.place t = .done (.queued b)
  once : ∀ b, (runs (s.batchers b).log).Nodup
  inOrder : ∀ b, runs (s.batchers b).log <+: pushes (s.batchers b).log
  batches : ∀ b, Each InOrder (s.batchers b).log
  locked : ∀ b, openBatch (s.batchers b).log ≠ none →
    s.lock (s.batchers b).key.channelID = some (.batcher b)
  running : ∀ b t n, (s.batchers b).phase = .item t n →
    openBatch (s.batchers b).log = some n ∧
    s.lock (req t).key.channelID = some (.batcher b)
  stopped : ∀ b, .stopped ∈ (s.batchers b).log → (s.batchers b).queue = []

theorem Sound.batched (h : s.Sound req none) : s.Batched req where
  kept t b hplace := by
    have hmem : t ∈ pushes (s.batchers b).log := (h.accepted t b).2 (.inr hplace)
    rw [(h.batcher b).items, List.mem_append] at hmem
    refine hmem.imp_right fun hqueue => ?_
    have hne : (s.batchers b).queue ≠ [] := List.ne_nil_of_mem hqueue
    have hgoes : (s.batchers b).stopping ≠ true :=
      fun hs => hne (h.detached b (h.stopping b hs))
    exact ⟨hqueue, Bool.eq_false_iff.2 hgoes,
      fun hphase => hgoes ((h.batcher b).exited hphase)⟩
  own t b hran := by
    refine (h.accepted t b).1 ?_
    rw [(h.batcher b).items]
    exact List.mem_append_left _ hran
  once b := by
    have hnodup := h.once b
    rw [(h.batcher b).items] at hnodup
    exact hnodup.of_append_left
  inOrder b := ⟨_, (h.batcher b).items.symm⟩
  batches b := (h.batcher b).inOrder
  locked b hopen := by
    rw [(h.batcher b).opened] at hopen
    exact h.lock (.batcher b) _ (Option.some_ne_none _) ⟨hopen, rfl⟩
  running b t n hphase := by
    have hbatch : (s.batchers b).batch = some n := by rw [Batcher.batch, hphase]
    have hmem : t ∈ pushes (s.batchers b).log := by
      rw [(h.batcher b).items]
      exact List.mem_append_left _ ((h.batcher b).called t n hphase)
    refine ⟨(h.batcher b).opened.trans hbatch, ?_⟩
    rw [← h.keyed t b hmem]
    exact h.lock (.batcher b) _ (Option.some_ne_none _)
      ⟨hbatch ▸ Option.some_ne_none n, rfl⟩
  stopped b hmem := h.detached b (h.stopping b ((h.batcher b).stopped hmem))

/-- **Batched joins and leaves.**  For every order in which the goroutines, the batchers
and others go on, and whatever they find. -/
theorem batched_of_runs [DecidableEq T] (req : T → BatchRequest) (row : String → Bool)
    (s : Batching T) (hr : (machine req).Runs Machine.Always (initial row) s) :
    s.Batched req :=
  (Sound.of_runs hr).batched

/-- One goroutine adds a session, and the other removes it. -/
def joinAndRemove : Bool → BatchRequest
  | false => .handleJoin "chan"
  | true => .removeSession ⟨0, "chan", "conn"⟩

/-- The join waits for the second batch, as the first finds the call locked; the removal
is the last, and has both batchers stopped. -/
theorem batched_of_joinAndRemove : ∃ s : Batching Bool,
    (machine joinAndRemove).Runs Machine.Always (initial fun _ => true) s ∧
      ((s.batchers 0).log, (s.batchers 1).log) =
        ([.pushed false, .preRun 1, .ran false, .postRun, .stopped],
          [.pushed true, .preRun 1, .ran true, .stopped, .postRun]) ∧
      s.Batched joinAndRemove := by
  have hleads : ((machine joinAndRemove).leads (fun _ _ => true) (initial fun _ => true)
      [.go false ⟨true, 0⟩, .go false ⟨true, 200⟩, .go false ⟨true, 0⟩,
        .go false ⟨true, 0⟩,
        .go false ⟨true, 0⟩, .go false ⟨true, 0⟩, .tick 0, .preRun 0 false, .tick 0,
        .preRun 0 true,
        .receive 0, .work 0 true, .work 0 true, .work 0 true, .postRun 0,
        .go true ⟨true, 0⟩, .go true ⟨true, 150⟩, .go true ⟨true, 0⟩,
        .go true ⟨true, 0⟩,
        .go true ⟨true, 0⟩, .go true ⟨true, 0⟩, .tick 1, .preRun 1 true, .receive 1,
        .work 1 true,
        .work 1 false, .work 1 true, .work 1 true, .stop 0, .work 1 true, .stop 1,
        .work 1 true,
        .postRun 1, .exit 0, .exit 1]).map
          (fun s => ((s.batchers 0).log, (s.batchers 1).log)) =
      some ([.pushed false, .preRun 1, .ran false, .postRun, .stopped],
        [.pushed true, .preRun 1, .ran true, .stopped, .postRun]) := by
    decide
  obtain ⟨s, hr, hlogs⟩ :=
    Machine.Runs.exists_of_leads (fun s a _ => (trivial : Machine.Always s a)) hleads
  exact ⟨s, hr, hlogs, batched_of_runs joinAndRemove _ s hr⟩

end Batching

end CallsPlugin.Ports
