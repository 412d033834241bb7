import CallsPlugin.Verified.Log
import Mathlib.Data.List.Infix

/-!
# The batcher (`server/batching/batcher.go`)

A batcher queues items and has one routine that wakes up on every tick, takes as many
items as there were then, and runs them between its two callbacks.  Here it is by
itself: one operation for each thing that is done to it, by its users or by its routine,
and a log of what was done.

The items are run in the order in which they were pushed, each in a batch of its own
batcher.  What only the users can see to is that a batcher is stopped when its queue is
empty, and not used afterwards.
-/

namespace CallsPlugin.Ports

open CallsPlugin.Verified

/-! ## Operations -/

/-- Where the routine of a batcher is: it waits for a tick, it has counted the items and
calls `PreRunCb`, it has so many items to run still, or it runs one and then has so
many. -/
inductive BatchPhase (T : Type) where
  | waiting
  | preRun (batchSize : Nat)
  | running (left : Nat)
  | item (item : T) (left : Nat)
  | exited
  deriving DecidableEq

/-- What is done to a batcher. -/
inductive BatchEvent (T : Type) where
  | pushed (item : T)
  | preRun (batchSize : Nat)
  | ran (item : T)
  | postRun
  | stopped
  deriving DecidableEq

structure Batcher (T : Type) where
  size : Nat
  /-- `itemsCh` -/
  queue : List T
  phase : BatchPhase T
  /-- `stopCh` is closed -/
  stopping : Bool
  log : List (BatchEvent T)

namespace Batcher

variable {T : Type}

/-- `NewBatcher` and `Start` -/
def new (size : Nat) : Batcher T := ⟨size, [], .waiting, false, []⟩

/-- `Push`; `none` when the channel is full. -/
def push (b : Batcher T) (item : T) : Option (Batcher T) :=
  if b.queue.length < b.size then
    some { b with queue := b.queue ++ [item], log := b.log ++ [.pushed item] }
  else none

/-- A tick while the routine waits. -/
def tick (b : Batcher T) : Option (Batcher T) :=
  match b.phase with
  | .waiting =>
      some (if b.queue = [] then b else { b with phase := .preRun b.queue.length })
  | _ => none

/-- The return of `PreRunCb`. -/
def preRun (b : Batcher T) (ok : Bool) : Option (Batcher T) :=
  match b.phase with
  | .preRun n =>
      some (if ok then { b with phase := .running n, log := b.log ++ [.preRun n] }
      else { b with phase := .waiting })
  | _ => none

/-- The next item of the batch is received and called. -/
def receive (b : Batcher T) : Option (Batcher T) :=
  match b.phase, b.queue with
  | .running (n + 1), item :: rest =>
      some { b with queue := rest, phase := .item item n, log := b.log ++ [.ran item] }
  | _, _ => none

/-- The item returns. -/
def returns (b : Batcher T) : Option (Batcher T) :=
  match b.phase with
  | .item _ n => some { b with phase := .running n }
  | _ => none

/-- The return of `PostRunCb`. -/
def postRun (b : Batcher T) : Option (Batcher T) :=
  match b.phase with
  | .running 0 => some { b with phase := .waiting, log := b.log ++ [.postRun] }
  | _ => none

/-- `Stop` closes `stopCh`. -/
def stop (b : Batcher T) : Batcher T :=
  { b with stopping := true, log := b.log ++ [.stopped] }

/-- The routine finds `stopCh` closed. -/
def exit (b : Batcher T) : Option (Batcher T) :=
  match b.phase with
  | .waiting => if b.stopping = true then some { b with phase := .exited } else none
  | _ => none

/-- `Empty` -/
def empty (b : Batcher T) : Bool := b.queue.isEmpty

end Batcher

/-! ## What a log says -/

section Log

variable {T : Type}

/-- The items that were accepted, in the order of `Push`. -/
def pushes (l : List (BatchEvent T)) : List T :=
  l.filterMap fun e => match e with
    | .pushed item => some item
    | _ => none

/-- The items that were called, in order. -/
def runs (l : List (BatchEvent T)) : List T :=
  l.filterMap fun e => match e with
    | .ran item => some item
    | _ => none

/-- How many items are to be run still, if a batch is open. -/
def openBatch (l : List (BatchEvent T)) : Option Nat :=
  l.foldl (fun batch e => match e with
    | .preRun n => some n
    | .ran _ => batch.map (· - 1)
    | .postRun => none
    | _ => batch) none

theorem pushes_concat (l : List (BatchEvent T)) (e : BatchEvent T) :
    pushes (l ++ [e]) = pushes l ++ match e with
      | .pushed item => [item]
      | _ => [] := by
  cases e <;> simp [pushes]

theorem runs_concat (l : List (BatchEvent T)) (e : BatchEvent T) :
    runs (l ++ [e]) = runs l ++ match e with
      | .ran item => [item]
      | _ => [] := by
  cases e <;> simp [runs]

theorem openBatch_concat (l : List (BatchEvent T)) (e : BatchEvent T) :
    openBatch (l ++ [e]) = match e with
      | .preRun n => some n
      | .ran _ => (openBatch l).map (· - 1)
      | .postRun => none
      | _ => openBatch l := by
  unfold openBatch
  rw [List.foldl_append]
  cases e <;> rfl

theorem stopped_of_concat {l : List (BatchEvent T)} {e : BatchEvent T}
    (hmem : .stopped ∈ l ++ [e]) (hne : e ≠ .stopped) : .stopped ∈ l := by
  rcases List.mem_append.1 hmem with hmem | hmem
  · exact hmem
  · exact absurd (List.mem_singleton.1 hmem).symm hne

/-- An entry of a log that follows the rules: nothing is pushed to a stopped batcher,
and a batcher is stopped when all items were called; a batch is opened while none is
open, and closed when all its items were called; an item is called in an open batch,
after the items that were pushed before it. -/
def InOrder (before : List (BatchEvent T)) : BatchEvent T → Prop
  | .pushed _ => .stopped ∉ before
  | .preRun n => openBatch before = none ∧ 0 < n
  | .ran item =>
      (∃ n, openBatch before = some (n + 1)) ∧ runs before ++ [item] <+: pushes before
  | .postRun => openBatch before = some 0
  | .stopped => runs before = pushes before

end Log

/-! ## What a step does -/

namespace Batcher

variable {T : Type} {b b' : Batcher T} {item : T}

theorem push_eq_some (h : b.push item = some b') :
    b' = { b with queue := b.queue ++ [item], log := b.log ++ [.pushed item] } := by
  unfold push at h
  split at h
  next => exact (Option.some.inj h).symm
  next => cases h

theorem tick_eq_some (h : b.tick = some b') :
    b.phase = .waiting ∧
      (b.queue = [] ∧ b' = b ∨ b.queue ≠ [] ∧
        b' = { b with phase := .preRun b.queue.length }) := by
  unfold tick at h
  split at h
  next hphase =>
    cases h
    split
    next hempty => exact ⟨hphase, .inl ⟨hempty, rfl⟩⟩
    next hne => exact ⟨hphase, .inr ⟨hne, rfl⟩⟩
  next => cases h

theorem preRun_eq_some {ok : Bool} (h : b.preRun ok = some b') :
    ∃ n, b.phase = .preRun n ∧
      (ok = true ∧ b' = { b with phase := .running n, log := b.log ++ [.preRun n] } ∨
        ok = false ∧ b' = { b with phase := .waiting }) := by
  unfold preRun at h
  split at h
  next n hphase =>
    cases h
    cases ok with
    | true => exact ⟨n, hphase, .inl ⟨rfl, rfl⟩⟩
    | false => exact ⟨n, hphase, .inr ⟨rfl, rfl⟩⟩
  next => cases h

theorem receive_eq_some (h : b.receive = some b') :
    ∃ n item rest, b.phase = .running (n + 1) ∧ b.queue = item :: rest ∧
      b' =
      { b with queue := rest, phase := .item item n, log := b.log ++ [.ran item] } := by
  unfold receive at h
  split at h
  next n item rest hphase hqueue =>
    exact ⟨n, item, rest, hphase, hqueue, (Option.some.inj h).symm⟩
  next => cases h

theorem returns_eq_some (h : b.returns = some b') :
    ∃ item n, b.phase = .item item n ∧ b' = { b with phase := .running n } := by
  unfold returns at h
  split at h
  next item n hphase => exact ⟨item, n, hphase, (Option.some.inj h).symm⟩
  next => cases h

theorem postRun_eq_some (h : b.postRun = some b') :
    b.phase = .running 0 ∧
    b' = { b with phase := .waiting, log := b.log ++ [.postRun] } := by
  unfold postRun at h
  split at h
  next hphase => exact ⟨hphase, (Option.some.inj h).symm⟩
  next => cases h

theorem exit_eq_some (h : b.exit = some b') :
    b.phase = .waiting ∧ b.stopping = true ∧ b' = { b with phase := .exited } := by
  unfold exit at h
  split at h
  next hphase =>
    split at h
    next hstopping => exact ⟨hphase, hstopping, (Option.some.inj h).symm⟩
    next => cases h
  next => cases h

/-! ## The queue and the log -/

/-- The batch that is open, by the place of the routine. -/
def batch (b : Batcher T) : Option Nat :=
  match b.phase with
  | .running n => some n
  | .item _ n => some n
  | _ => none

/-- The items the routine counts on. -/
def due (b : Batcher T) : Nat :=
  match b.phase with
  | .preRun n => n
  | .running n => n
  | .item _ n => n
  | _ => 0

/-- The queue has what was pushed and not run yet, as many items as the routine counts
on; the routine exits when it is told to; and the log follows the rules. -/
structure Sound (b : Batcher T) : Prop where
  items : pushes b.log = runs b.log ++ b.queue
  opened : openBatch b.log = b.batch
  due : b.due ≤ b.queue.length
  counted : ∀ n, b.phase = .preRun n → 0 < n
  stopped : .stopped ∈ b.log → b.stopping = true
  exited : b.phase = .exited → b.stopping = true
  called : ∀ item n, b.phase = .item item n → item ∈ runs b.log
  inOrder : Each InOrder b.log

theorem sound_new (size : Nat) : (new size : Batcher T).Sound where
  items := rfl
  opened := rfl
  due := Nat.le_refl 0
  counted _ h := nomatch h
  stopped h := nomatch h
  exited h := nomatch h
  called _ _ h := nomatch h
  inOrder := .nil

theorem Sound.batch_eq (h : b.Sound) {batch : Option Nat} (hbatch : b.batch = batch) :
    openBatch b.log = batch := h.opened.trans hbatch

theorem Sound.due_le (h : b.Sound) {n : Nat} (hdue : b.due = n) :
    n ≤ b.queue.length := hdue ▸ h.due

theorem Sound.push (h : b.Sound) (hpush : b.push item = some b')
    (hgoes : b.stopping = false) :
    b'.Sound := by
  obtain rfl := push_eq_some hpush
  have hopen : .stopped ∉ b.log := fun hmem => by
    have hstopping := h.stopped hmem
    rw [hgoes] at hstopping
    cases hstopping
  refine ⟨?_, ?_, ?_, h.counted, fun hmem => h.stopped (stopped_of_concat hmem nofun),
    h.exited, fun item' n hphase => ?_, h.inOrder.concat hopen⟩
  · rw [pushes_concat, runs_concat, h.items, List.append_nil, List.append_assoc]
  · rw [openBatch_concat]
    exact h.opened
  · have hdue : b.due ≤ b.queue.length := h.due
    show b.due ≤ (b.queue ++ [item]).length
    rw [List.length_append]
    omega
  · rw [runs_concat]
    exact List.mem_append_left _ (h.called item' n hphase)

theorem Sound.tick (h : b.Sound) (htick : b.tick = some b') : b'.Sound := by
  obtain ⟨hphase, ⟨-, rfl⟩ | ⟨hne, rfl⟩⟩ := tick_eq_some htick
  · exact h
  · have hbatch : b.batch = none := by rw [batch, hphase]
    refine ⟨h.items, h.batch_eq hbatch, Nat.le_refl _, fun n hn => ?_, h.stopped, nofun,
      nofun, h.inOrder⟩
    cases hn
    exact List.length_pos_of_ne_nil hne

theorem Sound.preRun {ok : Bool} (h : b.Sound) (hpre : b.preRun ok = some b') :
    b'.Sound := by
  obtain ⟨n, hphase, hb'⟩ := preRun_eq_some hpre
  have hbatch : b.batch = none := by rw [batch, hphase]
  have hdue : b.due = n := by rw [Batcher.due, hphase]
  obtain ⟨-, rfl⟩ | ⟨-, rfl⟩ := hb'
  · refine ⟨?_, openBatch_concat b.log (.preRun n), h.due_le hdue, nofun,
      fun hmem => h.stopped (stopped_of_concat hmem nofun), nofun, nofun,
      h.inOrder.concat ⟨h.batch_eq hbatch, h.counted n hphase⟩⟩
    show pushes (b.log ++ [.preRun n]) = runs (b.log ++ [.preRun n]) ++ b.queue
    rw [pushes_concat, runs_concat, h.items, List.append_nil, List.append_nil]
  · exact ⟨h.items, h.batch_eq hbatch, Nat.zero_le _, nofun, h.stopped, nofun,
      nofun, h.inOrder⟩

theorem Sound.receive (h : b.Sound) (hrec : b.receive = some b') : b'.Sound := by
  obtain ⟨n, item, rest, hphase, hqueue, rfl⟩ := receive_eq_some hrec
  have hbatch : openBatch b.log = some (n + 1) := h.batch_eq (by rw [batch, hphase])
  have hdue : n + 1 ≤ b.queue.length := h.due_le (by rw [Batcher.due, hphase])
  rw [hqueue] at hdue
  have hitems : pushes b.log = (runs b.log ++ [item]) ++ rest := by
    rw [h.items, hqueue, List.append_assoc, List.singleton_append]
  refine ⟨?_, ?_, Nat.le_of_succ_le_succ hdue, nofun,
    fun hmem => h.stopped (stopped_of_concat hmem nofun), nofun,
    fun item' n' hitem => ?_, h.inOrder.concat ⟨⟨n, hbatch⟩, rest, hitems.symm⟩⟩
  · show pushes (b.log ++ [.ran item]) = runs (b.log ++ [.ran item]) ++ rest
    rw [pushes_concat, runs_concat, List.append_nil]
    exact hitems
  · show openBatch (b.log ++ [.ran item]) = some n
    rw [openBatch_concat, hbatch]
    rfl
  · cases hitem
    rw [runs_concat]
    exact List.mem_append_right _ (List.mem_singleton_self item)

theorem Sound.returns (h : b.Sound) (hret : b.returns = some b') : b'.Sound := by
  obtain ⟨item, n, hphase, rfl⟩ := returns_eq_some hret
  have hbatch : b.batch = some n := by rw [batch, hphase]
  have hdue : b.due = n := by rw [Batcher.due, hphase]
  exact ⟨h.items, h.batch_eq hbatch, h.due_le hdue, nofun, h.stopped, nofun,
    nofun, h.inOrder⟩

theorem Sound.postRun (h : b.Sound) (hpost : b.postRun = some b') : b'.Sound := by
  obtain ⟨hphase, rfl⟩ := postRun_eq_some hpost
  refine ⟨?_, openBatch_concat b.log .postRun, Nat.zero_le _, nofun,
    fun hmem => h.stopped (stopped_of_concat hmem nofun), nofun, nofun,
    h.inOrder.concat (h.batch_eq (by rw [batch, hphase]))⟩
  show pushes (b.log ++ [.postRun]) = runs (b.log ++ [.postRun]) ++ b.queue
  rw [pushes_concat, runs_concat, h.items, List.append_nil, List.append_nil]

theorem Sound.stop (h : b.Sound) (hempty : b.queue = []) : b.stop.Sound := by
  refine ⟨?_, ?_, h.due, h.counted, fun _ => rfl, fun _ => rfl, fun item n hphase => ?_,
    h.inOrder.concat ?_⟩
  · show pushes (b.log ++ [.stopped]) = runs (b.log ++ [.stopped]) ++ b.queue
    rw [pushes_concat, runs_concat, h.items, List.append_nil, List.append_nil]
  · exact (openBatch_concat b.log .stopped).trans h.opened
  · show item ∈ runs (b.log ++ [.stopped])
    rw [runs_concat, List.append_nil]
    exact h.called item n hphase
  · show runs b.log = pushes b.log
    rw [h.items, hempty, List.append_nil]

theorem Sound.exit (h : b.Sound) (hexit : b.exit = some b') : b'.Sound := by
  obtain ⟨hphase, hstopping, rfl⟩ := exit_eq_some hexit
  have hbatch : b.batch = none := by rw [batch, hphase]
  exact ⟨h.items, h.batch_eq hbatch, Nat.zero_le _, nofun, h.stopped,
    fun _ => hstopping, nofun, h.inOrder⟩

/-! ## What a step of the routine leaves alone -/

/-- Nothing is pushed, the queue stays empty if it is, and nobody stops the batcher. -/
structure Continues (b b' : Batcher T) : Prop where
  pushes : pushes b'.log = Ports.pushes b.log
  queue : b.queue = [] → b'.queue = []
  stopping : b'.stopping = b.stopping

theorem Continues.refl (b : Batcher T) : b.Continues b := ⟨rfl, fun h => h, rfl⟩

theorem tick_continues (h : b.tick = some b') : b.Continues b' := by
  obtain ⟨-, ⟨-, rfl⟩ | ⟨-, rfl⟩⟩ := tick_eq_some h
  · exact .refl _
  · exact ⟨rfl, fun h => h, rfl⟩

theorem preRun_continues {ok : Bool} (h : b.preRun ok = some b') : b.Continues b' := by
  obtain ⟨n, -, ⟨-, rfl⟩ | ⟨-, rfl⟩⟩ := preRun_eq_some h
  · exact ⟨(pushes_concat b.log (.preRun n)).trans (List.append_nil _), fun h => h, rfl⟩
  · exact ⟨rfl, fun h => h, rfl⟩

theorem receive_continues (h : b.receive = some b') : b.Continues b' := by
  obtain ⟨n, item, rest, -, hqueue, rfl⟩ := receive_eq_some h
  refine ⟨(pushes_concat b.log (.ran item)).trans (List.append_nil _),
    fun hempty => ?_, rfl⟩
  rw [hqueue] at hempty
  cases hempty

theorem returns_continues (h : b.returns = some b') : b.Continues b' := by
  obtain ⟨_, _, -, rfl⟩ := returns_eq_some h
  exact ⟨rfl, fun h => h, rfl⟩

theorem postRun_continues (h : b.postRun = some b') : b.Continues b' := by
  obtain ⟨-, rfl⟩ := postRun_eq_some h
  exact ⟨(pushes_concat b.log .postRun).trans (List.append_nil _), fun h => h, rfl⟩

theorem exit_continues (h : b.exit = some b') : b.Continues b' := by
  obtain ⟨-, -, rfl⟩ := exit_eq_some h
  exact ⟨rfl, fun h => h, rfl⟩

end Batcher

end CallsPlugin.Ports
