import CallsPlugin.Verified.Machine

/-!
# Asynchronous code on an event loop

An asynchronous function runs until it waits: for an answer from outside, or for an
asynchronous function it has called.  A `Task` is a call that is not over yet, with the
callers that go on when it returns.  Whenever a task waits, other functions may be
called and other tasks may go on.

An `Outline` says what holds while a task waits in its places.  Where tasks are started
one at a time, and what is called in between returns at once and leaves the outline of
the task that waits, `Runs.outline` carries it through a whole run.
-/

namespace CallsPlugin.Verified

/-- A call that waits, or that has returned to its callers; the innermost caller comes
first. -/
inductive Task (Wait Caller ε : Type) where
  | waits (w : Wait) (callers : List Caller)
  | returned (r : Except ε Unit) (callers : List Caller)

namespace Task

variable {Wait Caller ε : Type}

/-- The task of a function that was called by others. -/
def under : Task Wait Caller ε → List Caller → Task Wait Caller ε
  | .waits w cs, outer => .waits w (cs ++ outer)
  | .returned r cs, outer => .returned r (cs ++ outer)

theorem under_under (t : Task Wait Caller ε) (cs cs' : List Caller) :
    (t.under cs).under cs' = t.under (cs ++ cs') := by
  cases t <;> simp [under]

@[simp] theorem under_nil (t : Task Wait Caller ε) : t.under [] = t := by
  cases t <;> simp [under]

/-- A task that has returned to nobody is over. -/
def alive : Task Wait Caller ε → List (Task Wait Caller ε)
  | .waits w cs => [.waits w cs]
  | .returned _ [] => []
  | .returned r (c :: cs) => [.returned r (c :: cs)]

/-- There is a task, and it waits in such a place. -/
def Awaits (P : Wait → Prop) : Option (Task Wait Caller ε) → Prop
  | none => False
  | some (.returned _ _) => False
  | some (.waits w _) => P w

/-- There is a task, and it has returned. -/
def HasReturned : Option (Task Wait Caller ε) → Prop
  | none => False
  | some (.waits _ _) => False
  | some (.returned _ _) => True

instance (P : Wait → Prop) [∀ w, Decidable (P w)] (t : Option (Task Wait Caller ε)) :
    Decidable (Awaits P t) :=
  match t with
  | none => isFalse id
  | some (.returned _ _) => isFalse id
  | some (.waits w _) => inferInstanceAs (Decidable (P w))

instance (t : Option (Task Wait Caller ε)) : Decidable (HasReturned t) :=
  match t with
  | none => isFalse id
  | some (.waits _ _) => isFalse id
  | some (.returned _ _) => isTrue trivial

theorem eq_of_mem_alive {t t' : Task Wait Caller ε} (h : t' ∈ t.alive) : t' = t := by
  cases t with
  | waits w cs => exact List.mem_singleton.1 h
  | returned r cs =>
      cases cs with
      | nil => cases h
      | cons c cs => exact List.mem_singleton.1 h

theorem length_alive (t : Task Wait Caller ε) : t.alive.length ≤ 1 := by
  cases t with
  | waits w cs => simp [alive]
  | returned r cs => cases cs <;> simp [alive]

end Task

/-- Asynchronous functions over a state: how a call begins, how it goes on with the
answer it has waited for, and how a caller goes on when the function it has called
returns. -/
structure AsyncCode (S Call Wait Caller Answer ε : Type) where
  start : Call → S → S × Task Wait Caller ε
  wake : Wait → Answer → S → S × Task Wait Caller ε
  next : Caller → Except ε Unit → S → S × Task Wait Caller ε
  /-- What can be called. -/
  Calls : S → Call → Prop
  /-- The answers there can be. -/
  Accepts : Wait → Answer → Prop

/-- The state and the tasks. -/
structure EventLoop (S Wait Caller ε : Type) where
  state : S
  tasks : List (Task Wait Caller ε)

/-- What happens next; tasks are told by their place. -/
inductive LoopAction (Call Answer : Type) where
  | call (c : Call)
  | answer (i : Nat) (a : Answer)
  | proceed (i : Nat)

namespace AsyncCode

variable {S Call Wait Caller Answer ε : Type}
  (code : AsyncCode S Call Wait Caller Answer ε)

/-- The loop after a step of a task that leaves the others as they are. -/
def after (p : S × Task Wait Caller ε) (others : List (Task Wait Caller ε)) :
    EventLoop S Wait Caller ε :=
  ⟨p.1, p.2.alive ++ others⟩

def step (l : EventLoop S Wait Caller ε) :
    LoopAction Call Answer → EventLoop S Wait Caller ε
  | .call c => after (code.start c l.state) l.tasks
  | .answer i a =>
      match l.tasks[i]? with
      | none => l
      | some (.returned _ _) => l
      | some (.waits w cs) =>
          after ((code.wake w a l.state).map id (·.under cs)) (l.tasks.eraseIdx i)
  | .proceed i =>
      match l.tasks[i]? with
      | none => l
      | some (.waits _ _) => l
      | some (.returned _ []) => l
      | some (.returned r (c :: cs)) =>
          after ((code.next c r l.state).map id (·.under cs)) (l.tasks.eraseIdx i)

def Enabled (l : EventLoop S Wait Caller ε) : LoopAction Call Answer → Prop
  | .call c => code.Calls l.state c
  | .answer i a => Task.Awaits (code.Accepts · a) l.tasks[i]?
  | .proceed i => Task.HasReturned l.tasks[i]?

instance [∀ s c, Decidable (code.Calls s c)] [∀ w a, Decidable (code.Accepts w a)]
    (l : EventLoop S Wait Caller ε) (a : LoopAction Call Answer) :
    Decidable (code.Enabled l a) :=
  match a with
  | .call c => inferInstanceAs (Decidable (code.Calls l.state c))
  | .answer i a =>
      inferInstanceAs (Decidable (Task.Awaits (code.Accepts · a) l.tasks[i]?))
  | .proceed i => inferInstanceAs (Decidable (Task.HasReturned l.tasks[i]?))

/-- Any number of tasks on one loop. -/
def machine : Machine (EventLoop S Wait Caller ε) (LoopAction Call Answer) where
  Enabled := code.Enabled
  step := code.step

instance [∀ s c, Decidable (code.Calls s c)] [∀ w a, Decidable (code.Accepts w a)]
    (l : EventLoop S Wait Caller ε) (a : LoopAction Call Answer) :
    Decidable (code.machine.Enabled l a) :=
  inferInstanceAs (Decidable (code.Enabled l a))

end AsyncCode

/-! ## Outlines -/

/-- What holds whenever no code runs; while a task waits in a place, for its callers;
and while a caller waits, for its own callers. -/
structure Outline (S Wait Caller : Type) where
  inv : S → Prop
  waits : Wait → List Caller → S → Prop
  calls : Caller → List Caller → S → Prop

namespace Outline

variable {S Call Wait Caller Answer ε : Type} (O : Outline S Wait Caller)

/-- What holds for the callers of a task. -/
def Stack : List Caller → S → Prop
  | [], _ => True
  | c :: cs, s => O.calls c cs s ∧ Stack cs s

/-- What holds while a task is not over. -/
def Holds : Task Wait Caller ε → S → Prop
  | .waits w cs, s => O.waits w cs s ∧ O.Stack cs s
  | .returned _ cs, s => O.Stack cs s

/-- The invariant and what holds for the task that is left. -/
def Good (p : S × Task Wait Caller ε) : Prop := O.inv p.1 ∧ O.Holds p.2 p.1

/-- The code keeps to the outline. -/
structure Proves (code : AsyncCode S Call Wait Caller Answer ε) : Prop where
  start : ∀ c s, O.inv s → code.Calls s c → O.Good (code.start c s)
  wake : ∀ w a cs s, O.inv s → code.Accepts w a → O.waits w cs s → O.Stack cs s →
    O.Good ((code.wake w a s).map id (·.under cs))
  next : ∀ c r cs s, O.inv s → O.calls c cs s → O.Stack cs s →
    O.Good ((code.next c r s).map id (·.under cs))

end Outline

section Runs

variable {S Call Wait Caller Answer ε : Type}
  {code : AsyncCode S Call Wait Caller Answer ε} {O : Outline S Wait Caller}
  {l : EventLoop S Wait Caller ε} {i : Nat}

/-- A loop with one task at most, which is where the outline says. -/
structure EventLoop.Outlined (O : Outline S Wait Caller)
    (l : EventLoop S Wait Caller ε) :
    Prop where
  inv : O.inv l.state
  holds : ∀ t ∈ l.tasks, O.Holds t l.state
  alone : l.tasks.length ≤ 1

/-- The task is the only one. -/
theorem EventLoop.Outlined.eraseIdx (h : l.Outlined O) {t : Task Wait Caller ε}
    (ht : l.tasks[i]? = some t) : l.tasks.eraseIdx i = [] := by
  have hi : i < l.tasks.length := (List.getElem?_eq_some_iff.1 ht).1
  have hlen := List.length_eraseIdx_of_lt hi
  have halone := h.alone
  exact List.eq_nil_of_length_eq_zero (by omega)

theorem EventLoop.Outlined.of_good {p : S × Task Wait Caller ε} (hp : O.Good p) :
    (AsyncCode.after p []).Outlined O where
  inv := hp.1
  holds t ht := by
    rw [AsyncCode.after, List.append_nil] at ht
    exact Task.eq_of_mem_alive ht ▸ hp.2
  alone := by simpa [AsyncCode.after] using p.2.length_alive

/-- A step keeps to the outline: a call is made when there is no task, or returns at
once and leaves what holds for the task. -/
theorem EventLoop.Outlined.step (hO : O.Proves code) (h : l.Outlined O)
    {a : LoopAction Call Answer} (hen : code.Enabled l a)
    (hcall : ∀ c, a = .call c → l.tasks = [] ∨
      (∃ r, (code.start c l.state).2 = .returned r []) ∧
        ∀ t ∈ l.tasks, O.Holds t l.state → O.Holds t (code.start c l.state).1) :
    (code.step l a).Outlined O := by
  cases a with
  | call c =>
      have hgood := hO.start c l.state h.inv hen
      cases hcall c rfl with
      | inl hnone =>
          have hstep : code.step l (.call c) =
              AsyncCode.after (code.start c l.state) l.tasks := rfl
          rw [hstep, hnone]
          exact .of_good hgood
      | inr hmeanwhile =>
          obtain ⟨⟨r, hr⟩, hkeep⟩ := hmeanwhile
          have hstep : code.step l (.call c) = ⟨(code.start c l.state).1, l.tasks⟩ := by
            simp [AsyncCode.step, AsyncCode.after, hr, Task.alive]
          rw [hstep]
          exact ⟨hgood.1, fun t ht => hkeep t ht (h.holds t ht), h.alone⟩
  | answer i a =>
      cases hi : l.tasks[i]? with
      | none => simp [AsyncCode.Enabled, Task.Awaits, hi] at hen
      | some t =>
          cases t with
          | returned r cs => simp [AsyncCode.Enabled, Task.Awaits, hi] at hen
          | waits w cs =>
              have hacc : code.Accepts w a := by
                simpa [AsyncCode.Enabled, Task.Awaits, hi] using hen
              have hholds := h.holds _ (List.mem_of_getElem? hi)
              have hgood := hO.wake w a cs l.state h.inv hacc hholds.1 hholds.2
              simp only [AsyncCode.step, hi, h.eraseIdx hi]
              exact .of_good hgood
  | proceed i =>
      cases hi : l.tasks[i]? with
      | none => simp [AsyncCode.Enabled, Task.HasReturned, hi] at hen
      | some t =>
          cases t with
          | waits w cs => simp [AsyncCode.Enabled, Task.HasReturned, hi] at hen
          | returned r cs =>
              cases cs with
              | nil =>
                  simp only [AsyncCode.step, hi]
                  exact h
              | cons c cs =>
                  have hholds : O.Stack (c :: cs) l.state :=
                    h.holds _ (List.mem_of_getElem? hi)
                  have hgood := hO.next c r cs l.state h.inv hholds.1 hholds.2
                  simp only [AsyncCode.step, hi, h.eraseIdx hi]
                  exact .of_good hgood

/-- **One task at a time**: what the outline says holds throughout a run whose tasks are
started one at a time and left alone by what is called in between. -/
theorem Machine.Runs.outline
    {ok : EventLoop S Wait Caller ε → LoopAction Call Answer → Prop}
    {s₀ : S} (hO : O.Proves code) (hr : code.machine.Runs ok ⟨s₀, []⟩ l) (h₀ : O.inv s₀)
    (hcall : ∀ l c, ok l (.call c) → l.tasks = [] ∨
      (∃ r, (code.start c l.state).2 = .returned r []) ∧
        ∀ t ∈ l.tasks, O.Holds t l.state → O.Holds t (code.start c l.state).1) :
    l.Outlined O := by
  have hstart : (⟨s₀, []⟩ : EventLoop S Wait Caller ε).Outlined O :=
    { inv := h₀, holds := by simp, alone := by simp }
  refine hr.inv hstart fun l a hen hok h => ?_
  refine h.step hO hen fun c hc => ?_
  subst hc
  exact hcall l c hok

end Runs

end CallsPlugin.Verified
