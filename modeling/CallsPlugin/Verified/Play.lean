import CallsPlugin.Verified.Prog

/-!
# A program against its environment

`Prog.play` runs one program to its end while everything else is decided by the
environment: how operations are answered, and at each attempt to lock whether it
succeeds and what the others have made of the world in the meantime.  It keeps the
record of the operations and their answers.
-/

namespace CallsPlugin.Verified

universe u v

variable {Op : Type u} {Resp : Op → Type u} {W : Type v} {α β : Type u}

/-- What the environment does at an attempt to lock: whether the lock is obtained, the
world by then, and how operations are answered from then on. -/
structure Turn (Op : Type u) (Resp : Op → Type u) (W : Type v) where
  locked : Bool
  world : W
  sem : W → (o : Op) → Resp o × W

/-- What a program left: its result, the world, the record of its operations, and the
environment that is left to what comes next. -/
structure Played (Op : Type u) (Resp : Op → Type u) (W : Type v) (α : Type u) where
  result : α
  world : W
  log : List (Sigma Resp)
  sem : W → (o : Op) → Resp o × W
  turns : Nat → Turn Op Resp W

namespace Code

/-- The operations the code issues, with their answers. -/
def record (sem : W → (o : Op) → Resp o × W) : Code Op Resp α → W → List (Sigma Resp)
  | ret _, _ => []
  | op o k, w => ⟨o, (sem w o).1⟩ :: (k (sem w o).1).record sem (sem w o).2

section Record

variable {sem : W → (o : Op) → Resp o × W} {w : W}

@[simp] theorem record_ret (a : α) : (ret a : Code Op Resp α).record sem w = [] := rfl

@[simp] theorem record_op (o : Op) (k : Resp o → Code Op Resp α) :
    (op o k).record sem w =
    ⟨o, (sem w o).1⟩ :: (k (sem w o).1).record sem (sem w o).2 := rfl

@[simp] theorem record_perform (o : Op) :
    (perform o : Code Op Resp (Resp o)).record sem w = [⟨o, (sem w o).1⟩] := rfl

@[simp] theorem record_bind (p : Code Op Resp α) (f : α → Code Op Resp β) :
    (p >>= f).record sem w =
      p.record sem w ++ (f (p.run sem w).1).record sem (p.run sem w).2 := by
  induction p generalizing w with
  | ret a => rfl
  | op o k ih => simp [ih]

/-- The record holds the permitted operations only. -/
theorem Only.record {P : Op → Prop} {p : Code Op Resp α} (h : p.Only P) {w : W} :
    ∀ e ∈ p.record sem w, P e.1 := by
  induction p generalizing w with
  | ret a => exact fun e he => by cases he
  | op o k ih =>
      intro e he
      rcases List.mem_cons.1 he with rfl | he
      · exact h.1
      · exact ih _ (h.2 _) e he

end Record

end Code

namespace Prog

/-- Run the program to its end. -/
def play : Prog Op Resp α → (W → (o : Op) → Resp o × W) → (Nat → Turn Op Resp W) → W →
    Played Op Resp W α
  | ret a, sem, turns, w => ⟨a, w, [], sem, turns⟩
  | op o k, sem, turns, w =>
      let m := (k (sem w o).1).play sem turns (sem w o).2
      { m with log := ⟨o, (sem w o).1⟩ :: m.log }
  | lock k, _, turns, _ =>
      (k (turns 0).locked).play (turns 0).sem (fun n => turns (n + 1)) (turns 0).world
  | unlock k, sem, turns, w => k.play sem turns w

section Play

variable {sem : W → (o : Op) → Resp o × W} {turns : Nat → Turn Op Resp W} {w : W}

@[simp] theorem play_ret (a : α) :
    (ret a : Prog Op Resp α).play sem turns w = ⟨a, w, [], sem, turns⟩ := rfl

@[simp] theorem play_lock (k : Bool → Prog Op Resp α) : (lock k).play sem turns w =
    (k (turns 0).locked).play (turns 0).sem (fun n => turns (n + 1)) (turns 0).world :=
  rfl

@[simp] theorem play_unlock (k : Prog Op Resp α) :
    (unlock k).play sem turns w = k.play sem turns w := rfl

/-- A program after another goes on from what that one left. -/
theorem play_bind (p : Prog Op Resp α) (f : α → Prog Op Resp β) :
    (p >>= f).play sem turns w =
      let m := p.play sem turns w
      let m' := (f m.result).play m.sem m.turns m.world
      { m' with log := m.log ++ m'.log } := by
  induction p generalizing sem turns w with
  | ret a => rfl
  | op o k ih => simp [play, ih]
  | lock k ih => simp [ih]
  | unlock k ih => simp [ih]

/-- In the end operations are answered as at the start or as from some attempt to lock
on. -/
theorem play_sem (p : Prog Op Resp α) : (p.play sem turns w).sem = sem ∨
    ∃ n, (p.play sem turns w).sem = (turns n).sem := by
  induction p generalizing sem turns w with
  | ret a => exact .inl rfl
  | op o k ih => exact ih _
  | lock k ih =>
      refine .inr ?_
      rcases @ih (turns 0).locked (turns 0).sem (fun n => turns (n + 1))
          (turns 0).world with
        h | ⟨n, h⟩
      · exact ⟨0, h⟩
      · exact ⟨n + 1, h⟩
  | unlock k ih => exact ih

/-- Code leaves the environment as it found it. -/
theorem play_lift (c : Code Op Resp α) : (lift c).play sem turns w =
    ⟨(c.run sem w).1, (c.run sem w).2, c.record sem w, sem, turns⟩ := by
  induction c generalizing w with
  | ret a => rfl
  | op o k ih => simp [play, ih]

/-- Code, and what comes after it. -/
theorem play_lift_bind (c : Code Op Resp α) (f : α → Prog Op Resp β) :
    (lift c >>= f).play sem turns w =
      let m := (f (c.run sem w).1).play sem turns (c.run sem w).2
      { m with log := c.record sem w ++ m.log } := by
  rw [play_bind, play_lift]

end Play

end Prog

end CallsPlugin.Verified
