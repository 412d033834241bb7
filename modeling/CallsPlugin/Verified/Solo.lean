import CallsPlugin.Verified.Prog

/-!
# Programs on their own

What a program does when nobody interferes, the lock is always obtained and no operation
fails (`solo`), and a list of programs one after another (`oneByOne`).  Two programs do
the same in this sense if their runs are equal, whatever else they announce on the way.
-/

namespace CallsPlugin.Verified

universe u v

variable {Op : Type u} {Resp : Op → Type u} {W : Type v} {α β ι : Type u}
  {sem : W → (o : Op) → Resp o × W} {fails : (o : Op) → Resp o → Bool}

/-- The run of code on its own, unless an operation fails. -/
def Code.solo (sem : W → (o : Op) → Resp o × W) (fails : (o : Op) → Resp o → Bool) :
    Code Op Resp α → W → Option (α × W)
  | .ret a, w => some (a, w)
  | .op o k, w =>
      if fails o (sem w o).1 then none else (k (sem w o).1).solo sem fails (sem w o).2

/-- The run of a program on its own, unless an operation fails. -/
def Prog.solo (sem : W → (o : Op) → Resp o × W) (fails : (o : Op) → Resp o → Bool) :
    Prog Op Resp α → W → Option (α × W)
  | .ret a, w => some (a, w)
  | .op o k, w =>
      if fails o (sem w o).1 then none else (k (sem w o).1).solo sem fails (sem w o).2
  | .lock k, w => (k true).solo sem fails w
  | .unlock k, w => k.solo sem fails w

namespace Code

@[simp] theorem solo_ret (a : α) (w : W) :
    (ret a : Code Op Resp α).solo sem fails w = some (a, w) := rfl

theorem solo_op (o : Op) (k : Resp o → Code Op Resp α) (w : W) :
    (op o k).solo sem fails w =
    if fails o (sem w o).1 then none
      else (k (sem w o).1).solo sem fails (sem w o).2 := rfl

@[simp] theorem solo_bind (p : Code Op Resp α) (f : α → Code Op Resp β) (w : W) :
    (p >>= f).solo sem fails w =
      (p.solo sem fails w).bind fun r => (f r.1).solo sem fails r.2 := by
  induction p generalizing w with
  | ret a => rfl
  | op o k ih =>
      rw [op_bind, solo_op, solo_op]
      split
      · rfl
      · exact ih _ _

/-- Operations that neither fail nor change the world. -/
theorem Only.solo {P : Op → Prop} {Q : α → Prop} {p : Code Op Resp α} (hp : p.Only P)
    (hQ : p.All Q) (hP : ∀ w o, P o → fails o (sem w o).1 = false ∧ (sem w o).2 = w)
    (w : W) :
    ∃ a, Q a ∧ p.solo sem fails w = some (a, w) := by
  induction p with
  | ret a => exact ⟨a, hQ, rfl⟩
  | op o k ih =>
      obtain ⟨hnot, hsame⟩ := hP w o hp.1
      rw [solo_op, hnot, hsame]
      exact ih _ (hp.2 _) (hQ _)

end Code

namespace Prog

@[simp] theorem solo_ret (a : α) (w : W) :
    (ret a : Prog Op Resp α).solo sem fails w = some (a, w) := rfl

theorem solo_op (o : Op) (k : Resp o → Prog Op Resp α) (w : W) :
    (op o k).solo sem fails w =
    if fails o (sem w o).1 then none
      else (k (sem w o).1).solo sem fails (sem w o).2 := rfl

@[simp] theorem solo_lock (k : Bool → Prog Op Resp α) (w : W) :
    (lock k).solo sem fails w = (k true).solo sem fails w := rfl

@[simp] theorem solo_unlock (k : Prog Op Resp α) (w : W) :
    (unlock k).solo sem fails w = k.solo sem fails w := rfl

@[simp] theorem solo_bind (p : Prog Op Resp α) (f : α → Prog Op Resp β) (w : W) :
    (p >>= f).solo sem fails w =
      (p.solo sem fails w).bind fun r => (f r.1).solo sem fails r.2 := by
  induction p generalizing w with
  | ret a => rfl
  | op o k ih =>
      rw [op_bind, solo_op, solo_op]
      split
      · rfl
      · exact ih _ _
  | lock k ih => exact ih true w
  | unlock k ih => exact ih w

@[simp] theorem solo_lift (p : Code Op Resp α) (w : W) :
    (lift p).solo sem fails w = p.solo sem fails w := by
  induction p generalizing w with
  | ret a => rfl
  | op o k ih =>
      rw [lift_op, solo_op, Code.solo_op]
      split
      · rfl
      · exact ih _ _

end Prog

/-- One program after another. -/
def oneByOne (code : ι → Prog Op Resp α) : List ι → Prog Op Resp (List α)
  | [] => .ret []
  | i :: rest => do
      let a ← code i
      let as ← oneByOne code rest
      return a :: as

/-- The run of the first, then those of the others. -/
theorem oneByOne_solo_cons (code : ι → Prog Op Resp α) (i : ι) (rest : List ι) (w : W) :
    (oneByOne code (i :: rest)).solo sem fails w =
    ((code i).solo sem fails w).bind fun r =>
      ((oneByOne code rest).solo sem fails r.2).map fun r' => (r.1 :: r'.1, r'.2) := by
  rw [oneByOne, Prog.solo_bind]
  refine congrArg _ (funext fun r => ?_)
  rw [Prog.solo_bind]
  cases (oneByOne code rest).solo sem fails r.2 <;> rfl

end CallsPlugin.Verified
