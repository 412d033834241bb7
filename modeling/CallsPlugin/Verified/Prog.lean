/-!
# Programs over abstract operations, guarded by one lock

A `Code Op Resp α` is what a piece of imperative code does to its environment:
it issues operations `o : Op`, continues with the answer `Resp o`, and finally
returns an `α`.  A `Prog Op Resp α` may besides take and release one lock, so
that code which leaves the lock alone is told by its type.  Both are plain
inductive trees: the same definition can be run on its own (`run`), reasoned
about with weakest preconditions (`Verified.Monitor`) and interleaved step by
step with other programs (`Verified.Pool`).

Nothing here depends on what the operations are.
-/

namespace CallsPlugin.Verified

universe u v

/-- Code that issues operations. -/
inductive Code (Op : Type u) (Resp : Op → Type u) (α : Type u) : Type u
  | ret (a : α)
  | op (o : Op) (k : Resp o → Code Op Resp α)

/-- Code that issues operations and may take or release the lock.  The
argument of the continuation of `lock` tells whether the lock was obtained. -/
inductive Prog (Op : Type u) (Resp : Op → Type u) (α : Type u) : Type u
  | ret (a : α)
  | op (o : Op) (k : Resp o → Prog Op Resp α)
  | lock (k : Bool → Prog Op Resp α)
  | unlock (k : Prog Op Resp α)

variable {Op : Type u} {Resp : Op → Type u} {α β γ : Type u}

namespace Code

/-- Sequential composition. -/
def bind : Code Op Resp α → (α → Code Op Resp β) → Code Op Resp β
  | ret a, f => f a
  | op o k, f => op o fun r => (k r).bind f

instance : Monad (Code Op Resp) where
  pure := ret
  bind := bind

/-- Issue one operation. -/
def perform (o : Op) : Code Op Resp (Resp o) := op o ret

@[simp] theorem pure_eq (a : α) : (pure a : Code Op Resp α) = ret a := rfl

@[simp] theorem ret_bind (a : α) (f : α → Code Op Resp β) : ret a >>= f = f a := rfl

@[simp] theorem op_bind (o : Op) (k : Resp o → Code Op Resp α)
    (f : α → Code Op Resp β) :
    op o k >>= f = op o fun r => k r >>= f := rfl

@[simp] theorem perform_bind (o : Op) (f : Resp o → Code Op Resp β) :
    perform o >>= f = op o f := rfl

@[simp] theorem bind_assoc (p : Code Op Resp α) (f : α → Code Op Resp β)
    (g : β → Code Op Resp γ) : (p >>= f) >>= g = p >>= fun a => f a >>= g := by
  induction p with
  | ret a => rfl
  | op o k ih => simp only [op_bind, ih]

@[simp] theorem bind_ret (p : Code Op Resp α) : p >>= ret = p := by
  induction p with
  | ret a => rfl
  | op o k ih => simp only [op_bind, ih]

section Run

variable {W : Type v}

/-- What the code does when nobody interferes: every operation is answered by
`sem`. -/
def run (sem : W → (o : Op) → Resp o × W) : Code Op Resp α → W → α × W
  | ret a, w => (a, w)
  | op o k, w => run sem (k (sem w o).1) (sem w o).2

variable {sem : W → (o : Op) → Resp o × W}

@[simp] theorem run_ret (a : α) (w : W) :
    run sem (ret a : Code Op Resp α) w = (a, w) := rfl

@[simp] theorem run_op (o : Op) (k : Resp o → Code Op Resp α) (w : W) :
    run sem (op o k) w = run sem (k (sem w o).1) (sem w o).2 := rfl

@[simp] theorem run_perform (o : Op) (w : W) : run sem (perform o) w = sem w o := rfl

@[simp] theorem run_bind (p : Code Op Resp α) (f : α → Code Op Resp β) (w : W) :
    run sem (p >>= f) w = run sem (f (run sem p w).1) (run sem p w).2 := by
  induction p generalizing w with
  | ret a => rfl
  | op o k ih => exact ih _ _

end Run

/-- Every result the code can return, whatever the answers, satisfies `Q`. -/
def All (Q : α → Prop) : Code Op Resp α → Prop
  | ret a => Q a
  | op _ k => ∀ r, (k r).All Q

@[simp] theorem all_ret {Q : α → Prop} {a : α} :
    (ret a : Code Op Resp α).All Q ↔ Q a := Iff.rfl

@[simp] theorem all_op {Q : α → Prop} {o : Op} {k : Resp o → Code Op Resp α} :
    (op o k).All Q ↔ ∀ r, (k r).All Q := Iff.rfl

@[simp] theorem all_bind {p : Code Op Resp α} {f : α → Code Op Resp β} {Q : β → Prop} :
    (p >>= f).All Q ↔ p.All fun a => (f a).All Q := by
  induction p with
  | ret a => exact Iff.rfl
  | op o k ih => exact forall_congr' fun r => ih r

theorem All.mono {p : Code Op Resp α} {Q Q' : α → Prop} (h : p.All Q)
    (hQ : ∀ a, Q a → Q' a) : p.All Q' := by
  induction p with
  | ret a => exact hQ a h
  | op o k ih => exact fun r => ih r (h r)

theorem all_of_forall {Q : α → Prop} (h : ∀ a, Q a) (c : Code Op Resp α) : c.All Q := by
  induction c with
  | ret a => exact h a
  | op o k ih => exact fun r => ih r

/-- The code issues only operations in `P`, whatever the answers. -/
def Only (P : Op → Prop) : Code Op Resp α → Prop
  | ret _ => True
  | op o k => P o ∧ ∀ r, (k r).Only P

@[simp] theorem only_ret {P : Op → Prop} {a : α} :
    (ret a : Code Op Resp α).Only P := trivial

@[simp] theorem only_op {P : Op → Prop} {o : Op} {k : Resp o → Code Op Resp α} :
    (op o k).Only P ↔ P o ∧ ∀ r, (k r).Only P := Iff.rfl

@[simp] theorem only_perform {P : Op → Prop} {o : Op} :
    (perform o : Code Op Resp (Resp o)).Only P ↔ P o :=
  ⟨fun h => h.1, fun h => ⟨h, fun _ => trivial⟩⟩

/-- Sequencing. -/
theorem Only.bind {P : Op → Prop} {p : Code Op Resp α} {f : α → Code Op Resp β}
    (hp : p.Only P) (hf : ∀ a, (f a).Only P) : (p >>= f).Only P := by
  induction p with
  | ret a => exact hf a
  | op o k ih => exact ⟨hp.1, fun r => ih r (hp.2 r)⟩

/-- Sequencing, where the rest depends on what the code returns. -/
theorem Only.bind_all {P : Op → Prop} {Q : α → Prop} {p : Code Op Resp α}
    {f : α → Code Op Resp β} (hp : p.Only P) (hQ : p.All Q)
    (hf : ∀ a, Q a → (f a).Only P) :
    (p >>= f).Only P := by
  induction p with
  | ret a => exact hf a hQ
  | op o k ih => exact ⟨hp.1, fun r => ih r (hp.2 r) (hQ r)⟩

/-- What the rest returns, where it depends on what the code returns. -/
theorem All.bind {Q : α → Prop} {R : β → Prop} {p : Code Op Resp α}
    {f : α → Code Op Resp β} (hp : p.All Q) (hf : ∀ a, Q a → (f a).All R) :
    (p >>= f).All R := by
  induction p with
  | ret a => exact hf a hp
  | op o k ih => exact fun r => ih r (hp r)

theorem Only.mono {P P' : Op → Prop} {p : Code Op Resp α} (hp : p.Only P)
    (hP : ∀ o, P o → P' o) : p.Only P' := by
  induction p with
  | ret a => trivial
  | op o k ih => exact ⟨hP o hp.1, fun r => ih r (hp.2 r)⟩

theorem Only.perform {P : Op → Prop} {o : Op} {f : Resp o → Code Op Resp β} (ho : P o)
    (hf : ∀ r, (f r).Only P) : (Code.perform o >>= f).Only P := ⟨ho, hf⟩

/-- The code comes to an operation in `P`, as long as no answer is one that `fails`. -/
def Passes (fails : (o : Op) → Resp o → Prop) (P : Op → Prop) : Code Op Resp α → Prop
  | ret _ => False
  | op o k => P o ∨ ∀ r, ¬ fails o r → (k r).Passes fails P

section Passes

variable {fails : (o : Op) → Resp o → Prop} {P : Op → Prop} {f : α → Code Op Resp β}

theorem Passes.bind {p : Code Op Resp α} (hp : p.Passes fails P) :
    (p >>= f).Passes fails P := by
  induction p with
  | ret a => exact hp.elim
  | op o k ih => exact hp.imp_right fun h r hr => ih r (h r hr)

/-- The code that comes next does. -/
theorem Passes.after {p : Code Op Resp α} (hf : ∀ a, (f a).Passes fails P) :
    (p >>= f).Passes fails P := by
  induction p with
  | ret a => exact hf a
  | op o k ih => exact .inr fun r _ => ih r

end Passes

/-- Operations that keep `I` keep it over the whole run. -/
theorem Only.run {W : Type v} {sem : W → (o : Op) → Resp o × W} {P : Op → Prop}
    {I : W → Prop} {p : Code Op Resp α} (hp : p.Only P)
    (hI : ∀ w o, P o → I w → I (sem w o).2) {w : W} (hw : I w) : I (p.run sem w).2 := by
  induction p generalizing w with
  | ret a => exact hw
  | op o k ih => exact ih _ (hp.2 _) (hI w o hp.1 hw)

/-- What every result satisfies, the result of a run does. -/
theorem All.run {W : Type v} {sem : W → (o : Op) → Resp o × W} {Q : α → Prop}
    {p : Code Op Resp α} (hp : p.All Q) (w : W) : Q (p.run sem w).1 := by
  induction p generalizing w with
  | ret a => exact hp
  | op o k ih => exact ih _ (hp _) _

end Code

namespace Prog

/-- Sequential composition. -/
def bind : Prog Op Resp α → (α → Prog Op Resp β) → Prog Op Resp β
  | ret a, f => f a
  | op o k, f => op o fun r => (k r).bind f
  | lock k, f => lock fun b => (k b).bind f
  | unlock k, f => unlock (k.bind f)

instance : Monad (Prog Op Resp) where
  pure := ret
  bind := bind

/-- Code is a program that leaves the lock alone. -/
def lift : Code Op Resp α → Prog Op Resp α
  | .ret a => ret a
  | .op o k => op o fun r => lift (k r)

instance : MonadLift (Code Op Resp) (Prog Op Resp) := ⟨lift⟩

@[simp] theorem pure_eq (a : α) : (pure a : Prog Op Resp α) = ret a := rfl

@[simp] theorem ret_bind (a : α) (f : α → Prog Op Resp β) : ret a >>= f = f a := rfl

@[simp] theorem op_bind (o : Op) (k : Resp o → Prog Op Resp α)
    (f : α → Prog Op Resp β) :
    op o k >>= f = op o fun r => k r >>= f := rfl

@[simp] theorem lock_bind (k : Bool → Prog Op Resp α) (f : α → Prog Op Resp β) :
    lock k >>= f = lock fun b => k b >>= f := rfl

@[simp] theorem unlock_bind (k : Prog Op Resp α) (f : α → Prog Op Resp β) :
    unlock k >>= f = unlock (k >>= f) := rfl

@[simp] theorem bind_assoc (p : Prog Op Resp α) (f : α → Prog Op Resp β)
    (g : β → Prog Op Resp γ) : (p >>= f) >>= g = p >>= fun a => f a >>= g := by
  induction p with
  | ret a => rfl
  | op o k ih => simp only [op_bind, ih]
  | lock k ih => simp only [lock_bind, ih]
  | unlock k ih => simp only [unlock_bind, ih]

@[simp] theorem liftM_eq (c : Code Op Resp α) :
    (liftM c : Prog Op Resp α) = lift c := rfl

@[simp] theorem monadLift_eq (c : Code Op Resp α) :
    (MonadLift.monadLift c : Prog Op Resp α) = lift c := rfl

@[simp] theorem lift_ret (a : α) : lift (.ret a : Code Op Resp α) = ret a := rfl

@[simp] theorem lift_op (o : Op) (k : Resp o → Code Op Resp α) :
    lift (.op o k) = op o fun r => lift (k r) := rfl

@[simp] theorem lift_bind (c : Code Op Resp α) (f : α → Code Op Resp β) :
    lift (c >>= f) = lift c >>= fun a => lift (f a) := by
  induction c with
  | ret a => rfl
  | op o k ih => simp only [Code.op_bind, lift_op, op_bind, ih]

/-- The program issues only operations in `P`, whatever the answers. -/
def Only (P : Op → Prop) : Prog Op Resp α → Prop
  | ret _ => True
  | op o k => P o ∧ ∀ r, (k r).Only P
  | lock k => ∀ b, (k b).Only P
  | unlock k => k.Only P

theorem only_of_forall {P : Op → Prop} (h : ∀ o, P o) (p : Prog Op Resp α) :
    p.Only P := by
  induction p with
  | ret a => trivial
  | op o k ih => exact ⟨h o, fun r => ih r⟩
  | lock k ih => exact fun b => ih b
  | unlock k ih => exact ih

theorem Only.mono {P P' : Op → Prop} {p : Prog Op Resp α} (hp : p.Only P)
    (hP : ∀ o, P o → P' o) : p.Only P' := by
  induction p with
  | ret a => trivial
  | op o k ih => exact ⟨hP o hp.1, fun r => ih r (hp.2 r)⟩
  | lock k ih => exact fun b => ih b (hp b)
  | unlock k ih => exact ih hp

/-- Sequencing. -/
theorem Only.bind {P : Op → Prop} {p : Prog Op Resp α} {f : α → Prog Op Resp β}
    (hp : p.Only P) (hf : ∀ a, (f a).Only P) : (p >>= f).Only P := by
  induction p with
  | ret a => exact hf a
  | op o k ih => exact ⟨hp.1, fun r => ih r (hp.2 r)⟩
  | lock k ih => exact fun b => ih b (hp b)
  | unlock k ih => exact ih hp

/-- Code issues the same operations as a program. -/
theorem Only.lift {P : Op → Prop} {c : Code Op Resp α} (h : c.Only P) :
    (lift c).Only P := by
  induction c with
  | ret a => trivial
  | op o k ih => exact ⟨h.1, fun r => ih r (h.2 r)⟩

/-! ## The order of operations -/

/-- No operation in `B` comes before one in `A`. -/
def Before (A B : Op → Prop) : Prog Op Resp α → Prop
  | ret _ => True
  | op o k => A o ∨ ¬ B o ∧ ∀ r, (k r).Before A B
  | lock k => ∀ b, (k b).Before A B
  | unlock k => k.Before A B

section Before

variable {A B : Op → Prop}

theorem Only.before {p : Prog Op Resp α} (h : p.Only fun o => ¬ B o) :
    p.Before A B := by
  induction p with
  | ret a => trivial
  | op o k ih => exact .inr ⟨h.1, fun r => ih r (h.2 r)⟩
  | lock k ih => exact fun b => ih b (h b)
  | unlock k ih => exact ih h

theorem Before.bind {p : Prog Op Resp α} {f : α → Prog Op Resp β} (hp : p.Before A B)
    (hf : ∀ a, (f a).Before A B) : (p >>= f).Before A B := by
  induction p with
  | ret a => exact hf a
  | op o k ih => exact hp.imp_right fun h => ⟨h.1, fun r => ih r (h.2 r)⟩
  | lock k ih => exact fun b => ih b (hp b)
  | unlock k ih => exact ih hp

end Before

end Prog

end CallsPlugin.Verified
