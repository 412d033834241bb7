import CallsPlugin.Verified.Deeds

/-!
# Operations of two kinds

Code over one kind of operations is code over two kinds (`Code.inl`, `Prog.inl`).  In a
run over both, a thread that was written for the first is held to what it is held to
alone.
-/

namespace CallsPlugin.Verified

universe u v w

variable {Op Op' : Type u} {Resp : Op → Type u} {Resp' : Op' → Type u} {α β : Type u}

/-- Code over the first kind. -/
def Code.inl : Code Op Resp α → Code (Op ⊕ Op') (Sum.elim Resp Resp') α
  | .ret a => .ret a
  | .op o k => .op (.inl o) fun r => (k r).inl

/-- A program over the first kind. -/
def Prog.inl : Prog Op Resp α → Prog (Op ⊕ Op') (Sum.elim Resp Resp') α
  | .ret a => .ret a
  | .op o k => .op (.inl o) fun r => (k r).inl
  | .lock k => .lock fun b => (k b).inl
  | .unlock k => .unlock k.inl

@[simp] theorem Code.inl_ret (a : α) :
    (Code.ret a : Code Op Resp α).inl =
    (.ret a : Code (Op ⊕ Op') (Sum.elim Resp Resp') α) := rfl

@[simp] theorem Code.inl_bind (c : Code Op Resp α) (f : α → Code Op Resp β) :
    (c >>= f).inl = (c.inl >>= fun a =>
      (f a).inl : Code (Op ⊕ Op') (Sum.elim Resp Resp') β) := by
  induction c with
  | ret a => rfl
  | op o k ih =>
      simp only [op_bind]
      exact congrArg (Code.op (Sum.inl o)) (funext ih)

/-- Both meanings, on one world. -/
def sumSem {W : Type v} {C : Type w} (sem : C → W → (o : Op) → Resp o × W)
    (sem' : C → W → (o : Op') → Resp' o × W) (c : C) (w : W) :
    (o : Op ⊕ Op') → Sum.elim Resp Resp' o × W
  | .inl o => sem c w o
  | .inr o => sem' c w o

end CallsPlugin.Verified
