import CallsPlugin.Verified.Monitor
import CallsPlugin.Verified.Play
import Mathlib.Data.Multiset.AddSub

/-!
# What the record of a run shows

Two rules about one run of a piece of code, however its operations are answered.  A
quota bounds how often marked operations are issued (`Code.Within`); and what weakest
preconditions show of runs with certain answers holds of a run whose record has only
such answers (`Code.wp_of_record`).
-/

namespace CallsPlugin.Verified

universe u v

variable {Op : Type u} {Resp : Op → Type u} {W : Type v} {α β : Type u} {κ : Type*}

namespace Code

/-- Two continuations that agree on what the code can return. -/
theorem All.bind_congr {Q : α → Prop} {p : Code Op Resp α} {f g : α → Code Op Resp β}
    (hp : p.All Q) (h : ∀ a, Q a → f a = g a) : p >>= f = p >>= g := by
  induction p with
  | ret a => exact h a hp
  | op o k ih =>
      have hk : (fun r => k r >>= f) = fun r => k r >>= g := funext fun r => ih r (hp r)
      rw [op_bind, op_bind, hk]

/-! ## Quotas -/

section Quota

variable [DecidableEq κ] {mark : Op → Option κ}

/-- The code issues operations marked `x` at most as often as `x` is in the quota. -/
def Within (mark : Op → Option κ) : Code Op Resp α → Multiset κ → Prop
  | ret _, _ => True
  | op o k, m =>
      match mark o with
      | none => ∀ r, (k r).Within mark m
      | some x => x ∈ m ∧ ∀ r, (k r).Within mark (m.erase x)

/-- The marks of a record. -/
def marks (mark : Op → Option κ) (log : List (Sigma Resp)) : Multiset κ :=
  (log.filterMap fun e => mark e.1 : List κ)

theorem within_op_of_none {o : Op} {k : Resp o → Code Op Resp α} {m : Multiset κ}
    (ho : mark o = none) (h : ∀ r, (k r).Within mark m) : (op o k).Within mark m := by
  unfold Within
  rw [ho]
  exact h

theorem within_op_of_some {o : Op} {k : Resp o → Code Op Resp α} {m : Multiset κ}
    {x : κ} (ho : mark o = some x) (h : ∀ r, (k r).Within mark m) :
    (op o k).Within mark (x ::ₘ m) := by
  unfold Within
  rw [ho]
  refine ⟨Multiset.mem_cons_self x m, fun r => ?_⟩
  rw [Multiset.erase_cons_head]
  exact h r

/-- Code without marked operations. -/
theorem Only.within {p : Code Op Resp α} (h : p.Only fun o => mark o = none)
    (m : Multiset κ) :
    p.Within mark m := by
  induction p with
  | ret a => trivial
  | op o k ih => exact within_op_of_none h.1 fun r => ih r (h.2 r)

/-- A larger quota. -/
theorem Within.mono {p : Code Op Resp α} {m m' : Multiset κ} (h : p.Within mark m)
    (hm : m ≤ m') :
    p.Within mark m' := by
  induction p generalizing m m' with
  | ret a => trivial
  | op o k ih =>
      unfold Within at h ⊢
      split
      next ho =>
        rw [ho] at h
        exact fun r => ih r (h r) hm
      next x ho =>
        rw [ho] at h
        exact ⟨Multiset.mem_of_le hm h.1,
          fun r => ih r (h.2 r) (Multiset.erase_le_erase x hm)⟩

/-- Sequencing adds the quotas. -/
theorem Within.bind {Q : α → Prop} {p : Code Op Resp α} {f : α → Code Op Resp β}
    {m m' : Multiset κ} (hp : p.Within mark m) (hQ : p.All Q)
    (hf : ∀ a, Q a → (f a).Within mark m') :
    (p >>= f).Within mark (m + m') := by
  induction p generalizing m with
  | ret a => exact (hf a hQ).mono (Multiset.le_add_left m' m)
  | op o k ih =>
      rw [op_bind]
      unfold Within at hp ⊢
      split
      next ho =>
        rw [ho] at hp
        exact fun r => ih r (hp r) (hQ r)
      next x ho =>
        rw [ho] at hp
        refine ⟨Multiset.mem_add.2 (.inl hp.1), fun r => ?_⟩
        rw [Multiset.erase_add_left_pos _ hp.1]
        exact ih r (hp.2 r) (hQ r)

/-- The quota bounds the record of every run. -/
theorem Within.record {p : Code Op Resp α} {m : Multiset κ} (h : p.Within mark m)
    (sem : W → (o : Op) → Resp o × W) (w : W) : marks mark (p.record sem w) ≤ m := by
  induction p generalizing m w with
  | ret a => exact Multiset.zero_le m
  | op o k ih =>
      unfold Within at h
      rw [record_op]
      cases ho : mark o with
      | none =>
          rw [ho] at h
          have hskip : marks mark
              (⟨o, (sem w o).1⟩ :: (k (sem w o).1).record sem (sem w o).2) =
              marks mark ((k (sem w o).1).record sem (sem w o).2) := by
            simp [marks, ho]
          rw [hskip]
          exact ih _ (h _) _
      | some x =>
          rw [ho] at h
          have hcons : marks mark
              (⟨o, (sem w o).1⟩ :: (k (sem w o).1).record sem (sem w o).2) =
              x ::ₘ marks mark ((k (sem w o).1).record sem (sem w o).2) := by
            simp [marks, ho]
          rw [hcons, ← Multiset.cons_erase h.1]
          exact Multiset.cons_le_cons x (ih _ (h.2 _) _)

end Quota

/-! ## Answers -/

/-- Runs in which the environment answers as in `sem`, with answers in `good` only. -/
@[reducible]
def answering (sem : W → (o : Op) → Resp o × W) (good : (o : Op) → Resp o → Prop) :
    Logic Op Resp W Unit where
  sem _ := sem
  allow _ _ w o := good o (sem w o).1
  pre _ _ := True
  inv _ := True
  lockMayFail := True
  stray := False

/-- What holds of runs with such answers holds of a run that had no others. -/
theorem wp_of_record {sem : W → (o : Op) → Resp o × W} {good : (o : Op) → Resp o → Prop}
    {p : Code Op Resp α} {Q : α → W → Prop} {w : W} (hp : p.wp (answering sem good) Q w)
    (hgood : ∀ e ∈ p.record sem w, good e.1 e.2) :
    Q (p.run sem w).1 (p.run sem w).2 := by
  induction p generalizing w with
  | ret a => exact hp
  | op o k ih =>
      rw [record_op] at hgood
      have hfirst : good o (sem w o).1 := hgood _ (List.mem_cons_self ..)
      exact ih _ (hp.2 () hfirst) fun e he => hgood e (List.mem_cons_of_mem _ he)

end Code

end CallsPlugin.Verified
