import CallsPlugin.Verified.Rely

/-!
# What has been done

The history of deeds of a run tells who issued which operation, in which world and with
which choice.  A thread that is held to what has been done before (`deedRely`) is held
to it in every run (`Histories.deeds_good`); the lock plays no part.
-/

namespace CallsPlugin.Verified

universe u

variable {Op : Type u} {Resp : Op → Type u} {W C T N : Type u}

/-- An operation as it was issued: by whom, with which choice and in which world. -/
structure Deed (Op W C T : Type u) where
  thread : T
  choice : C
  world : W
  op : Op

/-- What a step adds to the deeds. -/
def Sys.deeds (s : Sys Op Resp W T N) (t : T) : Act C → List (Deed Op W C T)
  | .op c =>
      match s.code t with
      | .op o _ => [⟨t, c, s.world, o⟩]
      | _ => []
  | _ => []

/-- Each step adds its deed. -/
def AddsDeeds (s : Sys Op Resp W T N) (t : T) (a : Act C) (_ : Sys Op Resp W T N)
    (new : List (Deed Op W C T)) : Prop :=
  new = s.deeds t a

theorem Sys.deeds_op {s : Sys Op Resp W T N} {t : T} {o : Op}
    {k : Resp o → Prog Op Resp PUnit}
    (hk : s.code t = .op o k) (c : C) : s.deeds t (.op c) = [⟨t, c, s.world, o⟩] := by
  simp only [Sys.deeds, hk]

/-- A deed of a longer history is the last one, or one of the shorter history. -/
theorem split_concat {D : Type u} {l l₁ l₂ : List D} {d d' : D}
    (h : l ++ [d'] = l₁ ++ d :: l₂) :
    l₁ = l ∧ d = d' ∨ ∃ l₃, l = l₁ ++ d :: l₃ := by
  rcases List.eq_nil_or_concat l₂ with rfl | ⟨l₃, d'', rfl⟩
  · obtain ⟨rfl, hd⟩ := List.append_inj' h rfl
    exact .inl ⟨rfl, (List.singleton_inj.1 hd).symm⟩
  · rw [List.concat_eq_append, ← List.cons_append, ← List.append_assoc] at h
    exact .inr ⟨l₃, (List.append_inj' h rfl).1⟩

/-- A thread that is held to the deeds before each of its own, in worlds in `I`. -/
@[reducible]
def deedRely (sem : C → W → (o : Op) → Resp o × W) (I : W → Prop) (t : T)
    (good : List (Deed Op W C T) → Op → Prop) :
    Rely Op Resp (List (Deed Op W C T)) where
  along l l' := l <+: l'
  can l o r l' := ∃ c w, I w ∧ r = (sem c w o).1 ∧ l' = l ++ [⟨t, c, w, o⟩]
  good := good
  along_refl := List.prefix_refl
  along_trans := List.IsPrefix.trans
  can_along := by
    rintro l o r _ ⟨c, w, -, -, rfl⟩
    exact List.prefix_append ..

/-- A thread that is held to more is held to less. -/
theorem Prog.Meets.weaken {sem : C → W → (o : Op) → Resp o × W} {I : W → Prop} {t : T}
    {α : Type u} {p : Prog Op Resp α} {Q : α → List (Deed Op W C T) → Prop}
    {good good' : List (Deed Op W C T) → Op → Prop} {l : List (Deed Op W C T)}
    (h : p.Meets (deedRely sem I t good) Q l) (hgood : ∀ l o, good l o → good' l o) :
    p.Meets (deedRely sem I t good') Q l := by
  induction p generalizing l with
  | ret a => exact h
  | op o k ih =>
      exact fun l₁ h₁ => ⟨hgood _ _ (h l₁ h₁).1,
        fun r l₂ hr => ih r ((h l₁ h₁).2 r l₂ hr)⟩
  | lock k ih => exact fun b => ih b (h b)
  | unlock k ih => exact ih h

variable [DecidableEq T] [DecidableEq N] {sem : C → W → (o : Op) → Resp o × W}
  {node : T → N} {ok : List (Event T C) → Sys Op Resp W T N → T → Act C → Prop}
  {s₀ s : Sys Op Resp W T N} {tr : List (Event T C)} {l : List (Deed Op W C T)}
  {I : W → Prop}

/-- What holds of every deed may be made a condition on the steps. -/
theorem Histories.of_deeds
    {ok' : List (Event T C) → Sys Op Resp W T N → T → Act C → Prop}
    (hr : Histories sem node ok AddsDeeds s₀ tr s l) (good : Deed Op W C T → Prop)
    (hok' : ∀ tr s t a, ok tr s t a → (∀ d ∈ s.deeds t a, good d) → ok' tr s t a)
    (hl : ∀ d ∈ l, good d) : Histories sem node ok' AddsDeeds s₀ tr s l := by
  induction hr with
  | refl => exact .refl
  | step hr hok hs hadds ih =>
      subst hadds
      have hnow := hok' _ _ _ _ hok fun d hd => hl d (List.mem_append_right _ hd)
      exact (ih fun d hd => hl d (List.mem_append_left _ hd)).step hnow hs rfl

/-- Every deed is done in a world of the run. -/
theorem Histories.deeds_world (hr : Histories sem node ok AddsDeeds s₀ tr s l)
    (hI : ∀ tr s, Runs sem node ok s₀ tr s → I s.world) : ∀ d ∈ l, I d.world := by
  induction hr with
  | refl => exact fun d hd => absurd hd List.not_mem_nil
  | @step tr s s' t a l new hr hok hs hadds ih =>
      subst hadds
      intro d hd
      rcases List.mem_append.1 hd with hd | hd
      · exact ih d hd
      · obtain ⟨k, rfl, -⟩ | ⟨k, rfl, -⟩ | ⟨k, rfl, -⟩ | ⟨k, rfl, -⟩ |
            ⟨c, o, k, rfl, hk, -⟩ :=
          Sys.step_cases hs
        · exact absurd hd List.not_mem_nil
        · exact absurd hd List.not_mem_nil
        · exact absurd hd List.not_mem_nil
        · exact absurd hd List.not_mem_nil
        · rw [Sys.deeds_op hk] at hd
          obtain rfl := List.mem_singleton.1 hd
          exact hI _ _ hr.runs

/-- In every run whose threads meet what they are held to, every deed is good for those
before it. -/
theorem Histories.deeds_good {good : T → List (Deed Op W C T) → Op → Prop}
    (hr : Histories sem node ok AddsDeeds s₀ tr s l)
    (hI : ∀ tr s, Runs sem node ok s₀ tr s → I s.world)
    (h0 : ∀ t, (s₀.code t).Meets (deedRely sem I t (good t)) (fun _ _ => True) []) :
    ∀ l₁ d l₂, l = l₁ ++ d :: l₂ → good d.thread l₁ d.op := by
  have hall : (∀ t, (s.code t).Meets (deedRely sem I t (good t)) (fun _ _ => True) l) ∧
      ∀ l₁ d l₂, l = l₁ ++ d :: l₂ → good d.thread l₁ d.op := by
    induction hr with
    | refl =>
        refine ⟨h0, fun l₁ d l₂ h => ?_⟩
        cases l₁ <;> cases h
    | @step tr s s' t a l new hr hok hs hadds ih =>
        subst hadds
        obtain ⟨hmeets, hgood⟩ := ih
        have hworld := hI _ _ hr.runs
        refine ⟨fun t' => Sys.step_meets hmeets hs (fun c o k ha hk => ?_)
          (fun _ => List.prefix_append ..) t', fun l₁ d l₂ hsplit => ?_⟩
        · subst ha
          exact ⟨c, s.world, hworld, rfl, congrArg (l ++ ·) (Sys.deeds_op hk c)⟩
        · obtain ⟨k, rfl, -⟩ | ⟨k, rfl, -⟩ | ⟨k, rfl, -⟩ | ⟨k, rfl, -⟩ |
              ⟨c, o, k, rfl, hk, -⟩ :=
            Sys.step_cases hs
          · exact hgood l₁ d l₂ ((List.append_nil l).symm.trans hsplit)
          · exact hgood l₁ d l₂ ((List.append_nil l).symm.trans hsplit)
          · exact hgood l₁ d l₂ ((List.append_nil l).symm.trans hsplit)
          · exact hgood l₁ d l₂ ((List.append_nil l).symm.trans hsplit)
          · rw [Sys.deeds_op hk] at hsplit
            rcases split_concat hsplit with ⟨rfl, rfl⟩ | ⟨l₃, hl⟩
            · exact (hmeets t).good hk
            · exact hgood l₁ d l₃ hl
  exact hall.2

/-- Among whatever other code, every deed of a thread is good for those before it. -/
theorem Histories.own_deeds_good {good : List (Deed Op W C T) → Op → Prop} {t : T}
    (hr : Histories sem node ok AddsDeeds s₀ tr s l)
    (hI : ∀ tr s, Runs sem node ok s₀ tr s → I s.world)
    (h0 : (s₀.code t).Meets (deedRely sem I t good) (fun _ _ => True) []) :
    ∀ l₁ d l₂, l = l₁ ++ d :: l₂ → d.thread = t → good l₁ d.op := by
  have hall : ∀ t', (s₀.code t').Meets (deedRely sem I t' fun l o => t' = t → good l o)
      (fun _ _ => True) [] := by
    intro t'
    by_cases ht : t' = t
    · subst ht
      exact h0.weaken fun _ _ h _ => h
    · exact Prog.Meets.of_only (P := fun _ => True)
        (Prog.only_of_forall (fun _ => trivial) _) (fun _ _ _ h => absurd h ht) _
  exact hr.deeds_good hI hall

end CallsPlugin.Verified
