import CallsPlugin.Verified.Monitor

/-!
# Observers

An observer hears of each operation as it is issued, and takes no part: what it hears
changes its own state and nothing else.  `watched` is the meaning of the operations with
an observer in the world, so that the monitor rule also proves what ties the two
together.  What is known of the code alone carries over (`Code.wp_watched`), and code
the observer does not hear leaves it alone (`Code.wp_unheard`).
-/

namespace CallsPlugin.Verified

universe u v w x

variable {Op : Type u} {Resp : Op → Type u} {W : Type v} {C : Type w} {D : Type x}

/-- The operations with an observer, whose state `hear` changes. -/
def watched (sem : C → W → (o : Op) → Resp o × W) (hear : Op → D → D) (c : C)
    (wd : W × D) (o : Op) : Resp o × (W × D) :=
  ((sem c wd.1 o).1, (sem c wd.1 o).2, hear o wd.2)

/-! ## Code -/

/-- The logic with an observer, and an invariant about both. -/
@[reducible]
def Logic.watched (L : Logic Op Resp W C) (hear : Op → D → D) (inv : W × D → Prop) :
    Logic Op Resp (W × D) C where
  sem := Verified.watched L.sem hear
  allow h c wd o := L.allow h c wd.1 o
  pre wd o := L.pre wd.1 o
  inv := inv
  lockMayFail := L.lockMayFail
  stray := L.stray

section Code

variable {L : Logic Op Resp W C} {hear : Op → D → D} {inv : W × D → Prop} {α : Type u}
  {p : Code Op Resp α} {Q : α → W → Prop} {w : W} {d : D}

/-- What the code does to the world does not depend on the observer. -/
theorem Code.wp_watched (hp : p.wp L Q w) (d : D) :
    p.wp (L.watched hear inv) (fun a wd => Q a wd.1) (w, d) := by
  induction p generalizing w d with
  | ret a => exact hp
  | op o k ih =>
      refine ⟨hp.1, fun c hc => ?_⟩
      exact ih _ (hp.2 c hc) (hear o d)

/-- Code that is not heard of leaves the observer alone. -/
theorem Code.wp_unheard (hp : p.wp L Q w) (honly : p.Only fun o => ∀ d, hear o d = d) :
    p.wp (L.watched hear inv) (fun a wd => Q a wd.1 ∧ wd.2 = d) (w, d) := by
  induction p generalizing w with
  | ret a => exact ⟨hp, rfl⟩
  | op o k ih =>
      refine ⟨hp.1, fun c hc => ?_⟩
      have hsame : ((L.watched hear inv).sem c (w, d) o).2 = ((L.sem c w o).2, d) :=
        congrArg (Prod.mk _) (honly.1 d)
      rw [hsame]
      exact ih _ (hp.2 c hc) (honly.2 _)

/-- What the code is shown to reach in two ways. -/
theorem Code.wp_and {Q' : α → W → Prop} (h : p.wp L Q w) (h' : p.wp L Q' w) :
    p.wp L (fun a w' => Q a w' ∧ Q' a w') w := by
  induction p generalizing w with
  | ret a => exact ⟨h, h'⟩
  | op o k ih => exact ⟨h.1, fun c hc => ih _ (h.2 c hc) (h'.2 c hc)⟩

/-- Where fewer choices can occur and less is required of the operations, more is
known. -/
theorem Code.wp_restrict {L' : Logic Op Resp W C} (hsem : L'.sem = L.sem)
    (hallow : ∀ c w o, L'.allow .self c w o → L.allow .self c w o)
    (hpre : ∀ w o, L.pre w o → L'.pre w o) (h : p.wp L Q w) : p.wp L' Q w := by
  induction p generalizing w with
  | ret a => exact h
  | op o k ih =>
      refine ⟨hpre w o h.1, fun c hc => ?_⟩
      rw [hsem]
      exact ih _ (h.2 c (hallow c w o hc))

/-- The same on other terms. -/
theorem Code.wp_on {m : Terms Op W C}
    (hallow : ∀ h c w o, m.allow h c w o → L.allow h c w o)
    (hpre : ∀ w o, L.pre w o → m.pre w o) (h : p.wp L Q w) : p.wp (L.on m) Q w :=
  Code.wp_restrict (L := L) rfl (fun c w o => hallow .self c w o) hpre h

/-- The same of programs. -/
theorem wp_on {m : Terms Op W C} {b : Bool} {p : Prog Op Resp α}
    {Q : Bool → α → W → Prop} (hallow : ∀ h c w o, m.allow h c w o → L.allow h c w o)
    (hpre : ∀ w o, L.pre w o → m.pre w o) (h : wp L b p Q w) : wp (L.on m) b p Q w := by
  induction p generalizing b w with
  | ret a => exact wp_ret.2 (wp_ret.1 h)
  | op o k ih =>
      cases b
      · exact fun h' c w' hh hc =>
          ⟨(h h' c w' hh (hallow h' c w' o hc)).1,
            fun w'' => ih _ ((h h' c w' hh (hallow h' c w' o hc)).2 w'')⟩
      · exact ⟨hpre w o h.1, fun c hc => ih _ (h.2 c (hallow .self c w o hc))⟩
  | lock k ih =>
      cases b
      · exact ⟨fun w' hw => ih true (h.1 w' hw), fun hf w' => ih false (h.2 hf w')⟩
      · exact h.elim
  | unlock k ih => cases b <;> exact ⟨h.1, fun w' => ih (h.2 w')⟩

end Code

/-! ## Runs -/

section Runs

variable {T N : Type w} [DecidableEq T] [DecidableEq N]
  {sem : C → W → (o : Op) → Resp o × W} {hear : Op → D → D} {node : T → N}

/-- The pool with an observer in the state `d`. -/
def Sys.watch (s : Sys Op Resp W T N) (d : D) : Sys Op Resp (W × D) T N :=
  ⟨(s.world, d), s.inner, s.owner, s.polling, s.code⟩

variable {W' : Type x} {sem' : C → W' → (o : Op) → Resp o × W'} {g : W → W'}

/-- The pool in another world. -/
def Sys.mapWorld (g : W → W') (s : Sys Op Resp W T N) : Sys Op Resp W' T N :=
  ⟨g s.world, s.inner, s.owner, s.polling, s.code⟩

/-- The operations mean the same in both worlds. -/
def SameMeaning (sem : C → W → (o : Op) → Resp o × W)
    (sem' : C → W' → (o : Op) → Resp o × W') (g : W → W') : Prop :=
  ∀ c w o, sem' c (g w) o = ((sem c w o).1, g (sem c w o).2)

/-- A step of the pool is one in the other world. -/
theorem Sys.step_mapWorld (hg : SameMeaning sem sem' g) {s s' : Sys Op Resp W T N}
    {t : T} {a : Act C} (hs : s.step sem node t a = some s') :
    (s.mapWorld g).step sem' node t a = some (s'.mapWorld g) := by
  rcases Sys.step_cases hs with ⟨k, rfl, hk, hp, hn, rfl⟩ | ⟨k, rfl, hk, hp, ho, rfl⟩ |
    ⟨k, rfl, hk, hp, rfl⟩ | ⟨k, rfl, hk, rfl⟩ | ⟨c, o, k, rfl, hk, rfl⟩
  · simp [Sys.step, Sys.mapWorld, hk, hp, hn]
  · simp [Sys.step, Sys.mapWorld, hk, hp, ho]
  · simp [Sys.step, Sys.mapWorld, hk, hp]
  · have hrelease : (s.mapWorld g).release node t = (s.release node t).mapWorld g := by
      unfold Sys.release Sys.mapWorld
      dsimp only
      split <;> rfl
    have hk' : (s.mapWorld g).code t = .unlock k := hk
    simp only [Sys.step, hk', hrelease]
    rfl
  · simp [Sys.step, Sys.mapWorld, hk, hg c s.world o]

/-- A run goes the same way in the other world. -/
theorem Runs.mapWorld (hg : SameMeaning sem sem' g)
    {ok : List (Event T C) → Sys Op Resp W T N → T → Act C → Prop}
    {ok' : List (Event T C) → Sys Op Resp W' T N → T → Act C → Prop}
    (hok : ∀ tr s t a, ok tr s t a → ok' tr (s.mapWorld g) t a)
    {s₀ s : Sys Op Resp W T N} {tr : List (Event T C)} (hr : Runs sem node ok s₀ tr s) :
    Runs sem' node ok' (s₀.mapWorld g) tr (s.mapWorld g) := by
  induction hr with
  | refl => exact .refl
  | step hr hok' hs ih => exact ih.step (hok _ _ _ _ hok') (Sys.step_mapWorld hg hs)

/-- An observer that whatever it hears leaves as it is changes nothing. -/
theorem sameMeaning_deaf {d : D} (hdeaf : ∀ o, hear o d = d) :
    SameMeaning sem (Verified.watched sem hear) fun w => (w, d) := by
  intro c w o
  simp only [Verified.watched, hdeaf]

/-- Two observers that hear the same. -/
theorem sameMeaning_hear {D' : Type x} {hear' : Op → D' → D'} {f : D → D'}
    (hf : ∀ o d, hear' o (f d) = f (hear o d)) :
    SameMeaning (Verified.watched sem hear) (Verified.watched sem hear') fun wd =>
      (wd.1, f wd.2) := by
  intro c wd o
  simp only [Verified.watched, hf]

end Runs

end CallsPlugin.Verified
