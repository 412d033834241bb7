import CallsPlugin.Verified.Play

/-!
# Programs that fail by their environment alone

A program that gives up its lock for a lengthy operation has to take it again
afterwards, and how that goes is up to the environment.  `FailsWith` says of a
program that each lengthy operation is followed by one attempt to lock, and that
the program fails exactly if one of those attempts does not go well.  It is
compositional: it holds of such a window, of code around it, and of one program
after another that passes failures on.
-/

namespace CallsPlugin.Verified

universe u v

variable {Op : Type u} {Resp : Op → Type u} {W : Type v} {α β : Type u}

/-- The lengthy operations in a record. -/
def windows (long : Op → Bool) (log : List (Sigma Resp)) : Nat :=
  log.countP fun e => long e.1

/-- A run has used up one turn for each lengthy operation, and failed if one of them was
bad. -/
structure Blames (long : Op → Bool) (good : Turn Op Resp W → Prop) (failed : α → Prop)
    (turns : Nat → Turn Op Resp W) (m : Played Op Resp W α) : Prop where
  turns_eq : m.turns = fun n => turns (n + windows long m.log)
  failed_iff : failed m.result ↔ ∃ n < windows long m.log, ¬ good (turns n)

/-- The program fails exactly by a bad turn after a lengthy operation. -/
def Prog.FailsWith (long : Op → Bool) (good : Turn Op Resp W → Prop) (failed : α → Prop)
    (p : Prog Op Resp α) : Prop :=
  ∀ sem turns w, Blames long good failed turns (p.play sem turns w)

variable {long : Op → Bool} {good : Turn Op Resp W → Prop} {failed : α → Prop}

@[simp] theorem windows_nil : windows long ([] : List (Sigma Resp)) = 0 := rfl

theorem windows_append (l l' : List (Sigma Resp)) :
    windows long (l ++ l') = windows long l + windows long l' := List.countP_append

theorem windows_eq_zero {l : List (Sigma Resp)} (h : ∀ e ∈ l, ¬ long e.1 = true) :
    windows long l = 0 := List.countP_eq_zero.2 h

namespace Blames

variable {turns : Nat → Turn Op Resp W} {m : Played Op Resp W α}

/-- Operations that are not lengthy do not matter. -/
theorem prepend {l : List (Sigma Resp)} (hl : windows long l = 0)
    (h : Blames long good failed turns m) :
    Blames long good failed turns { m with log := l ++ m.log } := by
  have hlen : windows long (l ++ m.log) = windows long m.log := by
    rw [windows_append, hl, Nat.zero_add]
  constructor
  · rw [hlen]
    exact h.turns_eq
  · rw [hlen]
    exact h.failed_iff

/-- A run without lengthy operations does not fail. -/
theorem of_quiet (hturns : m.turns = turns) (hlog : windows long m.log = 0)
    (hok : ¬ failed m.result) : Blames long good failed turns m := by
  constructor
  · rw [hlog]
    exact hturns
  · rw [hlog]
    exact ⟨fun h => absurd h hok, fun ⟨n, hn, _⟩ => absurd hn (Nat.not_lt_zero n)⟩

/-- A lengthy operation and a turn that goes well, and what comes then. -/
theorem cons_good {e : Sigma Resp} (he : long e.1 = true) (hgood : good (turns 0))
    (h : Blames long good failed (fun n => turns (n + 1)) m) :
    Blames long good failed turns { m with log := e :: m.log } := by
  have hlen : windows long (e :: m.log) = windows long m.log + 1 :=
    List.countP_cons_of_pos he
  constructor
  · rw [hlen]
    exact h.turns_eq
  · rw [hlen]
    refine h.failed_iff.trans ⟨fun ⟨n, hn, hbad⟩ => ⟨n + 1, by omega, hbad⟩, ?_⟩
    rintro ⟨n, hn, hbad⟩
    cases n with
    | zero => exact absurd hgood hbad
    | succ n => exact ⟨n, by omega, hbad⟩

/-- A lengthy operation and a turn that does not, after which the program fails. -/
theorem cons_bad {e : Sigma Resp} (he : long e.1 = true) (hbad : ¬ good (turns 0))
    (hturns : m.turns = fun n => turns (n + 1)) (hlog : windows long m.log = 0)
    (hfailed : failed m.result) :
    Blames long good failed turns { m with log := e :: m.log } := by
  have hlen : windows long (e :: m.log) = 1 := by
    rw [windows, List.countP_cons_of_pos (by exact he), ← windows, hlog]
  constructor
  · rw [hlen]
    exact hturns
  · rw [hlen]
    exact ⟨fun _ => ⟨0, Nat.one_pos, hbad⟩, fun _ => hfailed⟩

/-- After a run that has not failed come its own turns and those of what follows. -/
theorem append {failed' : β → Prop} {m₀ : Played Op Resp W β}
    (h₀ : Blames long good failed' turns m₀) (hok : ¬ failed' m₀.result)
    (h : Blames long good failed m₀.turns m) :
    Blames long good failed turns { m with log := m₀.log ++ m.log } := by
  have hturn : ∀ n, m₀.turns n = turns (n + windows long m₀.log) := congrFun h₀.turns_eq
  constructor
  · dsimp only
    rw [windows_append, h.turns_eq]
    funext n
    rw [hturn, Nat.add_assoc, Nat.add_comm (windows long m.log)]
  · dsimp only
    rw [windows_append, h.failed_iff]
    constructor
    · rintro ⟨n, hn, hbad⟩
      rw [hturn] at hbad
      exact ⟨_, by omega, hbad⟩
    · rintro ⟨n, hn, hbad⟩
      by_cases hlt : n < windows long m₀.log
      · exact absurd (h₀.failed_iff.2 ⟨n, hlt, hbad⟩) hok
      · refine ⟨n - windows long m₀.log, by omega, ?_⟩
        rwa [hturn, Nat.sub_add_cancel (Nat.le_of_not_lt hlt)]

end Blames

namespace Prog.FailsWith

theorem ret {a : α} (h : ¬ failed a) :
    (Prog.ret a : Prog Op Resp α).FailsWith long good failed :=
  fun _ _ _ => Blames.of_quiet rfl rfl h

/-- An operation that is not lengthy. -/
theorem op {o : Op} {k : Resp o → Prog Op Resp α} (ho : ¬ long o = true)
    (hk : ∀ r, (k r).FailsWith long good failed) :
    (Prog.op o k).FailsWith long good failed := by
  intro sem turns w
  refine Blames.prepend (l := [⟨o, (sem w o).1⟩])
    (windows_eq_zero fun e he => ?_) (hk _ _ _ _)
  rwa [List.mem_singleton.1 he]

/-- A program after another, which it follows only if that one has not failed. -/
theorem bind {failed' : β → Prop} {p : Prog Op Resp β} {f : β → Prog Op Resp α}
    (hp : p.FailsWith long good failed')
    (hpass : ∀ b, failed' b → ∃ a, f b = .ret a ∧ failed a)
    (hf : ∀ b, ¬ failed' b → (f b).FailsWith long good failed) :
    (p >>= f).FailsWith long good failed := by
  intro sem turns w
  rw [Prog.play_bind]
  have hfirst := hp sem turns w
  by_cases hb : failed' (p.play sem turns w).result
  · obtain ⟨a, ha, hfa⟩ := hpass _ hb
    simp only [ha, Prog.play_ret, List.append_nil]
    exact ⟨hfirst.turns_eq, ⟨fun _ => hfirst.failed_iff.1 hb, fun _ => hfa⟩⟩
  · exact hfirst.append hb (hf _ hb _ _ _)

end Prog.FailsWith

end CallsPlugin.Verified
