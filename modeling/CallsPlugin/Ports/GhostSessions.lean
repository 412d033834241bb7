import CallsPlugin.Ports.BatchedWork

/-!
# Removals that are lost (`removeSession` of `server/session.go`)

The first attempt to remove a session sets `us.removed`, and those that follow leave the
session to it.  When it cannot take the lock of the call, make a batcher or push to one,
it returns with an error and the flag stays set: the session has a row that nobody
removes.
-/

namespace CallsPlugin.Ports

open CallsPlugin.Verified

namespace Batcher

variable {T : Type} {b b' : Batcher T} {t : T}

/-- The item waits, or is run. -/
def Has (b : Batcher T) (t : T) : Prop := t ∈ b.queue ∨ ∃ n, b.phase = .item t n

theorem push_has {item : T} (hpush : b.push item = some b') (h : b.Has t ∨ t = item) :
    b'.Has t := by
  obtain rfl := push_eq_some hpush
  rcases h with (h | h) | rfl
  · exact .inl (List.mem_append_left _ h)
  · exact .inr h
  · exact .inl (List.mem_append_right _ (List.mem_singleton_self t))

theorem tick_has (htick : b.tick = some b') (h : b.Has t) : b'.Has t := by
  obtain ⟨hphase, ⟨-, rfl⟩ | ⟨-, rfl⟩⟩ := tick_eq_some htick
  · exact h
  · exact h.imp_right fun ⟨n, hn⟩ => absurd (hphase.symm.trans hn) nofun

theorem preRun_has {ok : Bool} (hpre : b.preRun ok = some b') (h : b.Has t) :
    b'.Has t := by
  obtain ⟨n, hphase, ⟨-, rfl⟩ | ⟨-, rfl⟩⟩ := preRun_eq_some hpre
  · exact h.imp_right fun ⟨n, hn⟩ => absurd (hphase.symm.trans hn) nofun
  · exact h.imp_right fun ⟨n, hn⟩ => absurd (hphase.symm.trans hn) nofun

theorem receive_has (hrec : b.receive = some b') (h : b.Has t) : b'.Has t := by
  obtain ⟨n, item, rest, hphase, hqueue, rfl⟩ := receive_eq_some hrec
  rcases h with h | ⟨m, hm⟩
  · rw [hqueue, List.mem_cons] at h
    rcases h with rfl | h
    · exact .inr ⟨n, rfl⟩
    · exact .inl h
  · cases hphase.symm.trans hm

theorem returns_has (hret : b.returns = some b') (h : b.Has t)
    (hne : ∀ n, b.phase ≠ .item t n) :
    b'.Has t := by
  obtain ⟨_, _, -, rfl⟩ := returns_eq_some hret
  exact h.imp_right fun ⟨n, hn⟩ => absurd hn (hne n)

theorem postRun_has (hpost : b.postRun = some b') (h : b.Has t) : b'.Has t := by
  obtain ⟨hphase, rfl⟩ := postRun_eq_some hpost
  exact h.imp_right fun ⟨n, hn⟩ => absurd (hphase.symm.trans hn) nofun

theorem exit_has (hexit : b.exit = some b') (h : b.Has t) : b'.Has t := by
  obtain ⟨hphase, -, rfl⟩ := exit_eq_some hexit
  exact h.imp_right fun ⟨n, hn⟩ => absurd (hphase.symm.trans hn) nofun

end Batcher

namespace Batching

variable {T : Type} {req : T → BatchRequest} {s s' : Batching T} {t : T} {b : Nat}
  {p : BatchPlace} {c : PluginBatcher T} {us : SessionRef}

/-! ## Removals that will be performed -/

/-- A goroutine at this place is at work on its request, or a batcher has it. -/
def PendingAt (s : Batching T) (t : T) : BatchPlace → Prop
  | .counting | .wantsMut _ | .looking _ | .pushing _ | .wantsLock | .direct _ => True
  | .returning (.queued b) | .done (.queued b) => (s.batchers b).toBatcher.Has t
  | _ => False

/-- The request is in progress or queued. -/
def Pending (s : Batching T) (t : T) : Prop := s.PendingAt t (s.place t)

/-- A session with a row can be removed still, or its removal is in progress or
queued. -/
def Kept (req : T → BatchRequest) (s : Batching T) : Prop :=
  ∀ us, s.row us.originalConnID = true →
    s.removed us = false ∨ ∃ t, req t = .removeSession us ∧ s.Pending t

/-- A removal that has returned, with or without an error, leaves no ghost behind. -/
def NoGhost (req : T → BatchRequest) (s : Batching T) : Prop :=
  ∀ t us res, req t = .removeSession us → s.place t = .done res →
    s.row us.originalConnID = false ∨ s.removed us = false ∨
      ∃ t', req t' = .removeSession us ∧ s.Pending t'

theorem Kept.noGhost (h : s.Kept req) : s.NoGhost req := fun _ us _ _ _ => by
  cases hrow : s.row us.originalConnID with
  | false => exact .inl rfl
  | true => exact .inr (h us hrow)

/-! ## Attempts that fail -/

/-- Whose request goes on. -/
def actor (s : Batching T) : BatchAction T → Option T
  | .go t _ => some t
  | .work b _ =>
      match (s.batchers b).phase with
      | .item t _ => some t
      | _ => none
  | _ => none

/-- The batcher cannot be made or is full, the lock cannot be taken, or the session is
not deleted. -/
def fails (req : T → BatchRequest) (s : Batching T) : BatchAction T → Bool
  | .go t a =>
      match s.place t with
      | .looking count =>
          (s.batcherOf (req t).key).isNone &&
            !decide (count < minMembersCountForBatching) && !a.ok
      | .pushing b => ((s.batchers b).push t).isNone
      | .wantsLock => !a.ok
      | .direct .removing => !a.ok
      | _ => false
  | .work b ok => (s.batchers b).stage == .removing && !ok
  | _ => false

/-- No attempt to remove a session with a row fails at this step. -/
def succeeds (req : T → BatchRequest) (s : Batching T) (a : BatchAction T) : Bool :=
  match (s.actor a).map req with
  | some (.removeSession us) => !(s.row us.originalConnID && s.fails req a)
  | _ => true

/-! ## What a step keeps -/

/-- Rows and flags stay, rows but for being deleted, and so does what is pending. -/
theorem Kept.of (h : s.Kept req) (hrow : ∀ x, s'.row x = true → s.row x = true)
    (hremoved : s'.removed = s.removed)
    (hpending : ∀ t us, req t = .removeSession us → s'.row us.originalConnID = true →
      s.Pending t → s'.Pending t) : s'.Kept req := by
  intro us hus
  rcases h us (hrow _ hus) with hflag | ⟨t, hreq, hp⟩
  · exact .inl (hremoved ▸ hflag)
  · exact .inr ⟨t, hreq, hpending t us hreq hus hp⟩

/-- What is queued is queued still. -/
theorem Pending.mono (hplace : s'.place t = s.place t)
    (hhas : ∀ b, (s.batchers b).toBatcher.Has t → (s'.batchers b).toBatcher.Has t)
    (h : s.Pending t) : s'.Pending t := by
  unfold Pending at *
  rw [hplace]
  generalize s.place t = place at *
  match place with
  | .counting | .wantsMut _ | .looking _ | .pushing _ | .wantsLock | .direct _ =>
      trivial
  | .returning (.queued b) | .done (.queued b) => exact hhas b h
  | .start | .unlocking | .returning .ran | .returning .alreadyRemoved
  | .returning .failed
  | .done .ran | .done .alreadyRemoved | .done .failed => exact h.elim

/-- A batcher changes, and has what it had if a row depends on it. -/
theorem Kept.set (h : s.Kept req)
    (hhas : ∀ t us, req t = .removeSession us → s.row us.originalConnID = true →
      (s.batchers b).toBatcher.Has t → c.toBatcher.Has t) : (s.set b c).Kept req := by
  refine h.of (fun _ hx => hx) rfl fun t us hreq hrow => Pending.mono rfl
    fun b' hb' => ?_
  rw [set_batchers]
  split
  next heq => exact hhas t us hreq hrow (heq ▸ hb')
  next => exact hb'

/-- A step of a routine that drops nothing. -/
theorem Kept.routine (h : s.Kept req) {f : Batcher T → Option (Batcher T)}
    (hf : s.onBatcher b f = some s')
    (hhas : ∀ c t, f (s.batchers b).toBatcher = some c →
      (s.batchers b).toBatcher.Has t → c.Has t) :
    s'.Kept req := by
  obtain ⟨c, hc, rfl⟩ := Option.map_eq_some_iff.1 hf
  exact h.set fun t _ _ _ => hhas c t hc

/-- A step under the lock of the call. -/
theorem Kept.works (h : s.Kept req) (hworks : s.Works s') : s'.Kept req :=
  h.of hworks.rows hworks.removed fun t _ _ _ =>
    Pending.mono (congrFun hworks.place t) fun b hb => by rwa [(hworks.batchers b).1]

/-- A removal ends with the row deleted, if that succeeds. -/
theorem work_deletes {w : BatchHolder T} {ok : Bool} {stage : BatchStage}
    (hwork : s.work w (.removeSession us) ok stage = some (s', none)) :
    stage = .removing ∧ (ok = true → s'.row us.originalConnID = false) := by
  unfold Batching.work at hwork
  cases stage with
  | begin =>
      dsimp only at hwork
      split at hwork <;> cases hwork
  | locked => cases ok <;> cases hwork
  | noneLeft => cases hwork
  | addsDone => cases hwork
  | unlocking => cases hwork
  | removing =>
      cases hwork
      refine ⟨rfl, fun hok => ?_⟩
      rw [if_pos hok]
      exact Function.update_self ..

/-- An attempt that succeeds does not fail. -/
theorem fails_of_succeeds {a : BatchAction T} (hok : s.succeeds req a = true)
    (hactor : s.actor a = some t) (hreq : req t = .removeSession us)
    (hrow : s.row us.originalConnID = true) : s.fails req a = false := by
  unfold Batching.succeeds at hok
  rw [hactor, Option.map_some, hreq] at hok
  dsimp only at hok
  rw [hrow, Bool.true_and] at hok
  exact (Bool.not_eq_true' _).mp hok

section Goes

variable [DecidableEq T]

theorem pending_goto : (s.goto t p).Pending t ↔ s.PendingAt t p := by
  unfold Pending
  rw [goto_place, if_pos rfl]
  exact Iff.rfl

/-- A goroutine goes on with its removal. -/
theorem Kept.goto (h : s.Kept req)
    (hpending : ∀ us, req t = .removeSession us → s.row us.originalConnID = true →
      s.Pending t → s.PendingAt t p) : (s.goto t p).Kept req := by
  refine h.of (fun _ hx => hx) rfl fun t' us hreq hrow hp => ?_
  by_cases ht : t' = t
  · subst ht
    exact pending_goto.2 (hpending us hreq hrow hp)
  · refine Pending.mono (s := s) ?_ (fun _ hb => hb) hp
    rw [goto_place, if_neg ht]

omit [DecidableEq T] in
/-- A batcher that is made has nothing yet, and had nothing before. -/
theorem Kept.make (h : s.Kept req) (hsound : s.Sound req none) (key : BatcherKey)
    (size : Nat) :
    (s.make key size).Kept req := by
  refine Kept.set (b := s.made) (c := ⟨.new size, key, .begin, false⟩) h
    fun t us _ _ hhas => ?_
  rw [(hsound.unmade s.made (Nat.le_refl _)).1] at hhas
  rcases hhas with hq | ⟨n, hn⟩
  · cases hq
  · cases hn

/-! ### The steps of `handleJoin` and `removeSession`, by the place the goroutine is
at -/

section Go

variable {a : BatchAnswer} {count : Nat}

omit [DecidableEq T] in
/-- A removal whose attempt succeeds does not fail in the step. -/
theorem fails_go (hok : s.succeeds req (.go t a) = true)
    (hreq : req t = .removeSession us)
    (hrow : s.row us.originalConnID = true) : s.fails req (.go t a) = false :=
  fails_of_succeeds hok rfl hreq hrow

/-- Whoever sets the flag of a session goes on to remove it. -/
theorem Kept.go_start (h : s.Kept req) (hplace : s.place t = .start)
    (hgo : s.go req t a = some s') : s'.Kept req := by
  unfold Batching.go at hgo
  rw [hplace] at hgo
  dsimp only at hgo
  split at hgo
  next hreq =>
    cases hgo
    exact h.goto fun _ _ _ _ => trivial
  next us hreq =>
    split at hgo
    next =>
      cases hgo
      refine h.goto fun _ _ _ hp => ?_
      unfold Pending at hp
      rw [hplace] at hp
      exact hp
    next hfree =>
      cases hgo
      have hmoved : (s.goto t .counting).Kept req := h.goto fun _ _ _ _ => trivial
      intro us' hrow
      by_cases hus : us' = us
      · subst hus
        exact .inr ⟨t, hreq, pending_goto.2 trivial⟩
      · refine (hmoved us' hrow).imp_left fun hflag => ?_
        exact (Function.update_of_ne hus ..).trans hflag

theorem Kept.go_looking (h : s.Kept req) (hsound : s.Sound req none)
    (hok : s.succeeds req (.go t a) = true) (hplace : s.place t = .looking count)
    (hgo : s.go req t a = some s') : s'.Kept req := by
  unfold Batching.go at hgo
  rw [hplace] at hgo
  dsimp only at hgo
  split at hgo
  next b _ =>
    cases hgo
    exact h.goto fun _ _ _ _ => trivial
  next hnone =>
    split at hgo
    next =>
      cases hgo
      exact h.goto (p := .wantsLock) fun _ _ _ _ => trivial
    next hmany =>
      split at hgo
      next =>
        cases hgo
        exact (h.make hsound _ _).goto fun _ _ _ _ => trivial
      next hfailed =>
        cases hgo
        refine h.goto fun us hreq hrow _ => ?_
        have hcontra := fails_go hok hreq hrow
        simp only [Batching.fails, hplace] at hcontra
        rw [hnone, Bool.eq_false_iff.2 hfailed, decide_eq_false hmany] at hcontra
        cases hcontra

theorem Kept.go_pushing (h : s.Kept req) (hok : s.succeeds req (.go t a) = true)
    (hplace : s.place t = .pushing b) (hgo : s.go req t a = some s') : s'.Kept req := by
  unfold Batching.go at hgo
  rw [hplace] at hgo
  dsimp only at hgo
  split at hgo
  next pushed hpush =>
    cases hgo
    have hset : (s.set b { s.batchers b with toBatcher := pushed }).Kept req :=
      h.set fun t' _ _ _ hhas => Batcher.push_has hpush (.inl hhas)
    refine hset.goto fun _ _ _ _ => ?_
    show ((s.set b _).batchers b).toBatcher.Has t
    rw [set_batchers, if_pos rfl]
    exact Batcher.push_has hpush (.inr rfl)
  next hfull =>
    cases hgo
    refine h.goto fun us hreq hrow _ => ?_
    have hcontra := fails_go hok hreq hrow
    simp only [Batching.fails, hplace] at hcontra
    rw [hfull] at hcontra
    cases hcontra

theorem Kept.go_returning {res : BatchResult} (h : s.Kept req)
    (hplace : s.place t = .returning res) (hgo : s.go req t a = some s') :
    s'.Kept req := by
  unfold Batching.go at hgo
  rw [hplace] at hgo
  cases hgo
  refine h.goto (p := .done res) fun _ _ _ hp => ?_
  unfold Pending at hp
  rw [hplace] at hp
  cases res with
  | queued b => exact hp
  | ran => exact hp
  | alreadyRemoved => exact hp
  | failed => exact hp

theorem Kept.go_wantsLock (h : s.Kept req) (hok : s.succeeds req (.go t a) = true)
    (hplace : s.place t = .wantsLock) (hgo : s.go req t a = some s') : s'.Kept req := by
  unfold Batching.go at hgo
  rw [hplace] at hgo
  dsimp only at hgo
  split at hgo
  next =>
    split at hgo
    next =>
      cases hgo
      exact h.goto (p := .direct .begin) fun _ _ _ _ => trivial
    next => cases hgo
  next hfailed =>
    cases hgo
    refine h.goto fun us hreq hrow _ => ?_
    have hcontra := fails_go hok hreq hrow
    simp only [Batching.fails, hplace] at hcontra
    rw [Bool.eq_false_iff.2 hfailed] at hcontra
    cases hcontra

/-- The removal that is done has deleted the row. -/
theorem Kept.go_direct {stage : BatchStage} (h : s.Kept req)
    (hok : s.succeeds req (.go t a) = true) (hplace : s.place t = .direct stage)
    (hgo : s.go req t a = some s') : s'.Kept req := by
  unfold Batching.go at hgo
  rw [hplace] at hgo
  dsimp only at hgo
  split at hgo
  next s₁ stage' hwork =>
    cases hgo
    exact (h.works (works_of_work hwork)).goto fun _ _ _ _ => trivial
  next s₁ hwork =>
    cases hgo
    have hworks := works_of_work hwork
    refine (h.works hworks).goto fun us hreq hrow _ => ?_
    have hfails := fails_go hok hreq (hworks.rows _ hrow)
    simp only [Batching.fails, hplace] at hfails
    rw [hreq] at hwork
    obtain ⟨rfl, hdeleted⟩ := work_deletes hwork
    have hdone : (!a.ok) = false := hfails
    rw [hdeleted (by simpa using hdone)] at hrow
    cases hrow
  next => cases hgo

theorem Kept.go (h : s.Kept req) (hsound : s.Sound req none)
    (hok : s.succeeds req (.go t a) = true) (hgo : s.go req t a = some s') :
    s'.Kept req := by
  rcases hplace : s.place t with _ | _ | count | count | b | res | _ | stage | _ | res
  case start => exact h.go_start hplace hgo
  case counting =>
    unfold Batching.go at hgo
    rw [hplace] at hgo
    cases hgo
    exact h.goto fun _ _ _ _ => trivial
  case wantsMut =>
    unfold Batching.go at hgo
    rw [hplace] at hgo
    dsimp only at hgo
    split at hgo
    next =>
      cases hgo
      exact h.goto (p := .looking count) fun _ _ _ _ => trivial
    next => cases hgo
  case looking => exact h.go_looking hsound hok hplace hgo
  case pushing => exact h.go_pushing hok hplace hgo
  case returning => exact h.go_returning hplace hgo
  case wantsLock => exact h.go_wantsLock hok hplace hgo
  case direct => exact h.go_direct hok hplace hgo
  case unlocking =>
    unfold Batching.go at hgo
    rw [hplace] at hgo
    cases hgo
    refine h.goto (p := .done .ran) fun _ _ _ hp => ?_
    unfold Pending at hp
    rw [hplace] at hp
    exact hp
  case done =>
    unfold Batching.go at hgo
    rw [hplace] at hgo
    cases hgo

end Go

omit [DecidableEq T] in
theorem Kept.item {ok : Bool} (h : s.Kept req)
    (hok : s.succeeds req (.work b ok) = true)
    (hitem : s.item req b ok = some s') : s'.Kept req := by
  unfold Batching.item at hitem
  split at hitem
  next t n hphase =>
    split at hitem
    next s₁ stage hwork =>
      cases hitem
      exact (h.works (works_of_work hwork)).set fun _ _ _ _ hhas => hhas
    next s₁ hwork =>
      have hworks := works_of_work hwork
      obtain ⟨c, hc, rfl⟩ := Option.map_eq_some_iff.1 hitem
      refine (h.works hworks).set fun t' us hreq hrow hhas =>
        Batcher.returns_has hc hhas fun m hm => ?_
      rw [(hworks.batchers b).1, hphase] at hm
      cases hm
      -- the item that returns is the removal itself
      have hactor : s.actor (.work b ok) = some t := by
        unfold actor
        dsimp only
        rw [hphase]
      have hfails := fails_of_succeeds hok hactor hreq (hworks.rows _ hrow)
      rw [hreq] at hwork
      obtain ⟨hstage, hdeleted⟩ := work_deletes hwork
      unfold Batching.fails at hfails
      dsimp only at hfails
      rw [hstage] at hfails
      rw [hdeleted (by simpa using hfails)] at hrow
      cases hrow
    next => cases hitem
  next => cases hitem

/-- One step. -/
theorem Kept.next {a : BatchAction T} (h : s.Kept req) (hsound : s.Sound req none)
    (hok : s.succeeds req a = true) (hnext : s.next req a = some s') : s'.Kept req := by
  have hothers : ∀ pmut lock,
      Kept req { s with pmut := pmut, lock := lock } := fun _ _ =>
    h.of (fun _ hx => hx) rfl fun _ _ _ _ => Pending.mono rfl fun _ hb => hb
  cases a with
  | go t a => exact h.go hsound hok hnext
  | tick b => exact h.routine hnext fun _ _ => Batcher.tick_has
  | preRun b ok =>
      cases ok with
      | false =>
          have hnext : s.onBatcher b (Batcher.preRun · false) = some s' := hnext
          exact h.routine hnext fun _ _ => Batcher.preRun_has
      | true =>
          unfold Batching.next at hnext
          dsimp only at hnext
          split at hnext
          next =>
            obtain ⟨s₁, hs₁, rfl⟩ := Option.map_eq_some_iff.1 hnext
            obtain ⟨c, hc, rfl⟩ := Option.map_eq_some_iff.1 hs₁
            exact (hothers s.pmut (Function.update s.lock (s.batchers b).key.channelID
              (some (.batcher b)))).set fun _ _ _ _ => Batcher.preRun_has hc
          next => cases hnext
  | receive b =>
      have hbegun : (s.set b { s.batchers b with stage := .begin }).Kept req :=
        h.set fun _ _ _ _ hhas => hhas
      exact hbegun.routine hnext fun _ _ => Batcher.receive_has
  | work b ok => exact h.item hok hnext
  | postRun b =>
      obtain ⟨s₁, hs₁, rfl⟩ := Option.map_eq_some_iff.1 hnext
      obtain ⟨c, hc, rfl⟩ := Option.map_eq_some_iff.1 hs₁
      exact (hothers s.pmut
        (Function.update s.lock (s.batchers b).key.channelID none)).set
        fun _ _ _ _ => Batcher.postRun_has hc
  | stop b =>
      unfold Batching.next at hnext
      dsimp only at hnext
      split at hnext
      next => exact h.routine hnext fun c t hc hhas => by cases hc; exact hhas
      next => cases hnext
  | exit b => exact h.routine hnext fun _ _ => Batcher.exit_has
  | othersMut =>
      unfold Batching.next at hnext
      dsimp only at hnext
      split at hnext <;> cases hnext
      exact hothers (some .others) s.lock
  | othersUnmut =>
      unfold Batching.next at hnext
      dsimp only at hnext
      split at hnext <;> cases hnext
      exact hothers none s.lock
  | othersLock channelID =>
      unfold Batching.next at hnext
      dsimp only at hnext
      split at hnext <;> cases hnext
      exact hothers s.pmut _
  | othersUnlock channelID =>
      unfold Batching.next at hnext
      dsimp only at hnext
      split at hnext <;> cases hnext
      exact hothers s.pmut _

theorem Kept.of_runs {row : String → Bool}
    (hr : (machine req).Runs (fun s a => s.succeeds req a = true) (initial row) s) :
    s.Kept req := by
  have hboth : s.Sound req none ∧ s.Kept req := by
    apply hr.inv
    · exact ⟨sound_initial req row, fun _ _ => .inl rfl⟩
    · intro s a hen hok h
      obtain ⟨s', hs'⟩ := Option.isSome_iff_exists.1 hen
      show ((s.next req a).getD s).Sound req none ∧ ((s.next req a).getD s).Kept req
      rw [hs']
      exact ⟨h.1.next hs', h.2.next h.1 hok hs'⟩
  exact hboth.2

end Goes

/-- **No ghost sessions**, as long as no attempt fails that has the flag of a session
with a row. -/
theorem noGhost_of_runs [DecidableEq T] (req : T → BatchRequest) (row : String → Bool)
    (s : Batching T)
    (hr : (machine req).Runs (fun s a => s.succeeds req a = true) (initial row) s) :
    s.NoGhost req :=
  (Kept.of_runs hr).noGhost

/-- The client leaves while its connection is closed: both remove its session. -/
def leaveAndClose : Bool → BatchRequest := fun _ => .removeSession ⟨0, "chan", "conn"⟩

/-- The second finds the flag set while the first waits for the lock of the call. -/
theorem noGhost_of_leaveAndClose : ∃ s : Batching Bool,
    (machine leaveAndClose).Runs (fun s a => s.succeeds leaveAndClose a = true)
        (initial fun _ => true) s ∧
      (s.row "conn", s.place true, s.place false) =
        (true, .done .alreadyRemoved, .wantsLock) ∧
      s.NoGhost leaveAndClose := by
  have hleads : ((machine leaveAndClose).leads (fun s a => s.succeeds leaveAndClose a)
      (initial fun _ => true)
      [.go false ⟨true, 0⟩, .go true ⟨true, 0⟩, .go false ⟨true, 3⟩,
        .go false ⟨true, 0⟩,
        .go false ⟨true, 0⟩]).map
          (fun s => (s.row "conn", s.place true, s.place false)) =
      some (true, .done .alreadyRemoved, .wantsLock) := by
    decide
  obtain ⟨s, hr, hs⟩ := Machine.Runs.exists_of_leads (fun _ _ h => h) hleads
  exact ⟨s, hr, hs, noGhost_of_runs leaveAndClose _ s hr⟩

/-- The first cannot take the lock, and the second leaves the session to it. -/
theorem ghost_of_leaveAndClose : ∃ s : Batching Bool,
    (machine leaveAndClose).Runs Machine.Always (initial fun _ => true) s ∧
      s.row "conn" = true ∧ (∀ t, ∃ res, s.place t = .done res) ∧
      ¬ s.NoGhost leaveAndClose := by
  have hleads : ((machine leaveAndClose).leads (fun _ _ => true) (initial fun _ => true)
      [.go false ⟨true, 0⟩, .go false ⟨true, 3⟩, .go false ⟨true, 0⟩,
        .go false ⟨true, 0⟩, .go false ⟨false, 0⟩, .go true ⟨true, 0⟩]).map
      (fun s => (s.row "conn", s.removed ⟨0, "chan", "conn"⟩, s.place false,
        s.place true)) =
      some (true, true, .done .failed, .done .alreadyRemoved) := by
    decide
  obtain ⟨s, hr, hs⟩ :=
    Machine.Runs.exists_of_leads (fun s a _ => (trivial : Machine.Always s a)) hleads
  simp only [Prod.mk.injEq] at hs
  obtain ⟨hrow, hflag, hfalse, htrue⟩ := hs
  refine ⟨s, hr, hrow, Bool.forall_bool.2 ⟨⟨_, hfalse⟩, ⟨_, htrue⟩⟩, fun hno => ?_⟩
  rcases hno false ⟨0, "chan", "conn"⟩ .failed rfl hfalse with h | h | ⟨t, -, hp⟩
  · rw [hrow] at h
    cases h
  · rw [hflag] at h
    cases h
  · unfold Pending at hp
    cases t with
    | false =>
        rw [hfalse] at hp
        exact hp
    | true =>
        rw [htrue] at hp
        exact hp

end Batching

end CallsPlugin.Ports
