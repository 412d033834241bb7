import CallsPlugin.Verified.History
import CallsPlugin.Ports.CallHost
import CallsPlugin.Ports.ScreenSharing
import Mathlib.Algebra.Ring.Int.Defs

/-!
# How long screens were shared

`ScreenDuration` is meant to be the sum of the intervals in which a session shared its
screen.  A leave and the end of a call add to it; a request to stop replaces it, and a
clean-up leaves the running interval out.
-/

namespace CallsPlugin.Ports

open CallsPlugin.Verified
open CallsPlugin.Ports.Public CallsPlugin.Ports.Db

/-! ## Intervals -/

/-- A session of the call shares its screen. -/
def Sharing (c : Call) : Prop := c.endAt = 0 ∧ sharer c ≠ ""

instance (c : Call) : Decidable (Sharing c) := by unfold Sharing; infer_instance

/-- The interval that runs in `c` no longer runs in `c'`. -/
def IntervalEnds (c c' : Call) : Prop :=
  Sharing c ∧ ¬ (Sharing c' ∧ sharer c' = sharer c ∧ c'.props.screenStartAt =
    c.props.screenStartAt)

instance (c c' : Call) :
    Decidable (IntervalEnds c c') := by unfold IntervalEnds; infer_instance

/-- An interval in which a screen was shared: its start in seconds, and the reading of
the clock at its end. -/
structure Interval where
  start : Int
  stop : Int
  deriving DecidableEq, Repr

/-- The seconds of an interval. -/
def Interval.seconds (i : Interval) : Int := secondsSinceTimestamp i.stop i.start

/-- The sum over some intervals. -/
def total (l : List Interval) : Int := (l.map Interval.seconds).sum

@[simp] theorem total_nil : total [] = 0 := rfl

theorem total_append (l l' : List Interval) : total (l ++ l') = total l + total l' := by
  simp [total]

theorem total_singleton (start stop : Int) :
    total [⟨start, stop⟩] = secondsSinceTimestamp stop start := by
  simp [total, Interval.seconds]

/-- The start is marked while a session shares its screen, and then only. -/
def Marked (c : Call) : Prop :=
  if sharer c = "" then c.props.screenStartAt ≤ 0 else 0 < c.props.screenStartAt

theorem Marked.sharer_iff {c : Call} (h : Marked c) :
    sharer c ≠ "" ↔ 0 < c.props.screenStartAt := by
  unfold Marked at h
  split at h
  next hnone => exact ⟨fun hs => absurd hnone hs, fun hs => by omega⟩
  next hsome => exact ⟨fun _ => h, fun _ => hsome⟩

/-- Writing `c'` over `c` counts the interval that ends with it, by one of the
readings. -/
def Accounted (readings : Int → Prop) (c c' : Call) : Prop :=
  if IntervalEnds c c' then
    ∃ now, readings now ∧ c'.stats.screenDuration =
      c.stats.screenDuration + secondsSinceTimestamp now c.props.screenStartAt
  else c'.stats.screenDuration = c.stats.screenDuration

/-- Two calls agree on the sharing of a screen. -/
structure SameTiming (c c' : Call) : Prop where
  endAt : c'.endAt = c.endAt
  sharer : Ports.sharer c' = Ports.sharer c
  start : c'.props.screenStartAt = c.props.screenStartAt
  duration : c'.stats.screenDuration = c.stats.screenDuration

theorem SameTiming.refl (c : Call) : SameTiming c c := ⟨rfl, rfl, rfl, rfl⟩

theorem SameTiming.symm {c c' : Call} (h : SameTiming c c') : SameTiming c' c :=
  ⟨h.endAt.symm, h.sharer.symm, h.start.symm, h.duration.symm⟩

theorem SameTiming.trans {c c' c'' : Call} (h : SameTiming c c')
    (h' : SameTiming c' c'') :
    SameTiming c c'' :=
  ⟨h'.endAt.trans h.endAt, h'.sharer.trans h.sharer, h'.start.trans h.start,
    h'.duration.trans h.duration⟩

theorem SameTiming.sharing {c c' : Call} (h : SameTiming c c') :
    Sharing c' ↔ Sharing c := by
  unfold Sharing
  rw [h.endAt, h.sharer]

theorem SameTiming.marked {c c' : Call} (h : SameTiming c c') :
    Marked c' ↔ Marked c := by
  unfold Marked
  rw [h.sharer, h.start]

theorem SameTiming.accounted {readings : Int → Prop} {c c' : Call}
    (h : SameTiming c c') :
    Accounted readings c c' := by
  have hgoes : ¬ IntervalEnds c c' := fun hend =>
    hend.2 ⟨h.sharing.2 hend.1, h.sharer, h.start⟩
  unfold Accounted
  rw [if_neg hgoes]
  exact h.duration

/-! ## The state in memory -/

/-- The state is as the row has it, or its sharing session has left and the interval is
counted already. -/
def InStep (readings : Int → Prop) (mem row : Call) : Prop :=
  SameTiming row mem ∨
    Sharing row ∧ mem.endAt = 0 ∧ sharer mem = "" ∧ mem.props.screenStartAt ≤ 0 ∧
      ∃ now, readings now ∧ mem.stats.screenDuration =
        row.stats.screenDuration + secondsSinceTimestamp now row.props.screenStartAt

theorem InStep.congr {readings : Int → Prop} {mem mem' row : Call}
    (h : InStep readings mem row)
    (hmem : SameTiming mem mem') : InStep readings mem' row := by
  rcases h with h | ⟨hrow, he, hs, hst, now, hnow, hd⟩
  · exact .inl (h.trans hmem)
  · exact .inr ⟨hrow, hmem.endAt.trans he, hmem.sharer.trans hs, hmem.start ▸ hst, now,
      hnow, hmem.duration.trans hd⟩

/-- Writing the state counts the interval that ends with it. -/
theorem InStep.accounted {readings : Int → Prop} {mem row : Call}
    (h : InStep readings mem row) :
    Accounted readings row mem := by
  rcases h with h | ⟨hrow, he, hs, hst, hcount⟩
  · exact h.accounted
  · unfold Accounted
    rw [if_pos ⟨hrow, fun hmem => hmem.1.2 hs⟩]
    exact hcount

theorem InStep.marked {readings : Int → Prop} {mem row : Call}
    (h : InStep readings mem row) (hrow : Marked row) : Marked mem := by
  rcases h with h | ⟨-, he, hs, hst, -⟩
  · exact h.marked.2 hrow
  · unfold Marked
    rw [if_pos hs]
    exact hst

/-- The row of the call is marked as long as it has not ended. -/
def Timed (callID : String) (s : Store) : Prop :=
  ∀ c ∈ s.calls, c.id = callID → c.endAt = 0 → Marked c

/-- The state shared by a batch, if it is one of the call. -/
structure TimedSync (callID : String) (readings : Int → Prop)
    (st : CallState) (s : Store) :
    Prop where
  timed : Timed callID s
  row : st.call.id = callID → ∃ c ∈ s.calls, c.id = callID
  ongoing : st.call.id = callID → st.call.endAt = 0
  inStep : st.call.id = callID → ∀ c ∈ s.calls, c.id = callID →
    InStep readings st.call c

section State

variable {callID : String} {readings : Int → Prop} {st st' : CallState} {s s' : Store}

theorem Timed.congr (h : Timed callID s) (hcalls : s'.calls = s.calls) :
    Timed callID s' := by
  unfold Timed
  rw [hcalls]
  exact h

theorem TimedSync.congr (h : TimedSync callID readings st s)
    (hid : st'.call.id = st.call.id)
    (hcall : SameTiming st.call st'.call) (hcalls : s'.calls = s.calls) :
    TimedSync callID readings st' s' where
  timed := h.timed.congr hcalls
  row hk := by
    rw [hcalls]
    exact h.row (hid.symm.trans hk)
  ongoing hk := hcall.endAt.trans (h.ongoing (hid.symm.trans hk))
  inStep hk := by
    rw [hcalls]
    exact fun c hc hcid => (h.inStep (hid.symm.trans hk) c hc hcid).congr hcall

/-- A call is written whose start is marked if it is this one and goes on. -/
theorem Timed.updateCall {c : Call} (h : Timed callID s)
    (hc : c.id = callID → c.endAt = 0 → Marked c) : Timed callID (s.updateCall c) := by
  intro x hx hxid he
  obtain ⟨r, hr, rfl⟩ := Store.mem_updateCall.1 hx
  by_cases hk : r.id = c.id
  · rw [if_pos hk] at hxid he ⊢
    exact hc (hk.symm.trans hxid) he
  · rw [if_neg hk] at hxid he ⊢
    exact h r hr hxid he

theorem TimedSync.marked (h : TimedSync callID readings st s)
    (hk : st.call.id = callID) :
    Marked st.call := by
  obtain ⟨c, hc, hcid⟩ := h.row hk
  have hstep := h.inStep hk c hc hcid
  refine hstep.marked (h.timed c hc hcid ?_)
  rcases hstep with hsame | ⟨hrow, -⟩
  · exact hsame.endAt.symm.trans (h.ongoing hk)
  · exact hrow.1

/-- After the call was written as the state has it. -/
theorem TimedSync.updateCall (h : TimedSync callID readings st s)
    (hid : st'.call.id = st.call.id) (hgo : st.call.id = callID → st'.call.endAt = 0)
    (hm : st.call.id = callID → Marked st'.call) :
    TimedSync callID readings st' (s.updateCall st'.call) where
  timed := h.timed.updateCall fun hk _ => hm (hid.symm.trans hk)
  row hk := by
    obtain ⟨c, hc, hcid⟩ := h.row (hid.symm.trans hk)
    refine ⟨_, Store.mem_updateCall.2 ⟨c, hc, rfl⟩, ?_⟩
    split <;> exact hcid
  ongoing hk := hgo (hid.symm.trans hk)
  inStep hk c hc hcid := by
    obtain ⟨r, hr, rfl⟩ := Store.mem_updateCall.1 hc
    by_cases hrk : r.id = st'.call.id
    · rw [if_pos hrk]
      exact .inl ⟨rfl, rfl, rfl, rfl⟩
    · rw [if_neg hrk] at hcid
      exact absurd (hcid.trans hk.symm) hrk

/-- The state read under the lock is as the row has it. -/
theorem Timed.sync {channelID : String} (h : Timed callID s)
    (hst : storedState s channelID = some st) : TimedSync callID readings st s := by
  obtain ⟨hc, -, hact⟩ := storedState_active hst
  refine ⟨h, fun hk => ⟨st.call, hc, hk⟩, fun _ => hact.1, fun hk c hmem hid => ?_⟩
  rw [storedState_row hst hmem (hid.trans hk.symm)]
  exact .inl (.refl _)

end State

/-! ## What is required of a write -/

/-- The readings of the clock at which a request may end an interval. -/
def Handler.Readings (env : Env) : Handler → Int → Prop
  | .screen _ _, now => now = env.now .screenOff
  | .leave l, now => now = l.env.now .screenOff
  | .leaveBatch ls, now => ∃ l ∈ ls, now = l.env.now .screenOff
  | .forceEnd _, now => now = env.now .callEnd
  | .cleanUp, now => now = env.now .callEnd
  | _, _ => False

/-- A request to stop comes before any interval was counted; a clean-up and a forced end
write the duration that is stored, and no interval runs that has a second. -/
structure CountsAll (callID : String) (env : Env) (h : Handler) (s : Store) (x : Call) :
    Prop where
  stop : ∀ us, h = .screen us false → ∀ c ∈ s.calls, c.id = callID →
    c.stats.screenDuration = 0
  ends : (h = .cleanUp ∨ ∃ id, h = .forceEnd id) → ∀ c ∈ s.calls, c.id = callID →
    x.stats.screenDuration = c.stats.screenDuration ∧
      (Sharing c → secondsSinceTimestamp (env.now .callEnd) c.props.screenStartAt = 0)

/-- A write of the call counts the interval that ends with it, if it comes as
`CountsAll` says; the call is created without one. -/
def KeepsTime (callID : String) (env : Env) (h : Handler) (s : Store) : Op → Prop
  | .store (.updateCall x) => x.id = callID → CountsAll callID env h s x →
      ∀ c ∈ s.calls, c.id = callID → Accounted (h.Readings env) c x
  | .store (.createCall x) => x.id = callID →
      (∃ c ∈ s.calls, c.id = callID) ∨ x.stats.screenDuration = 0
  | _ => True

theorem keepsTime_lenient (callID : String) (env : Env) (h : Handler) :
    Lenient (KeepsTime callID env h) := by
  intro w o ho
  cases o with
  | store o =>
      cases o with
      | updateCall c => exact absurd trivial ho
      | createCall c => exact absurd trivial ho
      | _ => trivial
  | _ => trivial

/-- The conditions on an operation of a request. -/
structure TimingAllow (callID : String) (env : Env) (h : Handler) (holder : Holder)
    (_ : Choice) (s : Store) (o : Op) : Prop where
  counts : ∀ x, o = .store (.updateCall x) → x.id = callID → CountsAll callID env h s x
  forceEnd : ∀ id so, h = .forceEnd id → o = .store so → so.isWrite = true →
    holder = .nobody

/-- The terms of a request. -/
@[reducible]
def timeTerms (callID : String) (env : Env) (h : Handler) : Terms Op Store Choice where
  allow := TimingAllow callID env h
  pre := KeepsTime callID env h

/-- The rules of a request on the channel. -/
abbrev timeRules (callID : String) (env : Env) (h : Handler) :
    Logic Op Op.Resp Store Choice :=
  callRules (TimingAllow callID env h) (KeepsTime callID env h) (Timed callID) True

section Rules

variable {callID channelID : String} {p : Plugin} {env : Env} {h : Handler}
  {st st' : CallState} {w : Store}

/-- A state in step may be written after a change that leaves the screen alone. -/
theorem TimedSync.keepsTime {x : Call} (hst : TimedSync callID (h.Readings env) st w)
    (hid : x.id = st.call.id) (hcall : SameTiming st.call x) :
    KeepsTime callID env h w (.store (.updateCall x)) :=
  fun hk _ c hc hcid =>
    ((hst.inStep (hid.symm.trans hk) c hc hcid).congr hcall).accounted

/-! ## Leaves -/

section Leave

variable {readings : Int → Prop} {lenv : Env} {r : LeaveRequest}

/-- The state between the leaves of a batch, as long as the call has sessions. -/
def TimedLeave (callID : String) (readings : Int → Prop) (st : CallState) (s : Store) :
    Prop :=
  Timed callID s ∧ (st.sessions.rows ≠ [] → TimedSync callID readings st s)

/-- The state shared by a batch of leaves. -/
def TimedLeaving (callID : String) (readings : Int → Prop) : Option CallState → Store →
    Prop
  | none, s => Timed callID s
  | some st, s => TimedLeave callID readings st s

theorem TimedLeaving.timed {state : Option CallState}
    (hst : TimedLeaving callID readings state w) :
    Timed callID w := by
  cases state with
  | none => exact hst
  | some st => exact And.left hst

/-- The interval of the leaving session is counted. -/
theorem screenLeftCall_inStep {mem row : Call} (hnow : readings (lenv.now .screenOff))
    (hstep : InStep readings mem row) (he : mem.endAt = 0) (hm : Marked mem) :
    InStep readings (screenLeftCall lenv r mem) row := by
  unfold screenLeftCall
  split
  next hconn =>
    by_cases hstart : mem.props.screenStartAt > 0
    · -- the interval runs, in memory and in the row
      have hsome : sharer mem ≠ "" := hm.sharer_iff.2 hstart
      rcases hstep with hsame | ⟨-, -, hnone, -⟩
      · refine .inr ⟨⟨hsame.endAt.symm.trans he, hsame.sharer ▸ hsome⟩, he, rfl, ?_,
          lenv.now .screenOff, hnow, ?_⟩
        · show (if mem.props.screenStartAt > 0 then 0 else mem.props.screenStartAt) ≤ 0
          rw [if_pos hstart]
        · show (if mem.props.screenStartAt > 0 then _ else _) = _
          rw [if_pos hstart, hsame.duration, hsame.start]
      · exact absurd hnone hsome
    · have hnone : sharer mem = "" := by
        by_contra hsome
        exact hstart (hm.sharer_iff.1 hsome)
      refine hstep.congr ⟨rfl, hnone.symm, ?_, ?_⟩
      · exact if_neg hstart
      · exact if_neg hstart
  · exact hstep

theorem hostLeftCall_sameTiming (r : LeaveRequest) :
    SameTiming st.call (hostLeftCall p lenv r st) := by
  unfold hostLeftCall
  split <;> exact ⟨rfl, rfl, rfl, rfl⟩

/-- The end of a leave counts an interval that still runs when the call ends. -/
theorem left_accounted {row : Call} (hnow : readings (lenv.now .screenOff))
    (hstep : InStep readings st.call row) (he : st.call.endAt = 0)
    (hm : Marked st.call) :
    Accounted readings row (left p lenv r st).call := by
  have hhost : SameTiming st.call (hostLeftCall p lenv r st) :=
    hostLeftCall_sameTiming r
  by_cases hnil : st.sessions.rows = []
  · have hcall : (left p lenv r st).call =
        setCallEnded lenv { hostLeftCall p lenv r st with
        stats := ⟨if (hostLeftCall p lenv r st).props.screenStartAt > 0
          then (hostLeftCall p lenv r st).stats.screenDuration + secondsSinceTimestamp
            (lenv.now .screenOff) (hostLeftCall p lenv r st).props.screenStartAt
          else (hostLeftCall p lenv r st).stats.screenDuration⟩ } := if_pos hnil
    have hended : ¬ Sharing (left p lenv r st).call := by
      rw [hcall]
      exact fun hs => (lenv.now_pos .callEnd).ne' hs.1
    have hends : IntervalEnds row (left p lenv r st).call ↔ Sharing row :=
      ⟨fun h => h.1, fun h => ⟨h, fun hs => hended hs.1⟩⟩
    have hduration : (left p lenv r st).call.stats.screenDuration =
        if st.call.props.screenStartAt > 0 then st.call.stats.screenDuration +
          secondsSinceTimestamp (lenv.now .screenOff) st.call.props.screenStartAt
        else st.call.stats.screenDuration := by
      rw [hcall, ← hhost.start, ← hhost.duration]
      rfl
    unfold Accounted
    simp only [hends]
    rw [hduration]
    rcases hstep with hsame | ⟨hrow, -, -, hstart, hcount⟩
    · have hrow : Sharing row ↔ st.call.props.screenStartAt > 0 := by
        unfold Sharing
        rw [← hsame.endAt, ← hsame.sharer, hm.sharer_iff]
        exact and_iff_right he
      by_cases hstart : st.call.props.screenStartAt > 0
      · rw [if_pos hstart, if_pos (hrow.2 hstart), hsame.duration, hsame.start]
        exact ⟨_, hnow, rfl⟩
      · rw [if_neg hstart, if_neg fun h => hstart (hrow.1 h)]
        exact hsame.duration
    · have hstop : ¬ st.call.props.screenStartAt > 0 := by omega
      rw [if_neg hstop, if_pos hrow]
      exact hcount
  · rw [left_of_sessions hnil]
    exact (hstep.congr hhost).accounted

/-- A leave counts the interval it ends. -/
theorem timedLeave_rule {allow : Choice → Store → Op → Prop}
    (hnow : h.Readings env (lenv.now .screenOff)) :
    LeaveRule allow (KeepsTime callID env h) p lenv r
      (TimedLeave callID (h.Readings env)) (TimedSync callID (h.Readings env)) where
  jobs :=
    { op c st w o ho hst := hst.congr rfl (.refl _) (ho.sameRows c w).1
      mem st st' w hsame hst := by
        obtain ⟨hcall, -⟩ := hsame
        exact hst.congr (congrArg Call.id hcall) (hcall ▸ .refl _) rfl }
  deleted st us w _ hst hus _ _ := by
    have hne : st.sessions.rows ≠ [] := List.ne_nil_of_mem (Table.find?_eq_some.1 hus).1
    have hsync := hst.2 hne
    have hid : (withoutSession lenv r st).call.id = st.call.id :=
      (withoutSession_call r).1
    have hend : (withoutSession lenv r st).call.endAt = st.call.endAt := by
      unfold withoutSession screenLeftCall
      dsimp only
      split <;> rfl
    refine ⟨hsync.timed, fun hk => hsync.row (hid.symm.trans hk), fun hk => ?_,
      fun hk c hc hcid => ?_⟩
    · rw [hend]
      exact hsync.ongoing (hid.symm.trans hk)
    · have hk := hid.symm.trans hk
      exact screenLeftCall_inStep hnow (hsync.inStep hk c hc hcid) (hsync.ongoing hk)
        (hsync.marked hk)
  gaveUp st w hst _ := ⟨hst.timed, fun _ => hst⟩
  unsaved st w hst _ := by
    refine ⟨hst.timed, fun hne => hst.congr (left_id r) ?_ rfl⟩
    have hne : st.sessions.rows ≠ [] := hne
    rw [left_of_sessions hne]
    exact hostLeftCall_sameTiming r
  saved st w hst _ := by
    by_cases hnil : st.sessions.rows = []
    · have hended : (left p lenv r st).call.endAt ≠ 0 := by
        have hcall : (left p lenv r st).call = setCallEnded lenv _ := if_pos hnil
        rw [hcall]
        exact (lenv.now_pos _).ne'
      exact ⟨hst.timed.updateCall fun _ he => absurd he hended,
        fun hne => absurd hnil hne⟩
    · have hsame : SameTiming st.call (left p lenv r st).call := by
        rw [left_of_sessions hnil]
        exact hostLeftCall_sameTiming r
      have hid : (left p lenv r st).call.id = st.call.id := left_id r
      have hsync := hst.updateCall hid
        (fun hk => hsame.endAt.trans (hst.ongoing hk)) fun hk =>
        hsame.marked.2 (hst.marked hk)
      exact ⟨hsync.timed, fun _ => hsync⟩
  update st w hst := by
    intro hk _ c hc hcid
    have hk : st.call.id = callID := (left_id r).symm.trans hk
    exact left_accounted hnow (hst.inStep hk c hc hcid) (hst.ongoing hk) (hst.marked hk)

end Leave

/-! ## Joins -/

section Join

variable {readings : Int → Prop} {jenv : Env} {r : JoinRequest}

/-- The state shared by a batch of joins. -/
def TimedState (callID : String) (readings : Int → Prop) : Option CallState → Store →
    Prop
  | none, s => Timed callID s
  | some st, s => TimedSync callID readings st s

theorem TimedState.timed {state : Option CallState}
    (hst : TimedState callID readings state w) :
    Timed callID w := by
  cases state with
  | none => exact hst
  | some st => exact TimedSync.timed hst

theorem joined_sameTiming (st : CallState) (r : JoinRequest) :
    SameTiming st.call (joined p jenv st r).call := by
  rw [joined_call]
  exact ⟨rfl, rfl, rfl, rfl⟩

theorem TimedSync.createCall {t : Table Call.id} {c : Call}
    (hst : TimedSync callID readings st w)
    (hi : w.calls.insert? c = some t) (hc : c.id ≠ callID) :
    TimedSync callID readings st { w with calls := t } where
  timed x hx hxid he := by
    rcases (Table.mem_of_insert? hi).1 hx with hx | rfl
    · exact hst.timed x hx hxid he
    · exact absurd hxid hc
  row hk := by
    obtain ⟨x, hx, hxid⟩ := hst.row hk
    exact ⟨x, (Table.mem_of_insert? hi).2 (.inl hx), hxid⟩
  ongoing := hst.ongoing
  inStep hk x hx hxid := by
    rcases (Table.mem_of_insert? hi).1 hx with hx | rfl
    · exact hst.inStep hk x hx hxid
    · exact absurd hxid hc

/-- A call that nobody shares a screen in is created. -/
theorem Timed.createCall {t : Table Call.id} (hw : Timed callID w)
    (hi : w.calls.insert? st.call = some t) (he : st.call.endAt = 0)
    (hm : Marked st.call) :
    Timed callID { w with calls := t } ∧
    TimedSync callID readings st { w with calls := t } := by
  have htimed : Timed callID { w with calls := t } := by
    intro x hx hxid hxe
    rcases (Table.mem_of_insert? hi).1 hx with hx | rfl
    · exact hw x hx hxid hxe
    · exact hm
  refine ⟨htimed, htimed, fun hk => ⟨_, (Table.mem_of_insert? hi).2 (.inr rfl), hk⟩,
    fun _ => he, fun hk x hx hxid => ?_⟩
  rcases (Table.mem_of_insert? hi).1 hx with hx | rfl
  · exact absurd (hxid.trans hk.symm) ((Table.insert?_eq_some.1 hi).1 x hx)
  · exact .inl (.refl _)

/-- A join leaves the screen alone. -/
theorem timedJoin_rule {allow : Choice → Store → Op → Prop} :
    JoinRule allow (KeepsTime callID env h) p jenv r channelID
      (TimedState callID (h.Readings env))
      (fun state st w => TimedState callID (h.Readings env) state w ∧
        TimedSync callID (h.Readings env) st w) where
  jobs c state w o ho hst := by
    have hcalls := (ho.sameRows c w).1
    cases state with
    | none => exact Timed.congr hst hcalls
    | some st => exact TimedSync.congr hst rfl (.refl _) hcalls
  created state st w t hst hcall hcheck _ _ hi := by
    have hsame : SameTiming st.call (joined p jenv st r).call := joined_sameTiming st r
    rcases callToJoin_eq_ok hcall with rfl | ⟨rfl, host, rfl⟩
    · -- a call that is stored already cannot be inserted
      have hst : TimedSync callID (h.Readings env) st w := hst
      have hne : (joined p jenv st r).call.id ≠ callID := by
        intro hk
        obtain ⟨c, hc, hcid⟩ := hst.row (joined_id.symm.trans hk)
        exact (Table.insert?_eq_some.1 hi).1 c hc (hcid.trans hk.symm)
      have hst' := hst.createCall hi hne
      exact ⟨hst', hst'.congr joined_id hsame rfl⟩
    · have hnew : Marked (newCallState p jenv r.userID channelID host).call := by
        unfold Marked
        rw [if_pos (show sharer (newCallState p jenv r.userID channelID host).call =
          "" from rfl)]
        exact le_refl _
      exact Timed.createCall hst hi (hsame.endAt.trans rfl) (hsame.marked.2 hnew)
  updated state st w hst hcall hcheck hlen _ := by
    obtain rfl := callToJoin_of_length hcall hcheck hlen
    have hst : TimedSync callID (h.Readings env) st w := hst
    have hsame : SameTiming st.call (joined p jenv st r).call := joined_sameTiming st r
    have hid : (joined p jenv st r).call.id = st.call.id := joined_id
    have hst' := hst.updateCall hid
      (fun hk => hsame.endAt.trans (hst.ongoing hk)) fun hk =>
      hsame.marked.2 (hst.marked hk)
    exact ⟨hst'.congr joined_id.symm hsame.symm rfl, hst'⟩
  create state st w hst hcall _ _ := by
    intro hk
    rcases callToJoin_eq_ok hcall with rfl | ⟨rfl, host, rfl⟩
    · exact .inl (TimedSync.row hst (joined_id.symm.trans hk))
    · exact .inr (joined_sameTiming _ r).duration
  update state st w hst hcall hcheck hlen := by
    obtain rfl := callToJoin_of_length hcall hcheck hlen
    exact TimedSync.keepsTime hst joined_id (joined_sameTiming st r)
  gaveUp _ _ _ hst _ := hst.1
  session _ _ _ _ := trivial
  entered _ _ _ _ hst _ _ := TimedSync.congr hst.2 rfl (.refl _) rfl
  unposted _ _ _ _ hst _ _ := TimedSync.congr hst rfl ⟨rfl, rfl, rfl, rfl⟩ rfl
  posted st w postID threadID hst _ _ _ := by
    have hst : TimedSync callID (h.Readings env) st w := hst
    have hsame : SameTiming st.call (withPost st postID threadID).call :=
      ⟨rfl, rfl, rfl, rfl⟩
    have hid : (withPost st postID threadID).call.id = st.call.id := rfl
    exact hst.updateCall hid hst.ongoing fun hk => hsame.marked.2 (hst.marked hk)
  post st w postID threadID hst _ _ := TimedSync.keepsTime hst rfl ⟨rfl, rfl, rfl, rfl⟩

end Join

/-! ## The other requests -/

/-- Storing a call, and telling the clients. -/
theorem updateCallOf_timed {α : Type} {c : Except String Unit → Body α}
    (hw : Timed callID w)
    (hpre : KeepsTime callID env h w (.store (.updateCall st'.call)))
    (hm : st'.call.id = callID → st'.call.endAt = 0 → Marked st'.call)
    (hnext : ∀ res, (c res).Only Op.Silent) :
    (updateCallOf st' >>= c).wp (timeRules callID env h)
      (fun _ w' => Timed callID w') w :=
  storeCall_rule (keepsTime_lenient _ _ _) hw hpre (fun _ => hw.updateCall hm) hnext

/-- A change of the call that leaves the screen alone. -/
theorem TimedSync.rehostable (hst : TimedSync callID (h.Readings env) st w) :
    Adjustable Rehosted (KeepsTime callID env h) (Timed callID) w st.call := by
  intro c' hadj
  have hcall : SameTiming st.call c' :=
    ⟨hadj.endAt, hadj.sharer, hadj.start, hadj.duration⟩
  exact ⟨hst.keepsTime hadj.id hcall, fun _ =>
    hst.timed.updateCall fun hk _ =>
      hcall.marked.2 (hst.marked (hadj.id.symm.trans hk))⟩

/-- A message to start or stop sharing. -/
theorem screenMessage_timed {us : UserSession} {turnOn : Bool}
    {state : Option CallState} (hh : h = .screen us turnOn)
    (hconn : us.originalConnID ≠ "") (hclock : 1000 ≤ env.now .screenOn)
    (hw : Timed callID w)
    (hst : ∀ st, state = some st → storedState w channelID = some st) :
    (screenMessage env us channelID turnOn state).wp (timeRules callID env h)
      (fun _ w' => Timed callID w') w := by
  cases state with
  | none => exact hw
  | some st =>
      obtain ⟨hrow, -, hgo, -⟩ := storedState_active (hst st rfl)
      have hsame : ∀ c ∈ w.calls, c.id = st.call.id → c = st.call := fun c hc hid =>
        storedState_row (hst st rfl) hc hid
      unfold screenMessage
      dsimp only
      split
      · exact hw
      next hbusy =>
        split
        · exact hw
        next hother =>
          cases turnOn with
          | true =>
              have hnone : sharer st.call = "" := by
                by_contra hne
                exact hbusy ⟨rfl, hne⟩
              have hstart : 0 < env.now .screenOn / 1000 := by omega
              refine updateCallOf_timed hw (fun hk _ c hc hcid => ?_) (fun _ _ => ?_)
                (tellScreen_silent _ _ _)
              · obtain rfl := hsame c hc (hcid.trans hk.symm)
                unfold Accounted
                rw [if_neg fun hend => hend.1.2 hnone]
                rfl
              · show Marked (shareScreen env st.call us.originalConnID)
                have hshare : sharer (shareScreen env st.call us.originalConnID) ≠ "" :=
                  hconn
                unfold Marked
                rw [if_neg hshare]
                exact hstart
          | false =>
              have hmine : sharer st.call = us.originalConnID := by
                by_contra hne
                exact hother ⟨by simp, hne⟩
              have hshare : sharer (unshareScreen env st.call) = "" := by
                unfold unshareScreen
                split <;> rfl
              have hid : (unshareScreen env st.call).id = st.call.id := by
                unfold unshareScreen
                split <;> rfl
              refine updateCallOf_timed hw (fun hk hall c hc hcid => ?_)
                (fun hk _ => ?_) (tellScreen_silent _ _ _)
              · have hk : st.call.id = callID := hid.symm.trans hk
                obtain rfl := hsame c hc (hcid.trans hk.symm)
                have hm : Marked st.call := hw st.call hrow hk hgo
                have hstart : st.call.props.screenStartAt > 0 :=
                  hm.sharer_iff.1 (hmine ▸ hconn)
                have hzero : st.call.stats.screenDuration = 0 :=
                  hall.stop us hh st.call hrow hk
                have hends : IntervalEnds st.call (unshareScreen env st.call) :=
                  ⟨⟨hgo, hmine ▸ hconn⟩, fun hs => hs.1.2 hshare⟩
                show Accounted _ st.call (unshareScreen env st.call)
                unfold Accounted
                rw [if_pos hends]
                refine ⟨env.now .screenOff, by rw [hh]; rfl, ?_⟩
                unfold unshareScreen
                rw [if_pos hstart, hzero, Int.zero_add]
              · have hk : st.call.id = callID := hid.symm.trans hk
                have hm : Marked st.call := hw st.call hrow hk hgo
                have hstart : st.call.props.screenStartAt > 0 :=
                  hm.sharer_iff.1 (hmine ▸ hconn)
                show Marked (unshareScreen env st.call)
                unfold Marked
                rw [if_pos hshare]
                unfold unshareScreen
                rw [if_pos hstart]

/-- A write under `CountsAll` by a request that ends the call. -/
theorem CountsAll.accounted {c x : Call} (hall : CountsAll callID env h w x)
    (hh : h = .cleanUp ∨ ∃ id, h = .forceEnd id) (hc : c ∈ w.calls)
    (hid : c.id = callID) :
    Accounted (h.Readings env) c x := by
  obtain ⟨hsame, hzero⟩ := hall.ends hh c hc hid
  unfold Accounted
  split
  next hend =>
    refine ⟨env.now .callEnd, ?_, ?_⟩
    · rcases hh with rfl | ⟨id, rfl⟩ <;> rfl
    · rw [hzero hend.1, hsame, Int.add_zero]
  next => exact hsame

/-- Cleaning a call under the lock. -/
theorem cleanCallState_timed {call : Call} (hh : h = .cleanUp) (hw : Timed callID w) :
    (cleanCallState env call).wp (timeRules callID env h)
      (fun _ w' => Timed callID w') w := by
  refine cleanCallState_rule (M := Timed callID) (keepsTime_lenient _ _ _)
    (fun ch w o ho hw => hw.congr (ho.sameRows ch w).1) hw (hw.congr rfl)
    fun call' _ hended _ w' hw' => ?_
  refine store_rule (fun _ hall c hc hcid => hall.accounted (.inl hh) hc hcid)
    (fun _ _ _ _ => hw') fun a ha => ?_
  simp only [StoreOp.exec] at ha ⊢
  split at ha
  · cases ha
  · exact hw'.updateCall fun _ he => absurd he hended

/-- A forced end writes while nobody has the lock. -/
theorem forceEnd_timed {id : String} (hh : h = .forceEnd id) {holder : Holder}
    {ch : Choice} {o : Op} (ho : o.EndsCall)
    (hallow : TimingAllow callID env h holder ch w o) :
    (exec ch w o).2 = w ∨
      holder = .nobody ∧ (Timed callID w → Timed callID (exec ch w o).2) := by
  cases o with
  | store so =>
      by_cases hwrite : so.isWrite = true
      · refine .inr ⟨hallow.forceEnd id so hh rfl hwrite, fun hw => ?_⟩
        show Timed callID (attempt ch.storeFails w so).2
        unfold attempt
        split
        · exact hw
        obtain ⟨c, rfl, hend⟩ | ⟨id, rfl⟩ | ⟨j, rfl⟩ := ho.write_cases hwrite
        · simp only [StoreOp.exec]
          split
          · exact hw
          · exact hw.updateCall fun _ he => absurd he hend
        · exact hw.congr rfl
        · simp only [StoreOp.exec]
          split
          · exact hw
          · exact hw.congr rfl
      · exact .inl (attempt_read (Bool.not_eq_true _ ▸ hwrite) ch.storeFails w)
  | reach pt => exact ho.elim
  | _ => exact .inl rfl

/-- The clock of the removals of a request. -/
theorem Handler.readings_leaves {l : Leave} (hl : l ∈ h.leaves) :
    h.Readings env (l.env.now .screenOff) := by
  cases h with
  | leave l' =>
      obtain rfl := List.mem_singleton.1 hl
      rfl
  | leaveBatch ls => exact ⟨l, hl, rfl⟩
  | _ => cases hl

/-- Every request keeps the start marked. -/
theorem time_callRule (hscreen : ∀ us turnOn, h = .screen us turnOn →
    us.originalConnID ≠ "" ∧ 1000 ≤ env.now .screenOn) :
    CallRule (TimingAllow callID env h) (KeepsTime callID env h) (Timed callID) p env
      channelID h := by
  have hquiet : Lenient (KeepsTime callID env h) := keepsTime_lenient _ _ _
  exact
    { quiet := hquiet
      jobs := fun ch w o ho hw => hw.congr (ho.sameRows ch w).1
      joins := fun w hw => by
        have hstate : TimedState callID (h.Readings env)
            (storedState w channelID) w := by
          cases hst : storedState w channelID with
          | none => exact hw
          | some st => exact hw.sync hst
        exact Code.wp_mono (addSessionsToCall_rule _ (fun j _ state w hst =>
          timedJoin_rule.addSessionToCall hquiet hst) _ w hstate)
            fun _ _ ⟨_, hst⟩ => hst.timed
      leaves := fun w hw => by
        have hstate : TimedLeaving callID (h.Readings env)
            (storedState w channelID) w := by
          cases hst : storedState w channelID with
          | none => exact hw
          | some st => exact ⟨hw, fun _ => hw.sync hst⟩
        exact Code.wp_mono (removeSessionsFromCall_rule _ (fun l hl _ _ hst =>
          (timedLeave_rule (Handler.readings_leaves hl)).removeUserSession hquiet
            (R := TimedLeaving callID (h.Readings env)) (fun _ _ => Iff.rfl) hst) _ w
              hstate)
          fun _ _ ⟨_, hst⟩ => hst.timed
      screen := fun us turnOn hh w hw => screenMessage_timed hh (hscreen us turnOn hh).1
        (hscreen us turnOn hh).2 hw fun _ hst => hst
      session :=
        fun us msg _ w hw => sessionMessage_keeps hquiet hw fun _ => hw.congr rfl
      changeHost := fun _ _ _ w hw =>
        hostChanged_keeps hquiet hw fun st hst => (hw.sync hst).rehostable
      dismiss := fun _ _ w hw =>
        notificationDismissed_keeps hquiet hw fun st hst => (hw.sync hst).rehostable
      cleanUp := fun hh call w hw => cleanCallState_timed hh hw
      forceEnd := fun id hh holder ch w o ho _ hallow => forceEnd_timed hh ho hallow }

end Rules

/-! ## Runs -/

section Runs

variable {T N : Type} [DecidableEq T] [DecidableEq N] {callID channelID : String}

/-- The start of an interval of the call that a step ended. -/
def intervalEnded (callID : String) (s s' : Store) : Option Int :=
  match s.getCall callID, s'.getCall callID with
  | some c, some c' => if IntervalEnds c c' then some c.props.screenStartAt else none
  | _, _ => none

/-- A step adds the interval it ended, if any, with a reading of the request's clock. -/
def AddsInterval (callID : String) (env : T → Env) (h : T → Handler)
    (s : Sys Op Op.Resp Store T N) (t : T) (_ : Act Choice)
    (s' : Sys Op Op.Resp Store T N) (new : List Interval) : Prop :=
  match intervalEnded callID s.world s'.world with
  | some start => ∃ now, (h t).Readings (env t) now ∧ new = [⟨start, now⟩]
  | none => new = []

/-- A request to stop writes while no interval was counted; a clean-up or a forced end
writes the duration that is stored, while no interval runs that has a second; a forced
end writes while nobody has the lock. -/
def CountsEach (callID : String) (env : T → Env) (h : T → Handler)
    (_ : List (Event T Choice)) (s : Sys Op Op.Resp Store T N) (t : T)
    (a : Act Choice) : Prop :=
  ∀ c o k, a = .op c → s.code t = .op o k →
    TimingAllow callID (env t) (h t) (s.holder t) c s.world o

/-- What the requests share. -/
@[reducible]
def timeLogic (callID : String) : Logic Op Op.Resp Store Choice :=
  callRules (fun _ _ _ _ => True) (fun _ _ => True) (Timed callID) True

/-- The stored duration is the sum over the intervals so far. -/
def SumsUp (callID : String) (s : Store) (l : List Interval) : Prop :=
  (∀ c ∈ s.calls, c.id = callID → c.stats.screenDuration = total l) ∧
    ((∀ c ∈ s.calls, c.id ≠ callID) → total l = 0)

/-- The operations of a request: a forced end does nothing but end calls. -/
def Handler.Ops : Handler → Op → Prop
  | .forceEnd _, o => o.EndsCall
  | _, _ => True

theorem Handler.code_only (h : Handler) (p : Plugin) (env : Env) (channelID : String) :
    (h.code p env channelID).Only h.Ops := by
  cases h with
  | forceEnd callID => exact Prog.Only.lift (forceEnd_endsCall env callID)
  | _ => exact Prog.only_of_forall (fun _ => trivial) _

section Step

variable {node : T → N} {env : T → Env} {h : T → Handler}
  {s s' : Sys Op Op.Resp Store T N} {tr : List (Event T Choice)} {t : T}
  {a : Act Choice} {c c' : Call}

/-- What a permitted step writes to the calls comes from the holder of the lock, or from
a forced end. -/
theorem CountsEach.step_calls
    (hok : s.OkFor (timeLogic callID) (fun t => timeTerms callID (env t) (h t)) node)
    (hallow : CountsEach callID env h tr s t a) (hs : s.step exec node t a = some s') :
    s'.world.calls = s.world.calls ∨ ∃ ch o, s'.world = (exec ch s.world o).2 ∧
      TimingAllow callID (env t) (h t) (s.holder t) ch s.world o ∧
      (∃ k, s.code t = .op o k) ∧
      (KeepsTime callID (env t) (h t) s.world o ∨ ∃ id, h t = .forceEnd id) := by
  obtain ⟨k, rfl, hk, hp, hn, rfl⟩ | ⟨k, rfl, hk, hp, ho, rfl⟩ | ⟨k, rfl, hk, hp, rfl⟩ |
    ⟨k, rfl, hk, rfl⟩ | ⟨ch, o, k, rfl, hk, rfl⟩ := Sys.step_cases hs
  · exact .inl rfl
  · exact .inl rfl
  · exact .inl rfl
  · left
    unfold Sys.release
    split <;> rfl
  · have hop := hallow ch o k rfl hk
    by_cases hown : s.owner = some t
    · have hpre : KeepsTime callID (env t) (h t) s.world o := hok.pre_of_op hown hk
      exact .inr ⟨ch, o, rfl, hop, ⟨k, hk⟩, .inl hpre⟩
    · by_cases hforce : ∃ id, h t = .forceEnd id
      · exact .inr ⟨ch, o, rfl, hop, ⟨k, hk⟩, .inr hforce⟩
      · have hother : TimingAllow callID (env t) (h t) .other ch s.world o :=
          ⟨hop.counts, fun id _ hh => absurd ⟨id, hh⟩ hforce⟩
        rcases hok.harmless hown hk (by simp) hother with hw | ⟨hno, -⟩
        · exact .inl (congrArg Store.calls hw)
        · cases hno

/-- A permitted step counts the interval it ends. -/
theorem accounted_step
    (hok : s.OkFor (timeLogic callID) (fun t => timeTerms callID (env t) (h t)) node)
    (hallow : CountsEach callID env h tr s t a) (hs : s.step exec node t a = some s')
    (hc : c ∈ s.world.calls) (hc' : c' ∈ s'.world.calls) (hid : c.id = callID)
    (hid' : c'.id = callID) : Accounted ((h t).Readings (env t)) c c' := by
  have hsame : c' = c → Accounted ((h t).Readings (env t)) c c' := by
    rintro rfl
    exact (SameTiming.refl _).accounted
  rcases hallow.step_calls hok hs with hcalls | ⟨ch, o, hw, hop, -, hkeeps⟩
  · rw [hcalls] at hc'
    exact hsame (s.world.calls.eq_of_key_eq hc' hc (hid'.trans hid.symm))
  · rw [hw] at hc'
    rcases exec_call_eq hc hc' (hid'.trans hid.symm) with heq | ⟨x, rfl, hx, rfl⟩
    · exact hsame heq
    · have hcounts := hop.counts x rfl (hx.trans hid)
      have hacc : Accounted ((h t).Readings (env t)) c x := by
        rcases hkeeps with hpre | hforce
        · exact hpre (hx.trans hid) hcounts c hc hid
        · exact hcounts.accounted (.inr hforce) hc hid
      exact hacc

/-- A call is created before any interval was counted. -/
theorem created_step (honly : ∀ t, (s.code t).Only (h t).Ops)
    (hok : s.OkFor (timeLogic callID) (fun t => timeTerms callID (env t) (h t)) node)
    (hallow : CountsEach callID env h tr s t a) (hs : s.step exec node t a = some s')
    (hnew : ∀ c ∈ s.world.calls, c.id ≠ callID) (hc' : c' ∈ s'.world.calls)
    (hid' : c'.id = callID) : c'.stats.screenDuration = 0 := by
  rcases hallow.step_calls hok hs with hcalls | ⟨ch, o, hw, -, ⟨k, hk⟩, hkeeps⟩
  · rw [hcalls] at hc'
    exact absurd hid' (hnew c' hc')
  · rw [hw] at hc'
    have ho : o = .store (.createCall c') :=
      exec_call_new hc' fun c hc heq => hnew c hc (heq.trans hid')
    subst ho
    rcases hkeeps with hpre | ⟨id, hforce⟩
    · rcases hpre hid' with ⟨c, hc, hid⟩ | hzero
      · exact absurd hid (hnew c hc)
      · exact hzero
    · -- a forced end creates no call
      have hends := honly t
      rw [hk, hforce] at hends
      exact absurd hends.1 Bool.noConfusion

/-- A step that is permitted adds the interval it ends. -/
theorem sumsUp_step (honly : ∀ t, (s.code t).Only (h t).Ops)
    (hok : s.OkFor (timeLogic callID) (fun t => timeTerms callID (env t) (h t)) node)
    (hallow : CountsEach callID env h tr s t a) (hs : s.step exec node t a = some s')
    {l : List Interval} (hl : SumsUp callID s.world l) :
    ∃ new, AddsInterval callID env h s t a s' new ∧
    SumsUp callID s'.world (l ++ new) := by
  have hkept : ∀ c ∈ s.world.calls, ∃ c' ∈ s'.world.calls, c'.id = c.id := by
    intro c hc
    rcases hallow.step_calls hok hs with hcalls | ⟨ch, o, hw, -⟩
    · exact ⟨c, hcalls ▸ hc, rfl⟩
    · rw [hw]
      exact exec_call_kept hc ch o
  cases hget : s.world.getCall callID with
  | none =>
      have hnew : ∀ c ∈ s.world.calls, c.id ≠ callID := Table.find?_eq_none.1 hget
      refine ⟨[], ?_, fun c' hc' hid' => ?_, fun _ => ?_⟩
      · unfold AddsInterval intervalEnded
        rw [hget]
      · rw [List.append_nil, hl.2 hnew]
        exact created_step honly hok hallow hs hnew hc' hid'
      · rw [List.append_nil]
        exact hl.2 hnew
  | some c =>
      obtain ⟨hc, hid⟩ := Table.find?_eq_some.1 hget
      obtain ⟨c', hc', hid'⟩ := hkept c hc
      have hid' : c'.id = callID := hid'.trans hid
      have hget' : s'.world.getCall callID = some c' :=
        Table.find?_eq_some.2 ⟨hc', hid'⟩
      have hrow : ∀ x ∈ s'.world.calls, x.id = callID → x = c' := fun x hx hxid =>
        s'.world.calls.eq_of_key_eq hx hc' (hxid.trans hid'.symm)
      have hacc := accounted_step hok hallow hs hc hc' hid hid'
      have hsum := hl.1 c hc hid
      unfold Accounted at hacc
      unfold AddsInterval intervalEnded
      rw [hget, hget']
      dsimp only
      split at hacc
      next hend =>
        obtain ⟨now, hnow, hduration⟩ := hacc
        rw [if_pos hend]
        refine ⟨_, ⟨now, hnow, rfl⟩, fun x hx hxid => ?_,
          fun hno => absurd hid' (hno c' hc')⟩
        rw [hrow x hx hxid, hduration, hsum, total_append, total_singleton]
      next hgoes =>
        rw [if_neg hgoes]
        refine ⟨[], rfl, fun x hx hxid => ?_, fun hno => absurd hid' (hno c' hc')⟩
        rw [hrow x hx hxid, hacc, hsum, List.append_nil]

end Step

/-- In every run of requests on a channel whose steps all count, in every state: the
stored `ScreenDuration` of a call is the sum over the intervals in which a session of it
shared its screen and that have ended. -/
theorem screenDuration_of_runs (node : T → N) (p : T → Plugin) (env : T → Env)
    (channelID callID : String) (store : Store) (h : T → Handler)
    (hh : ∀ t, (h t).OnCall) (hscreen : ∀ t us turnOn, h t = .screen us turnOn →
      us.originalConnID ≠ "" ∧ 1000 ≤ (env t).now .screenOn)
    (h0 : ∀ c ∈ store.calls, c.id = callID →
      c.stats.screenDuration = 0 ∧ (c.endAt = 0 → Marked c))
    {tr : List (Event T Choice)} {s : Sys Op Op.Resp Store T N}
    (hr : Runs exec node (CountsEach callID env h)
      (requests p env channelID store h) tr s) :
    ∃ l, Histories exec node (CountsEach callID env h) (AddsInterval callID env h)
        (requests p env channelID store h) tr s l ∧
      ∀ c ∈ s.world.calls, c.id = callID → c.stats.screenDuration = total l := by
  have hcode :
      ∀ t, ((requests p env channelID store h : Sys Op Op.Resp Store T N).code t).Only
      (h t).Ops := fun t => (h t).code_only (p t) (env t) channelID
  have hstart : (requests p env channelID store h : Sys Op Op.Resp Store T N).OkFor
      (timeLogic callID) (fun t => timeTerms callID (env t) (h t)) node :=
    Sys.OkFor.start (start_unlocked _ _) (fun c hc hid he => (h0 c hc hid).2 he)
      fun t w => (time_callRule (hscreen t)).code (hh t) w
  obtain ⟨l, hl, hsum⟩ := hr.history (L := timeLogic callID) hstart
    (fun _ _ _ c o k hok hk => hok c o k rfl hk) (fun _ _ _ _ => trivial)
    (fun hf => hf.elim) (J := fun s l => SumsUp callID s.world l)
    ⟨fun c hc hid => (h0 c hc hid).1, fun _ => rfl⟩
    fun tr s t a s' l hr hok hallow hs hl =>
    sumsUp_step (hr.only hcode) hok hallow hs hl
  exact ⟨l, hl, hsum.1⟩

end Runs

/-! ## Instances -/

/-- Alice's session shares its screen, stops, shares it again, stops again, and
leaves. -/
def sharesTwice : Fin 5 → Handler
  | 0 => .screen ⟨"alice", "s1"⟩ true
  | 1 => .screen ⟨"alice", "s1"⟩ false
  | 2 => .screen ⟨"alice", "s1"⟩ true
  | 3 => .screen ⟨"alice", "s1"⟩ false
  | 4 => .leave ⟨⟨"alice", "s1", "s1"⟩, .sample 30000⟩

/-- The clocks of the requests. -/
def sharingTimes : Fin 5 → Env
  | 0 => .sample 5000
  | 1 => .sample 12500
  | 2 => .sample 20000
  | 3 => .sample 23000
  | 4 => .sample 30000

/-- A check that a step counts: nothing is updated while an interval was counted. -/
def checkCountsEach (_ : List (Event (Fin 5) Choice))
    (s : Sys Op Op.Resp Store (Fin 5) Unit) (t : Fin 5) (_ : Act Choice) : Bool :=
  match s.code t with
  | .op (.store (.updateCall _)) _ =>
      s.world.calls.rows.all fun c => c.stats.screenDuration = 0
  | _ => true

theorem countsEach_of_check (tr : List (Event (Fin 5) Choice))
    (s : Sys Op Op.Resp Store (Fin 5) Unit) (t : Fin 5) (a : Act Choice)
    (h : checkCountsEach tr s t a = true) :
    CountsEach "call" sharingTimes sharesTwice tr s t a := by
  rintro c o k rfl hk
  have hneither : ¬ (sharesTwice t = .cleanUp ∨ ∃ id,
      sharesTwice t = .forceEnd id) := by
    match t with
    | 0 | 1 | 2 | 3 | 4 => exact fun hh => by rcases hh with hh | ⟨_, hh⟩ <;> cases hh
  refine ⟨fun x ho _ => ⟨fun _ _ c hc _ => ?_, fun hh => absurd hh hneither⟩,
      fun id _ hh =>
    absurd (.inr ⟨id, hh⟩) hneither⟩
  subst ho
  simp only [checkCountsEach, hk, List.all_eq_true, decide_eq_true_eq] at h
  exact h c hc

/-- The only call starts with no time counted, and nobody shares. -/
theorem sampleStore_timed : ∀ c ∈ sampleStore.calls, c.id = "call" →
    c.stats.screenDuration = 0 ∧ (c.endAt = 0 → Marked c) := by
  intro c hc _
  obtain rfl := List.mem_singleton.1 hc
  exact ⟨rfl, fun _ => le_refl (0 : Int)⟩

/-- The first interval is counted. -/
theorem screenDuration_of_firstInterval : ∃ (tr : List (Event (Fin 5) Choice))
    (s : Sys Op Op.Resp Store (Fin 5) Unit) (l : List Interval),
    Histories exec (fun _ => ()) (CountsEach "call" sharingTimes sharesTwice)
      (AddsInterval "call" sharingTimes sharesTwice)
      (requests (fun _ => .sample) sharingTimes "chan" sampleStore sharesTwice) tr s l ∧
    s.world.calls.rows.map (fun c => (c.id, c.stats.screenDuration)) = [("call", 8)] ∧
    ∀ c ∈ s.world.calls, c.id = "call" → c.stats.screenDuration = total l := by
  have hsched : ((requests (fun _ => .sample) sharingTimes "chan" sampleStore
      sharesTwice).sched exec (fun _ => ()) checkCountsEach []
      (inTurn 0 5 Choice.works ++ inTurn 1 5 Choice.works)).map
      (fun r => r.2.world.calls.rows.map fun c => (c.id, c.stats.screenDuration)) =
      some [("call", 8)] := by
    decide
  obtain ⟨tr, s, hr, hrows⟩ := Runs.exists_of_sched countsEach_of_check hsched
  have hh : ∀ t, (sharesTwice t).OnCall := fun t => by
    match t with
    | 0 | 1 | 2 | 3 | 4 => trivial
  have hscreen : ∀ t us turnOn, sharesTwice t = .screen us turnOn →
      us.originalConnID ≠ "" ∧ 1000 ≤ (sharingTimes t).now .screenOn := by
    intro t us turnOn hus
    match t with
    | 0 | 1 | 2 | 3 =>
        cases hus
        exact ⟨by decide, by decide⟩
    | 4 => cases hus
  obtain ⟨l, hl, hsum⟩ :=
    screenDuration_of_runs _ _ _ "chan" "call" sampleStore sharesTwice hh
    hscreen sampleStore_timed hr
  exact ⟨tr, s, l, hl, hrows, hsum⟩

/-- Of two intervals, of eight seconds and of three, the ended call has the second
alone. -/
theorem screenDuration_of_twoIntervals : ∃ (tr : List (Event (Fin 5) Choice))
    (s : Sys Op Op.Resp Store (Fin 5) Unit) (l : List Interval),
    Histories exec (fun _ => ()) StoreWorks
      (AddsInterval "call" sharingTimes sharesTwice)
      (requests (fun _ => .sample) sharingTimes "chan" sampleStore sharesTwice) tr s l ∧
    s.owner = none ∧ l = [⟨5, 12500⟩, ⟨20, 23000⟩] ∧ total l = 11 ∧
    s.world.calls.rows.map (fun c => (c.id, c.endAt, c.stats.screenDuration)) =
      [("call", 30000, 3)] := by
  have hadd : ∀ (s : Sys Op Op.Resp Store (Fin 5) Unit) (t : Fin 5) (a : Act Choice)
      (s' : Sys Op Op.Resp Store (Fin 5) Unit),
      AddsInterval "call" sharingTimes sharesTwice s t a s'
        (((intervalEnded "call" s.world s'.world).map fun start =>
          (⟨start, (sharingTimes t).now .screenOff⟩ : Interval)).toList) := by
    intro s t a s'
    unfold AddsInterval
    cases intervalEnded "call" s.world s'.world with
    | none => rfl
    | some start =>
        refine ⟨_, ?_, rfl⟩
        match t with
        | 0 | 1 | 2 | 3 | 4 => rfl
  have hsched : ((requests (fun _ => .sample) sharingTimes "chan" sampleStore
      sharesTwice).schedHistory exec (fun _ => ()) checkStoreWorks
      (fun s t _ s' => ((intervalEnded "call" s.world s'.world).map fun start =>
        (⟨start, (sharingTimes t).now .screenOff⟩ : Interval)).toList) [] []
      (inTurn 0 5 Choice.works ++ inTurn 1 5 Choice.works ++ inTurn 2 5 Choice.works ++
        inTurn 3 5 Choice.works ++ inTurn 4 7 Choice.works)).map
      (fun r => (r.2.1.owner, r.2.2, r.2.1.world.calls.rows.map
        fun c => (c.id, c.endAt, c.stats.screenDuration))) =
      some (none, [⟨5, 12500⟩, ⟨20, 23000⟩], [("call", 30000, 3)]) := by
    decide
  obtain ⟨tr, s, l, hr, hf⟩ := Histories.exists_of_sched storeWorks_of_check hadd hsched
  simp only [Prod.mk.injEq] at hf
  obtain ⟨hfree, rfl, hrows⟩ := hf
  exact ⟨tr, s, _, hr, hfree, rfl, by decide, hrows⟩

end CallsPlugin.Ports
