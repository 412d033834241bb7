import CallsPlugin.Ports.SessionRules
import CallsPlugin.Ports.LockDiscipline

/-!
# The active call of a channel

Joins and leaves keep at most one ongoing call in a channel, with at least one
session, as long as none of them gives up on a store failure while the ongoing
call has no session: after the insertion of the call and before that of its first
session, or after the deletion of its last session and before its end is stored.
-/

namespace CallsPlugin.Ports

open CallsPlugin.Verified
open CallsPlugin.Ports.Public CallsPlugin.Ports.Db

/-! ## The invariant -/

/-- A call that has neither ended nor been deleted. -/
def Ongoing (c : Call) : Prop := c.endAt = 0 ∧ c.deleteAt = 0

instance (c : Call) : Decidable (Ongoing c) := by unfold Ongoing; infer_instance

/-- The rows pass their checks, calls have started and sessions have a call. -/
structure Sound (s : Store) : Prop where
  calls : ∀ c ∈ s.calls, c.isValid = .ok () ∧ 0 < c.startAt
  sessions : ∀ r ∈ s.sessions, ∃ c ∈ s.calls, c.id = r.callID
  jobs : ∀ j ∈ s.jobs, j.isValid = .ok ()

/-- The call has a session. -/
def Populated (t : Table CallSession.id) (callID : String) : Prop :=
  ∃ r ∈ t, r.callID = callID

/-- At most one ongoing call in the channel, and each with a session. -/
structure Healthy (channelID : String) (s : Store) : Prop extends Sound s where
  unique : ∀ c ∈ s.calls, ∀ c' ∈ s.calls, c.channelID = channelID →
    c'.channelID = channelID → Ongoing c → Ongoing c' → c = c'
  populated : ∀ c ∈ s.calls, c.channelID = channelID → Ongoing c →
    Populated s.sessions c.id

/-- An ongoing call of the channel has no session. -/
def Sessionless (channelID : String) (s : Store) : Prop :=
  ∃ c ∈ s.calls, c.channelID = channelID ∧ Ongoing c ∧ ¬ Populated s.sessions c.id

/-- No call is ongoing in the channel. -/
def NoCall (channelID : String) (t : Table Call.id) : Prop :=
  ∀ c ∈ t, c.channelID = channelID → ¬ Ongoing c

/-- The row of the call is the only one ongoing in the channel. -/
structure Current (channelID : String) (call : Call) (t : Table Call.id) : Prop where
  row : ∃ c ∈ t, c.id = call.id ∧ c.channelID = channelID ∧ Ongoing c
  only : ∀ c ∈ t, c.channelID = channelID → Ongoing c → c.id = call.id
  ongoing : Ongoing call

theorem Sound.createCall {s : Store} {c : Call} {t : Table Call.id} (h : Sound s)
    (hv : c.isValid = .ok ()) (hstart : 0 < c.startAt)
    (hi : s.calls.insert? c = some t) :
    Sound { s with calls := t } where
  calls x hx := by
    rcases (Table.mem_of_insert? hi).1 hx with hx | rfl
    · exact h.calls x hx
    · exact ⟨hv, hstart⟩
  sessions r hr := by
    obtain ⟨x, hx, hk⟩ := h.sessions r hr
    exact ⟨x, (Table.mem_of_insert? hi).2 (.inl hx), hk⟩
  jobs := h.jobs

theorem Sound.updateCall {s : Store} {c : Call} (h : Sound s)
    (hv : c.isValid = .ok ()) :
    Sound (s.updateCall c) where
  calls x hx := by
    obtain ⟨r, hr, rfl⟩ := Store.mem_updateCall.1 hx
    obtain ⟨hrv, hrs⟩ := h.calls r hr
    split
    · obtain ⟨h1, h2, h3, h4, -, h6⟩ := Call.isValid_ok.1 hrv
      exact ⟨Call.isValid_ok.2 ⟨h1, h2, h3, h4, (Call.isValid_ok.1 hv).2.2.2.2.1, h6⟩,
        hrs⟩
    · exact ⟨hrv, hrs⟩
  sessions r hr := by
    obtain ⟨x, hx, hk⟩ := h.sessions r hr
    refine ⟨_, Store.mem_updateCall.2 ⟨x, hx, rfl⟩, ?_⟩
    split <;> exact hk
  jobs := h.jobs

theorem Sound.updateCallJob {s : Store} {j : CallJob} (h : Sound s) :
    Sound (s.updateCallJob j) where
  calls := h.calls
  sessions := h.sessions
  jobs x hx := by
    obtain ⟨r, hr, rfl⟩ := Store.mem_updateCallJob.1 hx
    split
    · exact CallJob.isValid_ok.2 (CallJob.isValid_ok.1 (h.jobs r hr))
    · exact h.jobs r hr

theorem Sound.createCallSession {s : Store} {r : CallSession} {t : Table CallSession.id}
    (h : Sound s) (hc : ∃ c ∈ s.calls, c.id = r.callID)
    (hi : s.sessions.insert? r = some t) :
    Sound { s with sessions := t } where
  calls := h.calls
  sessions x hx := by
    rcases (Table.mem_of_insert? hi).1 hx with hx | rfl
    · exact h.sessions x hx
    · exact hc
  jobs := h.jobs

theorem Sound.deleteCallSession {s : Store} (h : Sound s) (id : String) :
    Sound (s.deleteCallSession id) where
  calls := h.calls
  sessions r hr := h.sessions r (Store.mem_deleteCallSession.1 hr).1
  jobs := h.jobs

/-- Writes of jobs keep the rows sound. -/
theorem Op.JobsOnly.sound {o : Op} (ho : o.JobsOnly) (c : Choice) {s : Store}
    (h : Sound s) :
    Sound (exec c s o).2 := by
  cases o with
  | store o =>
      cases o <;> simp only [Op.JobsOnly] at ho
      simp only [exec_store, attempt, StoreOp.exec]
      split
      · exact h
      split
      · exact h
      · exact h.updateCallJob
  | reach p => exact ho.elim
  | _ => exact h

/-- After a call of the channel was inserted where none was ongoing. -/
theorem NoCall.insert {channelID : String} {t t' : Table Call.id} {call : Call}
    (h : NoCall channelID t) (hi : t.insert? call = some t')
    (hch : call.channelID = channelID)
    (hcall : Ongoing call) : Current channelID call t' where
  row := ⟨call, (Table.mem_of_insert? hi).2 (.inr rfl), rfl, hch, hcall⟩
  only c hc hcc hon := by
    rcases (Table.mem_of_insert? hi).1 hc with hc | rfl
    · exact absurd hon (h c hc hcc)
    · rfl
  ongoing := hcall

/-- After the ongoing call was updated. -/
theorem Current.update {channelID : String} {s : Store} {call call' : Call}
    (h : Current channelID call s.calls) (hid : call'.id = call.id)
    (hon : Ongoing call') :
    Current channelID call' (s.updateCall call').calls := by
  obtain ⟨c, hc, hcid, hcc, hco⟩ := h.row
  refine ⟨⟨Store.setCall c call', Store.mem_updateCall.2 ⟨c, hc, ?_⟩,
    hcid.trans hid.symm, hcc, hon⟩,
    fun x hx hxc hxo => ?_, hon⟩
  · rw [if_pos (hcid.trans hid.symm)]
  · obtain ⟨r, hr, rfl⟩ := Store.mem_updateCall.1 hx
    by_cases hk : r.id = call'.id
    · rwa [if_pos hk]
    · rw [if_neg hk] at hxc hxo ⊢
      exact (h.only r hr hxc hxo).trans hid.symm

/-- After the end of the ongoing call was stored. -/
theorem Current.ended {channelID : String} {s : Store} {call call' : Call}
    (h : Current channelID call s.calls) (hid : call'.id = call.id)
    (hend : ¬ Ongoing call') :
    NoCall channelID (s.updateCall call').calls := by
  intro x hx hxc hxo
  obtain ⟨r, hr, rfl⟩ := Store.mem_updateCall.1 hx
  by_cases hk : r.id = call'.id
  · rw [if_pos hk] at hxo
    exact hend hxo
  · rw [if_neg hk] at hxc hxo
    exact hk ((h.only r hr hxc hxo).trans hid.symm)

/-! ## The state of a batch -/

/-- What the state shared by a batch of joins says about the store. -/
def JoinSync (channelID : String) (state : Option CallState) (s : Store) : Prop :=
  Sound s ∧
    match state with
    | none => NoCall channelID s.calls
    | some st =>
        Current channelID st.call s.calls ∧ st.sessions.rows ≠ [] ∧
          Populated s.sessions st.call.id

/-- What the state shared by a batch of leaves says about the store; the call may
have ended on the way. -/
def LeaveSync (channelID : String) (state : Option CallState) (s : Store) : Prop :=
  Sound s ∧
    match state with
    | none => NoCall channelID s.calls
    | some st =>
        (∀ r, r ∈ st.sessions ↔ r ∈ s.sessions ∧ r.callID = st.call.id) ∧
          (Current channelID st.call s.calls ∧ st.sessions.rows ≠ [] ∨
            NoCall channelID s.calls ∧ st.sessions.rows = [])

theorem Healthy.of_noCall {channelID : String} {s : Store} (hs : Sound s)
    (h : NoCall channelID s.calls) : Healthy channelID s where
  toSound := hs
  unique c hc _ _ hcc _ hon _ := absurd hon (h c hc hcc)
  populated c hc hcc hon := absurd hon (h c hc hcc)

theorem Healthy.of_current {channelID : String} {s : Store} {call : Call} (hs : Sound s)
    (h : Current channelID call s.calls) (hp : Populated s.sessions call.id) :
    Healthy channelID s where
  toSound := hs
  unique c hc c' hc' hcc hcc' hon hon' :=
    s.calls.eq_of_key_eq hc hc'
      ((h.only c hc hcc hon).trans (h.only c' hc' hcc' hon').symm)
  populated c hc hcc hon := by rwa [h.only c hc hcc hon]

/-- A table of sessions that is not empty has a session of the call. -/
theorem populated_of_sync {st : CallState} {s : Store}
    (h : ∀ r, r ∈ st.sessions ↔ r ∈ s.sessions ∧ r.callID = st.call.id)
    (hne : st.sessions.rows ≠ []) : Populated s.sessions st.call.id := by
  obtain ⟨r, hr⟩ := List.exists_mem_of_ne_nil _ hne
  exact ⟨r, (h r).1 hr⟩

theorem JoinSync.healthy {channelID : String} {state : Option CallState} {s : Store}
    (h : JoinSync channelID state s) : Healthy channelID s := by
  obtain ⟨hs, h⟩ := h
  cases state with
  | none => exact .of_noCall hs h
  | some st => exact .of_current hs h.1 h.2.2

theorem LeaveSync.healthy {channelID : String} {state : Option CallState} {s : Store}
    (h : LeaveSync channelID state s) : Healthy channelID s := by
  obtain ⟨hs, h⟩ := h
  cases state with
  | none => exact .of_noCall hs h
  | some st =>
      obtain ⟨hsync, ⟨hcur, hne⟩ | ⟨hno, -⟩⟩ := h
      · exact .of_current hs hcur (populated_of_sync hsync hne)
      · exact .of_noCall hs hno

/-- On sound rows the query for active calls finds the ongoing ones. -/
theorem Sound.active_iff {s : Store} (h : Sound s) {c : Call} (hc : c ∈ s.calls) :
    Active c ↔ Ongoing c :=
  ⟨fun ha => ⟨ha.1, ha.2.2⟩, fun ho => ⟨ho.1, (h.calls c hc).2, ho.2⟩⟩

/-- The state read under the lock is in step with the store. -/
theorem Healthy.leaveSync {channelID : String} {s : Store} (h : Healthy channelID s) :
    LeaveSync channelID (storedState s channelID) s := by
  refine ⟨h.toSound, ?_⟩
  unfold storedState
  cases hget : s.getActiveCallByChannelID channelID with
  | none =>
      exact fun c hc hcc hon => Store.getActiveCallByChannelID_eq_none.1 hget c hc hcc
        ((h.active_iff hc).2 hon)
  | some call =>
      obtain ⟨hc, hcc, hact⟩ := Store.getActiveCallByChannelID_eq_some hget
      have hon := (h.active_iff hc).1 hact
      obtain ⟨r, hr, hrc⟩ := h.populated call hc hcc hon
      refine ⟨fun r => Store.mem_getCallSessions,
        .inl ⟨⟨⟨call, hc, rfl, hcc, hon⟩, fun c' hc' hcc' hon' => ?_,
        hon⟩, List.ne_nil_of_mem (Store.mem_getCallSessions.2 ⟨hr, hrc⟩)⟩⟩
      exact congrArg Call.id (h.unique c' hc' call hc hcc' hcc hon' hon)

theorem Healthy.joinSync {channelID : String} {s : Store} (h : Healthy channelID s) :
    JoinSync channelID (storedState s channelID) s := by
  obtain ⟨hs, hsync⟩ := h.leaveSync
  refine ⟨hs, ?_⟩
  cases hst : storedState s channelID with
  | none => rwa [hst] at hsync
  | some st =>
      rw [hst] at hsync
      obtain ⟨hsess, ⟨hcur, hne⟩ | ⟨hno, hnil⟩⟩ := hsync
      · exact ⟨hcur, hne, populated_of_sync hsess hne⟩
      · -- the stored state is that of an ongoing call
        obtain ⟨hc, hcc, hact⟩ := storedState_active hst
        exact absurd ((h.active_iff hc).1 hact) (hno st.call hc hcc)

/-! ## Joins -/

/-- No join and no leave gives up while the ongoing call has no session. -/
def GivesUpPopulated (channelID : String) (_ : Choice) (s : Store) (o : Op) : Prop :=
  o = .reach .gaveUp → ¬ Sessionless channelID s

/-- The rules of joins and leaves on a channel. -/
abbrev activeLogic (channelID : String) : Logic Op Op.Resp Store Choice :=
  callLogic (GivesUpPopulated channelID) (Healthy channelID) True

theorem Current.congr {channelID : String} {call call' : Call} {t : Table Call.id}
    (h : Current channelID call t) (hid : call'.id = call.id) (hon : Ongoing call') :
    Current channelID call' t := by
  obtain ⟨c, hc, hcid, hcc, hco⟩ := h.row
  exact ⟨⟨c, hc, hcid.trans hid.symm, hcc, hco⟩,
    fun x hx hxc hxo => (h.only x hx hxc hxo).trans hid.symm, hon⟩

theorem joined_ongoing {p : Plugin} {env : Env} {st : CallState} {r : JoinRequest}
    (h : Ongoing st.call) : Ongoing (joined p env st r).call := by
  rw [joined_call]
  exact h

theorem populated_insert {t t' : Table CallSession.id} {r : CallSession}
    (hi : t.insert? r = some t') : Populated t' r.callID :=
  ⟨r, (Table.mem_of_insert? hi).2 (.inr rfl), rfl⟩

/-- The state in the course of a join: the call is stored, its session is not.  It goes
back to the state before unless the call has no session. -/
structure Joining (channelID : String) (state : Option CallState)
    (st : CallState) (s : Store) :
    Prop where
  sound : Sound s
  current : Current channelID st.call s.calls
  nonempty : st.sessions.rows ≠ []
  before : ¬ Sessionless channelID s → JoinSync channelID state s

theorem GivesUp.populated {channelID : String} {s : Store}
    (h : GivesUp (GivesUpPopulated channelID) s) : ¬ Sessionless channelID s := by
  obtain ⟨_, _, _, _, _, _, hgave⟩ := h
  exact hgave rfl

theorem JoinSync.jobsOnly {channelID : String} {state : Option CallState} {s : Store}
    {o : Op} (h : JoinSync channelID state s) (ho : o.JobsOnly) (c : Choice) :
    JoinSync channelID state (exec c s o).2 := by
  obtain ⟨hcalls, hsessions⟩ := ho.sameRows c s
  refine ⟨ho.sound c h.1, ?_⟩
  have h' := h.2
  cases state with
  | none => exact hcalls ▸ h'
  | some st => exact ⟨hcalls ▸ h'.1, h'.2.1, hsessions ▸ h'.2.2⟩

theorem joined_length {p : Plugin} {env : Env} {st : CallState} {r : JoinRequest}
    (hcheck : checkJoin p st r.connID = .ok ()) :
    (joined p env st r).sessions.rows.length = st.sessions.rows.length + 1 := by
  rw [joined_sessions env hcheck, List.length_append, List.length_singleton]

theorem joined_nonempty {p : Plugin} {env : Env} {st : CallState} {r : JoinRequest}
    (hcheck : checkJoin p st r.connID = .ok ()) :
    (joined p env st r).sessions.rows ≠ [] := by
  intro hnil
  have hlen : (joined p env st r).sessions.rows.length = st.sessions.rows.length + 1 :=
    joined_length hcheck
  rw [hnil] at hlen
  cases hlen

/-- After the call of a first join was inserted. -/
theorem JoinSync.created {p : Plugin} {env : Env} {channelID : String}
    {state : Option CallState} {st : CallState} {r : JoinRequest} {w : Store}
    {t : Table Call.id} (h : JoinSync channelID state w)
    (hcall : callToJoin p env state r channelID = .ok st)
    (hcheck : checkJoin p st r.connID = .ok ())
    (hlen : (joined p env st r).sessions.rows.length = 1)
    (hv : (joined p env st r).call.isValid = .ok ())
    (hi : w.calls.insert? (joined p env st r).call = some t) :
    Joining channelID state (joined p env st r) { w with calls := t } := by
  have hjcall := joined_call p env st r
  rcases callToJoin_eq_ok hcall with rfl | ⟨rfl, host, rfl⟩
  · have hpos := List.length_pos_iff.2 h.2.2.1
    rw [joined_length hcheck] at hlen
    omega
  · obtain ⟨hs, hno⟩ := h
    have hon :
        Ongoing (joined p env (newCallState p env r.userID channelID host) r).call :=
      joined_ongoing ⟨rfl, rfl⟩
    have hch :
        (joined p env (newCallState p env r.userID channelID host) r).call.channelID =
        channelID := by rw [hjcall]; rfl
    refine ⟨hs.createCall hv (by rw [hjcall]; exact env.now_pos _) hi,
      hno.insert hi hch hon, joined_nonempty hcheck, fun hpop => absurd ?_ hpop⟩
    -- the id of the call is fresh, so it has no session yet
    refine ⟨_, (Table.mem_of_insert? hi).2 (.inr rfl), hch, hon, ?_⟩
    rintro ⟨x, hx, hxc⟩
    obtain ⟨c, hc, hk⟩ := hs.sessions x hx
    exact (Table.insert?_eq_some.1 hi).1 c hc (hk.trans hxc)

/-- After the call of a later join was updated. -/
theorem JoinSync.updated {p : Plugin} {env : Env} {channelID : String}
    {state : Option CallState} {st : CallState} {r : JoinRequest} {w : Store}
    (h : JoinSync channelID state w)
    (hcall : callToJoin p env state r channelID = .ok st)
    (hcheck : checkJoin p st r.connID = .ok ())
    (hlen : (joined p env st r).sessions.rows.length ≠ 1)
    (hv : (joined p env st r).call.isValid = .ok ()) :
    Joining channelID state (joined p env st r)
      (w.updateCall (joined p env st r).call) := by
  have hjcall := joined_call p env st r
  rcases callToJoin_eq_ok hcall with rfl | ⟨rfl, host, rfl⟩
  · obtain ⟨hs, hcur, hne, hpop⟩ := h
    have hcur' : Current channelID (joined p env st r).call
        (w.updateCall (joined p env st r).call).calls :=
      hcur.update (by rw [hjcall]) (joined_ongoing hcur.ongoing)
    refine ⟨hs.updateCall hv, hcur', joined_nonempty hcheck,
      fun _ => ⟨hs.updateCall hv, ?_, hne, hpop⟩⟩
    exact hcur'.congr (by rw [hjcall]) hcur.ongoing
  · exact absurd (joined_length hcheck) hlen

/-- A join keeps the state in step with the store. -/
theorem joinSync_rule (p : Plugin) (env : Env) (r : JoinRequest) (channelID : String) :
    JoinRule (GivesUpPopulated channelID) (fun _ _ => True) p env r channelID
      (JoinSync channelID) (Joining channelID) where
  jobs c state w o ho h := h.jobsOnly ho c
  created _ _ _ _ h := h.created
  updated _ _ _ h := h.updated
  create _ _ _ _ _ _ _ := trivial
  update _ _ _ _ _ _ _ := trivial
  gaveUp state st w h hgave := h.before hgave.populated
  session _ _ _ _ := trivial
  entered state st w t h hv hi := by
    obtain ⟨c, hc, hcid, -⟩ := h.current.row
    exact ⟨h.sound.createCallSession ⟨c, hc, hcid⟩ hi, h.current, h.nonempty,
      populated_insert hi⟩
  unposted st w postID threadID h _ _ := by
    obtain ⟨hs, hcur, hne, hpop⟩ := h
    exact ⟨hs, hcur.congr rfl hcur.ongoing, hne, hpop⟩
  posted st w postID threadID h _ _ hv := by
    obtain ⟨hs, hcur, hne, hpop⟩ := h
    exact ⟨hs.updateCall hv, hcur.update rfl hcur.ongoing, hne, hpop⟩
  post _ _ _ _ _ _ _ := trivial

/-! ## Leaves -/

/-- The state in the course of a leave: the call is still ongoing, but it may be
without sessions. -/
structure Leaving (channelID : String) (st : CallState) (s : Store) : Prop where
  sound : Sound s
  sync : ∀ r, r ∈ st.sessions ↔ r ∈ s.sessions ∧ r.callID = st.call.id
  current : Current channelID st.call s.calls

/-- Giving up is harmless while the call has sessions. -/
theorem Leaving.leaveSync {channelID : String} {st : CallState} {s : Store}
    (h : Leaving channelID st s) (hpop : ¬ Sessionless channelID s) :
    LeaveSync channelID (some st) s := by
  refine ⟨h.sound, h.sync, .inl ⟨h.current, fun hnil => hpop ?_⟩⟩
  obtain ⟨c, hc, hid, hcc, hon⟩ := h.current.row
  refine ⟨c, hc, hcc, hon, ?_⟩
  rintro ⟨r, hr, hrc⟩
  have hmem : r ∈ st.sessions.rows := (h.sync r).2 ⟨hr, hrc.trans hid⟩
  rw [hnil] at hmem
  cases hmem

theorem Leaving.congr {channelID : String} {st st' : CallState} {s s' : Store}
    (h : Leaving channelID st s) (hs : Sound s') (hr : SameRows s s')
    (hsess : st'.sessions = st.sessions) (hid : st'.call.id = st.call.id)
    (hon : Ongoing st'.call) : Leaving channelID st' s' where
  sound := hs
  sync r := by rw [hsess, hid, hr.2]; exact h.sync r
  current := hr.1 ▸ h.current.congr hid hon

theorem screenLeftCall_same (env : Env) (r : LeaveRequest) (call : Call) :
    (screenLeftCall env r call).id = call.id ∧
      (Ongoing (screenLeftCall env r call) ↔ Ongoing call) := by
  unfold screenLeftCall
  split <;> exact ⟨rfl, Iff.rfl⟩

theorem hostLeftCall_same (p : Plugin) (env : Env) (r : LeaveRequest) (st : CallState) :
    (hostLeftCall p env r st).id = st.call.id ∧
      (Ongoing (hostLeftCall p env r st) ↔ Ongoing st.call) := by
  unfold hostLeftCall
  split <;> exact ⟨rfl, Iff.rfl⟩

theorem left_id {p : Plugin} {env : Env} {st : CallState} (r : LeaveRequest) :
    (left p env r st).call.id = st.call.id := by
  unfold left callLeft
  dsimp only
  split <;> exact (hostLeftCall_same p env r st).1

theorem left_of_sessions {p : Plugin} {env : Env} {r : LeaveRequest} {st : CallState}
    (h : st.sessions.rows ≠ []) : (left p env r st).call = hostLeftCall p env r st :=
    if_neg h

/-- The end of a leave stores a call without sessions as ended. -/
theorem Leaving.saved {channelID : String} {p : Plugin} {env : Env} {r : LeaveRequest}
    {st : CallState} {w : Store} (h : Leaving channelID st w)
    (hv : (left p env r st).call.isValid = .ok ()) :
    LeaveSync channelID (some (left p env r st))
      (w.updateCall (left p env r st).call) := by
  obtain ⟨hid, hon⟩ := hostLeftCall_same p env r st
  have hid' : (left p env r st).call.id = st.call.id := left_id r
  refine ⟨h.sound.updateCall hv, fun x => ?_, ?_⟩
  · rw [hid']
    exact h.sync x
  · by_cases hnil : st.sessions.rows = []
    · refine .inr ⟨?_, hnil⟩
      have hcall : (left p env r st).call = setCallEnded env _ := if_pos hnil
      refine h.current.ended hid' fun hlive => ?_
      rw [hcall] at hlive
      exact absurd hlive.1 (ne_of_gt (env.now_pos .callEnd))
    · refine .inl ⟨h.current.update hid' ?_, hnil⟩
      rw [left_of_sessions hnil]
      exact hon.2 h.current.ongoing

/-- A leave keeps the state in step with the store. -/
theorem leaveSync_rule (p : Plugin) (env : Env) (r : LeaveRequest)
    (channelID : String) :
    LeaveRule (GivesUpPopulated channelID) (fun _ _ => True) p env r
      (fun st w => LeaveSync channelID (some st) w) (Leaving channelID) where
  jobs :=
    { op c st w o ho h :=
        h.congr (ho.sound c h.sound) (ho.sameRows c w) rfl rfl h.current.ongoing
      mem st st' w hsame h :=
        h.congr h.sound (.refl w) hsame.2 (congrArg Call.id hsame.1)
        (hsame.1 ▸ h.current.ongoing) }
  deleted st us w _ h hus _ _ := by
    obtain ⟨hs, hsync, hlive⟩ := h
    have hmem : us ∈ st.sessions.rows := (Table.find?_eq_some.1 hus).1
    obtain ⟨hcur, -⟩ := hlive.resolve_right fun hended => by
      rw [hended.2] at hmem
      cases hmem
    obtain ⟨hid, hon⟩ := screenLeftCall_same env r st.call
    refine ⟨hs.deleteCallSession _, fun x => ?_, hcur.congr hid (hon.2 hcur.ongoing)⟩
    rw [withoutSession, Table.mem_erase, Store.mem_deleteCallSession, hsync, hid]
    exact and_right_comm
  gaveUp st w h hgave := h.leaveSync hgave.populated
  unsaved st w h hgave := by
    obtain ⟨hs, hsync, hlive⟩ := h.leaveSync hgave.populated
    rcases hlive with ⟨hcur, hne⟩ | ⟨hno, -⟩
    · obtain ⟨hid, hon⟩ := hostLeftCall_same p env r st
      refine ⟨hs, fun x => ?_, .inl ⟨?_, hne⟩⟩
      · rw [left_of_sessions hne, hid]
        exact hsync x
      · rw [left_of_sessions hne]
        exact hcur.congr hid (hon.2 hcur.ongoing)
    · obtain ⟨c, hc, -, hcc, hon⟩ := h.current.row
      exact absurd hon (hno c hc hcc)
  saved st w h hv := h.saved hv
  update _ _ _ := trivial

/-! ## The next join -/

/-- The ids a join brings: none is empty, the call id is new, and the connection has no
session in any call. -/
structure FreshIDs (s : Store) (env : Env) (r : JoinRequest) (channelID : String) :
    Prop where
  channel : channelID ≠ ""
  user : r.userID ≠ ""
  conn : r.connID ≠ ""
  id : env.newID ≠ ""
  newCall : ∀ c ∈ s.calls, c.id ≠ env.newID
  newSession : ∀ x ∈ s.sessions, x.id ≠ r.connID

/-- The jobs a bot takes over are jobs of the state. -/
theorem mem_of_jobsOf {p : Plugin} {st : CallState} {r : JoinRequest}
    {jobs : List CallJob} (h : jobsOf p st r = .ok jobs) {j : CallJob} (hj : j ∈ jobs) :
    st.recording = some j ∨ st.transcription = some j ∨ st.liveCaptions = some j := by
  unfold jobsOf jobsTaken at h
  split at h
  case isFalse => cases h; cases hj
  split at h
  case isTrue => cases h
  split at h
  case h_1 recState hrec =>
    cases h
    obtain rfl := List.mem_singleton.1 hj
    exact .inl (Option.filter_eq_some_iff.1 hrec).1
  split at h
  case h_2 => cases h
  case h_1 trState htr =>
    cases h
    rcases List.mem_append.1 hj with hj | hj
    · exact .inr (.inr (Option.filter_eq_some_iff.1 (Option.mem_toList.1 hj)).1)
    · obtain rfl := List.mem_singleton.1 hj
      exact .inr (.inl (Option.filter_eq_some_iff.1 htr).1)

/-- What the checks accept on the stored state: the ongoing call, with its row and
jobs in the store and a session, or a new call. -/
theorem Healthy.callToJoin {p : Plugin} {env : Env} {r : JoinRequest}
    {channelID : String} {s : Store} {st : CallState} (h : Healthy channelID s)
    (hcall : callToJoin p env (storedState s channelID) r channelID = .ok st) :
    (∃ call ∈ s.calls, st = stateOfCall s call ∧ st.sessions.rows ≠ []) ∨
      ∃ host, st = newCallState p env r.userID channelID host := by
  rcases callToJoin_eq_ok hcall with hst | ⟨-, host, rfl⟩
  · left
    obtain ⟨call, hget, rfl⟩ := Option.map_eq_some_iff.1 hst
    obtain ⟨hc, hcc, hact⟩ := Store.getActiveCallByChannelID_eq_some hget
    obtain ⟨x, hx, hxc⟩ := h.populated call hc hcc ((h.active_iff hc).1 hact)
    exact ⟨call, hc, rfl, List.ne_nil_of_mem (Store.mem_getCallSessions.2 ⟨hx, hxc⟩)⟩
  · exact .inr ⟨host, rfl⟩

/-- On a healthy store that works no write of an accepted join fails. -/
theorem joinWrites_accepted {p : Plugin} {env : Env} {r : JoinRequest}
    {channelID : String} {s : Store} {st : CallState} {jobs : List CallJob}
    (h : Healthy channelID s)
    (hchecks : joinChecks p env (storedState s channelID) r channelID = .ok (st, jobs))
    (hfresh : FreshIDs s env r channelID) :
    ¬ ∃ w ∈ joinWrites p env st jobs r, w.Fails (fun _ => false) s := by
  obtain ⟨hcall, hcheck, hjobs⟩ := joinChecks_eq_ok hchecks
  have hsessions := joined_sessions env hcheck
  have hst := h.callToJoin hcall
  rintro ⟨w, hw, hfail⟩
  have href : w.op.Refused s := hfail.resolve_left (by simp)
  simp only [joinWrites, List.mem_append, List.mem_map, List.mem_cons, List.not_mem_nil,
    or_false] at hw
  rcases hw with ⟨job, hjob, rfl⟩ | rfl | rfl
  · refine href (h.jobs job ?_)
    rcases hst with ⟨call, -, rfl, -⟩ | ⟨host, rfl⟩
    · rcases mem_of_jobsOf hjobs hjob with hj | hj | hj <;>
        exact (Store.getActiveCallJobs_eq_some hj).1
    · rcases mem_of_jobsOf hjobs hjob with hj | hj | hj <;> cases hj
  · rcases hst with ⟨call, hc, rfl, hne⟩ | ⟨host, rfl⟩
    · have hlen : (joined p env (stateOfCall s call) r).sessions.rows.length ≠ 1 := by
        have := List.length_pos_iff.2 hne
        rw [hsessions, List.length_append, List.length_singleton]
        omega
      rw [callWrite, if_neg hlen] at href
      refine href ?_
      rw [joined_call]
      exact (h.calls call hc).1
    · rw [callWrite, if_pos (by rw [hsessions]; rfl)] at href
      rcases href with hv | ⟨x, hx, hid⟩
      · refine hv (Call.isValid_ok.2 ?_)
        rw [joined_call]
        exact ⟨hfresh.id, hfresh.channel, (env.now_pos _).ne', (env.now_pos _).ne', rfl,
          hfresh.user⟩
      · rw [joined_call] at hid
        exact hfresh.newCall x hx hid
  · rcases href with hv | ⟨x, hx, hid⟩
    · refine hv (CallSession.isValid_ok.2 ⟨hfresh.conn, ?_, hfresh.user,
        (env.now_pos _).ne'⟩)
      show (joined p env st r).call.id ≠ ""
      rw [joined_call]
      rcases hst with ⟨call, hc, rfl, -⟩ | ⟨host, rfl⟩
      · exact (Call.isValid_ok.1 (h.calls call hc).1).1
      · exact hfresh.id
    · exact hfresh.newSession x hx hid

theorem failing_never : failing (fun _ => false) = exec .works := by
  funext s o
  cases o <;> rfl

/-- On a healthy store that works an accepted join succeeds. -/
theorem addUserSession_succeeds {p : Plugin} {env : Env} {r : JoinRequest}
    {channelID : String} {s : Store} {st : CallState} {jobs : List CallJob}
    (h : Healthy channelID s)
    (hchecks : joinChecks p env (storedState s channelID) r channelID = .ok (st, jobs))
    (hfresh : FreshIDs s env r channelID) :
    ∃ s', (addUserSession p env (storedState s channelID) r channelID).run
      (exec .works) s = ((some (joined p env st r), .ok ()), s') := by
  obtain ⟨hcall, -, hjobs⟩ := joinChecks_eq_ok hchecks
  have hapart : st.JobsApart := by
    rcases h.callToJoin hcall with ⟨call, -, rfl, -⟩ | ⟨host, rfl⟩
    · exact stateOfCall_jobsApart s call
    · rintro lc ⟨⟩
  have hw := joinWrites_accepted h hchecks hfresh
  rw [← wrote_fst (fun _ => false) s
    (joinWrites_apart p env st r (jobsOf_nodup hapart hjobs))] at hw
  rw [← failing_never]
  rcases run_addUserSession hchecks (fun _ => false) s with ⟨-, hrun⟩ | ⟨hfalse, -⟩
  · exact ⟨_, hrun⟩
  · exact absurd hfalse hw

/-! ## Runs -/

/-- The joins and leaves, alone and in batches. -/
def Handler.JoinOrLeave : Handler → Prop
  | .join _ | .joinBatch _ | .leave _ | .leaveBatch _ => True
  | _ => False

/-- A join or a leave meets its precondition. -/
theorem joinOrLeave_wp {h : Handler} (hh : h.JoinOrLeave) (p : Plugin) (env : Env)
    (channelID : String) (w : Store) :
    wp (activeLogic channelID) false (h.code p env channelID)
      (fun h _ _ => h = false) w := by
  have hquiet : Lenient fun _ _ => True := fun _ _ _ => trivial
  show wp (callRules (fun _ => GivesUpPopulated channelID) (fun _ _ => True)
    (Healthy channelID) True) false _ _ _
  cases h with
  | join j =>
      refine discard_rule (underLock_rule hquiet fun w hw => ?_)
      exact Code.wp_bind.2
        (Code.wp_mono ((joinSync_rule p j.env j.req channelID).addSessionToCall
        hquiet hw.joinSync) fun _ _ h => h.healthy)
  | joinBatch js =>
      refine discard_rule (underLock_rule hquiet fun w hw => ?_)
      exact Code.wp_mono (addSessionsToCall_rule js (fun j _ state w h =>
        (joinSync_rule p j.env j.req channelID).addSessionToCall hquiet h) _
          w hw.joinSync)
        fun _ _ ⟨_, h⟩ => h.healthy
  | leave l =>
      refine discard_rule (underLock_rule hquiet fun w hw => ?_)
      exact Code.wp_bind.2
        (Code.wp_mono ((leaveSync_rule p l.env l.req channelID).removeUserSession
        hquiet (R := LeaveSync channelID) (fun _ _ => Iff.rfl) hw.leaveSync)
          fun _ _ h => h.healthy)
  | leaveBatch ls =>
      refine discard_rule (underLock_rule hquiet fun w hw => ?_)
      exact Code.wp_mono (removeSessionsFromCall_rule ls (fun l _ state w h =>
        (leaveSync_rule p l.env l.req channelID).removeUserSession hquiet
          (R := LeaveSync channelID) (fun _ _ => Iff.rfl) h) _ w hw.leaveSync)
        fun _ _ ⟨_, h⟩ => h.healthy
  | _ => exact hh.elim

section Runs

variable {T N : Type} [DecidableEq T] [DecidableEq N]

/-- No join or leave gives up, because a store call failed, while the ongoing call of
the channel has no session. -/
def NoneGivesUpSessionless (channelID : String) (_ : List (Event T Choice))
    (s : Sys Op Op.Resp Store T N) (t : T) (_ : Act Choice) : Prop :=
  ∀ k, s.code t = .op (.reach .gaveUp) k → ¬ Sessionless channelID s.world

/-- In every run of joins and leaves on a channel in which none of them gives up
while the ongoing call has no session, whenever the lock is free: at most one call
is ongoing, an ongoing call has a session, and a join that passes its checks
succeeds on a working store. -/
theorem activeCall_of_runs (node : T → N) (p : T → Plugin) (env : T → Env)
    (channelID : String) (store : Store) (h : T → Handler) (hh : ∀ t, (h t).JoinOrLeave)
    (h0 : Healthy channelID store) {tr : List (Event T Choice)}
    {s : Sys Op Op.Resp Store T N}
    (hr : Runs exec node (NoneGivesUpSessionless channelID)
      (requests p env channelID store h) tr s)
    (hfree : s.owner = none) :
    (∀ c ∈ s.world.calls, ∀ c' ∈ s.world.calls, c.channelID = channelID →
      c'.channelID = channelID → Ongoing c → Ongoing c' → c = c') ∧
    (∀ c ∈ s.world.calls, c.channelID = channelID → Ongoing c →
      ∃ r ∈ s.world.sessions, r.callID = c.id) ∧
    ∀ p env r st jobs, joinChecks p env (storedState s.world channelID) r channelID =
        .ok (st, jobs) → FreshIDs s.world env r channelID →
      ∃ s', (addUserSession p env (storedState s.world channelID) r channelID).run
        (exec .works) s.world = ((some (joined p env st r), .ok ()), s') := by
  have hok := hr.monitor (L := activeLogic channelID)
    (m := fun _ => (activeLogic channelID).terms)
    (Sys.OkFor.start (start_unlocked _ _) h0 fun t w =>
      joinOrLeave_wp (hh t) (p t) (env t) channelID w)
    (fun _ s t c o k hok hk ho => by subst ho; exact hok k hk) (fun _ _ _ _ => trivial)
    (fun hf => hf.elim)
  have hhealthy : Healthy channelID s.world := hok.free hfree
  exact ⟨hhealthy.unique, hhealthy.populated,
    fun p env r st jobs hchecks hfresh =>
      addUserSession_succeeds hhealthy hchecks hfresh⟩

end Runs

/-! ## Instances -/

/-- A check that nobody gives up and that no screen message is left untold. -/
def checkNoneGivesUp {T N W : Type} (_ : List (Event T Choice))
    (s : Sys Op Op.Resp W T N) (t : T) (_ : Act Choice) : Bool :=
  match s.code t with
  | .op (.reach .gaveUp) _ => false
  | .op (.reach .untold) _ => false
  | _ => true

theorem noneGivesUp_of_check {T N : Type} (channelID : String)
    (tr : List (Event T Choice)) (s : Sys Op Op.Resp Store T N) (t : T) (a : Act Choice)
    (h : checkNoneGivesUp tr s t a = true) :
    NoneGivesUpSessionless channelID tr s t a := by
  intro k hk
  simp [checkNoneGivesUp, hk] at h

theorem emptyStore_healthy (channelID : String) : Healthy channelID emptyStore where
  calls c hc := absurd hc (Table.not_mem_empty c)
  sessions r hr := absurd hr (Table.not_mem_empty r)
  jobs j hj := absurd hj (Table.not_mem_empty j)
  unique c hc := absurd hc (Table.not_mem_empty c)
  populated c hc := absurd hc (Table.not_mem_empty c)

/-- Bob joins, at the time 20. -/
def bobsJoin : Handler := .join ⟨bobJoins, .sample 20⟩

/-- The call bob starts, as its insertion stores it. -/
def bobsCall : Call :=
  (joined .sample (.sample 20) (newCallState .sample (.sample 20) "bob" "chan" "")
    bobJoins).call

/-- The first join of a channel. -/
theorem activeCall_of_firstJoin : ∃ (tr : List (Event Unit Choice))
    (s : Sys Op Op.Resp Store Unit Unit),
    Runs exec id (NoneGivesUpSessionless "chan")
      (requests (fun _ => .sample) (fun _ => .sample 20) "chan" emptyStore fun _ =>
        bobsJoin) tr s ∧
    s.owner = none ∧ storedState s.world "chan" ≠ none ∧
    ∀ c ∈ s.world.calls, c.channelID = "chan" → Ongoing c →
      ∃ r ∈ s.world.sessions, r.callID = c.id := by
  have hsched : ((requests (fun _ => .sample) (fun _ => .sample 20) "chan" emptyStore
      fun _ : Unit => bobsJoin).sched exec id checkNoneGivesUp []
      (inTurn () 9 Choice.works)).map
      (fun r => (r.2.owner, (storedState r.2.world "chan").isSome)) =
      some (none, true) := by
    decide
  obtain ⟨tr, s, hr, hf⟩ := Runs.exists_of_sched (noneGivesUp_of_check "chan") hsched
  obtain ⟨hfree, hsome⟩ := Prod.mk.inj hf
  have hactive := activeCall_of_runs id _ _ "chan" emptyStore (fun _ => bobsJoin)
    (fun _ => trivial) (emptyStore_healthy "chan") hr hfree
  exact ⟨tr, s, hr, hfree, fun hn => by simp [hn] at hsome, hactive.2.1⟩

/-- The store after the insertion of bob's session failed. -/
def strandedStore : Store := { emptyStore with calls := ⟨[bobsCall], by decide⟩ }

/-- Carol's join, later. -/
def carolJoins : JoinRequest := ⟨"carol", "s3", "", some true, .other⟩

/-- The insertion of the first session fails: the call stays without a session, and
the next join passes its checks and is refused by the store. -/
theorem activeCall_of_failedJoin : Healthy "chan" emptyStore ∧
    (∃ (tr : List (Event Unit Choice)) (s : Sys Op Op.Resp Store Unit Unit),
      Runs exec id (fun _ _ _ _ => True)
        (requests (fun _ => .sample) (fun _ => .sample 20) "chan" emptyStore
          fun _ => bobsJoin)
        tr s ∧ s.owner = none ∧ s.world = strandedStore) ∧
    (∃ c ∈ strandedStore.calls, c.channelID = "chan" ∧ Ongoing c ∧
      ¬ ∃ r ∈ strandedStore.sessions, r.callID = c.id) ∧
    (∃ st, joinChecks .sample (.sample 30) (storedState strandedStore "chan") carolJoins
      "chan" = .ok (st, [])) ∧
    ((addUserSession .sample (.sample 30) (storedState strandedStore "chan") carolJoins
      "chan").run (exec .works) strandedStore).1.2 =
      .error ("failed to create call: " ++
        "failed to run query: duplicate key value violates unique constraint") := by
  have hsched : ((requests (fun _ => .sample) (fun _ => .sample 20) "chan" emptyStore
      fun _ : Unit => bobsJoin).sched exec id (fun _ _ _ _ => true) []
      [((), .enter), ((), .acquire), ((), .op .works), ((), .op .works),
        ((), .op ⟨true, .ok "job"⟩), ((), .op .works), ((), .op .works),
          ((), .unlock)]).map
      (fun r => (r.2.owner, r.2.world)) = some (none, strandedStore) := by
    decide
  obtain ⟨tr, s, hr, hf⟩ := Runs.exists_of_sched (fun _ _ _ _ _ => trivial) hsched
  obtain ⟨hfree, hworld⟩ := Prod.mk.inj hf
  refine ⟨emptyStore_healthy "chan", ⟨tr, s, hr, hfree, hworld⟩,
    ⟨bobsCall, List.mem_singleton_self _, by decide, by decide, ?_⟩,
      ⟨_, rfl⟩, by decide⟩
  rintro ⟨r, hr, -⟩
  exact Table.not_mem_empty r hr

end CallsPlugin.Ports
