import CallsPlugin.Ports.ActiveCall
import CallsPlugin.Ports.CallHost

/-!
# The state in memory and the state a client would be shown

Joins and leaves pass a state on in memory.  While none of them gives up on a failed
store call, what this state shows of the call, its sessions, its host and who shares the
screen, is what the store has, after every request of a batch.
-/

namespace CallsPlugin.Ports

open CallsPlugin.Verified
open CallsPlugin.Ports.Public CallsPlugin.Ports.Db

/-! ## What is shown of a call -/

/-- A client is shown the same host and the same sharer. -/
structure SameShown (c c' : Call) : Prop where
  host : c'.getHostID = c.getHostID
  screen : c'.props.screenSharingSessionID = c.props.screenSharingSessionID

theorem SameShown.refl (c : Call) : SameShown c c := ⟨rfl, rfl⟩

theorem SameShown.symm {c c' : Call} (h : SameShown c c') : SameShown c' c :=
  ⟨h.host.symm, h.screen.symm⟩

theorem SameShown.trans {c c' c'' : Call} (h : SameShown c c') (h' : SameShown c' c'') :
    SameShown c c'' := ⟨h'.host.trans h.host, h'.screen.trans h.screen⟩

/-- A client is shown the same of two states. -/
structure SameSight (st st' : CallState) : Prop where
  id : st'.call.id = st.call.id
  call : SameShown st.call st'.call
  sessions : ∀ r, r ∈ st'.sessions ↔ r ∈ st.sessions

/-- Each session belongs to the user of its connection, and the bot's cameras are
off. -/
def Owned (botID : String) (userOf : String → String) (s : Store) : Prop :=
  ∀ r ∈ s.sessions, r.userID = userOf r.id ∧ (r.userID = botID → r.video = false)

/-- The store has of the call what the state shows. -/
structure Tied (st : CallState) (s : Store) : Prop where
  sync : ∀ r, r ∈ st.sessions ↔ r ∈ s.sessions ∧ r.callID = st.call.id
  shown : ∀ c ∈ s.calls, c.id = st.call.id → SameShown st.call c

/-- The state shared by a batch of joins, and the store. -/
def JoinMirror (botID channelID : String) (userOf : String → String)
    (state : Option CallState) (s : Store) : Prop :=
  JoinSync channelID state s ∧ Owned botID userOf s ∧ ∀ st, state = some st → Tied st s

/-- The state shared by a batch of leaves, and the store. -/
def LeaveMirror (botID channelID : String) (userOf : String → String)
    (state : Option CallState) (s : Store) : Prop :=
  LeaveSync channelID state s ∧ Owned botID userOf s ∧ ∀ st, state = some st → Tied st s

section State

variable {botID channelID : String} {userOf : String → String}
  {state : Option CallState} {st st' : CallState} {s s' : Store}

theorem Owned.sameRows (h : Owned botID userOf s) (hrows : SameRows s s') :
    Owned botID userOf s' := by
  unfold Owned
  rw [hrows.2]
  exact h

theorem Owned.deleteCallSession (h : Owned botID userOf s) (id : String) :
    Owned botID userOf (s.deleteCallSession id) :=
  fun r hr => h r (Store.mem_deleteCallSession.1 hr).1

theorem Tied.congr (h : Tied st s) (hid : st'.call.id = st.call.id)
    (hcall : SameShown st.call st'.call) (hsess : st'.sessions = st.sessions)
    (hrows : SameRows s s') : Tied st' s' where
  sync := by
    rw [hsess, hid, hrows.2]
    exact h.sync
  shown := by
    rw [hid, hrows.1]
    exact fun c hc hcid => hcall.symm.trans (h.shown c hc hcid)

/-- What is written shows what the state shows. -/
theorem shown_updateCall (hid : st'.call.id = st.call.id) :
    ∀ c ∈ (s.updateCall st'.call).calls, c.id = st.call.id → SameShown st'.call c := by
  intro c hc hcid
  obtain ⟨r, hr, rfl⟩ := Store.mem_updateCall.1 hc
  by_cases hk : r.id = st'.call.id
  · rw [if_pos hk]
    exact ⟨rfl, rfl⟩
  · rw [if_neg hk] at hcid
    exact absurd (hcid.trans hid.symm) hk

/-- The call of the state is written. -/
theorem Tied.updateCall (h : Tied st s) (hid : st'.call.id = st.call.id)
    (hsess : st'.sessions = st.sessions) : Tied st' (s.updateCall st'.call) where
  sync := by
    rw [hsess, hid]
    exact h.sync
  shown := by
    rw [hid]
    exact shown_updateCall hid

/-- The state read under the lock shows what the store has. -/
theorem tied_storedState (hst : storedState s channelID = some st) : Tied st s := by
  refine ⟨fun r => mem_storedState_sessions hst, fun c hmem hid => ?_⟩
  rw [storedState_row hst hmem hid]
  exact .refl _

theorem Healthy.joinMirror (h : Healthy channelID s) (hown : Owned botID userOf s) :
    JoinMirror botID channelID userOf (storedState s channelID) s :=
  ⟨h.joinSync, hown, fun _ => tied_storedState⟩

theorem Healthy.leaveMirror (h : Healthy channelID s) (hown : Owned botID userOf s) :
    LeaveMirror botID channelID userOf (storedState s channelID) s :=
  ⟨h.leaveSync, hown, fun _ => tied_storedState⟩

/-- Where no call is ongoing none is read. -/
theorem storedState_of_noCall (hs : Sound s) (hno : NoCall channelID s.calls) :
    storedState s channelID = none := by
  have hnone : s.getActiveCallByChannelID channelID = none :=
    Store.getActiveCallByChannelID_eq_none.2 fun c hc hcc hact =>
      hno c hc hcc ((hs.active_iff hc).1 hact)
  unfold storedState
  rw [hnone]
  rfl

/-- Reading the call of a state gives a state that shows the same. -/
theorem storedState_of_current (hs : Sound s) (hcur : Current channelID st.call s.calls)
    (htied : Tied st s) : ∃ st', storedState s channelID = some st' ∧
    SameSight st st' := by
  unfold storedState
  cases hget : s.getActiveCallByChannelID channelID with
  | none =>
      obtain ⟨c, hc, -, hcc, hon⟩ := hcur.row
      exact absurd ((hs.active_iff hc).2 hon)
        (Store.getActiveCallByChannelID_eq_none.1 hget c hc hcc)
  | some call =>
      obtain ⟨hc, hcc, hact⟩ := Store.getActiveCallByChannelID_eq_some hget
      have hid : call.id = st.call.id :=
        hcur.only call hc hcc ((hs.active_iff hc).1 hact)
      refine ⟨_, rfl, hid, htied.shown call hc hid, fun r => ?_⟩
      have hmem : r ∈ (stateOfCall s call).sessions ↔ r ∈ s.sessions ∧
          r.callID = call.id :=
        Store.mem_getCallSessions
      rw [hmem, htied.sync, hid]

/-- What is read after a batch of joins shows what its state shows. -/
theorem JoinMirror.stored (h : JoinMirror botID channelID userOf state s) :
    state = none ∧ storedState s channelID = none ∨
      ∃ st st', state = some st ∧ storedState s channelID = some st' ∧
      SameSight st st' := by
  obtain ⟨⟨hs, hsync⟩, -, htied⟩ := h
  cases state with
  | none => exact .inl ⟨rfl, storedState_of_noCall hs hsync⟩
  | some st =>
      obtain ⟨st', hst', hsight⟩ := storedState_of_current hs hsync.1 (htied st rfl)
      exact .inr ⟨st, st', rfl, hst', hsight⟩

/-- What is read after a batch of leaves; the call may have ended. -/
theorem LeaveMirror.stored (h : LeaveMirror botID channelID userOf state s) :
    (∀ st, state = some st → st.sessions.rows = []) ∧ storedState s channelID = none ∨
      ∃ st st', state = some st ∧ st.sessions.rows ≠ [] ∧
        storedState s channelID = some st' ∧
        SameSight st st' := by
  obtain ⟨⟨hs, hsync⟩, -, htied⟩ := h
  cases state with
  | none => exact .inl ⟨(fun _ he => nomatch he), storedState_of_noCall hs hsync⟩
  | some st =>
      obtain ⟨-, ⟨hcur, hne⟩ | ⟨hno, hnil⟩⟩ := hsync
      · obtain ⟨st', hst', hsight⟩ := storedState_of_current hs hcur (htied st rfl)
        exact .inr ⟨st, st', rfl, hne, hst', hsight⟩
      · refine .inl ⟨fun st' he => ?_, storedState_of_noCall hs hno⟩
        cases he
        exact hnil

end State

/-! ## Joins -/

section Join

variable {channelID : String} {userOf : String → String} {p : Plugin} {env : Env}
  {r : JoinRequest} {state : Option CallState} {st : CallState} {s : Store}

/-- The state in the course of a join: the call is stored, the session `row` is not. -/
structure MirrorJoining (botID : String) (userOf : String → String) (row : CallSession)
    (st : CallState) (s : Store) : Prop where
  owned : Owned botID userOf s
  sync : ∀ x, x ∈ st.sessions ↔ x ∈ s.sessions ∧ x.callID = st.call.id ∨ x = row
  shown : ∀ c ∈ s.calls, c.id = st.call.id → SameShown st.call c

/-- A join keeps the state a mirror of the store. -/
theorem mirrorJoin_rule (huser : r.userID = userOf r.connID) :
    JoinRule NotGivenUp (fun _ _ => True) p env r channelID
      (JoinMirror p.botID channelID userOf)
      (fun state st w => Joining channelID state st w ∧
        MirrorJoining p.botID userOf (newSession env st r.userID r.connID) st w) where
  jobs c state w o ho h := by
    have hrows := ho.sameRows c w
    exact ⟨h.1.jobsOnly ho c, h.2.1.sameRows hrows,
      fun st hst => (h.2.2 st hst).congr rfl (.refl _) rfl hrows⟩
  created state st w t h hcall hcheck hlen hv hi := by
    have hjoining := h.1.created hcall hcheck hlen hv hi
    obtain ⟨hfresh, -⟩ := Table.insert?_eq_some.1 hi
    refine ⟨hjoining, h.2.1, fun x => ?_, fun c hc hcid => ?_⟩
    · rw [mem_joined_sessions hcheck, newSession_joined]
      refine or_congr_left ⟨fun hx => ?_, fun hx => ?_⟩
      · rcases callToJoin_eq_ok hcall with rfl | ⟨-, host, rfl⟩
        · have hsync := ((h.2.2 st rfl).sync x).1 hx
          exact ⟨hsync.1, hsync.2.trans joined_id.symm⟩
        · exact absurd hx (Table.not_mem_empty x)
      · -- the id of the call is new, so it has no session yet
        obtain ⟨c, hc, hcid⟩ := h.1.1.sessions x hx.1
        exact absurd (hcid.trans hx.2) (hfresh c hc)
    · rcases (Table.mem_of_insert? hi).1 hc with hc | rfl
      · exact absurd hcid (hfresh c hc)
      · exact .refl _
  updated state st w h hcall hcheck hlen hv := by
    refine ⟨h.1.updated hcall hcheck hlen hv, h.2.1, fun x => ?_, shown_updateCall rfl⟩
    obtain rfl := callToJoin_of_length hcall hcheck hlen
    rw [mem_joined_sessions hcheck, (h.2.2 st rfl).sync, joined_id, newSession_joined]
    exact Iff.rfl
  create _ _ _ _ _ _ _ := trivial
  update _ _ _ _ _ _ _ := trivial
  gaveUp _ _ _ _ hgave := absurd hgave not_givesUp
  session _ _ _ _ := trivial
  entered state st w t h hv hi := by
    obtain ⟨hjoining, hmirror⟩ := h
    have hmem : ∀ x, x ∈ t ↔ x ∈ w.sessions ∨ x = newSession env st r.userID r.connID :=
      fun x => Table.mem_of_insert? hi
    obtain ⟨c, hc, hcid, -⟩ := hjoining.current.row
    refine ⟨⟨hjoining.sound.createCallSession ⟨c, hc, hcid⟩ hi, hjoining.current,
      hjoining.nonempty, populated_insert hi⟩, fun x hx => ?_, fun st' hst' => ?_⟩
    · rcases (hmem x).1 hx with hx | rfl
      · exact hmirror.owned x hx
      · exact ⟨huser, fun _ => rfl⟩
    · obtain rfl := Option.some.inj hst'
      refine ⟨fun x => ?_, hmirror.shown⟩
      rw [hmirror.sync, hmem]
      constructor
      · rintro (⟨hx, hxc⟩ | rfl)
        · exact ⟨.inl hx, hxc⟩
        · exact ⟨.inr rfl, rfl⟩
      · rintro ⟨hx | rfl, hxc⟩
        · exact .inl ⟨hx, hxc⟩
        · exact .inr rfl
  unposted st w postID threadID h _ _ := by
    obtain ⟨⟨hs, hcur, hne, hpop⟩, hown, htied⟩ := h
    refine ⟨⟨hs, hcur.congr rfl hcur.ongoing, hne, hpop⟩, hown, fun st' hst' => ?_⟩
    obtain rfl := Option.some.inj hst'
    exact (htied st rfl).congr rfl ⟨rfl, rfl⟩ rfl (.refl w)
  posted st w postID threadID h _ _ hv := by
    obtain ⟨⟨hs, hcur, hne, hpop⟩, hown, htied⟩ := h
    refine ⟨⟨hs.updateCall hv, hcur.update rfl hcur.ongoing, hne, hpop⟩, hown,
      fun st' hst' => ?_⟩
    obtain rfl := Option.some.inj hst'
    exact (htied st rfl).updateCall rfl rfl
  post _ _ _ _ _ _ _ := trivial

end Join

/-! ## Other writes -/

section Write

variable {botID channelID : String} {userOf : String → String} {st st' : CallState}
  {s : Store}

/-- The ongoing call of the state is written. -/
theorem JoinMirror.updateCall (h : JoinMirror botID channelID userOf (some st) s)
    (hid : st'.call.id = st.call.id) (hon : Ongoing st'.call)
    (hsess : st'.sessions = st.sessions) (hv : st'.call.isValid = .ok ()) :
    JoinMirror botID channelID userOf (some st') (s.updateCall st'.call) := by
  obtain ⟨⟨hs, hcur, hne, hpop⟩, hown, htied⟩ := h
  refine ⟨⟨hs.updateCall hv, hcur.update hid hon, ?_, ?_⟩, hown, fun st₁ hst₁ => ?_⟩
  · rw [hsess]
    exact hne
  · rw [hid]
    exact hpop
  · obtain rfl := Option.some.inj hst₁
    exact (htied st rfl).updateCall hid hsess

/-- The row of a session of a user is written. -/
theorem JoinMirror.updateCallSession (h : JoinMirror botID channelID userOf (some st) s)
    {r r' : CallSession} (hr : r ∈ st.sessions) (hbot : r.userID ≠ botID)
    (hset : Store.setSession r r' = r') (hid : r'.id = r.id) :
    JoinMirror botID channelID userOf (some { st with sessions := st.sessions.put r' })
      (s.updateCallSession r') := by
  obtain ⟨⟨hs, hcur, hne, hpop⟩, hown, htied⟩ := h
  have hrow := ((htied st rfl).sync r).1 hr
  have hsame : ∀ x : CallSession, x.id = r'.id → x ∈ s.sessions → x = r :=
      fun x hx hmem =>
    s.sessions.eq_of_key_eq hmem hrow.1 (hx.trans hid)
  have hmem : ∀ x, x ∈ (s.updateCallSession r').sessions ↔
      (x ∈ s.sessions ∧ x.id ≠ r'.id) ∨ x = r' := by
    intro x
    rw [Store.mem_updateCallSession]
    constructor
    · rintro ⟨y, hy, rfl⟩
      by_cases hk : y.id = r'.id
      · rw [if_pos hk, hsame y hk hy, hset]
        exact .inr rfl
      · rw [if_neg hk]
        exact .inl ⟨hy, hk⟩
    · rintro (⟨hx, hk⟩ | rfl)
      · exact ⟨x, hx, if_neg hk⟩
      · exact ⟨r, hrow.1, by rw [if_pos hid.symm, hset]⟩
  have huser : r'.userID = r.userID := by rw [← hset]; rfl
  have hcall : r'.callID = st.call.id := by rw [← hrow.2, ← hset]; rfl
  refine ⟨⟨⟨hs.calls, fun x hx => ?_, hs.jobs⟩, hcur, ?_, ?_⟩, fun x hx => ?_,
    fun st₁ hst₁ => ?_⟩
  · rcases (hmem x).1 hx with ⟨hx, -⟩ | rfl
    · exact hs.sessions x hx
    · rw [hcall, ← hrow.2]
      exact hs.sessions r hrow.1
  · exact List.ne_nil_of_mem (Table.mem_put.2 (.inr rfl))
  · exact ⟨r', (hmem r').2 (.inr rfl), hcall⟩
  · rcases (hmem x).1 hx with ⟨hx, -⟩ | rfl
    · exact hown x hx
    · refine ⟨?_, fun hb => absurd (huser.symm.trans hb) hbot⟩
      rw [huser, hid]
      exact (hown r hrow.1).1
  · obtain rfl := Option.some.inj hst₁
    refine ⟨fun x => ?_, (htied st rfl).shown⟩
    show x ∈ st.sessions.put r' ↔ x ∈ (s.updateCallSession r').sessions ∧
      x.callID = st.call.id
    rw [Table.mem_put, hmem, (htied st rfl).sync]
    constructor
    · rintro (⟨⟨hx, hxc⟩, hk⟩ | rfl)
      · exact ⟨.inl ⟨hx, hk⟩, hxc⟩
      · exact ⟨.inr rfl, hcall⟩
    · rintro ⟨⟨hx, hk⟩ | rfl, hxc⟩
      · exact .inl ⟨⟨hx, hxc⟩, hk⟩
      · exact .inr rfl

end Write

/-! ## Leaves -/

section Leave

variable {channelID : String} {userOf : String → String} {p : Plugin} {env : Env}
  {r : LeaveRequest}

/-- A leave keeps the state a mirror of the store. -/
theorem mirrorLeave_rule : LeaveRule NotGivenUp (fun _ _ => True) p env r
    (fun st w => LeaveMirror p.botID channelID userOf (some st) w)
    (fun st w => Leaving channelID st w ∧ Owned p.botID userOf w) where
  jobs :=
    { op c st w o ho h := by
        have hleave := (leaveSync_rule p env r channelID).jobs.op c st w o ho h.1
        exact ⟨hleave, h.2.sameRows (ho.sameRows c w)⟩
      mem st st' w hsame h :=
        ⟨(leaveSync_rule p env r channelID).jobs.mem st st' w hsame h.1, h.2⟩ }
  deleted st us w c h hus _ hf := by
    have hpop : GivesUpPopulated channelID c w
        (.store (.deleteCallSession r.originalConnID)) := fun he => nomatch he
    exact ⟨(leaveSync_rule p env r channelID).deleted st us w c h.1 hus hpop hf,
      h.2.1.deleteCallSession _⟩
  gaveUp _ _ _ hgave := absurd hgave not_givesUp
  unsaved _ _ _ hgave := absurd hgave not_givesUp
  saved st w h hv := by
    have hsync := h.1.saved hv
    refine ⟨hsync, h.2, fun st' hst' => ?_⟩
    obtain rfl := Option.some.inj hst'
    exact ⟨hsync.2.1, shown_updateCall rfl⟩
  update _ _ _ := trivial

end Leave

end CallsPlugin.Ports
