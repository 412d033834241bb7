import CallsPlugin.Ports.Following
import CallsPlugin.Ports.Webapp

/-!
# The presence of a call

The server counts the sessions of the bot, the clients are not shown them: a client has
the call as long as it has a session.  The two agree in runs of joins and leaves unless
a user comes back to a call in which the bot is alone.
-/

namespace CallsPlugin.Ports

open CallsPlugin.Verified
open CallsPlugin.Ports.Public CallsPlugin.Ports.Db

/-! ## The sessions a client is shown -/

/-- The entry clients are shown of a session: none, if it is the bot's. -/
def shown (botID : String) (state : Option CallState) (id : String) :
    Option UserSessionState :=
  state.bind fun st => ((st.sessions.find? id).filter fun r => r.userID ≠ botID).map
    ClientStore.entry

/-- The client has the sessions of the state. -/
def Shows (botID : String) (state : Option CallState) (d : ClientStore) : Prop :=
  ∀ id, d.sessionsMap.lookup id = shown botID state id

section Shown

variable {botID channelID : String} {state : Option CallState} {st st' : CallState}
  {d d' : ClientStore} {r : CallSession} {id : String}

theorem shown_eq_some {e : UserSessionState} : shown botID (some st) id = some e ↔
    ∃ r ∈ st.sessions, r.id = id ∧ r.userID ≠ botID ∧ ClientStore.entry r = e := by
  simp only [shown, Option.bind_some, Option.map_eq_some_iff, Option.filter_eq_some_iff,
    Table.find?_eq_some, decide_eq_true_eq, and_assoc]

theorem shown_congr (h : ∀ r, r ∈ st'.sessions ↔ r ∈ st.sessions) :
    shown botID (some st') id = shown botID (some st) id :=
  Option.ext fun e => by simp only [shown_eq_some, h]

theorem shown_erase (id' : String) :
    shown botID (some { st with sessions := st.sessions.erase id' }) id =
      if id = id' then none else shown botID (some st) id := by
  simp only [shown, Option.bind_some, Table.find?_erase]
  split <;> rfl

/-- The new session is shown unless it is the bot's. -/
theorem shown_joined {p : Plugin} {env : Env} {j : JoinRequest} :
    shown p.botID (some (joined p env st j)) id =
      if id = j.connID then
        if j.userID = p.botID then none
        else some (Reducers.freshSession j.userID j.connID false false 0)
      else shown p.botID (some st) id := by
  have hsess : (joined p env st j).sessions =
      st.sessions.put (newSession env st j.userID j.connID) := by
    simp only [joined, admitted, withJobs_sessions, newSession, withJobs_call]
  simp only [shown, Option.bind_some, hsess, Table.find?_put]
  by_cases hid : id = j.connID
  · have hid' : id = (newSession env st j.userID j.connID).id := hid
    rw [if_pos hid', if_pos hid]
    by_cases hbot : j.userID = p.botID
    · rw [if_pos hbot]
      simp [newSession, hbot]
    · rw [if_neg hbot]
      simp [newSession, hbot, ClientStore.entry, Reducers.freshSession]
  · have hid' : ¬ id = (newSession env st j.userID j.connID).id := hid
    rw [if_neg hid', if_neg hid]

/-- The call a join starts has no sessions before. -/
theorem shown_callToJoin {p : Plugin} {env : Env} {j : JoinRequest}
    (h : callToJoin p env state j channelID = .ok st) :
    shown botID (some st) id = shown botID state id := by
  rcases callToJoin_eq_ok h with rfl | ⟨rfl, host, rfl⟩
  · rfl
  · rfl

/-- A session that may join is not there. -/
theorem shown_checkJoin {p : Plugin} {j : JoinRequest}
    (h : checkJoin p st j.connID = .ok ()) :
    shown botID (some st) j.connID = none := by
  have hnone : st.sessions.find? j.connID = none := by
    unfold checkJoin at h
    split at h
    · cases h
    split at h
    · cases h
    next hfind => simpa using hfind
  simp only [shown, Option.bind_some, hnone]
  rfl

theorem Shows.congr (h : Shows botID state d) (hmap : d'.sessionsMap = d.sessionsMap) :
    Shows botID state d' := by
  intro id
  rw [hmap]
  exact h id

theorem Shows.sessionsMap_ne (h : Shows botID (some st) d) (hr : r ∈ st.sessions)
    (hbot : r.userID ≠ botID) : d.sessionsMap ≠ ∅ := by
  intro hempty
  have hsome : shown botID (some st) r.id = some (ClientStore.entry r) :=
    shown_eq_some.2 ⟨r, hr, rfl, hbot, rfl⟩
  rw [← h r.id, hempty, Finmap.lookup_empty] at hsome
  cases hsome

/-- A client that has the sessions loads no others. -/
theorem Shows.loadCallState (h : Shows botID (some st) d) (env : Env)
    (userID : String) :
    (d.loadCallState (st.getClientState env botID userID)).sessionsMap =
    d.sessionsMap := by
  refine Finmap.ext_lookup fun id => ?_
  rw [h id]
  exact ClientStore.lookup_getStates st env botID

theorem Shows.of_load (env : Env) (userID : String) (d : ClientStore) :
    Shows botID (some st) (d.loadCallState (st.getClientState env botID userID)) :=
  fun _ => ClientStore.lookup_getStates st env botID

end Shown

/-! ## What a client makes of joins and leaves -/

section Hearing

variable {botID channelID : String} {delivered : WsEvent → WebSocketBroadcast → Bool}
  {ev : WsEvent} {b : WebSocketBroadcast} {d : ClientStore}

theorem hearing_eq (hshown : ev.hides botID = false)
    (hdelivered : delivered ev b = true) :
    hearing botID delivered ev b d = d.receive ev := by
  unfold hearing
  rw [hshown, hdelivered]
  rfl

/-- A property of the client that the handler of an event keeps. -/
theorem hearing_keeps {P : ClientStore → Prop} (h : P d)
    (hreceive : delivered ev b = true →
      P (d.receive ev)) : P (hearing botID delivered ev b d) := by
  unfold hearing
  split
  · exact h
  next hno =>
    refine hreceive ?_
    simp only [Bool.or_eq_true, Bool.not_eq_true', not_or, Bool.not_eq_false] at hno
    exact hno.2

theorem hearing_aloof : Aloof (hearing botID delivered) where
  join _ b d := by
    unfold hearing
    split <;> rfl
  error _ _ b d := by
    unfold hearing
    split <;> rfl
  jobs _ _ b d := by
    unfold hearing
    split <;> rfl

/-- Changes of host concern neither the sessions nor the presence of the call. -/
theorem tellHost_keeps (env : Env) (oldHostID : String) (st : CallState) :
    (tellHost (hearing botID delivered) env oldHostID st channelID d).sessionsMap =
      d.sessionsMap ∧
      (tellHost (hearing botID delivered) env oldHostID st channelID d).calls =
      d.calls := by
  unfold tellHost
  split
  · exact hearing_keeps (P := fun d' => d'.sessionsMap = d.sessionsMap ∧
      d'.calls = d.calls) ⟨rfl, rfl⟩ fun _ => ⟨rfl, rfl⟩
  · exact ⟨rfl, rfl⟩

theorem tellHostLeft_keeps (p : Plugin) (env : Env) (l : LeaveRequest)
    (st : CallState) :
    (tellHostLeft (hearing botID delivered) p env l channelID st d).sessionsMap =
      d.sessionsMap ∧
      (tellHostLeft (hearing botID delivered) p env l channelID st d).calls =
      d.calls := by
  unfold tellHostLeft
  split
  · exact hearing_keeps (P := fun d' => d'.sessionsMap = d.sessionsMap ∧
      d'.calls = d.calls) ⟨rfl, rfl⟩ fun _ => ⟨rfl, rfl⟩
  · exact ⟨rfl, rfl⟩

theorem tellScreenLeft_keeps (env : Env) (l : LeaveRequest) (st : CallState) :
    (tellScreenLeft (hearing botID delivered) env l channelID st d).sessionsMap =
      d.sessionsMap ∧
      (tellScreenLeft (hearing botID delivered) env l channelID st d).calls =
      d.calls := by
  unfold tellScreenLeft
  split
  · exact hearing_keeps (P := fun d' => d'.sessionsMap = d.sessionsMap ∧
      d'.calls = d.calls) ⟨rfl, rfl⟩ fun _ => ⟨rfl, rfl⟩
  · exact ⟨rfl, rfl⟩

variable {p : Plugin} {env : Env} {j : JoinRequest} {l : LeaveRequest}
  {state : Option CallState} {st : CallState}

/-- What is heard of a session that joins. -/
theorem Shows.userJoined (h : Shows p.botID state d)
    (hchannel : ∀ ev, delivered ev (wholeChannel channelID) = true)
    (hcall : callToJoin p env state j channelID = .ok st)
    (hcheck : checkJoin p st j.connID = .ok ()) :
    Shows p.botID (some (joined p env st j))
      (hearing p.botID delivered (.userJoined j.userID j.connID)
        (wholeChannel channelID) d) := by
  intro id
  rw [shown_joined]
  by_cases hbot : j.userID = p.botID
  · -- nobody hears of the bot
    have hsame : hearing p.botID delivered (.userJoined j.userID j.connID)
        (wholeChannel channelID) d =
        d := by
      simp [hearing, WsEvent.hides, hbot]
    rw [hsame, h id, if_pos hbot, ← shown_callToJoin hcall]
    split
    next hid => rw [hid, shown_checkJoin hcheck]
    next => rfl
  · have hshown : (WsEvent.userJoined j.userID j.connID).hides p.botID = false :=
      decide_eq_false hbot
    rw [hearing_eq hshown (hchannel _), if_neg hbot]
    show (d.sessionsMap.insert j.connID _).lookup id = _
    by_cases hid : id = j.connID
    · rw [if_pos hid, hid, Finmap.lookup_insert]
    · rw [if_neg hid, Finmap.lookup_insert_of_ne _ hid, h id, shown_callToJoin hcall]

/-- The client after a session that leaves is said to share neither screen nor
camera. -/
abbrev offLeft (botID : String) (delivered : WsEvent → WebSocketBroadcast → Bool)
    (env : Env) (l : LeaveRequest) (channelID : String) (us : CallSession)
    (st : CallState) (d : ClientStore) :
    ClientStore :=
  tellVideoLeft (hearing botID delivered) env l channelID us st
    (tellScreenLeft (hearing botID delivered) env l channelID st d)

/-- The other sessions stay as they are, and of the bot nothing is heard. -/
theorem offLeft_keeps (delivered : WsEvent → WebSocketBroadcast → Bool) (env : Env)
    (channelID : String) {us : CallSession} (h : Shows p.botID (some st) d)
    (hus : st.sessions.find? l.originalConnID = some us)
    (hvideo : us.userID = p.botID → us.video = false) :
    (offLeft p.botID delivered env l channelID us st d).calls = d.calls ∧
      (offLeft p.botID delivered env l channelID us st d).sessionsMap.erase
        l.originalConnID = d.sessionsMap.erase l.originalConnID ∧
      (us.userID = p.botID →
        (offLeft p.botID delivered env l channelID us st d).sessionsMap =
          d.sessionsMap) := by
  obtain ⟨d₁, hd₁⟩ : ∃ d₁,
      tellScreenLeft (hearing p.botID delivered) env l channelID st d = d₁ :=
    ⟨_, rfl⟩
  have hscreen : d₁.sessionsMap = d.sessionsMap ∧ d₁.calls = d.calls :=
    hd₁ ▸ tellScreenLeft_keeps env l st
  unfold offLeft tellVideoLeft
  rw [hd₁, ← hscreen.1, ← hscreen.2]
  split
  next hon =>
    have hbot : us.userID ≠ p.botID :=
      fun he => Bool.false_ne_true ((hvideo he).symm.trans hon)
    refine hearing_keeps (P := fun d' => d'.calls = d₁.calls ∧
      d'.sessionsMap.erase l.originalConnID =
      d₁.sessionsMap.erase l.originalConnID ∧
        (us.userID = p.botID → d'.sessionsMap = d₁.sessionsMap))
      ⟨rfl, rfl, fun _ => rfl⟩ fun _ => ⟨rfl, ?_, fun he => absurd he hbot⟩
    obtain ⟨hmem, hid⟩ := Table.find?_eq_some.1 hus
    have hentry : d₁.sessionsMap.lookup l.originalConnID =
        some (ClientStore.entry us) :=
      (h.congr hscreen.1 _).trans (shown_eq_some.2 ⟨us, hmem, hid, hbot, rfl⟩)
    have hmap : (d₁.receive (.userVideoOff l.userID l.originalConnID)).sessionsMap =
        d₁.sessionsMap.insert l.originalConnID
          { ClientStore.entry us with video := some false } :=
      ClientStore.sessionEvent_getD hentry _ fun session =>
        { session with video := some false }
    rw [hmap]
    refine Finmap.ext_lookup fun id => ?_
    by_cases hk : id = l.originalConnID
    · rw [hk, Finmap.lookup_erase, Finmap.lookup_erase]
    · rw [Finmap.lookup_erase_ne hk, Finmap.lookup_erase_ne hk,
        Finmap.lookup_insert_of_ne _ hk]
  · exact ⟨rfl, rfl, fun _ => rfl⟩

/-- What is heard of a session that leaves. -/
theorem Shows.tellLeave {us : CallSession} {st' : CallState}
    (h : Shows p.botID (some st) d)
    (hchannel : ∀ ev, delivered ev (wholeChannel channelID) = true)
    (hus : st.sessions.find? l.originalConnID = some us) (huser : us.userID = l.userID)
    (hvideo : us.userID = p.botID → us.video = false)
    (hsess : st'.sessions = st.sessions.erase l.originalConnID) :
    Shows p.botID (some st')
      (tellLeave (hearing p.botID delivered) p env l channelID us st d) := by
  have hshown : ∀ id, shown p.botID (some st') id =
      if id = l.originalConnID then none else shown p.botID (some st) id := by
    intro id
    rw [← shown_erase]
    exact shown_congr fun r => by rw [hsess]
  obtain ⟨-, hmap, hbot⟩ := offLeft_keeps delivered env channelID h hus hvideo
  refine Shows.congr (fun id => ?_) (tellHostLeft_keeps p env l _).1
  rw [hshown]
  by_cases hl : l.userID = p.botID
  · -- nobody hears of the bot
    have hsame : ∀ d', hearing p.botID delivered (.userLeft l.userID l.originalConnID)
        (wholeChannel channelID) d' = d' := by
      intro d'
      simp [hearing, WsEvent.hides, hl]
    rw [hsame, hbot (huser.trans hl), h id]
    split
    next hid =>
      simp only [shown, Option.bind_some, hid, hus]
      simp [huser.trans hl]
    · rfl
  · have hheard : (WsEvent.userLeft l.userID l.originalConnID).hides p.botID = false :=
      decide_eq_false hl
    rw [hearing_eq hheard (hchannel _)]
    show (ClientStore.userLeft _ l.userID l.originalConnID).sessionsMap.lookup id = _
    rw [ClientStore.sessionsMap_userLeft, hmap]
    split
    next hid => rw [hid, Finmap.lookup_erase]
    next hid => rw [Finmap.lookup_erase_ne hid, h id]

end Hearing

/-! ## The tie -/

/-- The client has the sessions it is shown, and the call exactly as long as it has
one. -/
def presence (botID : String) : Tie ClientStore where
  holds state _ d := Shows botID state d ∧ (d.calls.isSome ↔ d.sessionsMap ≠ ∅)
  sight hsight h := ⟨fun id => (h.1 id).trans (shown_congr hsight.sessions).symm, h.2⟩
  ended := by
    intro st _ d hnil h
    refine ⟨fun id => ?_, h.2⟩
    rw [h.1 id]
    show shown botID (some st) id = none
    refine Option.eq_none_iff_forall_not_mem.2 fun e he => ?_
    obtain ⟨r, hr, -⟩ := shown_eq_some.1 he
    rw [Table.mem_def, hnil] at hr
    cases hr

/-- The bot is alone in the call. -/
def BotsOnly (botID : String) (s : Store) (callID : String) : Prop :=
  (∃ r ∈ s.sessions, r.callID = callID) ∧ ∀ r ∈ s.sessions, r.callID = callID →
    r.userID = botID

/-- No join and no leave gives up, and no other user than the client's own joins the bot
alone. -/
def KeepsPresence (botID member : String) (_ : Choice) (s : Store) (o : Op) : Prop :=
  o ≠ .reach .gaveUp ∧ ∀ r, o = .store (.createCallSession r) →
    r.userID = botID ∨ r.userID = member ∨ ¬ BotsOnly botID s r.callID

section Presence

variable {channelID member connID : String} {userOf : String → String} {p : Plugin}

theorem keepsPresence_gave {botID : String} (c : Choice) (s : Store) :
    ¬ KeepsPresence botID member c s (.reach .gaveUp) := fun h => h.1 rfl

/-- A client whose user is not the bot hears what a whole channel is told. -/
theorem reaches_wholeChannel :
    (wholeChannel channelID).reaches member connID = true := rfl

theorem reaches_user (userID : String) :
    ({ userID := userID, reliableClusterSend := true } : WebSocketBroadcast).reaches
      member connID = true ↔ userID = "" ∨ userID = member := by
  by_cases h : userID = "" <;> simp [WebSocketBroadcast.reaches, h]

/-- A call state adds no session. -/
theorem callState_keeps {botID : String} {st : CallState} {d : ClientStore} (env : Env)
    (userID : String) {delivered : WsEvent → WebSocketBroadcast → Bool}
    (b : WebSocketBroadcast) (h : Shows botID (some st) d) :
      (hearing botID delivered (.callState channelID
      (st.getClientState env botID userID)) b d).sessionsMap = d.sessionsMap :=
  hearing_keeps (P := fun d' => d'.sessionsMap = d.sessionsMap) rfl fun _ =>
    h.loadCallState env userID

/-- A bot finds a call in progress. -/
theorem bot_joins_call {j : JoinRequest} {env : Env} {state : Option CallState}
    {st : CallState} {jobs : List CallJob}
    (h : joinChecks p env state j channelID = .ok (st, jobs))
    (hbot : j.userID = p.botID) : state = some st := by
  obtain ⟨hcall, -, hjobs⟩ := joinChecks_eq_ok h
  rcases callToJoin_eq_ok hcall with rfl | ⟨rfl, host, rfl⟩
  · rfl
  · rw [jobsOf, if_pos hbot] at hjobs
    cases hjobs

/-- The events that reach the client of a member. -/
abbrev memberHears (botID member connID : String) :
    WsEvent → WebSocketBroadcast → ClientStore → ClientStore :=
  hearing botID fun _ b => b.reaches member connID

/-- A session that joins keeps the presence of the call: it is the bot's, or the client
is told of the call or has it. -/
theorem presence_tellJoin {env : Env} {j : JoinRequest} {state : Option CallState}
    {st st' : CallState} {w : Store} {d d₁ : ClientStore} (hne : p.botID ≠ "")
    (hmember : member ≠ p.botID) (h : (presence p.botID).holds state w d)
    (hcall : callToJoin p env state j channelID = .ok st)
    (hcheck : checkJoin p st j.connID = .ok ())
    (hsess : st'.sessions = (joined p env st j).sessions)
    (hmap : d₁.sessionsMap = d.sessionsMap)
    (hbot : j.userID = p.botID → d₁.calls = d.calls)
    (hsome : j.userID ≠ p.botID → j.userID ≠ member → d₁.calls.isSome) {w' : Store} :
    (presence p.botID).holds (some st') w'
      (tellJoin (memberHears p.botID member connID) p env st' j channelID d₁) := by
  obtain ⟨hshows, hcalls⟩ := h
  have hshows₂ : Shows p.botID (some st') (memberHears p.botID member connID
      (.userJoined j.userID j.connID) (wholeChannel channelID) d₁) := by
    intro id
    rw [(hshows.congr hmap).userJoined (fun _ => reaches_wholeChannel) hcall hcheck id]
    exact (shown_congr fun r => by rw [hsess]).symm
  have hmap₂ : (tellJoin (memberHears p.botID member connID) p env st' j channelID
      d₁).sessionsMap =
      (memberHears p.botID member connID (.userJoined j.userID j.connID)
        (wholeChannel channelID) d₁).sessionsMap := by
    unfold tellJoin
    exact callState_keeps env j.userID _ hshows₂
  refine ⟨hshows₂.congr hmap₂, ?_⟩
  by_cases hj : j.userID = p.botID
  · -- neither its join nor the call state it gets reaches the client
    have hjoin : memberHears p.botID member connID (.userJoined j.userID j.connID)
        (wholeChannel channelID) d₁ = d₁ := by
      simp [memberHears, hearing, WsEvent.hides, hj]
    have hunreached : ({ userID := j.userID, reliableClusterSend := true } :
        WebSocketBroadcast).reaches member connID = false := by
      rw [← Bool.not_eq_true, reaches_user, hj]
      exact fun h => h.elim hne fun h => hmember h.symm
    have hstate : ∀ ev d, memberHears p.botID member connID ev
        { userID := j.userID, reliableClusterSend := true } d = d := by
      intro ev d
      simp [memberHears, hearing, hunreached]
    unfold tellJoin
    rw [hjoin, hstate, hbot hj, hmap]
    exact hcalls
  · have hin : newSession env st j.userID j.connID ∈ st'.sessions := by
      rw [hsess, mem_joined_sessions hcheck]
      exact .inr rfl
    have hnonempty := (hshows₂.congr hmap₂).sessionsMap_ne hin hj
    refine iff_of_true ?_ hnonempty
    by_cases hm : j.userID = member
    · have hreached : ({ userID := j.userID, reliableClusterSend := true } :
          WebSocketBroadcast).reaches member connID = true :=
        (reaches_user _).2 (.inr hm)
      unfold tellJoin memberHears
      rw [hearing_eq rfl hreached]
      rfl
    · have hjoined : (memberHears p.botID member connID (.userJoined j.userID j.connID)
          (wholeChannel channelID) d₁).calls.isSome :=
        hearing_keeps (P := fun d => d.calls.isSome) (hsome hj hm) fun _ => hsome hj hm
      unfold tellJoin
      exact hearing_keeps (P := fun d => d.calls.isSome) hjoined fun _ => rfl

variable {allow : Choice → Store → Op → Prop}

/-- Joins keep the presence of the call. -/
theorem presence_join (hne : p.botID ≠ "") (hmember : member ≠ p.botID) (j : Join)
    (hallow : ∀ c s o, allow c s o → KeepsPresence p.botID member c s o) :
    (presence p.botID).KeptByJoin (memberHears p.botID member connID) allow userOf p
      channelID j := by
  intro state w d state' w' d' hmirror hF _ _ htold
  cases htold with
  | refused => exact hF
  | started st jobs postID threadID hchecks henter hlen =>
      obtain ⟨hcall, hcheck, -⟩ := joinChecks_eq_ok hchecks
      have hhost : (tellHost (memberHears p.botID member connID) j.env st.call.getHostID
            (joined p j.env st j.req) channelID d).sessionsMap = d.sessionsMap ∧
          (tellHost (memberHears p.botID member connID) j.env st.call.getHostID
            (joined p j.env st j.req) channelID d).calls = d.calls := tellHost_keeps ..
      have hnotbot : j.req.userID ≠ p.botID := by
        -- the bot's session would not be the first
        intro hbot
        obtain rfl := bot_joins_call hchecks hbot
        rw [joined_length hcheck, Nat.add_eq_right, List.length_eq_zero_iff] at hlen
        exact hmirror.1.2.2.1 hlen
      have hstart : ∀ (st : CallState) d,
          memberHears p.botID member connID (.callStart st.call.id channelID
          st.call.startAt st.call.threadID st.call.postID st.call.ownerID
            st.call.getHostID)
          (wholeChannel channelID) d =
          d.receive (.callStart st.call.id channelID st.call.startAt
          st.call.threadID st.call.postID st.call.ownerID st.call.getHostID) :=
        fun st d => hearing_eq rfl reaches_wholeChannel
      have hsess : (withPost (joined p j.env st j.req) postID threadID).sessions =
          (joined p j.env st j.req).sessions := rfl
      refine presence_tellJoin hne hmember hF hcall hcheck hsess ?_
        (fun h => absurd h hnotbot) fun _ _ => ?_
      · unfold tellStart
        rw [hstart]
        exact hhost.1
      · unfold tellStart
        rw [hstart]
        rfl
  | entered st jobs hchecks henter hlen =>
      obtain ⟨hcall, hcheck, -⟩ := joinChecks_eq_ok hchecks
      have hhost : (tellHost (memberHears p.botID member connID) j.env st.call.getHostID
            (joined p j.env st j.req) channelID d).sessionsMap = d.sessionsMap ∧
          (tellHost (memberHears p.botID member connID) j.env st.call.getHostID
            (joined p j.env st j.req) channelID d).calls = d.calls := tellHost_keeps ..
      refine presence_tellJoin hne hmember hF hcall hcheck rfl hhost.1
        (fun _ => hhost.2) fun hbot hm => ?_
      rw [hhost.2, hF.2]
      -- there is somebody else in the call than the bot
      obtain rfl := callToJoin_of_length hcall hcheck hlen
      obtain ⟨c, s, hsess, hentered⟩ := henter
      have hnotalone : ¬ BotsOnly p.botID s st.call.id :=
        (((hallow c s _ hentered).2 _ rfl).resolve_left hbot).resolve_left hm
      obtain ⟨-, hcur, hnonempty, hpop⟩ := hmirror.1
      have hsync := (hmirror.2.2 st rfl).sync
      rw [BotsOnly, hsess, not_and] at hnotalone
      have hother := hnotalone hpop
      push Not at hother
      obtain ⟨r, hr, hrc, hrbot⟩ := hother
      exact hF.1.sessionsMap_ne ((hsync r).2 ⟨hr, hrc⟩) hrbot

/-- Leaves keep the presence of the call. -/
theorem presence_leave (l : Leave)
    (huser : l.req.userID = userOf l.req.originalConnID) :
    (presence p.botID).KeptByLeave (memberHears p.botID member connID) userOf p
      channelID l := by
  intro state w d state' w' d' hmirror hF _ htold
  cases htold with
  | refused => exact hF
  | left st us st' hstate hus hst' =>
      subst hstate
      obtain ⟨hshows, hcalls⟩ := hF
      obtain ⟨hmem, hid⟩ := Table.find?_eq_some.1 hus
      obtain ⟨howner, hvideo⟩ :=
        hmirror.2.1 us (((hmirror.2.2 st rfl).sync us).1 hmem).1
      have huser' : us.userID = l.req.userID := by rw [howner, hid, huser]
      refine ⟨hshows.tellLeave (fun _ => reaches_wholeChannel) hus huser'
        hvideo hst'.2, ?_⟩
      unfold tellLeave
      rw [(tellHostLeft_keeps p l.env l.req _).1,
        (tellHostLeft_keeps p l.env l.req _).2]
      obtain ⟨hoff, hmap, hbot⟩ :=
        offLeft_keeps (fun _ b => b.reaches member connID) l.env channelID
          hshows hus hvideo
      by_cases hl : l.req.userID = p.botID
      · have hsame : ∀ d', memberHears p.botID member connID
            (.userLeft l.req.userID l.req.originalConnID) (wholeChannel channelID) d' =
            d' := by
          intro d'
          simp [memberHears, hearing, WsEvent.hides, hl]
        rw [hsame, hoff, hbot (huser'.trans hl)]
        exact hcalls
      · have hheard : ∀ d', memberHears p.botID member connID
            (.userLeft l.req.userID l.req.originalConnID) (wholeChannel channelID) d' =
              d'.userLeft l.req.userID l.req.originalConnID :=
          fun d' => hearing_eq (decide_eq_false hl) reaches_wholeChannel
        rw [hheard, ClientStore.calls_userLeft, ClientStore.sessionsMap_userLeft, hmap,
          hoff]
        split
        next hempty => simp [hempty]
        next hrest =>
          -- a session is left, so there was one before
          refine iff_of_true (hcalls.2 fun hnone => hrest ?_) hrest
          rw [hnone]
          rfl

end Presence

/-! ## Runs -/

/-- Joins whose RTC sessions open and leaves, each by the user of its connection. -/
def Handler.ComesOrGoes (userOf : String → String) : Handler → Prop
  | .join j => j.env.opensRTC = true ∧ j.req.userID = userOf j.req.connID
  | .joinBatch js =>
      ∀ j ∈ js, j.env.opensRTC = true ∧ j.req.userID = userOf j.req.connID
  | .leave l => l.req.userID = userOf l.req.originalConnID
  | .leaveBatch ls => ∀ l ∈ ls, l.req.userID = userOf l.req.originalConnID
  | _ => False

section Runs

variable {userOf : String → String}

/-- Every such request keeps what ties the client to the call. -/
theorem comesOrGoes_wp {D : Type} {F : Tie D}
    {hear : WsEvent → WebSocketBroadcast → D → D}
    {allow : Choice → Store → Op → Prop} {p : Plugin} {channelID : String}
    (hhear : Aloof hear) (hgave : ∀ c s, ¬ allow c s (.reach .gaveUp))
    (hjoin : ∀ j : Join, j.req.userID = userOf j.req.connID →
      F.KeptByJoin hear allow userOf p channelID j)
    (hleave : ∀ l : Leave, l.req.userID = userOf l.req.originalConnID →
      F.KeptByLeave hear userOf p channelID l)
    {h : Handler} (hh : h.ComesOrGoes userOf) (env : Env) (wd : Store × D) :
    wp (watchLogic allow hear (F.Stored p.botID channelID userOf)) false
      (h.code p env channelID) (fun h _ _ => h = false) wd := by
  cases h with
  | join j =>
      exact discard_rule (follow_handleJoin hhear hgave hh.1 hh.2 (hjoin j hh.2))
  | joinBatch js =>
      exact discard_rule (follow_joinBatch hhear hgave hh fun j hj =>
        hjoin j (hh j hj).2)
  | leave l => exact discard_rule (follow_removeSession hhear hgave (hleave l hh))
  | leaveBatch ls =>
      exact discard_rule (follow_leaveBatch hhear hgave fun l hl => hleave l (hh l hl))
  | _ => exact hh.elim

variable {T N : Type} [DecidableEq T] [DecidableEq N]

/-- No request gives up on a failed store call, and no user but `member` joins a call in
which the bot is alone. -/
def PresenceKept (botID member : String) (_ : List (Event T Choice))
    (s : Sys Op Op.Resp (Store × ClientStore) T N) (t : T) (a : Act Choice) : Prop :=
  ∀ c o k, a = .op c → s.code t = .op o k → KeepsPresence botID member c s.world.1 o

/-- In every run of joins and leaves, of users and of the bot, in which none fails
half-way and no other user comes back to the bot alone: whenever the lock is free, the
client of `member` has an entry for the call exactly if a call with a session of a user
is active. -/
theorem presence_of_runs (node : T → N) (p : T → Plugin) (env : T → Env)
    (channelID botID member connID : String) (hbot : ∀ t, (p t).botID = botID)
    (hne : botID ≠ "") (hmember : member ≠ botID) (userOf : String → String)
    (store : Store) (h : T → Handler)
    (hh : ∀ t, (h t).ComesOrGoes userOf) (h0 : Healthy channelID store)
    (hown : Owned botID userOf store) (d : ClientStore)
    (hsnapshot : Shows botID (storedState store channelID) d ∧
      (d.calls.isSome ↔ d.sessionsMap ≠ ∅)) {tr : List (Event T Choice)}
    {s : Sys Op Op.Resp (Store × ClientStore) T N}
    (hr : Runs (watched exec (hears (memberHears botID member connID))) node
      (PresenceKept botID member) ((requests p env channelID store h).watch d) tr s)
    (hfree : s.owner = none) :
    s.world.2.calls.isSome ↔ ∃ st, storedState s.world.1 channelID = some st ∧
      ∃ r ∈ st.sessions, r.userID ≠ botID := by
  have hok := hr.monitor
      (L := watchLogic (KeepsPresence botID member) (memberHears botID member connID)
      ((presence botID).Stored botID channelID userOf))
    (m :=
      fun _ => (watchLogic (KeepsPresence botID member)
        (memberHears botID member connID)
      ((presence botID).Stored botID channelID userOf)).terms)
    (Sys.OkFor.start ⟨fun _ => rfl, rfl, fun _ => rfl⟩ ⟨h0, hown, hsnapshot⟩
      fun t wd => by
      obtain rfl := hbot t
      exact comesOrGoes_wp hearing_aloof keepsPresence_gave
        (fun j _ => presence_join hne hmember j fun _ _ _ hc => hc)
        (fun l hl => presence_leave l hl) (hh t) (env t) wd)
    (fun _ s t c o k hok hk => hok c o k rfl hk) (fun _ _ _ _ => trivial)
    (fun hf => hf.elim)
  obtain ⟨-, -, hshows, hcalls⟩ := hok.free hfree
  have hentry : s.world.2.sessionsMap ≠ ∅ ↔
      ∃ id e, shown botID (storedState s.world.1 channelID) id = some e := by
    rw [Ne, ClientStore.sessionsMap_eq_empty]
    simp only [hshows _, not_forall, ← Ne.eq_def, Option.ne_none_iff_exists']
  rw [hcalls, hentry]
  cases hst : storedState s.world.1 channelID with
  | none => simp [shown]
  | some st =>
      constructor
      · rintro ⟨id, e, he⟩
        obtain ⟨r, hr, -, hrbot, -⟩ := shown_eq_some.1 he
        exact ⟨st, rfl, r, hr, hrbot⟩
      · rintro ⟨st', hst', r, hr, hrbot⟩
        obtain rfl := Option.some.inj hst'
        exact ⟨r.id, _, shown_eq_some.2 ⟨r, hr, rfl, hrbot, rfl⟩⟩

end Runs

/-! ## Instances -/

/-- The call of alice, with the bot in it. -/
def botAndAlice : Store where
  calls := sampleStore.calls
  sessions := ⟨[sampleSession, ⟨"s9", "call", "bot", 15, false, 0, false⟩], by decide⟩
  jobs := .empty

/-- The client of carol, who watches it. -/
def carolsClient : ClientStore :=
  ClientStore.empty.loadCallState
    ((stateOfCall botAndAlice sampleCall).getClientState (.sample 20) "bot" "carol")

/-- Alice leaves the bot alone, and bob joins it. -/
def aliceGoesBobComes : Fin 2 → Handler
  | 0 => .leave ⟨⟨"alice", "s1", "s1"⟩, .sample 40⟩
  | 1 => bobsJoin

/-- Bob joins before alice leaves. -/
def bobComesAliceGoes : Fin 2 → Handler
  | 0 => bobsJoin
  | 1 => .leave ⟨⟨"alice", "s1", "s1"⟩, .sample 40⟩

/-- The users of the three connections. -/
def aliceBobBot (connID : String) : String :=
  if connID = "s1" then "alice" else if connID = "s2" then "bob" else "bot"

theorem botAndAlice_stored :
    storedState botAndAlice "chan" = some (stateOfCall botAndAlice sampleCall) := by
  decide

theorem botAndAlice_healthy : Healthy "chan" botAndAlice where
  calls := by decide
  sessions := by decide
  jobs j hj := absurd hj (Table.not_mem_empty j)
  unique := by decide
  populated c hc _ _ := by
    obtain rfl := List.mem_singleton.1 hc
    exact ⟨sampleSession, List.mem_cons_self .., rfl⟩

theorem botAndAlice_owned : Owned "bot" aliceBobBot botAndAlice := by
  unfold Owned
  decide

theorem carolsClient_shows : Shows "bot" (storedState botAndAlice "chan") carolsClient ∧
    (carolsClient.calls.isSome ↔ carolsClient.sessionsMap ≠ ∅) := by
  rw [botAndAlice_stored]
  have hshows : Shows "bot" (some (stateOfCall botAndAlice sampleCall)) carolsClient :=
    Shows.of_load (.sample 20) "carol" .empty
  have hmem : sampleSession ∈ (stateOfCall botAndAlice sampleCall).sessions :=
    List.mem_cons_self ..
  exact ⟨hshows, iff_of_true rfl (hshows.sessionsMap_ne hmem (by decide))⟩

/-- No store call fails. -/
def NoStoreFailure {T N W : Type} (_ : List (Event T Choice)) (_ : Sys Op Op.Resp W T N)
    (_ : T) (a : Act Choice) : Prop := ∀ c, a = .op c → c.storeFails = false

/-- A check that no store call fails. -/
def checkNoStoreFailure {T N W : Type} (_ : List (Event T Choice))
    (_ : Sys Op Op.Resp W T N) (_ : T) :
    Act Choice → Bool
  | .op c => !c.storeFails
  | _ => true

theorem noStoreFailure_of_check {T N W : Type} (tr : List (Event T Choice))
    (s : Sys Op Op.Resp W T N) (t : T) (a : Act Choice)
    (h : checkNoStoreFailure tr s t a = true) : NoStoreFailure tr s t a := by
  rintro c rfl
  simpa [checkNoStoreFailure] using h

/-- A user who comes back to the bot alone is in a call the other clients do not
have. -/
theorem presence_of_return : ∃ (tr : List (Event (Fin 2) Choice))
    (s : Sys Op Op.Resp (Store × ClientStore) (Fin 2) Unit),
    Runs (watched exec (hears (memberHears "bot" "carol" "s8"))) (fun _ => ())
      NoStoreFailure
        ((requests (fun _ => .sample) (fun _ => .sample 20) "chan" botAndAlice
        aliceGoesBobComes).watch carolsClient) tr s ∧
    (Shows "bot" (storedState botAndAlice "chan") carolsClient ∧
      (carolsClient.calls.isSome ↔ carolsClient.sessionsMap ≠ ∅)) ∧
    s.owner = none ∧ s.world.2.calls = none ∧
    ∃ st, storedState s.world.1 "chan" = some st ∧
    ∃ r ∈ st.sessions, r.userID ≠ "bot" := by
  have hsched : (((requests (fun _ => .sample) (fun _ => .sample 20) "chan" botAndAlice
      aliceGoesBobComes).watch carolsClient).sched
      (watched exec (hears (memberHears "bot" "carol" "s8")))
      (fun _ => ()) checkNoStoreFailure []
      (inTurn 0 7 Choice.works ++ inTurn 1 9 Choice.works)).map
      (fun r => (r.2.owner, r.2.world.2.calls, (storedState r.2.world.1 "chan").map
        fun st => st.sessions.rows.any fun x => x.userID ≠ "bot")) =
        some (none, none, some true) := by
    decide
  obtain ⟨tr, s, hr, hf⟩ := Runs.exists_of_sched noStoreFailure_of_check hsched
  simp only [Prod.mk.injEq] at hf
  obtain ⟨hfree, hcalls, hstored⟩ := hf
  obtain ⟨st, hst, hany⟩ := Option.map_eq_some_iff.1 hstored
  obtain ⟨r, hmem, hrbot⟩ := List.any_eq_true.1 hany
  exact ⟨tr, s, hr, carolsClient_shows, hfree, hcalls, st, hst, r, hmem,
    of_decide_eq_true hrbot⟩

instance (botID : String) (s : Store) (callID : String) :
    Decidable (BotsOnly botID s callID) :=
  decidable_of_iff ((∃ r ∈ s.sessions.rows, r.callID = callID) ∧
    ∀ r ∈ s.sessions.rows, r.callID = callID → r.userID = botID) Iff.rfl

/-- A check that the presence of the call is kept. -/
def checkPresenceKept (botID member : String) {T N : Type} (_ : List (Event T Choice))
    (s : Sys Op Op.Resp (Store × ClientStore) T N) (t : T) (_ : Act Choice) : Bool :=
  match s.code t with
  | .op (.reach .gaveUp) _ => false
  | .op (.store (.createCallSession r)) _ =>
      r.userID = botID ∨ r.userID = member ∨ ¬ BotsOnly botID s.world.1 r.callID
  | _ => true

theorem presenceKept_of_check (botID member : String) {T N : Type}
    (tr : List (Event T Choice)) (s : Sys Op Op.Resp (Store × ClientStore) T N) (t : T)
    (a : Act Choice) (h : checkPresenceKept botID member tr s t a = true) :
    PresenceKept botID member tr s t a := by
  intro c o k _ hk
  refine ⟨fun ho => ?_, fun r ho => ?_⟩
  · subst ho
    simp [checkPresenceKept, hk] at h
  · subst ho
    simpa [checkPresenceKept, hk] using h

/-- Bob joins alice and the bot before alice leaves. -/
theorem presence_of_stay : ∃ (tr : List (Event (Fin 2) Choice))
    (s : Sys Op Op.Resp (Store × ClientStore) (Fin 2) Unit),
    Runs (watched exec (hears (memberHears "bot" "carol" "s8"))) (fun _ => ())
      (PresenceKept "bot" "carol")
        ((requests (fun _ => .sample) (fun _ => .sample 20) "chan"
        botAndAlice bobComesAliceGoes).watch carolsClient) tr s ∧
    s.owner = none ∧ s.world.2.calls.isSome ∧
    (s.world.2.calls.isSome ↔ ∃ st, storedState s.world.1 "chan" = some st ∧
      ∃ r ∈ st.sessions, r.userID ≠ "bot") := by
  have hsched : (((requests (fun _ => .sample) (fun _ => .sample 20) "chan" botAndAlice
      bobComesAliceGoes).watch carolsClient).sched
      (watched exec (hears (memberHears "bot" "carol" "s8"))) (fun _ => ())
      (checkPresenceKept "bot" "carol") []
      (inTurn 0 8 Choice.works ++ inTurn 1 7 Choice.works)).map
      (fun r => (r.2.owner, r.2.world.2.calls.isSome)) = some (none, true) := by
    decide
  obtain ⟨tr, s, hr, hf⟩ :=
    Runs.exists_of_sched (presenceKept_of_check "bot" "carol") hsched
  obtain ⟨hfree, hsome⟩ := Prod.mk.inj hf
  have hh : ∀ t, (bobComesAliceGoes t).ComesOrGoes aliceBobBot := fun t => by
    match t with
    | 0 => exact ⟨rfl, rfl⟩
    | 1 => rfl
  exact ⟨tr, s, hr, hfree, hsome,
    presence_of_runs (fun _ => ()) _ _ "chan" "bot" "carol" "s8"
    (fun _ => rfl) (by decide) (by decide) aliceBobBot botAndAlice bobComesAliceGoes hh
    botAndAlice_healthy botAndAlice_owned carolsClient carolsClient_shows hr hfree⟩

end CallsPlugin.Ports
