import CallsPlugin.Ports.ScreenSharing
import CallsPlugin.Ports.Presence

/-!
# Convergence of a client and the server

While a call stays active, a client that loaded its snapshot and applies the events that
are published afterwards has what it would load from a new snapshot: the sessions, the
host and who shares the screen.  Two things keep them apart: a join or a leave that
announces what it then fails to store, and a screen message that is stored and that no
event tells of, as the node that handles the call could not be told.
-/

namespace CallsPlugin.Ports

open CallsPlugin.Verified
open CallsPlugin.Ports.Public CallsPlugin.Ports.Db

/-! ## What a snapshot shows -/

/-- The client has what a snapshot of the state shows. -/
structure Agrees (botID : String) (st : CallState) (d : ClientStore) : Prop where
  sessions : Shows botID (some st) d
  hosts : d.hosts = some st.call.getHostID
  screen : d.screenSharingIDs = some st.call.props.screenSharingSessionID

/-- Two clients have the same sessions, host and sharer. -/
structure SameEntries (d d' : ClientStore) : Prop where
  sessions : d.sessionsMap = d'.sessionsMap
  hosts : d.hosts = d'.hosts
  screen : d.screenSharingIDs = d'.screenSharingIDs

section Agrees

variable {botID : String} {st st' : CallState} {d d' : ClientStore}

theorem Agrees.of_load (env : Env) (userID : String) (d : ClientStore) :
    Agrees botID st (d.loadCallState (st.getClientState env botID userID)) :=
  ⟨Shows.of_load env userID d, rfl, rfl⟩

/-- Loading a new snapshot changes nothing. -/
theorem Agrees.sameEntries (h : Agrees botID st d) (env : Env) (userID : String)
    (d' : ClientStore) :
    SameEntries d (d'.loadCallState (st.getClientState env botID userID)) where
  sessions := by
    refine Finmap.ext_lookup fun id => ?_
    rw [h.sessions id]
    exact (ClientStore.lookup_getStates st env botID).symm
  hosts := h.hosts
  screen := h.screen

theorem Agrees.sight (h : Agrees botID st d) (hsight : SameSight st st') :
    Agrees botID st' d where
  sessions id := (h.sessions id).trans (shown_congr hsight.sessions).symm
  hosts := by rw [h.hosts, hsight.call.host]
  screen := by rw [h.screen, hsight.call.screen]

end Agrees

/-- The events that go to a whole channel or to the users in the call reach the
client. -/
def HearsAll (delivered : WsEvent → WebSocketBroadcast → Bool) : Prop :=
  ∀ ev b, b.userID = "" → b.connectionID = "" → delivered ev b = true

/-- The client agrees with the call `callID` while that is active. -/
def convergence (botID callID : String) : Tie ClientStore where
  holds state w d := (∃ c ∈ w.calls, c.id = callID) ∧
    ∀ st, state = some st → st.call.id = callID → st.sessions.rows ≠ [] →
    Agrees botID st d
  sight := by
    intro st st' w d hsight h
    obtain ⟨hrow, hagrees⟩ := h
    refine ⟨hrow, fun st₁ hst₁ hid hne => ?_⟩
    obtain rfl := Option.some.inj hst₁
    refine (hagrees st rfl (hsight.id.symm.trans hid) fun hnil => hne ?_).sight hsight
    refine List.eq_nil_iff_forall_not_mem.2 fun r hr => ?_
    have hmem : r ∈ st.sessions.rows := (hsight.sessions r).1 hr
    rw [hnil] at hmem
    cases hmem
  ended _ h := ⟨h.1, fun _ hst => nomatch hst⟩

/-! ## Joins and leaves -/

section Steps

variable {p : Plugin} {env : Env} {channelID callID : String} {userOf : String → String}
  {allow : Choice → Store → Op → Prop} {delivered : WsEvent → WebSocketBroadcast → Bool}
  {st st' : CallState} {d : ClientStore}

/-- An event that is not about the bot is heard by those it is meant for. -/
theorem HearsAll.hearing {botID : String} (h : HearsAll delivered) {ev : WsEvent}
    {b : WebSocketBroadcast} (hev : ev.hides botID = false) (huser : b.userID = "")
    (hconn : b.connectionID = "") : hearing botID delivered ev b d = d.receive ev :=
  hearing_eq hev (h ev b huser hconn)

theorem HearsAll.wholeChannel (h : HearsAll delivered) (ev : WsEvent) :
    delivered ev (wholeChannel channelID) = true := h ev _ rfl rfl

/-- Who shares the screen does not change with a join. -/
theorem joined_screen (r : JoinRequest) :
    (joined p env st r).call.props.screenSharingSessionID =
    st.call.props.screenSharingSessionID := by
  rw [joined_call]

/-- A client that agrees hears of a join. -/
theorem Agrees.tellJoin {r : JoinRequest} (hears : HearsAll delivered)
    (h : Agrees p.botID st d) (hbot : r.userID ≠ p.botID)
    (hcheck : checkJoin p st r.connID = .ok ()) :
    Agrees p.botID (joined p env st r) (tellJoin (Ports.hearing p.botID delivered) p env
      (joined p env st r) r channelID (tellHost (Ports.hearing p.botID delivered) env
        st.call.getHostID (joined p env st r) channelID d)) := by
  obtain ⟨d₁, hd₁⟩ : ∃ d₁,
    tellHost (Ports.hearing p.botID delivered) env st.call.getHostID
    (joined p env st r) channelID d = d₁ := ⟨_, rfl⟩
  have hmap : d₁.sessionsMap = d.sessionsMap := hd₁ ▸ (tellHost_keeps env _ _).1
  have hhost : d₁.hosts = some (joined p env st r).call.getHostID ∧
      d₁.screenSharingIDs = d.screenSharingIDs := by
    rw [← hd₁]
    unfold tellHost
    split
    · rw [hears.hearing rfl rfl rfl]
      exact ⟨rfl, rfl⟩
    next hsame =>
      rw [not_not.1 hsame]
      exact ⟨h.hosts, rfl⟩
  rw [hd₁]
  have hcall : callToJoin p env (some st) r channelID = .ok st := rfl
  have hshows :=
    (h.sessions.congr hmap).userJoined (fun ev => hears.wholeChannel ev) hcall hcheck
  have hjoin : Ports.hearing p.botID delivered (.userJoined r.userID r.connID)
      (wholeChannel channelID) d₁ = d₁.receive (.userJoined r.userID r.connID) :=
    hears.hearing (decide_eq_false hbot) rfl rfl
  have hagrees : Agrees p.botID (joined p env st r)
      (d₁.receive (.userJoined r.userID r.connID)) := by
    rw [hjoin] at hshows
    refine ⟨hshows, hhost.1, ?_⟩
    rw [joined_screen]
    exact hhost.2.trans h.screen
  unfold Ports.tellJoin
  rw [hjoin]
  exact hearing_keeps hagrees fun _ => Agrees.of_load env r.userID _

/-- Joins of users keep the client in agreement. -/
theorem convergence_join (hears : HearsAll delivered) (j : Join)
    (hbot : j.req.userID ≠ p.botID) :
    (convergence p.botID callID).KeptByJoin (hearing p.botID delivered) allow userOf p
      channelID j := by
  intro state w d state' w' d' hmirror hF hgrew hfresh htold
  obtain ⟨⟨c, hc, hid⟩, hagrees⟩ := hF
  obtain ⟨c', hc', hid'⟩ := hgrew c hc
  refine ⟨⟨c', hc', hid'.trans hid⟩, ?_⟩
  cases htold with
  | refused => exact hagrees
  | started st jobs postID threadID hchecks henter hlen =>
      -- the call that starts is another one
      obtain ⟨hcall, hcheck, -⟩ := joinChecks_eq_ok hchecks
      intro st' hst' hid₁ _
      obtain rfl := Option.some.inj hst'
      have hnone : state = none := by
        rcases callToJoin_eq_ok hcall with rfl | ⟨rfl, -⟩
        · rw [joined_length hcheck, Nat.add_eq_right, List.length_eq_zero_iff] at hlen
          exact absurd hlen hmirror.1.2.2.1
        · rfl
      exact absurd (hid.trans hid₁.symm) (hfresh hnone _ rfl c hc)
  | entered st jobs hchecks henter hlen =>
      obtain ⟨hcall, hcheck, -⟩ := joinChecks_eq_ok hchecks
      intro st' hst' hid₁ _
      obtain rfl := Option.some.inj hst'
      obtain rfl := callToJoin_of_length hcall hcheck hlen
      rw [joined_id] at hid₁
      exact (hagrees st rfl hid₁ hmirror.1.2.2.1).tellJoin hears hbot hcheck

/-- What the call shows after a leave that does not end it. -/
theorem left_shown {r : LeaveRequest}
    (hne : (withoutSession env r st).sessions.rows ≠ []) :
    (left p env r (withoutSession env r st)).call =
      hostLeftCall p env r (withoutSession env r st) ∧
      (hostLeftCall p env r (withoutSession env r st)).props.screenSharingSessionID =
        (if st.call.props.screenSharingSessionID = r.originalConnID then ""
        else st.call.props.screenSharingSessionID) ∧
      (withoutSession env r st).call.getHostID = st.call.getHostID := by
  have hscreen : (withoutSession env r st).call.props.screenSharingSessionID =
      if st.call.props.screenSharingSessionID = r.originalConnID then ""
      else st.call.props.screenSharingSessionID := by
    show (screenLeftCall env r st.call).props.screenSharingSessionID = _
    unfold screenLeftCall
    split
    · rfl
    · rfl
  refine ⟨left_of_sessions hne, ?_, (withoutSession_call r).2.getHostID⟩
  rw [← hscreen]
  unfold hostLeftCall
  split <;> rfl

/-- Neither the host nor the sharer changes with the announcements about a session that
left. -/
theorem offLeft_shown {r : LeaveRequest} {us : CallSession} {shared : String}
    (h : d.screenSharingIDs = some shared) :
    (offLeft p.botID delivered env r channelID us st d).hosts = d.hosts ∧
      (offLeft p.botID delivered env r channelID us st d).screenSharingIDs =
      some shared := by
  have hscreen :
      (tellScreenLeft (Ports.hearing p.botID delivered) env r channelID st d).hosts =
      d.hosts ∧ (tellScreenLeft (Ports.hearing p.botID delivered) env r channelID st
        d).screenSharingIDs = some shared := by
    unfold tellScreenLeft
    split
    · refine hearing_keeps (P := fun d' => d'.hosts = d.hosts ∧ d'.screenSharingIDs =
        some shared) ⟨rfl, h⟩ fun _ => ⟨rfl, ?_⟩
      -- the event has no session, so the sharer stays until the session leaves
      show Reducers.screenOff d.screenSharingIDs none = _
      rw [h]
      rfl
    · exact ⟨rfl, h⟩
  unfold offLeft tellVideoLeft
  split
  · exact hearing_keeps (P := fun d' => d'.hosts = d.hosts ∧ d'.screenSharingIDs =
      some shared) hscreen fun _ => hscreen
  · exact hscreen

/-- The host a client is told of is the host of the call. -/
theorem tellHostLeft_shown {r : LeaveRequest} (hears : HearsAll delivered)
    (h : d.hosts = some st.call.getHostID) :
    (tellHostLeft (Ports.hearing p.botID delivered) p env r channelID st d).hosts =
        some (hostLeftCall p env r st).getHostID ∧
      (tellHostLeft (Ports.hearing p.botID delivered) p env r channelID st
        d).screenSharingIDs =
        d.screenSharingIDs := by
  unfold tellHostLeft hostLeftCall
  split
  · rw [hears.hearing rfl rfl rfl]
    refine ⟨congrArg some ?_, rfl⟩
    by_cases hnobody : st.getHostID env p.botID = ""
    · simp [Call.getHostID, hnobody]
    · simp [Call.getHostID, hnobody]
  · exact ⟨h, rfl⟩

/-- A client that agrees hears of a leave that does not end the call. -/
theorem Agrees.tellLeave {r : LeaveRequest} {us : CallSession}
    (hears : HearsAll delivered) (h : Agrees p.botID st d) (hbot : r.userID ≠ p.botID)
    (hus : st.sessions.find? r.originalConnID = some us) (huser : us.userID = r.userID)
    (hleft : SameCall (left p env r (withoutSession env r st)) st')
    (hne : st'.sessions.rows ≠ []) :
    Agrees p.botID st' (tellLeave (Ports.hearing p.botID delivered) p env r channelID
      us st d) := by
  obtain ⟨hcall, hsess⟩ := hleft
  have hnotbot : us.userID = p.botID → us.video = false :=
    fun hb => absurd (huser.symm.trans hb) hbot
  have hne' : (withoutSession env r st).sessions.rows ≠ [] := by
    rw [hsess] at hne
    exact hne
  obtain ⟨hcall', hscreen, hhost⟩ := left_shown (p := p) hne'
  have hoff : (offLeft p.botID delivered env r channelID us st d).hosts = d.hosts ∧
      (offLeft p.botID delivered env r channelID us st d).screenSharingIDs =
        some st.call.props.screenSharingSessionID := offLeft_shown h.screen
  have hshows : Shows p.botID (some st')
      (Ports.tellLeave (Ports.hearing p.botID delivered) p env r channelID us st d) :=
    h.sessions.tellLeave (fun ev => hears.wholeChannel ev) hus huser hnotbot hsess
  obtain ⟨d₁, hd₁⟩ : ∃ d₁, offLeft p.botID delivered env r channelID us st d = d₁ :=
    ⟨_, rfl⟩
  have hheard : Ports.hearing p.botID delivered (.userLeft r.userID r.originalConnID)
      (wholeChannel channelID) d₁ = d₁.userLeft r.userID r.originalConnID :=
    hears.hearing (decide_eq_false hbot) rfl rfl
  have hd₂ : Ports.tellLeave (Ports.hearing p.botID delivered) p env r channelID us st
      d =
      tellHostLeft (Ports.hearing p.botID delivered) p env r channelID
        (withoutSession env r st) (d₁.userLeft r.userID r.originalConnID) := by
    rw [← hheard, ← hd₁]
    rfl
  rw [hd₁] at hoff
  have hbefore : (d₁.userLeft r.userID r.originalConnID).hosts =
      some (withoutSession env r st).call.getHostID := by
    rw [ClientStore.hosts_userLeft, hoff.1, h.hosts, hhost]
  have htold : (tellHostLeft (Ports.hearing p.botID delivered) p env r channelID
        (withoutSession env r st) (d₁.userLeft r.userID r.originalConnID)).hosts =
        some (hostLeftCall p env r (withoutSession env r st)).getHostID ∧
      (tellHostLeft (Ports.hearing p.botID delivered) p env r channelID
        (withoutSession env r st)
          (d₁.userLeft r.userID r.originalConnID)).screenSharingIDs =
        (d₁.userLeft r.userID r.originalConnID).screenSharingIDs :=
      tellHostLeft_shown hears hbefore
  refine ⟨hshows, ?_, ?_⟩
  · rw [hd₂, htold.1, hcall, hcall']
  · rw [hd₂, htold.2, ClientStore.screen_userLeft hoff.2, hcall, hcall', hscreen]

/-- Leaves of users keep the client in agreement. -/
theorem convergence_leave (hears : HearsAll delivered) (l : Leave)
    (hbot : l.req.userID ≠ p.botID)
    (huser : l.req.userID = userOf l.req.originalConnID) :
    (convergence p.botID callID).KeptByLeave (hearing p.botID delivered) userOf p
      channelID l := by
  intro state w d state' w' d' hmirror hF hgrew htold
  obtain ⟨⟨c, hc, hid⟩, hagrees⟩ := hF
  obtain ⟨c', hc', hid'⟩ := hgrew c hc
  refine ⟨⟨c', hc', hid'.trans hid⟩, ?_⟩
  cases htold with
  | refused => exact hagrees
  | left st us st' hstate hus hst' =>
      subst hstate
      intro st₁ hst₁ hid₁ hne
      obtain rfl := Option.some.inj hst₁
      obtain ⟨hmem, husid⟩ := Table.find?_eq_some.1 hus
      obtain ⟨howner, -⟩ := hmirror.2.1 us (((hmirror.2.2 st rfl).sync us).1 hmem).1
      have huser' : us.userID = l.req.userID := by rw [howner, husid, huser]
      have hidst : st'.call.id = st.call.id := by
        rw [hst'.1, left_id]
        exact (withoutSession_call l.req).1
      exact (hagrees st rfl (hidst.symm.trans hid₁) (List.ne_nil_of_mem hmem)).tellLeave
        hears hbot hus huser' hst' hne

end Steps

/-! ## The other requests -/

section Requests

variable {p : Plugin} {env : Env} {channelID callID : String} {userOf : String → String}
  {allow : Choice → Store → Op → Prop} {delivered : WsEvent → WebSocketBroadcast → Bool}
  {st st' : CallState} {w : Store} {od : Option ClientStore}

/-- The rules of the requests a client follows once it is there. -/
abbrev convergeLogic (p : Plugin) (channelID callID : String) (userOf : String → String)
    (allow : Choice → Store → Op → Prop)
    (delivered : WsEvent → WebSocketBroadcast → Bool) :
    Logic Op Op.Resp (Store × Option ClientStore) Choice :=
  watchLogic allow (hearLater (hearing p.botID delivered))
    ((convergence p.botID callID).later.Stored p.botID channelID userOf)

/-- A store call followed by what depends on its result. -/
theorem store_told {D : Type} {hear : WsEvent → WebSocketBroadcast → D → D}
    {inv : Store × D → Prop} {d : D} {α : Type} {o : StoreOp}
    {k : Except String o.Result → Body α} {Q : α → Store × D → Prop}
    (herr : ∀ e, (k (.error e)).wp (watchLogic allow hear inv) Q (w, d))
    (hok : ∀ a, (o.exec w).1 = .ok a →
      (k (.ok a)).wp (watchLogic allow hear inv) Q ((o.exec w).2, d)) :
    (store o >>= k).wp (watchLogic allow hear inv) Q (w, d) := by
  have hstore : (store o).wp (callLogic allow (fun _ => True) True) (fun res w' =>
      (∃ e, res = .error e ∧ w' = w) ∨ ∃ a, (o.exec w).1 = .ok a ∧ res = .ok a ∧
        w' = (o.exec w).2) w :=
    store_wp (fun e => .inl ⟨e, rfl, rfl⟩) fun a ha => .inr ⟨a, ha, rfl, rfl⟩
  refine Code.wp_bind.2
    (Code.wp_mono (Code.wp_unheard hstore ⟨unheard_store o, fun _ => trivial⟩)
    fun res wd hwd => ?_)
  obtain ⟨w', d'⟩ := wd
  obtain ⟨hres, hd⟩ := hwd
  obtain rfl : d' = d := hd
  rcases hres with ⟨e, rfl, rfl⟩ | ⟨a, ha, rfl, rfl⟩
  · exact herr e
  · exact hok a ha

/-- The client that is there has what it is told of a change of the ongoing call. -/
def TellsOf (hear : WsEvent → WebSocketBroadcast → ClientStore → ClientStore)
    (botID : String) (st st' : CallState) (ev : WsEvent)
    (b : WebSocketBroadcast) : Prop :=
  st'.call.id = st.call.id ∧ ∀ d, Agrees botID st d → Agrees botID st' (hear ev b d)

/-- An event that tells of the change. -/
theorem stored_told {ev : WsEvent} {b : WebSocketBroadcast} {w' : Store}
    (hF : (convergence p.botID callID).later.holds (some st) w od) (hgrew : Grew w w')
    (hmirror : JoinMirror p.botID channelID userOf (some st') w')
    (hne : st.sessions.rows ≠ [])
    (htells : TellsOf (hearing p.botID delivered) p.botID st st' ev b) :
    (convergence p.botID callID).later.Stored p.botID channelID userOf
      (w', hearLater (hearing p.botID delivered) ev b od) := by
  refine hmirror.tied fun d' hd' => ?_
  obtain ⟨d, hd, rfl⟩ := Option.map_eq_some_iff.1 hd'
  obtain ⟨⟨c, hc, hid⟩, hagrees⟩ := hF d hd
  obtain ⟨c', hc', hid'⟩ := hgrew c hc
  refine ⟨⟨c', hc', hid'.trans hid⟩, fun st₁ hst₁ hid₁ _ => ?_⟩
  obtain rfl := Option.some.inj hst₁
  exact htells.2 d (hagrees st rfl (htells.1.symm.trans hid₁) hne)

/-- What is read under the lock. -/
theorem stored_state
    (hwd : (convergence p.botID callID).later.Stored p.botID channelID userOf (w, od))
    (hst : storedState w channelID = some st) :
    JoinMirror p.botID channelID userOf (some st) w ∧
      (convergence p.botID callID).later.holds (some st) w od := by
  have hmirror := hwd.joinMirror
  have hF := hwd.2.2
  dsimp only at hF
  rw [hst] at hmirror hF
  exact ⟨hmirror, hF⟩

theorem shown_put {botID : String} {r : CallSession} {id : String}
    (hbot : r.userID ≠ botID) :
    shown botID (some { st with sessions := st.sessions.put r }) id =
      if id = r.id then some (ClientStore.entry r) else shown botID (some st) id := by
  simp only [shown, Option.bind_some, Table.find?_put]
  split
  · simp [hbot]
  · rfl

/-- The handler of a session event writes the attribute the server wrote. -/
theorem receive_session {us : UserSession} {r : CallSession} {d : ClientStore}
    (msg : SessionMessage)
    (h : d.sessionsMap.lookup us.originalConnID = some (ClientStore.entry r)) :
    (d.receive (msg.event us (msg.apply env r))).sessionsMap =
        d.sessionsMap.insert us.originalConnID (ClientStore.entry (msg.apply env r)) ∧
      (d.receive (msg.event us (msg.apply env r))).hosts = d.hosts ∧
      (d.receive (msg.event us (msg.apply env r))).screenSharingIDs =
      d.screenSharingIDs := by
  have hset : ∀ fresh set,
      (Reducers.sessionEvent d.sessions us.originalConnID fresh set).getD ∅ =
      d.sessionsMap.insert us.originalConnID (set (ClientStore.entry r)) :=
    ClientStore.sessionEvent_getD h
  cases msg with
  | mute =>
      exact ⟨hset _ fun session => { session with unmuted := some false }, rfl, rfl⟩
  | unmute =>
      exact ⟨hset _ fun session => { session with unmuted := some true }, rfl, rfl⟩
  | videoOn =>
      exact ⟨hset _ fun session => { session with video := some true }, rfl, rfl⟩
  | videoOff =>
      exact ⟨hset _ fun session => { session with video := some false }, rfl, rfl⟩
  | raiseHand =>
      exact ⟨hset _ fun session =>
        { session with raisedHand := some (env.now .raiseHand) }, rfl, rfl⟩
  | unraiseHand =>
      exact ⟨hset _ fun session => { session with raisedHand := some 0 }, rfl, rfl⟩

/-- A session message writes the attributes of the session alone. -/
theorem apply_session (msg : SessionMessage) (r : CallSession) :
    (msg.apply env r).id = r.id ∧
    (msg.apply env r).userID = r.userID ∧
    Store.setSession r (msg.apply env r) = msg.apply env r := by
  cases msg <;> exact ⟨rfl, rfl, rfl⟩

theorem Agrees.session {us : UserSession} {r : CallSession} {d : ClientStore}
    (h : Agrees p.botID st d) (hr : r ∈ st.sessions) (hid : r.id = us.originalConnID)
    (hbot : r.userID ≠ p.botID) (msg : SessionMessage) :
    Agrees p.botID { st with sessions := st.sessions.put (msg.apply env r) }
      (d.receive (msg.event us (msg.apply env r))) := by
  have happly : (msg.apply env r).id = r.id ∧ (msg.apply env r).userID = r.userID ∧
      Store.setSession r (msg.apply env r) = msg.apply env r := apply_session msg r
  obtain ⟨hid', huser', -⟩ := happly
  have hentry : d.sessionsMap.lookup us.originalConnID = some (ClientStore.entry r) :=
    (h.sessions _).trans (shown_eq_some.2 ⟨r, hr, hid, hbot, rfl⟩)
  have hreceive : (d.receive (msg.event us (msg.apply env r))).sessionsMap =
        d.sessionsMap.insert us.originalConnID (ClientStore.entry (msg.apply env r)) ∧
      (d.receive (msg.event us (msg.apply env r))).hosts = d.hosts ∧
      (d.receive (msg.event us (msg.apply env r))).screenSharingIDs =
      d.screenSharingIDs :=
    receive_session msg hentry
  obtain ⟨hmap, hhosts, hscreen⟩ := hreceive
  refine ⟨fun id => ?_, hhosts.trans h.hosts, hscreen.trans h.screen⟩
  have hbot' : (msg.apply env r).userID ≠ p.botID := huser' ▸ hbot
  rw [hmap, shown_put hbot', hid', hid]
  split
  next hk => rw [hk, Finmap.lookup_insert]
  next hk => rw [Finmap.lookup_insert_of_ne _ hk, h.sessions id]

/-- A session message keeps a client in agreement. -/
theorem sessionMessage_told (hears : HearsAll delivered) {us : UserSession}
    {msg : SessionMessage} (hbot : userOf us.originalConnID ≠ p.botID)
    (wd : Store × Option ClientStore) :
    wp (convergeLogic p channelID callID userOf allow delivered) false
      (handleSessionMessage env us channelID msg) (fun h _ _ => h = false) wd := by
  refine underLock_told fun w od hwd => ?_
  cases hst : storedState w channelID with
  | none => exact hwd
  | some st =>
      obtain ⟨hmirror, hF⟩ := stored_state hwd hst
      unfold sessionMessage
      dsimp only
      split
      · exact hwd
      next session hfind =>
        obtain ⟨hmem, hid⟩ := Table.find?_eq_some.1 hfind
        have hrow := ((hmirror.2.2 st rfl).sync session).1 hmem
        have huser : session.userID ≠ p.botID := by
          rw [(hmirror.2.1 session hrow.1).1, hid]
          exact hbot
        have happly : (msg.apply env session).id = session.id ∧
            (msg.apply env session).userID = session.userID ∧
            Store.setSession session (msg.apply env session) = msg.apply env session :=
          apply_session msg session
        obtain ⟨hid', huser', hset⟩ := happly
        refine store_told (fun e => hwd) fun a ha => Code.wp_bind.2 (publish_told ?_)
        have hwrite : ((StoreOp.updateCallSession (msg.apply env session)).exec w).2 =
            w.updateCallSession (msg.apply env session) := by
          simp only [StoreOp.exec] at ha ⊢
          split at ha
          · cases ha
          · rfl
        rw [hwrite]
        refine stored_told hF (grew_of_calls rfl)
          (hmirror.updateCallSession hmem huser hset hid') hmirror.1.2.2.1
          ⟨rfl, fun d hd => ?_⟩
        rw [hears.hearing (by cases msg <;> rfl) rfl rfl]
        exact hd.session hmem hid huser msg

/-- Writing the call of a state. -/
theorem updateCallOf_told {D : Type} {hear : WsEvent → WebSocketBroadcast → D → D}
    {inv : Store × D → Prop} {d : D} {α : Type} {k : Except String Unit → Body α}
    {Q : α → Store × D → Prop}
    (herr : ∀ e, (k (.error e)).wp (watchLogic allow hear inv) Q (w, d))
    (hok : st'.call.isValid = .ok () →
      (k (.ok ())).wp (watchLogic allow hear inv) Q (w.updateCall st'.call, d)) :
    (updateCallOf st' >>= k).wp (watchLogic allow hear inv) Q (w, d) := by
  refine Code.wp_bind.2 (store_told (fun e => herr _) fun a ha => ?_)
  simp only [StoreOp.exec] at ha ⊢
  split at ha
  · cases ha
  next hv => exact hok hv

/-- What may happen while a client is there: no join and no leave gives up, and no
screen message is stored that the clients are not told of. -/
@[reducible]
def keepsTold : Terms Op (Store × Option ClientStore) Choice where
  allow _ c wd o := NotGivenUp c wd.1 o ∧ (wd.2.isSome → o ≠ .reach .untold)
  pre _ _ := True

/-- The state with the message carried out. -/
abbrev screened (env : Env) (us : UserSession) (turnOn : Bool) (st : CallState) :
    CallState :=
  { st with
    call :=
      if turnOn then shareScreen env st.call us.originalConnID
      else unshareScreen env st.call }

theorem screened_call {turnOn : Bool} (us : UserSession) (hon : Ongoing st.call) :
    (screened env us turnOn st).call.id = st.call.id ∧
      Ongoing (screened env us turnOn st).call := by
  unfold screened
  dsimp only
  split
  · exact ⟨rfl, hon⟩
  · unfold unshareScreen
    split <;> exact ⟨rfl, hon⟩

/-- The clients hear who shares the screen. -/
theorem screen_told (hears : HearsAll delivered) {us : UserSession} {turnOn : Bool}
    (hsharer : turnOn = false →
      st.call.props.screenSharingSessionID = us.originalConnID) :
    TellsOf (hearing p.botID delivered) p.botID st (screened env us turnOn st)
      (if turnOn then .userScreenOn us.userID us.originalConnID
        else .userScreenOff (some (us.userID, us.originalConnID)))
      ((screened env us turnOn st).audience env channelID) := by
  cases turnOn with
  | true =>
      refine ⟨rfl, fun d hd => ?_⟩
      rw [hears.hearing rfl rfl rfl]
      exact ⟨hd.sessions, hd.hosts, rfl⟩
  | false =>
      have hunshared : (unshareScreen env st.call).id = st.call.id ∧
          (unshareScreen env st.call).getHostID = st.call.getHostID ∧
          (unshareScreen env st.call).props.screenSharingSessionID = "" := by
        unfold unshareScreen
        split
        · exact ⟨rfl, rfl, rfl⟩
        · exact ⟨rfl, rfl, rfl⟩
      obtain ⟨hid, hhost, hscreen⟩ := hunshared
      refine ⟨hid, fun d hd => ?_⟩
      rw [hears.hearing rfl rfl rfl]
      refine ⟨hd.sessions, hd.hosts.trans (congrArg some hhost.symm), ?_⟩
      show Reducers.screenOff d.screenSharingIDs (some us.originalConnID) =
        some (unshareScreen env st.call).props.screenSharingSessionID
      rw [hd.screen, hsharer rfl, hscreen]
      exact if_neg (not_not.2 rfl)

/-- Starting and stopping to share the screen keeps a client in agreement. -/
theorem screenMessage_told (hears : HearsAll delivered) {us : UserSession}
    {turnOn : Bool} (wd : Store × Option ClientStore) :
    wp ((convergeLogic p channelID callID userOf NotGivenUp delivered).on keepsTold)
      false (handleClientMessageTypeScreen p env us channelID turnOn)
      (fun h _ _ => h = false) wd := by
  unfold handleClientMessageTypeScreen
  split
  · exact rfl
  refine underLock_on (fun _ _ _ _ h => h.1) (fun _ _ => trivial) fun w od hwd => ?_
  cases hst : storedState w channelID with
  | none => exact hwd
  | some st =>
      obtain ⟨hmirror, hF⟩ := stored_state hwd hst
      have hon := hmirror.1.2.1.ongoing
      unfold screenMessage
      dsimp only
      split
      · exact hwd
      split
      · exact hwd
      next hsharer =>
        have hoff : turnOn = false →
            st.call.props.screenSharingSessionID = us.originalConnID := fun hoff => by
          simpa [hoff] using hsharer
        obtain ⟨hid, hon'⟩ := screened_call us hon
        have hstored : (updateCallOf (screened env us turnOn st)).wp
            (convergeLogic p channelID callID userOf NotGivenUp delivered)
            (fun res wd' => (∃ e, res = .error e ∧ wd' = (w, od)) ∨
              (res = .ok () ∧ (screened env us turnOn st).call.isValid = .ok () ∧
                wd' = (w.updateCall (screened env us turnOn st).call, od)))
                  (w, od) := by
          rw [← Code.bind_ret (updateCallOf _)]
          exact updateCallOf_told (fun e => .inl ⟨e, rfl, rfl⟩) fun hv =>
            .inr ⟨rfl, hv, rfl⟩
        refine Code.wp_bind.2 (Code.wp_mono (Code.wp_on (fun _ _ _ _ h => h.1)
          (fun _ _ _ => trivial) hstored) fun res wd' hres => ?_)
        rcases hres with ⟨e, rfl, rfl⟩ | ⟨rfl, hv, rfl⟩
        · exact hwd
        have hmirror' := hmirror.updateCall hid hon' rfl hv
        dsimp only
        unfold tellScreen
        split
        · -- without being told; so nobody is there
          refine ⟨trivial, fun c hc => ?_⟩
          cases od with
          | some d => exact absurd rfl (hc.2 rfl)
          | none => exact hmirror'.tied fun _ hd => nomatch hd
        · exact ⟨trivial, fun _ _ => stored_told hF (grew_updateCall w _) hmirror'
            hmirror.1.2.2.1 (screen_told hears hoff)⟩

/-- A choice of a host keeps a client in agreement. -/
theorem changeHost_told (hears : HearsAll delivered) {requesterID newHostID : String}
    (wd : Store × Option ClientStore) :
    wp (convergeLogic p channelID callID userOf allow delivered) false
      (changeHost p env requesterID channelID newHostID)
      (fun h _ _ => h = false) wd := by
  refine underLock_told fun w od hwd => ?_
  cases hst : storedState w channelID with
  | none => exact hwd
  | some st =>
      obtain ⟨hmirror, hF⟩ := stored_state hwd hst
      have hon := hmirror.1.2.1.ongoing
      unfold hostChanged
      dsimp only
      split
      · exact hwd
      split
      · exact hwd
      split
      next hsame =>
        split
        · -- the host stays, and is locked
          rw [← Code.bind_ret (updateCallOf _)]
          refine updateCallOf_told (fun e => hwd) fun hv => ?_
          have hlocked : JoinMirror p.botID channelID userOf
              (some { st with call := { st.call with
              props := { st.call.props with hostLockedUserID := newHostID } } })
                (w.updateCall
              { st.call with props := { st.call.props with
                  hostLockedUserID := newHostID } }) :=
            hmirror.updateCall rfl hon rfl hv
          refine hlocked.tied fun d hd => ?_
          obtain ⟨⟨c, hc, hid⟩, hagrees⟩ := hF d hd
          obtain ⟨c', hc', hid'⟩ := grew_updateCall w _ c hc
          refine ⟨⟨c', hc', hid'.trans hid⟩, fun st₁ hst₁ hid₁ hne => ?_⟩
          obtain rfl := Option.some.inj hst₁
          have hd := hagrees st rfl hid₁ hne
          exact ⟨hd.sessions, hd.hosts, hd.screen⟩
        · exact hwd
      next =>
        split
        · exact hwd
        · refine updateCallOf_told (fun e => hwd) fun hv =>
            Code.wp_bind.2 (publish_told ?_)
          refine stored_told hF (grew_updateCall w _)
            (hmirror.updateCall rfl hon rfl hv) hmirror.1.2.2.1 ⟨rfl, fun d hd => ?_⟩
          rw [hears.hearing rfl rfl rfl]
          exact ⟨hd.sessions, rfl, hd.screen⟩

end Requests

/-! ## Runs -/

/-- What the users do in a call: they come and go by the connections that are theirs,
switch microphone, camera and hand, share their screens and choose the host. -/
def Handler.ByUsers (botID : String) (userOf : String → String) : Handler → Prop
  | .join j =>
      j.env.opensRTC = true ∧ j.req.userID = userOf j.req.connID ∧ j.req.userID ≠ botID
  | .joinBatch js => ∀ j ∈ js,
      j.env.opensRTC = true ∧ j.req.userID = userOf j.req.connID ∧ j.req.userID ≠ botID
  | .leave l => l.req.userID = userOf l.req.originalConnID ∧ l.req.userID ≠ botID
  | .leaveBatch ls =>
      ∀ l ∈ ls, l.req.userID = userOf l.req.originalConnID ∧ l.req.userID ≠ botID
  | .session us _ => us.userID = userOf us.originalConnID ∧ us.userID ≠ botID
  | .screen _ _ => True
  | .changeHost _ _ => True
  | _ => False

section Runs

variable {userOf : String → String} {delivered : WsEvent → WebSocketBroadcast → Bool}

/-- Every such request keeps a client that is there in agreement. -/
theorem byUsers_wp {p : Plugin} {h : Handler} (hh : h.ByUsers p.botID userOf)
    (hears : HearsAll delivered) (env : Env) (channelID callID : String)
    (wd : Store × Option ClientStore) :
    wp ((convergeLogic p channelID callID userOf NotGivenUp delivered).on keepsTold)
      false (h.code p env channelID) (fun h _ _ => h = false) wd := by
  have hgave : ∀ c s, ¬ NotGivenUp c s (.reach .gaveUp) := fun _ _ h => h rfl
  have hhear : Aloof (hearLater (hearing p.botID delivered)) :=
    hearLater_aloof hearing_aloof
  have hon {α : Type} {q : P α}
      (hq : wp (convergeLogic p channelID callID userOf NotGivenUp
      delivered) false q (fun h _ _ => h = false) wd) :
      wp ((convergeLogic p channelID callID userOf NotGivenUp delivered).on keepsTold)
        false q (fun h _ _ => h = false) wd :=
        wp_on (fun _ _ _ _ h => h.1) (fun _ _ _ => trivial) hq
  cases h with
  | join j =>
      exact discard_rule (hon (follow_handleJoin hhear hgave hh.1 hh.2.1
        (convergence_join hears j hh.2.2).later))
  | joinBatch js =>
      exact discard_rule (hon (follow_joinBatch hhear hgave
        (fun j hj => ⟨(hh j hj).1, (hh j hj).2.1⟩)
        fun j hj => (convergence_join hears j (hh j hj).2.2).later))
  | leave l =>
      exact discard_rule (hon (follow_removeSession hhear hgave
        (convergence_leave hears l hh.2 hh.1).later))
  | leaveBatch ls =>
      exact discard_rule (hon (follow_leaveBatch hhear hgave fun l hl =>
        (convergence_leave hears l (hh l hl).2 (hh l hl).1).later))
  | session us msg =>
      exact discard_rule (hon (sessionMessage_told hears (hh.1 ▸ hh.2) wd))
  | screen us turnOn => exact discard_rule (screenMessage_told hears wd)
  | changeHost requesterID newHostID =>
      exact discard_rule (hon (changeHost_told hears wd))
  | _ => exact hh.elim

variable {T N : Type} [DecidableEq T] [DecidableEq N]

/-- While a client watches, no join and no leave gives up, and no screen message is
stored that the clients are not told of. -/
def KeepsTold {D : Type} (_ : List (Event T Choice))
    (s : Sys Op Op.Resp (Store × D) T N) (t : T) (_ : Act Choice) : Prop :=
  ∀ point k, s.code t = .op (.reach point) k → point ≠ .gaveUp ∧ point ≠ .untold

/-- In every run of what users do in which no join and no leave fails half-way, split at
any moment at which the lock is free and a call is active: a client that loads the
snapshot of that moment and hears what is published from then on has, whenever the lock
is free and the call still active, the entries it would load from the snapshot of the
moment.  From the split on, the node that handles the call can be told of each screen
message that is stored. -/
theorem convergence_of_runs (node : T → N) (p : T → Plugin) (env : T → Env)
    (channelID botID : String) (hbot : ∀ t, (p t).botID = botID)
    (userOf : String → String) (delivered : WsEvent → WebSocketBroadcast → Bool)
    (hears : HearsAll delivered) (store : Store)
    (h : T → Handler) (hh : ∀ t, (h t).ByUsers botID userOf)
    (h0 : Healthy channelID store)
    (hown : Owned botID userOf store) {tr₁ : List (Event T Choice)}
    {s₁ : Sys Op Op.Resp Store T N}
    (hr₁ : Runs exec node NoneGivesUp (requests p env channelID store h) tr₁ s₁)
    (hfree₁ : s₁.owner = none) {st₁ : CallState}
    (hst₁ : storedState s₁.world channelID = some st₁)
    (client : ClientStore) (env₁ : Env) (userID : String) {tr₂ : List (Event T Choice)}
    {s₂ : Sys Op Op.Resp (Store × ClientStore) T N}
    (hr₂ : Runs (watched exec (Ports.hears (hearing botID delivered))) node KeepsTold
      (s₁.watch (client.loadCallState (st₁.getClientState env₁ botID userID))) tr₂ s₂)
    (hfree₂ : s₂.owner = none) {st₂ : CallState}
    (hst₂ : storedState s₂.world.1 channelID = some st₂)
    (hsame : st₂.call.id = st₁.call.id) (client' : ClientStore) (env₂ : Env) :
    SameEntries s₂.world.2
      (client'.loadCallState (st₂.getClientState env₂ botID userID)) := by
  let L := watchLogic NotGivenUp (hearLater (hearing botID delivered))
    ((convergence botID st₁.call.id).later.Stored botID channelID userOf)
  have hdeaf : ∀ o, Ports.hears (hearLater (hearing botID delivered)) o
      none = none := by
    intro o
    cases o <;> rfl
  have hhears : ∀ o d, Ports.hears (hearLater (hearing botID delivered)) o (some d) =
      some (Ports.hears (hearing botID delivered) o d) := by
    intro o d
    cases o <;> rfl
  have hstart : ((requests p env channelID store h).watch none).OkFor L
      (fun _ => keepsTold) node :=
    Sys.OkFor.start ⟨fun _ => rfl, rfl, fun _ => rfl⟩ ⟨h0, hown, fun _ hd => nomatch hd⟩
      fun t wd => by
        obtain rfl := hbot t
        exact byUsers_wp (hh t) hears (env t) channelID _ wd
  -- up to the split nobody is there to hear
  have hunseen : Runs L.sem node
      (fun _ s t _ => (∀ k, s.code t ≠ .op (.reach .gaveUp) k) ∧
      s.world.2 = none) ((requests p env channelID store h).watch none) tr₁
        (s₁.watch none) :=
    hr₁.mapWorld (sameMeaning_deaf hdeaf) fun _ _ _ _ hok => ⟨hok, rfl⟩
  have hok₁ : (s₁.watch none).OkFor L (fun _ => keepsTold) node := by
    refine hunseen.monitor hstart
      (fun tr s t c o k hok hk => ⟨fun ho => ?_, fun hsome => ?_⟩)
      (fun _ _ _ _ => trivial) fun hf => hf.elim
    · subst ho
      exact hok.1 k hk
    · rw [hok.2] at hsome
      cases hsome
  obtain ⟨hhealthy, howned, -⟩ := hok₁.free hfree₁
  -- then the client comes
  have hrow : ∃ c ∈ s₁.world.calls, c.id = st₁.call.id :=
    ⟨st₁.call, (storedState_active hst₁).1, rfl⟩
  have hok : (s₁.watch
      (some (client.loadCallState (st₁.getClientState env₁ botID userID)))).OkFor L
      (fun _ => keepsTold) node := by
    refine ⟨⟨hok₁.layered.owner, hok₁.layered.polls, hok₁.layered.locked⟩, fun _ =>
      ⟨hhealthy, howned, fun d hd => ⟨hrow, fun st hst hid hne => ?_⟩⟩,
        fun t ht => ?_, hok₁.rest⟩
    · obtain rfl := Option.some.inj hd
      obtain rfl : st₁ = st := Option.some.inj (hst₁.symm.trans hst)
      exact Agrees.of_load env₁ userID client
    · exact absurd (hfree₁.symm.trans ht) (by simp)
  have hseen : Runs L.sem node KeepsTold
      ((s₁.watch (client.loadCallState (st₁.getClientState env₁ botID userID))).mapWorld
        fun wd => (wd.1, some wd.2)) tr₂ (s₂.mapWorld fun wd => (wd.1, some wd.2)) :=
    hr₂.mapWorld (sameMeaning_hear fun o d => hhears o d) fun _ _ _ _ hok => hok
  have hok₂ := hseen.monitor hok (fun tr s t c o k hok hk =>
    ⟨fun ho => by subst ho; exact (hok _ k hk).1 rfl, fun _ ho => by
      subst ho
      exact (hok _ k hk).2 rfl⟩) (fun _ _ _ _ => trivial) fun hf => hf.elim
  have hstored : (convergence botID st₁.call.id).later.Stored botID channelID userOf
      (s₂.world.1, some s₂.world.2) := hok₂.free hfree₂
  have hmirror := hstored.joinMirror
  rw [hst₂] at hmirror
  exact ((hstored.2.2 s₂.world.2 rfl).2 st₂ hst₂ hsame hmirror.1.2.2.1).sameEntries env₂
    userID client'

end Runs

/-! ## Instances -/

/-- A client in the call: what is addressed to one user or connection does not reach
it. -/
def hearsOthers (_ : WsEvent) (b : WebSocketBroadcast) : Bool :=
  b.userID = "" && b.connectionID = ""

theorem hearsOthers_all : HearsAll hearsOthers := fun _ _ huser hconn => by
  simp [hearsOthers, huser, hconn]

/-- Alice shares her screen with bob. -/
def sharedStore : Store where
  calls := ⟨[{ sampleCall with
    props :=
      { sampleCall.props with screenSharingSessionID := "s1", screenStartAt := 12 } }],
    by decide⟩
  sessions := sharingStore.sessions
  jobs := .empty

theorem sharedStore_healthy : Healthy "chan" sharedStore where
  calls := by decide
  sessions := by decide
  jobs j hj := absurd hj (Table.not_mem_empty j)
  unique := by decide
  populated c hc _ _ := by
    obtain rfl := List.mem_singleton.1 hc
    exact ⟨sampleSession, List.mem_cons_self .., rfl⟩

theorem sharedStore_owned : Owned "bot" aliceBobBot sharedStore := by
  unfold Owned
  decide

/-- Alice leaves. -/
def alicesLeave : Handler := .leave ⟨⟨"alice", "s1", "s1"⟩, .sample 40⟩

/-- The call alice shares her screen in, as it is read. -/
def sharedState : CallState :=
  stateOfCall sharedStore { sampleCall with
    props :=
      { sampleCall.props with screenSharingSessionID := "s1", screenStartAt := 12 } }

/-- Alice starts to share her screen. -/
def alicesScreen : Handler := .screen ⟨"alice", "s1"⟩ true

/-- The node that handles the call cannot be told. -/
def untoldEnv : Env := { Env.sample 20 with sendClusterMessage := .error "failed" }

/-- A client that loaded the snapshot of `st` and hears what is published while `h` runs
is left with other entries than a new snapshot has. -/
structure Diverges (env : Env) (store : Store) (st : CallState) (h : Handler) :
    Prop where
  stored : storedState store "chan" = some st
  byUsers : h.ByUsers "bot" aliceBobBot
  healthy : Healthy "chan" store
  owned : Owned "bot" aliceBobBot store
  run : ∃ (tr : List (Event Unit Choice))
    (s : Sys Op Op.Resp (Store × ClientStore) Unit Unit),
    Runs (watched exec (hears (hearing "bot" hearsOthers))) id (fun _ _ _ _ => True)
      ((requests (fun _ => .sample) (fun _ => env) "chan" store fun _ => h).watch
        (ClientStore.empty.loadCallState (st.getClientState (.sample 20) "bot" "bob")))
        tr s ∧
    s.owner = none ∧ ∃ st', storedState s.world.1 "chan" = some st' ∧
      st'.call.id = st.call.id ∧
      ¬ SameEntries s.world.2 (ClientStore.empty.loadCallState
        (st'.getClientState (.sample 20) "bot" "bob"))

/-- The client and the row end up with different sharers. -/
theorem Diverges.of_sched {env : Env} {store : Store} {st : CallState} {h : Handler}
    (heard stored : String) (hst : storedState store "chan" = some st)
    (hh : h.ByUsers "bot" aliceBobBot) (h0 : Healthy "chan" store)
    (hown : Owned "bot" aliceBobBot store) (sched : List (Unit × Act Choice))
    (hsched :
        (((requests (fun _ => .sample) (fun _ => env) "chan" store fun _ => h).watch
        (ClientStore.empty.loadCallState
          (st.getClientState (.sample 20) "bot" "bob"))).sched
        (watched exec (hears (hearing "bot" hearsOthers))) id
          (fun _ _ _ _ => true) [] sched).map
      (fun r => (r.2.owner, r.2.world.2.screenSharingIDs,
        (storedState r.2.world.1 "chan").map
        fun st => (st.call.id, st.call.props.screenSharingSessionID))) =
      some (none, some heard, some (st.call.id, stored))) (hne : heard ≠ stored) :
    Diverges env store st h := by
  refine ⟨hst, hh, h0, hown, ?_⟩
  obtain ⟨tr, s, hr, hf⟩ := Runs.exists_of_sched (fun _ _ _ _ _ => trivial) hsched
  simp only [Prod.mk.injEq] at hf
  obtain ⟨hfree, hscreen, hstored⟩ := hf
  obtain ⟨st', hst', hcall⟩ := Option.map_eq_some_iff.1 hstored
  obtain ⟨hid, hshared⟩ := Prod.mk.inj hcall
  refine ⟨tr, s, hr, hfree, st', hst', hid, fun hsame => hne ?_⟩
  have hentries : s.world.2.screenSharingIDs =
      some st'.call.props.screenSharingSessionID :=
    hsame.screen
  rw [hscreen, hshared] at hentries
  exact Option.some.inj hentries

/-- Alice's leave is announced and the write of the call fails: the clients see nobody
share the screen, a new snapshot has the session that left as the sharer.  Her screen is
stored as shared and the node that handles the call cannot be told: no event is
published. -/
theorem convergence_of_failures :
    Diverges (.sample 20) sharedStore sharedState alicesLeave ∧
      Diverges untoldEnv botAndAlice (stateOfCall botAndAlice sampleCall)
        alicesScreen :=
  ⟨.of_sched "" "s1" (by decide) ⟨rfl, by decide⟩ sharedStore_healthy sharedStore_owned
    (((), .enter) :: ((), .acquire) :: List.replicate 7 ((), .op Choice.works) ++
      [((), .op ⟨true, .ok "job"⟩), ((), .op .works), ((), .unlock)])
        (by decide) (by decide),
  .of_sched "" "s1" (by decide) trivial botAndAlice_healthy botAndAlice_owned
    (inTurn () 5 Choice.works) (by decide) (by decide)⟩

theorem keepsTold_of_check {T N D : Type} (tr : List (Event T Choice))
    (s : Sys Op Op.Resp (Store × D) T N) (t : T) (a : Act Choice)
    (h : checkNoneGivesUp tr s t a = true) : KeepsTold tr s t a := by
  intro point k hk
  cases point <;> simp_all [checkNoneGivesUp]

/-- Bob joins alice, who then unmutes. -/
def bobJoinsAliceUnmutes : Fin 2 → Handler
  | 0 => bobsJoin
  | 1 => .session ⟨"alice", "s1"⟩ .unmute

/-- A client that loads the snapshot of the call once bob is in it hears of alice. -/
theorem convergence_of_unmute : ∃ (tr₁ tr₂ : List (Event (Fin 2) Choice))
    (s₁ : Sys Op Op.Resp Store (Fin 2) Unit)
    (s₂ : Sys Op Op.Resp (Store × ClientStore) (Fin 2) Unit) (st₁ st₂ : CallState),
    Runs exec (fun _ => ()) NoneGivesUp
      (requests (fun _ => .sample) (fun _ => .sample 20) "chan"
      botAndAlice bobJoinsAliceUnmutes) tr₁ s₁ ∧ s₁.owner = none ∧
    storedState s₁.world "chan" = some st₁ ∧
    Runs (watched exec (hears (hearing "bot" hearsOthers))) (fun _ => ()) KeepsTold
      (s₁.watch (ClientStore.empty.loadCallState
        (st₁.getClientState (.sample 20) "bot" "bob")))
      tr₂ s₂ ∧ s₂.owner = none ∧ storedState s₂.world.1 "chan" = some st₂ ∧
    st₂.call.id = st₁.call.id ∧
    SameEntries s₂.world.2 (ClientStore.empty.loadCallState
      (st₂.getClientState (.sample 20) "bot" "bob")) := by
  have hsched : ((requests (fun _ => .sample) (fun _ => .sample 20) "chan" botAndAlice
      bobJoinsAliceUnmutes).sched exec (fun _ => ()) checkNoneGivesUp []
      (inTurn 0 8 Choice.works)).bind
      (fun r₁ => (storedState r₁.2.world "chan").bind fun st₁ =>
      ((r₁.2.watch (ClientStore.empty.loadCallState
        (st₁.getClientState (.sample 20) "bot"
        "bob"))).sched (watched exec (hears (hearing "bot" hearsOthers))) (fun _ => ())
        checkNoneGivesUp []
        (inTurn 1 5 Choice.works)).bind fun r₂ =>
        (storedState r₂.2.world.1 "chan").map fun st₂ =>
        (r₁.2.owner, r₂.2.owner, decide (st₂.call.id = st₁.call.id))) =
      some (none, none, true) := by
    decide
  obtain ⟨⟨tr₁, s₁⟩, hs₁, hrest⟩ := Option.bind_eq_some_iff.1 hsched
  obtain ⟨st₁, hst₁, hrest⟩ := Option.bind_eq_some_iff.1 hrest
  obtain ⟨⟨tr₂, s₂⟩, hs₂, hrest⟩ := Option.bind_eq_some_iff.1 hrest
  obtain ⟨st₂, hst₂, hf⟩ := Option.map_eq_some_iff.1 hrest
  simp only [Prod.mk.injEq, decide_eq_true_eq] at hf
  obtain ⟨hfree₁, hfree₂, hsame⟩ := hf
  have hr₁ := Runs.of_sched noneGivesUp_of_checked _ .refl hs₁
  have hr₂ := Runs.of_sched keepsTold_of_check _ .refl hs₂
  have hh : ∀ t, (bobJoinsAliceUnmutes t).ByUsers "bot" aliceBobBot := fun t => by
    match t with
    | 0 => exact ⟨rfl, rfl, by decide⟩
    | 1 => exact ⟨rfl, by decide⟩
  exact ⟨tr₁, tr₂, s₁, s₂, st₁, st₂, hr₁, hfree₁, hst₁, hr₂, hfree₂, hst₂, hsame,
    convergence_of_runs (fun _ => ()) _ _ "chan" "bot" (fun _ => rfl) aliceBobBot
      hearsOthers hearsOthers_all botAndAlice bobJoinsAliceUnmutes hh
      botAndAlice_healthy botAndAlice_owned hr₁
      hfree₁ hst₁ .empty (.sample 20) "bob" hr₂ hfree₂ hst₂ hsame .empty (.sample 20)⟩

end CallsPlugin.Ports
