import CallsPlugin.Ports.Webapp

/-!
# Whom an event reaches (`publishWebSocketEvent` of `server/websocket.go`)

An event of a call goes to the bot in a copy of its own and then, depending on
what the broadcast names, to a list of users, to one user or connection, or to
the channel.  `publishWebSocketEvent` is that routing, as the list of calls it
makes; how the Mattermost server delivers one of them is a parameter.

An event for the participants names the users of the call's sessions.  Each of
them gets it once as long as somebody is left in the call; with nobody left
the list is empty and the event goes to the channel.
-/

namespace CallsPlugin.Ports

open CallsPlugin.Verified
open CallsPlugin.Ports.Public CallsPlugin.Ports.Db

/-! ## The routing -/

/-- A value of an event's data: `user_id` is compared with a string. -/
inductive EventValue (V : Type) where
  | str (s : String)
  | other (v : V)
  deriving DecidableEq

/-- The data of an event, a map that may be nil. -/
abbrev EventData (V : Type) := Option (Finmap fun _ : String => EventValue V)

namespace EventData

variable {V : Type}

/-- `data[key]` -/
def get (data : EventData V) (key : String) : Option (EventValue V) :=
  data.bind (Finmap.lookup key)

/-- `data[key] = value`, of a map made first if there is none. -/
def set (data : EventData V) (key : String) (value : EventValue V) : EventData V :=
  some ((data.getD ∅).insert key value)

end EventData

/-- `model.WebsocketBroadcast` of the Mattermost server. -/
structure Model.WebsocketBroadcast where
  channelId : String := ""
  userId : String := ""
  connectionId : String := ""
  reliableClusterSend : Bool := false
  omitUsers : List String := []
  deriving DecidableEq

/-- `WebSocketBroadcast.ToModel`; no caller fills `OmitUsers`, which is passed as it
stands. -/
def WebSocketBroadcast.toModel (wsb : WebSocketBroadcast) (omitUsers : List String) :
    Model.WebsocketBroadcast :=
  ⟨wsb.channelID, wsb.userID, wsb.connectionID, wsb.reliableClusterSend, omitUsers⟩

/-- What `publishWebSocketEvent` calls: the metrics or the API of the server.  The
broadcast may be nil. -/
inductive WsCall (V : Type) where
  | incWebSocketEvent (ev : String)
  | publishWebSocketEvent (ev : String) (data : EventData V)
      (broadcast : Option Model.WebsocketBroadcast)
  deriving DecidableEq

section Routing

variable {V : Type} [DecidableEq V]

/-- The event is about the bot joining or leaving. -/
def aboutBot (botID ev : String) (data : EventData V) : Prop :=
  (ev = "user_joined" ∨ ev = "user_left") ∧ data.get "user_id" = some (.str botID)

instance (botID ev : String) (data : EventData V) :
    Decidable (aboutBot botID ev data) :=
  inferInstanceAs (Decidable (_ ∧ _))

/-- The end of `publishWebSocketEvent`: the copies for the users of the broadcast, if it
lists any, and else the broadcast itself. -/
def publishToUsers (botID ev : String) (data : EventData V)
    (broadcast : Option WebSocketBroadcast)
    (omitUsers : List String) : List (WsCall V) :=
  match broadcast with
  | none => [.publishWebSocketEvent ev data none]
  | some wsb =>
      if 0 < wsb.userIDs.length then
        (wsb.userIDs.filter fun userID => userID ≠ botID).map fun userID =>
          .publishWebSocketEvent ev data
            (some ({ wsb with userID := userID }.toModel omitUsers))
      else [.publishWebSocketEvent ev data (some (wsb.toModel omitUsers))]

/-- `publishWebSocketEvent` -/
def publishWebSocketEvent (botID ev : String) (data : EventData V)
    (broadcast : Option WebSocketBroadcast) : List (WsCall V) :=
  if aboutBot botID ev data then []
  else
    let channelID := (broadcast.map WebSocketBroadcast.channelID).getD ""
    if botID ≠ "" ∧ channelID ≠ "" then
      let data := data.set "channelID" (.str channelID)
      [.incWebSocketEvent ev, .publishWebSocketEvent ev data (some { userId := botID }),
        .incWebSocketEvent ev] ++ publishToUsers botID ev data broadcast [botID]
    else .incWebSocketEvent ev :: publishToUsers botID ev data broadcast []

end Routing

/-! ## Delivery -/

/-- An authenticated connection to the server. -/
structure Connection where
  id : String
  userID : String
  userID_ne : userID ≠ ""

/-- How the server delivers a broadcast: to a connection, to the connections of a user,
or to the channel's members other than the omitted ones. -/
structure ServerDelivers (isMember : String → String → Bool)
    (delivers : Model.WebsocketBroadcast → Connection → Bool) : Prop where
  toConnection : ∀ b c, b.connectionId ≠ "" →
    (delivers b c = true ↔ c.id = b.connectionId)
  toUser : ∀ b c, b.connectionId = "" → b.userId ≠ "" →
    (delivers b c = true ↔ c.userID = b.userId)
  toChannel : ∀ b c, b.connectionId = "" → b.userId = "" → b.channelId ≠ "" →
    (delivers b c = true ↔ isMember b.channelId c.userID = true ∧
      c.userID ∉ b.omitUsers)

section Delivery

variable {V : Type} (delivers : Model.WebsocketBroadcast → Connection → Bool)
  (c : Connection)

/-- The call makes a copy of the event arrive at the connection. -/
def WsCall.arrives : WsCall V → Bool
  | .incWebSocketEvent _ => false
  | .publishWebSocketEvent _ _ broadcast => broadcast.any fun b => delivers b c

/-- The copies of the event that arrive at the connection. -/
def copies (calls : List (WsCall V)) : Nat := calls.countP (WsCall.arrives delivers c)

@[simp] theorem arrives_inc (ev : String) :
    (WsCall.incWebSocketEvent ev : WsCall V).arrives delivers c = false := rfl

@[simp] theorem arrives_publish (ev : String) (data : EventData V)
    (b : Model.WebsocketBroadcast) :
    (WsCall.publishWebSocketEvent ev data (some b)).arrives delivers c = delivers b c :=
  rfl

@[simp] theorem copies_nil : copies delivers c ([] : List (WsCall V)) = 0 := rfl

@[simp] theorem copies_cons (call : WsCall V) (calls : List (WsCall V)) :
    copies delivers c (call :: calls) =
      (call.arrives delivers c).toNat + copies delivers c calls := by
  unfold copies
  rw [List.countP_cons]
  cases call.arrives delivers c <;> simp [Nat.add_comm]

end Delivery

/-! ## Participants -/

/-- `getUserIDsFromSessions` names a user once. -/
theorem getUserIDsFromSessions_nodup (env : Env) (sessions : Table CallSession.id) :
    (getUserIDsFromSessions env sessions).Nodup :=
  List.nodup_reverse.2 (List.nodup_dedup _)

/-- The user has a session. -/
def IsParticipant (sessions : Table CallSession.id) (userID : String) : Prop :=
  ∃ s ∈ sessions.rows, s.userID = userID

instance (sessions : Table CallSession.id) (userID : String) :
    Decidable (IsParticipant sessions userID) :=
  inferInstanceAs (Decidable (∃ s ∈ sessions.rows, s.userID = userID))

theorem mem_getUserIDsFromSessions {env : Env} {sessions : Table CallSession.id}
    {userID : String} :
    userID ∈ getUserIDsFromSessions env sessions ↔ IsParticipant sessions userID := by
  unfold getUserIDsFromSessions
  rw [List.mem_reverse, List.mem_dedup, List.mem_reverse, List.mem_map]
  constructor
  · rintro ⟨s, hs, hu⟩
    exact ⟨s, (env.iter_perm _).mem_iff.1 hs, hu⟩
  · rintro ⟨s, hs, hu⟩
    exact ⟨s, (env.iter_perm _).mem_iff.2 hs, hu⟩

/-- The broadcast is for the channel's call and its participants, as far as `sessions`
knows them. -/
structure ForParticipants (env : Env) (sessions : Table CallSession.id)
    (wsb : WebSocketBroadcast) :
    Prop where
  channelID : wsb.channelID ≠ ""
  userID : wsb.userID = ""
  connectionID : wsb.connectionID = ""
  userIDs : wsb.userIDs = getUserIDsFromSessions env sessions

theorem CallState.audience_forParticipants (env : Env) (cs : CallState)
    {channelID : String} (h : channelID ≠ "") :
    ForParticipants env cs.sessions (cs.audience env channelID) :=
  ⟨h, rfl, rfl, rfl⟩

/-- Every participant other than the bot and the bot get the event once, and nobody else
does; nobody gets an event about the bot joining or leaving. -/
def Reaches {V : Type} [DecidableEq V]
    (delivers : Model.WebsocketBroadcast → Connection → Bool)
    (botID ev : String) (data : EventData V) (wsb : WebSocketBroadcast)
    (sessions : Table CallSession.id) : Prop :=
  ∀ c : Connection, copies delivers c (publishWebSocketEvent botID ev data (some wsb)) =
    if aboutBot botID ev data then 0
    else if c.userID = botID ∨ IsParticipant sessions c.userID then 1 else 0

/-- Some copy is addressed to nobody in particular, so that it goes to the channel: no
user is left to list, or a session has no user. -/
def Leaks (botID : String) (sessions : Table CallSession.id) : Prop :=
  sessions.rows = [] ∨ botID ≠ "" ∧ IsParticipant sessions ""

instance (botID : String) (sessions : Table CallSession.id) :
    Decidable (Leaks botID sessions) :=
  inferInstanceAs (Decidable (_ ∨ _))

/-! ## Counting copies -/

section Counting

variable {V : Type} [DecidableEq V] {isMember : String → String → Bool}
  {delivers : Model.WebsocketBroadcast → Connection → Bool}
  (hserver : ServerDelivers isMember delivers) {env : Env}
  {sessions : Table CallSession.id} {wsb : WebSocketBroadcast}
  (hwsb : ForParticipants env sessions wsb) (c : Connection)

include hserver in
/-- The copy for the bot. -/
theorem delivers_bot {botID : String} (hbot : botID ≠ "") :
    delivers { userId := botID } c = decide (c.userID = botID) := by
  have h := hserver.toUser { userId := botID } c rfl hbot
  exact Bool.eq_iff_iff.2 (h.trans (decide_eq_true_iff).symm)

include hserver hwsb in
/-- A broadcast for the participants that names no user goes to the channel. -/
theorem delivers_channel (omitUsers : List String) :
    delivers (wsb.toModel omitUsers) c =
      (isMember wsb.channelID c.userID && decide (c.userID ∉ omitUsers)) := by
  have h := hserver.toChannel (wsb.toModel omitUsers) c hwsb.connectionID hwsb.userID
    hwsb.channelID
  refine Bool.eq_iff_iff.2 (h.trans ?_)
  rw [Bool.and_eq_true, decide_eq_true_iff]
  exact Iff.rfl

include hserver hwsb in
/-- The copy for a user, and what becomes of it where the user has no id. -/
theorem delivers_user (omitUsers : List String) (userID : String) :
    delivers ({ wsb with userID := userID }.toModel omitUsers) c =
      (decide (userID = c.userID) || (decide (userID = "") &&
        (isMember wsb.channelID c.userID && decide (c.userID ∉ omitUsers)))) := by
  by_cases hu : userID = ""
  · have hne : userID ≠ c.userID := fun h => c.userID_ne (h.symm.trans hu)
    have hsame : ({ wsb with userID := userID } : WebSocketBroadcast) = wsb := by
      rw [hu, ← hwsb.userID]
    rw [hsame, delivers_channel hserver hwsb c omitUsers]
    simp [hu, c.userID_ne.symm]
  · have h := hserver.toUser ({ wsb with userID := userID }.toModel omitUsers) c
      hwsb.connectionID hu
    have hiff : c.userID = userID ↔ userID = c.userID := ⟨Eq.symm, Eq.symm⟩
    refine Bool.eq_iff_iff.2 (h.trans ?_)
    show c.userID = userID ↔ _
    simp [hu, hiff]

/-- In a list without repetitions, what holds of one entry, and of a second if `b`
does. -/
theorem countP_two {α : Type} [DecidableEq α] {l : List α} (hl : l.Nodup) {x y : α}
    (hne : x ≠ y) (b : Bool) :
      l.countP (fun a => decide (a = x) || (decide (a = y) && b)) =
      (decide (x ∈ l)).toNat + (decide (y ∈ l) && b).toNat := by
  induction l with
  | nil => rfl
  | cons a l ih =>
    have hnotin : a ∉ l := (List.nodup_cons.1 hl).1
    rw [List.countP_cons, ih (List.nodup_cons.1 hl).2]
    by_cases hx : a = x
    · have hy : a ≠ y := fun h => hne (hx.symm.trans h)
      have hxl : x ∉ l := hx ▸ hnotin
      simp [hx, hxl, hne.symm]
      omega
    · by_cases hy : a = y
      · have hyl : y ∉ l := hy ▸ hnotin
        cases b <;> simp [hy, hyl, hne, hne.symm]
      · simp [hx, hy, Ne.symm hx, Ne.symm hy]

omit [DecidableEq V] in
include hserver hwsb in
/-- The copies that `publishToUsers` makes arrive at the connection. -/
theorem copies_publishToUsers (botID ev : String) (data : EventData V)
    (omitUsers : List String) :
    copies delivers c (publishToUsers botID ev data (some wsb) omitUsers) =
      (decide (c.userID ≠ botID ∧ IsParticipant sessions c.userID)).toNat +
        (decide (Leaks botID sessions) &&
          (isMember wsb.channelID c.userID &&
            decide (c.userID ∉ omitUsers))).toNat := by
  have hmem : ∀ userID, userID ∈ wsb.userIDs ↔ IsParticipant sessions userID :=
      fun userID => by
    rw [hwsb.userIDs]
    exact mem_getUserIDsFromSessions
  have hnodup : (wsb.userIDs.filter fun userID => userID ≠ botID).Nodup := by
    rw [hwsb.userIDs]
    exact (getUserIDsFromSessions_nodup env sessions).filter _
  unfold publishToUsers
  by_cases hsome : 0 < wsb.userIDs.length
  · have hrows : sessions.rows ≠ [] := fun h => by
      obtain ⟨userID, hu⟩ := List.exists_mem_of_length_pos hsome
      obtain ⟨s, hs, -⟩ := (hmem userID).1 hu
      rw [h] at hs
      exact absurd hs List.not_mem_nil
    have hleaks : Leaks botID sessions ↔
        "" ∈ wsb.userIDs.filter fun userID => userID ≠ botID := by
      rw [List.mem_filter, hmem, decide_eq_true_iff]
      constructor
      · intro h
        obtain ⟨hbot, hempty⟩ := h.resolve_left hrows
        exact ⟨hempty, hbot.symm⟩
      · intro h
        exact .inr ⟨h.2.symm, h.1⟩
    have hthere : c.userID ∈ wsb.userIDs.filter (fun userID => userID ≠ botID) ↔
        c.userID ≠ botID ∧ IsParticipant sessions c.userID := by
      rw [List.mem_filter, hmem, decide_eq_true_iff]
      exact and_comm
    show copies delivers c (if 0 < wsb.userIDs.length then _ else _) = _
    rw [if_pos hsome, copies, List.countP_map]
    have hcount := countP_two hnodup c.userID_ne
      (isMember wsb.channelID c.userID && decide (c.userID ∉ omitUsers))
    rw [decide_eq_decide.2 hthere, ← decide_eq_decide.2 hleaks] at hcount
    rw [← hcount]
    refine List.countP_congr fun userID _ => ?_
    show delivers _ c = true ↔ _
    rw [delivers_user hserver hwsb c omitUsers userID]
  · have hnone : wsb.userIDs = [] := List.eq_nil_of_length_eq_zero (by omega)
    have hnobody : ∀ userID, ¬IsParticipant sessions userID := fun userID h => by
      have hu := (hmem userID).2 h
      rw [hnone] at hu
      exact absurd hu List.not_mem_nil
    have hrows : sessions.rows = [] := by
      by_contra h
      obtain ⟨s, hs⟩ := List.exists_mem_of_ne_nil _ h
      exact hnobody s.userID ⟨s, hs, rfl⟩
    have hleaks : Leaks botID sessions := .inl hrows
    show copies delivers c (if 0 < wsb.userIDs.length then _ else _) = _
    rw [if_neg hsome, copies_cons, arrives_publish,
      delivers_channel hserver hwsb c omitUsers]
    simp [hleaks, hnobody]

/-- The connection is that of a member of the channel other than the bot. -/
def IsOther (isMember : String → String → Bool) (botID channelID : String)
    (c : Connection) : Bool :=
  isMember channelID c.userID && decide (c.userID ≠ botID)

include hserver hwsb in
/-- The copies of an event for the participants that arrive at a connection: one for the
bot or a participant, and one more where a copy goes to the channel. -/
theorem copies_publishWebSocketEvent (botID ev : String) (data : EventData V) :
    copies delivers c (publishWebSocketEvent botID ev data (some wsb)) =
      if aboutBot botID ev data then 0
      else (decide (c.userID = botID ∨ IsParticipant sessions c.userID)).toNat +
        (decide (Leaks botID sessions) &&
          IsOther isMember botID wsb.channelID c).toNat := by
  unfold publishWebSocketEvent
  by_cases habout : aboutBot botID ev data
  · rw [if_pos habout, if_pos habout, copies_nil]
  rw [if_neg habout, if_neg habout]
  by_cases hbot : botID = ""
  · have hne : c.userID ≠ botID := fun h => c.userID_ne (h.trans hbot)
    show copies delivers c (if botID ≠ "" ∧ wsb.channelID ≠ "" then _ else _) = _
    rw [if_neg fun h => h.1 hbot, copies_cons, arrives_inc,
      copies_publishToUsers hserver hwsb c botID ev data []]
    simp [IsOther, hne]
  · show copies delivers c (if botID ≠ "" ∧ wsb.channelID ≠ "" then _ else _) = _
    rw [if_pos ⟨hbot, hwsb.channelID⟩]
    simp only [List.cons_append, List.nil_append, copies_cons, arrives_inc,
      arrives_publish, delivers_bot hserver c hbot,
      copies_publishToUsers hserver hwsb c]
    by_cases hc : c.userID = botID
    · simp [IsOther, hc]
    · simp [IsOther, hc]

end Counting

/-! ## Exactly the participants -/

/-- **The audience of an event for the participants** is the participants and the bot,
once each, unless a copy goes to the channel and somebody else is there to hear it. -/
theorem audience_iff {V : Type} [DecidableEq V] {isMember : String → String → Bool}
    {delivers : Model.WebsocketBroadcast → Connection → Bool}
    (hserver : ServerDelivers isMember delivers) {env : Env}
    {sessions : Table CallSession.id} {wsb : WebSocketBroadcast}
    (hwsb : ForParticipants env sessions wsb) (botID ev : String) (data : EventData V) :
    Reaches delivers botID ev data wsb sessions ↔
      aboutBot botID ev data ∨ ¬Leaks botID sessions ∨
        ∀ c, IsOther isMember botID wsb.channelID c = false := by
  have hcopies := fun c => copies_publishWebSocketEvent hserver hwsb c botID ev data
  by_cases habout : aboutBot botID ev data
  · refine iff_of_true (fun c => ?_) (.inl habout)
    rw [hcopies c, if_pos habout, if_pos habout]
  have hexact : ∀ c, copies delivers c
      (publishWebSocketEvent botID ev data (some wsb)) =
      (if c.userID = botID ∨ IsParticipant sessions c.userID then 1 else 0) +
        (decide (Leaks botID sessions) &&
          IsOther isMember botID wsb.channelID c).toNat := by
    intro c
    rw [hcopies c, if_neg habout]
    by_cases hthere : c.userID = botID ∨
      IsParticipant sessions c.userID <;> simp [hthere]
  constructor
  · intro h
    by_cases hleaks : Leaks botID sessions
    · refine .inr (.inr fun c => ?_)
      have hc := h c
      rw [if_neg habout, hexact c] at hc
      simpa [hleaks] using hc
    · exact .inr (.inl hleaks)
  · intro h c
    rw [if_neg habout, hexact c]
    rcases h with h | hleaks | hothers
    · exact absurd h habout
    · simp [hleaks]
    · simp [hothers c]

/-- The server delivers as documented. -/
def mattermostDelivers (isMember : String → String → Bool)
    (b : Model.WebsocketBroadcast) (c : Connection) : Bool :=
  if b.connectionId ≠ "" then c.id = b.connectionId
  else if b.userId ≠ "" then c.userID = b.userId
  else if c.userID ∈ b.omitUsers then false
  else b.channelId = "" || isMember b.channelId c.userID

theorem mattermostDelivers_server (isMember : String → String → Bool) :
    ServerDelivers isMember (mattermostDelivers isMember) where
  toConnection b c h := by simp [mattermostDelivers, h]
  toUser b c h hu := by simp [mattermostDelivers, h, hu]
  toChannel b c h hu hchannel := by
    by_cases hc : c.userID ∈ b.omitUsers <;>
      simp [mattermostDelivers, h, hu, hchannel, hc]

/-- Alice and bob are the members of the channel. -/
def aliceAndBob (_ userID : String) : Bool := userID = "alice" || userID = "bob"

/-- Alice, who is in the call on two sessions, mutes one: she and the bot are told
once. -/
theorem audience_iff_alice :
    Reaches (V := Unit) (mattermostDelivers aliceAndBob) "bot" "user_muted" none
      (CallState.audience (.sample 5)
        ⟨sampleCall, ⟨[sampleSession, { sampleSession with id := "s2" }], by decide⟩,
          none, none, none⟩ "chan")
      ⟨[sampleSession, { sampleSession with id := "s2" }], by decide⟩ :=
  (audience_iff (mattermostDelivers_server aliceAndBob)
    (CallState.audience_forParticipants (.sample 5) _ (by decide)) "bot"
      "user_muted" none).2
    (.inr (.inl (by decide)))

/-- Alice leaves with her video on. -/
def videoOff : EventData Unit := some (Finmap.singleton "userID" (.str "alice"))

/-- Nobody is left in the call of the channel. -/
def nobodyLeft : WebSocketBroadcast :=
  CallState.audience (.sample 5) ⟨sampleCall, .empty, none, none, none⟩ "chan"

/-- The event goes to bob, who is not in the call. -/
theorem audience_of_nobody :
    copies (mattermostDelivers aliceAndBob) ⟨"c2", "bob", by decide⟩
      (publishWebSocketEvent "bot" "user_video_off" videoOff (some nobodyLeft)) = 1 ∧
      ¬Reaches (mattermostDelivers aliceAndBob) "bot" "user_video_off" videoOff
        nobodyLeft .empty := by
  have hbob : copies (mattermostDelivers aliceAndBob) ⟨"c2", "bob", by decide⟩
      (publishWebSocketEvent "bot" "user_video_off" videoOff (some nobodyLeft)) =
      1 := by decide
  refine ⟨hbob, fun h => ?_⟩
  have hnone := h ⟨"c2", "bob", by decide⟩
  rw [hbob] at hnone
  exact absurd hnone (by decide)

/-! ## What a client hears

A client follows the events that `hearing` lets through (`Ports/Webapp`).  They
are those of which `publishWebSocketEvent` makes a copy arrive. -/

/-- The name of an event. -/
def WsEvent.name : WsEvent → String
  | .userJoined _ _ => "user_joined"
  | .userLeft _ _ => "user_left"
  | .userScreenOn _ _ => "user_screen_on"
  | .userScreenOff _ => "user_screen_off"
  | .userVideoOn _ _ => "user_video_on"
  | .userVideoOff _ _ => "user_video_off"
  | .userMuted _ _ => "user_muted"
  | .userUnmuted _ _ => "user_unmuted"
  | .userRaiseHand _ _ _ => "user_raise_hand"
  | .userUnraiseHand _ _ _ => "user_unraise_hand"
  | .callStart _ _ _ _ _ _ _ => "call_start"
  | .callState _ _ => "call_state"
  | .callEnd => "call_end"
  | .callHostChanged _ _ => "call_host_changed"
  | .callJobState _ _ => "call_job_state"
  | .userDismissedNotification _ _ => "user_dismissed_notification"
  | .join _ => "join"
  | .error _ _ => "error"

/-- The user that the data of a join or a leave names under `user_id`. -/
def WsEvent.userID : WsEvent → Option String
  | .userJoined userID _ | .userLeft userID _ => some userID
  | _ => none

theorem WsEvent.hides_iff {V : Type} {botID : String} {ev : WsEvent}
    {data : EventData V} (hdata : ∀ userID, ev.userID = some userID →
      data.get "user_id" = some (.str userID)) :
    aboutBot botID ev.name data ↔ ev.hides botID = true := by
  cases ev with
  | userJoined userID sessionID =>
    simp [aboutBot, name, hides, hdata userID rfl]
  | userLeft userID sessionID =>
    simp [aboutBot, name, hides, hdata userID rfl]
  | _ => simp [aboutBot, name, hides]

section Hearing

variable {V : Type} [DecidableEq V] {isMember : String → String → Bool}
  {delivers : Model.WebsocketBroadcast → Connection → Bool} {c : Connection}

omit [DecidableEq V] in
theorem copies_pos_iff {calls : List (WsCall V)} :
    0 < copies delivers c calls ↔ ∃ call ∈ calls, call.arrives delivers c = true :=
  List.countP_pos_iff

omit [DecidableEq V] in
theorem copies_singleton {ev : String} {data : EventData V}
    {b : Model.WebsocketBroadcast} :
    0 < copies delivers c [.publishWebSocketEvent ev data (some b)] ↔
    delivers b c = true := by
  rw [copies_pos_iff]
  simp

/-- A broadcast that a handler makes: it names a channel, a user or a connection, and
lists users by their ids. -/
structure WebSocketBroadcast.Addressed (wsb : WebSocketBroadcast) : Prop where
  somewhere : wsb.connectionID = "" → wsb.userID = "" → wsb.channelID ≠ ""
  users : wsb.userIDs ≠ [] → wsb.connectionID = "" ∧ "" ∉ wsb.userIDs

/-- **What a client hears.** A member of the channel other than the bot gets a copy of
an event exactly if the event is not hidden and its broadcast reaches the connection. -/
theorem hears_iff_copies (hserver : ServerDelivers isMember delivers)
    {wsb : WebSocketBroadcast} (hwsb : wsb.Addressed) {botID : String}
    (hc : c.userID ≠ botID) (hmember : isMember wsb.channelID c.userID = true)
    {ev : WsEvent} {data : EventData V}
    (hdata : ∀ userID, ev.userID = some userID →
      data.get "user_id" = some (.str userID)) :
    0 < copies delivers c (publishWebSocketEvent botID ev.name data (some wsb)) ↔
      ev.hides botID = false ∧ wsb.reaches c.userID c.id = true := by
  have hsent : ∀ (data : EventData V) (omitUsers : List String), c.userID ∉ omitUsers →
      (0 < copies delivers c (publishToUsers botID ev.name data (some wsb) omitUsers) ↔
        wsb.reaches c.userID c.id = true) := by
    intro data omitUsers homit
    unfold publishToUsers WebSocketBroadcast.reaches
    by_cases hids : wsb.userIDs = []
    · have hnone : ¬0 < wsb.userIDs.length := by rw [hids]; exact Nat.lt_irrefl 0
      show 0 < copies delivers c (if 0 < wsb.userIDs.length then _ else _) ↔ _
      rw [if_neg hnone, if_neg (not_not.2 hids), copies_singleton]
      by_cases hconn : wsb.connectionID = ""
      · by_cases huser : wsb.userID = ""
        · rw [hserver.toChannel _ c hconn huser (hwsb.somewhere hconn huser)]
          simpa [hconn, huser, WebSocketBroadcast.toModel, hmember] using homit
        · rw [hserver.toUser _ c hconn huser]
          simp [hconn, huser, WebSocketBroadcast.toModel, eq_comm]
      · rw [hserver.toConnection _ c hconn]
        simp [hconn, WebSocketBroadcast.toModel, eq_comm]
    · have hsome : 0 < wsb.userIDs.length := List.length_pos_iff.2 hids
      obtain ⟨hconn, hnamed⟩ := hwsb.users hids
      show 0 < copies delivers c (if 0 < wsb.userIDs.length then _ else _) ↔ _
      rw [if_pos hsome, if_pos hids, copies_pos_iff, decide_eq_true_iff]
      constructor
      · rintro ⟨call, hcall, harrives⟩
        obtain ⟨userID, hu, rfl⟩ := List.mem_map.1 hcall
        have hin := (List.mem_filter.1 hu).1
        have hne : userID ≠ "" := fun h => hnamed (h ▸ hin)
        have heq := (hserver.toUser _ c hconn hne).1 harrives
        rwa [heq]
      · intro hin
        have hne : c.userID ≠ "" := c.userID_ne
        refine ⟨_, List.mem_map.2
          ⟨c.userID, List.mem_filter.2 ⟨hin, by simp [hc]⟩, rfl⟩, ?_⟩
        exact (hserver.toUser _ c hconn hne).2 rfl
  unfold publishWebSocketEvent
  by_cases habout : aboutBot botID ev.name data
  · rw [if_pos habout, copies_nil, (WsEvent.hides_iff hdata).1 habout]
    simp
  have hshown : ev.hides botID = false := by
    rw [← Bool.not_eq_true]
    exact fun h => habout ((WsEvent.hides_iff hdata).2 h)
  rw [if_neg habout, hshown]
  by_cases hto : botID ≠ "" ∧ wsb.channelID ≠ ""
  · show 0 < copies delivers c (if botID ≠ "" ∧ wsb.channelID ≠ "" then _ else _) ↔ _
    rw [if_pos hto]
    have hnot : decide (c.userID = botID) = false := decide_eq_false hc
    simp only [List.cons_append, List.nil_append, copies_cons, arrives_inc,
      arrives_publish, delivers_bot hserver c hto.1, hnot, Bool.toNat_false,
      Nat.zero_add, true_and]
    exact hsent _ [botID] (by simpa using hc)
  · show 0 < copies delivers c (if botID ≠ "" ∧ wsb.channelID ≠ "" then _ else _) ↔ _
    rw [if_neg hto, copies_cons, arrives_inc]
    simpa using hsent data [] (by simp)

end Hearing

end CallsPlugin.Ports
