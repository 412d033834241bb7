import CallsPlugin.Verified.JsonText
import CallsPlugin.Ports.JoinAtomic
import CallsPlugin.Ports.Handlers
import CallsPlugin.Ports.Reconnect

/-!
# Relaying client messages (`server/websocket.go`, `server/plugin.go`,
`server/client_message.go`)

The RTC server of a call runs on one node.  A message that it must be told of is sent to
it if the client's connection is on that node; elsewhere it is relayed by a cluster
message, whose payload is embedded in JSON.  What one message does is followed on both
ways: to the RTC server, to the store and to the clients.
-/

namespace CallsPlugin.Ports

open CallsPlugin.Verified CallsPlugin.Verified.JsonText
open CallsPlugin.Ports.Public CallsPlugin.Ports.Db

/-! ## Messages -/

/-- The types of client messages that the RTC server is told of. -/
inductive ClientMessageType where
  | sdp
  | ice
  | mute
  | unmute
  | screenOn
  | screenOff
  | videoOn
  | videoOff
  deriving DecidableEq, Repr

/-- `clientMessage` -/
structure ClientMessage where
  type : ClientMessageType
  data : Bytes
  deriving DecidableEq, Repr

/-- Messages of the other types are handed on without a payload. -/
def ClientMessageType.hasData : ClientMessageType → Bool
  | .sdp | .ice | .screenOn | .videoOn => true
  | _ => false

/-- The message `WebSocketMessageHasBeenPosted` makes of what a client posts; the data
of an `sdp` message has been unpacked. -/
def postedMessage (type : ClientMessageType) (data : Bytes) : ClientMessage :=
  ⟨type, if type.hasData then data else []⟩

/-- `clusterMessage`, as far as it relays a client message. -/
structure RelayMessage where
  connID : String
  userID : String
  channelID : String
  senderID : String
  clientMessage : ClientMessage
  deriving DecidableEq, Repr

/-- `clusterMessage.ToJSON`: an empty payload is left out, any other is embedded.  The
texts of the message are its fields. -/
def RelayMessage.toJSON (msg : RelayMessage) : Except String RelayMessage :=
  if msg.clientMessage.data = [] then .ok msg
  else
    match valueWithin maxNestingDepth msg.clientMessage.data with
    | none => .error "json: error calling MarshalJSON for type json.RawMessage"
    | some _ =>
        .ok { msg with clientMessage :=
          { msg.clientMessage with data := compact msg.clientMessage.data } }

/-- `clusterMessage.FromJSON`: the payload lies two objects deep in the text. -/
def RelayMessage.fromJSON (msg : RelayMessage) : Except String RelayMessage :=
  if msg.clientMessage.data = [] then .ok msg
  else
    match valueWithin (maxNestingDepth - 2) msg.clientMessage.data with
    | none => .error "exceeded max depth"
    | some _ => .ok msg

/-- The types of the cluster messages that relay. -/
inductive RelayType where
  | signaling
  | userState
  deriving DecidableEq, Repr

/-- `rtc.MessageType` -/
inductive RtcMessageType where
  | sdpMessage
  | iceMessage
  | muteMessage
  | unmuteMessage
  | screenOnMessage
  | screenOffMessage
  | videoOnMessage
  | videoOffMessage
  deriving DecidableEq, Repr

/-- The payload of a message as a JSON value, if it is one. -/
inductive Payload where
  | none
  | json (value : List Lexeme)
  | other (text : Bytes)
  deriving DecidableEq, Repr

def payloadOf (data : Bytes) : Payload :=
  if data = [] then .none
  else
    match lexemes data with
    | some value => .json value
    | none => .other data

/-- `rtc.Message` as the RTC server reads it. -/
structure RtcMessage where
  sessionID : String
  type : RtcMessageType
  payload : Payload
  deriving DecidableEq, Repr

/-! ## Handling a message -/

/-- What a message does: the rows, what the RTC server was sent and the events, in
order. -/
structure World where
  store : Store
  rtc : List RtcMessage
  published : List (WsEvent × WebSocketBroadcast)

/-- What the handling of a message meets: the node it is on and the node that handles
the RTC of the call, with its sessions; the session, and the answers of the RTC server,
of the lock and of the database. -/
structure Handling where
  nodeID : String
  handlerID : String
  handler : Node
  iter : List Slot → List Slot
  allowScreenSharing : Option Bool
  env : Env
  us : UserSession
  channelID : String
  send : RtcMessage → Except String Unit
  locks : Bool
  fails : StoreOp → Bool

/-- What a step of the handling does, and its error. -/
abbrev Effect := World → Except String Unit × World

/-- Go on with `g` unless the function has returned. -/
def Effect.andThen (f g : Effect) : Effect := fun w =>
  match f w with
  | (.error e, w) => (.error e, w)
  | (.ok _, w) => g w

namespace Handling

variable (h : Handling)

/-- Operations, and the events they publish. -/
def exec (w : Store × List (WsEvent × WebSocketBroadcast)) (o : Op) :
    o.Resp × Store × List (WsEvent × WebSocketBroadcast) :=
  ((failing h.fails w.1 o).1, (failing h.fails w.1 o).2,
    match o with
    | .publish ev broadcast => w.2 ++ [(ev, broadcast)]
    | _ => w.2)

/-- Run code of a handler. -/
def run {α : Type} (c : Body α) (w : World) : α × World :=
  let res := c.run h.exec (w.store, w.published)
  (res.1, { w with store := res.2.1, published := res.2.2 })

/-- `sendRTCMessage` -/
def sendRTCMessage (sessionID : String) (type : RtcMessageType) (data : Bytes) :
    Effect := fun w =>
  (h.send ⟨sessionID, type, payloadOf data⟩,
    { w with rtc := w.rtc ++ [⟨sessionID, type, payloadOf data⟩] })

/-- The message for the RTC server that a relayed message becomes. -/
def relayedType : RelayType → ClientMessageType → Option RtcMessageType
  | .signaling, .sdp => some .sdpMessage
  | .signaling, .ice => some .iceMessage
  | .signaling, _ => none
  | .userState, .mute => some .muteMessage
  | .userState, .unmute => some .unmuteMessage
  | .userState, .screenOn => some .screenOnMessage
  | .userState, .screenOff => some .screenOffMessage
  | .userState, .videoOn => some .videoOnMessage
  | .userState, .videoOff => some .videoOffMessage
  | .userState, _ => none

/-- `handleEvent` of a message that relays, on the node that handles the RTC. -/
def handleEvent (type : RelayType) (ev : RelayMessage) : Effect := fun w =>
  match ev.fromJSON with
  | .error e => (.error e, w)
  | .ok msg =>
      match h.handler.getSessionByOriginalID h.iter msg.connID with
      | none => (.error "session doesn't exist", w)
      | some us =>
          match relayedType type msg.clientMessage.type with
          | none => (.error "unexpected client message type", w)
          | some msgType =>
              h.sendRTCMessage us.originalConnID msgType msg.clientMessage.data w

/-- `sendClusterMessage`; the message is delivered, and an error of its handling is
logged there. -/
def sendClusterMessage (type : RelayType) (msg : RelayMessage) : Effect := fun w =>
  match msg.toJSON with
  | .error e => (.error ("failed to encode to JSON: " ++ e), w)
  | .ok ev => (.ok (), (h.handleEvent type ev w).2)

/-- Relay the message. -/
def relay (type : RelayType) (msg : ClientMessage) : Effect :=
  h.sendClusterMessage type ⟨h.us.originalConnID, h.us.userID, h.channelID,
    h.nodeID, msg⟩

/-- Send the message to the RTC server of this node. -/
def sendLocal (type : RtcMessageType) (msg : ClientMessage) : Effect :=
  h.sendRTCMessage h.us.originalConnID type msg.data

/-- Relay the message or send it, whose error is returned. -/
def tell (relayType : RelayType) (type : RtcMessageType) (msg : ClientMessage) :
    Effect := fun w =>
  if h.handlerID ≠ h.nodeID then h.relay relayType msg w
  else
    match h.sendLocal type msg w with
    | (.error e, w) => (.error ("failed to send RTC message: " ++ e), w)
    | (.ok _, w) => (.ok (), w)

/-- Relay the message, or send it and log the error. -/
def tellLogged (relayType : RelayType) (type : RtcMessageType) (msg : ClientMessage) :
    Effect :=
  fun w =>
    if h.handlerID ≠ h.nodeID then h.relay relayType msg w
    else (.ok (), (h.sendLocal type msg w).2)

/-- `lockCallReturnState` -/
def lockCallReturnState (w : World) : Except String (Option CallState) :=
  if h.locks then
    match (h.run (getCallState h.channelID) w).1 with
    | .error e => .error ("failed to lock call: failed to get call state: " ++ e)
    | .ok state => .ok state
  else .error "failed to lock call: failed to create call lock: failed to lock"

/-- The switch of the session row, under the lock. -/
def switch (msg : SessionMessage) : Effect := fun w =>
  match h.lockCallReturnState w with
  | .error e => (.error e, w)
  | .ok state => h.run (sessionMessage h.env h.us h.channelID msg state) w

/-- The checks and the write of `handleClientMessageTypeScreen`: the state it goes on
with. -/
def screenStored (turnOn : Bool) : Option CallState → Body (Except String CallState)
  | none => .ret (.error "no call ongoing")
  | some state =>
      let sharing := state.call.props.screenSharingSessionID
      if turnOn ∧ sharing ≠ "" then
        .ret (.error
          ("cannot start screen sharing, someone else is sharing already: connID=" ++
          sharing))
      else if ¬ turnOn ∧ sharing ≠ h.us.originalConnID then
        .ret (.error
          ("cannot stop screen sharing, someone else is sharing already: connID=" ++
          sharing))
      else do
        let state := { state with
          call :=
            if turnOn then shareScreen h.env state.call h.us.originalConnID
            else unshareScreen h.env state.call }
        match ← updateCallOf state with
        | .error e => return .error e
        | .ok _ => return .ok state

/-- The event at the end of it. -/
def screenPublished (turnOn : Bool) (state : CallState) : Body Unit :=
  publish
    (if turnOn then .userScreenOn h.us.userID h.us.originalConnID
    else .userScreenOff (some (h.us.userID, h.us.originalConnID)))
    (state.audience h.env h.channelID)

/-- `handleClientMessageTypeScreen` -/
def handleClientMessageTypeScreen (turnOn : Bool) (msg : ClientMessage) :
    Effect := fun w =>
  if h.allowScreenSharing ≠ some true then (.error "screen sharing is not allowed", w)
  else
    match h.lockCallReturnState w with
    | .error e => (.error e, w)
    | .ok state =>
        match h.run (h.screenStored turnOn state) w with
        | (.error e, w) => (.error e, w)
        | (.ok state, w) =>
            (h.tellLogged .userState
              (if turnOn then .screenOnMessage else .screenOffMessage) msg).andThen
              (fun w => (.ok (), (h.run (h.screenPublished turnOn state) w).2)) w

/-- `handleClientMsg` -/
def handleClientMsg (msg : ClientMessage) : Effect :=
  match msg.type with
  | .sdp => h.tell .signaling .sdpMessage msg
  | .ice => h.tell .signaling .iceMessage msg
  | .mute => (h.tell .userState .muteMessage msg).andThen (h.switch .mute)
  | .unmute => (h.tell .userState .unmuteMessage msg).andThen (h.switch .unmute)
  | .screenOn => h.handleClientMessageTypeScreen true msg
  | .screenOff => h.handleClientMessageTypeScreen false msg
  | .videoOn => (h.tell .userState .videoOnMessage msg).andThen (h.switch .videoOn)
  | .videoOff => (h.tell .userState .videoOffMessage msg).andThen (h.switch .videoOff)

/-! ## When both ways agree -/

/-- The same on the node that handles the RTC. -/
def here : Handling := { h with nodeID := h.handlerID }

/-- The node that handles the RTC tracks the session. -/
def Tracks : Prop :=
  ∃ us, h.handler.getSessionByOriginalID h.iter h.us.originalConnID = some us ∧
    us.originalConnID = h.us.originalConnID

/-- The payload can be embedded and read again. -/
def Survives (data : Bytes) : Prop :=
  data = [] ∨ ∃ value, valueWithin (maxNestingDepth - 2) data = some value

/-- The RTC server accepts the message. -/
def Accepted (type : RtcMessageType) (data : Bytes) : Prop :=
  h.send ⟨h.us.originalConnID, type, payloadOf data⟩ = .ok ()

/-- The session of the sender is switched. -/
def Switches (msg : SessionMessage) (w : World) : Prop :=
  ∃ st session, h.lockCallReturnState w = .ok (some st) ∧
    st.sessions.find? h.us.originalConnID = some session ∧
    h.fails (.updateCallSession (msg.apply h.env session)) = false ∧
    (msg.apply h.env session).isValid = .ok ()

/-- The screen of the sender is shared. -/
def Shares (w : World) : Prop :=
  h.allowScreenSharing = some true ∧ ∃ st, h.lockCallReturnState w = .ok (some st) ∧
    st.call.props.screenSharingSessionID = "" ∧
    h.fails (.updateCall (shareScreen h.env st.call h.us.originalConnID)) = false ∧
    (shareScreen h.env st.call h.us.originalConnID).isValid = .ok ()

/-- The payload survives where there is one; and where the session is switched, the RTC
server accepts the message. -/
def Agrees (data : Bytes) (w : World) : ClientMessageType → Prop
  | .sdp => Survives data
  | .ice => Survives data
  | .mute => h.Switches .mute w → h.Accepted .muteMessage []
  | .unmute => h.Switches .unmute w → h.Accepted .unmuteMessage []
  | .screenOn => h.Shares w → Survives data
  | .screenOff => True
  | .videoOn =>
      Survives data ∧ (h.Switches .videoOn w → h.Accepted .videoOnMessage data)
  | .videoOff => h.Switches .videoOff w → h.Accepted .videoOffMessage []

variable {h} {data : Bytes} {w : World} {msg : ClientMessage} {relayType : RelayType}
  {type : RtcMessageType}

/-- The world after the RTC server was sent a message for the session. -/
def told (h : Handling) (type : RtcMessageType) (data : Bytes) (w : World) : World :=
  { w with rtc := w.rtc ++ [⟨h.us.originalConnID, type, payloadOf data⟩] }

theorem told_rtc_ne : (h.told type data w).rtc ≠ w.rtc := by
  intro he
  have hlen := congrArg List.length he
  simp [told] at hlen

theorem valueWithin_eq_some {depth : Nat} {value : List Lexeme} :
    valueWithin depth data = some value ↔
      lexemes data = some value ∧ nestingFrom 0 value ≤ depth := by
  simp [valueWithin, Option.filter_eq_some_iff]

theorem ne_nil_of_lexemes {value : List Lexeme} (hl : lexemes data = some value) :
    data ≠ [] := by
  intro he
  rw [he] at hl
  cases hl

/-- The compact text of a value is read as the same payload. -/
theorem payloadOf_compact {value : List Lexeme} (hl : lexemes data = some value) :
    payloadOf (compact data) = payloadOf data := by
  have hl' := lexemes_compact hl
  unfold payloadOf
  rw [if_neg (ne_nil_of_lexemes hl), if_neg (ne_nil_of_lexemes hl'), hl, hl']

/-- The handling of a relayed message, once it has been read. -/
theorem handleEvent_of_read {ev : RelayMessage} (htracks : h.Tracks)
    (hread : ev.fromJSON = .ok ev) (hconn : ev.connID = h.us.originalConnID)
    (htype : relayedType relayType ev.clientMessage.type = some type) :
    (h.handleEvent relayType ev w).2 = h.told type ev.clientMessage.data w := by
  obtain ⟨us, hus, ho⟩ := htracks
  simp only [handleEvent, hread, hconn, hus, htype, sendRTCMessage, ho, told]

/-- A payload that survives reaches the RTC server with its value. -/
theorem relay_of_survives (htracks : h.Tracks) (hs : Survives msg.data)
    (htype : relayedType relayType msg.type = some type) :
    h.relay relayType msg w = (.ok (), h.told type msg.data w) := by
  by_cases hnil : msg.data = []
  · have hread : (⟨h.us.originalConnID, h.us.userID, h.channelID, h.nodeID, msg⟩ :
        RelayMessage).fromJSON =
        .ok ⟨h.us.originalConnID, h.us.userID, h.channelID, h.nodeID, msg⟩ :=
      if_pos hnil
    simp only [relay, sendClusterMessage, RelayMessage.toJSON, hnil, if_true]
    rw [handleEvent_of_read htracks hread rfl htype]
    rw [hnil]
  · obtain ⟨value, hvalue⟩ := hs.resolve_left hnil
    obtain ⟨hl, hdepth⟩ := valueWithin_eq_some.1 hvalue
    have hl' := lexemes_compact hl
    have hembeds : valueWithin maxNestingDepth msg.data = some value :=
      valueWithin_eq_some.2 ⟨hl, by omega⟩
    have hreads : valueWithin (maxNestingDepth - 2) (compact msg.data) = some value :=
      valueWithin_eq_some.2 ⟨hl', hdepth⟩
    have hread : (⟨h.us.originalConnID, h.us.userID, h.channelID, h.nodeID,
        { msg with data := compact msg.data }⟩ : RelayMessage).fromJSON =
          .ok ⟨h.us.originalConnID, h.us.userID, h.channelID, h.nodeID,
            { msg with data := compact msg.data }⟩ := by
      simp only [RelayMessage.fromJSON, if_neg (ne_nil_of_lexemes hl'), hreads]
    simp only [relay, sendClusterMessage, RelayMessage.toJSON, if_neg hnil, hembeds]
    rw [handleEvent_of_read htracks hread rfl htype]
    simp only [told, payloadOf_compact hl]

/-- A payload that does not survive does not reach it. -/
theorem relay_of_not_survives (hs : ¬ Survives msg.data) :
    (h.relay relayType msg w).2 = w := by
  obtain ⟨hnil, hno⟩ := not_or.1 hs
  simp only [relay, sendClusterMessage, RelayMessage.toJSON, if_neg hnil]
  cases hembeds : valueWithin maxNestingDepth msg.data with
  | none => rfl
  | some value =>
      obtain ⟨hl, -⟩ := valueWithin_eq_some.1 hembeds
      have hl' := lexemes_compact hl
      have hreads : valueWithin (maxNestingDepth - 2) (compact msg.data) = none := by
        refine Option.eq_none_iff_forall_not_mem.2 fun value' hvalue' => ?_
        obtain ⟨hl'', hdepth⟩ := valueWithin_eq_some.1 hvalue'
        rw [hl'] at hl''
        cases hl''
        exact hno ⟨value, valueWithin_eq_some.2 ⟨hl, hdepth⟩⟩
      simp only [handleEvent, RelayMessage.fromJSON, if_neg (ne_nil_of_lexemes hl'),
        hreads]

/-! ### The switches -/

theorem here_switch (m : SessionMessage) : h.here.switch m = h.switch m := rfl

theorem switch_rtc (m : SessionMessage) : (h.switch m w).2.rtc = w.rtc := by
  unfold switch
  split <;> rfl

/-- A store call, and how the handling goes on. -/
theorem run_store {α : Type} (o : StoreOp) (k : Except String o.Result → Body α) :
    h.run (store o >>= k) w = h.run (k (attempt (h.fails o) w.store o).1)
      { w with store := (attempt (h.fails o) w.store o).2 } := rfl

theorem run_ret {α : Type} (a : α) : h.run (.ret a) w = (a, w) := rfl

/-- A write that the store checks, once the database does not fail it. -/
theorem attempt_checked (o : StoreOp) (valid : Except String Unit) {what : String}
    {s s' : Store} {r : o.Result} (hexec : o.exec s = match valid with
      | .error e => (.error (what ++ e), s)
      | .ok _ => (.ok r, s')) :
    (attempt (h.fails o) s o = (.ok r, s') ∧ h.fails o = false ∧ valid = .ok ()) ∨
    ((∃ e, attempt (h.fails o) s o = (.error e, s)) ∧
      ¬ (h.fails o = false ∧ valid = .ok ())) := by
  unfold attempt
  split
  next hf => exact .inr ⟨⟨_, rfl⟩, fun hok => by simp [hf] at hok⟩
  next hf =>
    rw [hexec]
    cases valid with
    | error e => exact .inr ⟨⟨_, rfl⟩, fun hok => nomatch hok.2⟩
    | ok _ => exact .inl ⟨rfl, by simpa using hf, rfl⟩

/-- The switch of a session that cannot be switched does nothing; any other is
announced. -/
theorem switch_eq_iff (m : SessionMessage) :
    (h.switch m w).2 = w ↔ ¬ h.Switches m w := by
  unfold switch Switches
  cases hlock : h.lockCallReturnState w with
  | error e =>
      refine iff_of_true rfl ?_
      rintro ⟨_, _, he, _⟩
      cases he
  | ok state =>
      cases state with
      | none =>
          refine iff_of_true rfl ?_
          rintro ⟨_, _, he, _⟩
          cases he
      | some st =>
          cases hfind : st.sessions.find? h.us.originalConnID with
          | none =>
              have hrun : (h.run (sessionMessage h.env h.us h.channelID m (some st))
                  w).2 = w := by
                simp only [sessionMessage, hfind, run_ret]
              refine iff_of_true hrun ?_
              rintro ⟨st', session, he, hs, _⟩
              cases he
              rw [hfind] at hs
              cases hs
          | some session =>
              simp only [sessionMessage, hfind]
              rw [run_store]
              rcases attempt_checked (h := h)
                (.updateCallSession (m.apply h.env session))
                (m.apply h.env session).isValid (s := w.store) rfl with
                  ⟨hup, hok⟩ | ⟨⟨e, hup⟩, hno⟩
              · rw [hup]
                refine iff_of_false (fun he => ?_)
                  (not_not.2 ⟨st, session, rfl, hfind, hok⟩)
                have hlen : (w.published ++ [(m.event h.us (m.apply h.env session),
                    st.audience h.env h.channelID)]).length = w.published.length :=
                  congrArg (fun w => w.published.length) he
                rw [List.length_append, List.length_singleton] at hlen
                omega
              · rw [hup]
                refine iff_of_true rfl ?_
                rintro ⟨st', session', he, hs, hok⟩
                cases he
                rw [hfind] at hs
                cases hs
                exact hno hok

/-! ### Messages that are told first -/

theorem here_tell (h : Handling) (relayType : RelayType) (type : RtcMessageType)
    (msg : ClientMessage) (w : World) :
    (h.here.tell relayType type msg w).2 = h.told type msg.data w ∧
      ((h.here.tell relayType type msg w).1 = .ok () ↔ h.Accepted type msg.data) := by
  have hlocal : ¬ h.here.handlerID ≠ h.here.nodeID := fun hne => hne rfl
  simp only [tell, if_neg hlocal, Accepted]
  have hsend : h.here.sendLocal type msg w =
      (h.send ⟨h.us.originalConnID, type, payloadOf msg.data⟩,
        h.told type msg.data w) := rfl
  rw [hsend]
  cases h.send ⟨h.us.originalConnID, type, payloadOf msg.data⟩ with
  | error e => exact ⟨rfl, by simp⟩
  | ok _ => exact ⟨rfl, by simp⟩

theorem tell_of_relays (hrelays : h.nodeID ≠ h.handlerID) :
    h.tell relayType type msg w = h.relay relayType msg w := if_pos hrelays.symm

/-- A signal. -/
theorem signal_agrees_iff (htracks : h.Tracks) (hrelays : h.nodeID ≠ h.handlerID)
    (htype : relayedType relayType msg.type = some type) :
    (h.here.tell relayType type msg w).2 = (h.tell relayType type msg w).2 ↔
      Survives msg.data := by
  rw [(here_tell h relayType type msg w).1, tell_of_relays hrelays]
  by_cases hs : Survives msg.data
  · rw [relay_of_survives htracks hs htype]
    exact iff_of_true rfl hs
  · rw [relay_of_not_survives hs]
    exact iff_of_false (fun he => told_rtc_ne (congrArg World.rtc he)) hs

theorem switches_told (m : SessionMessage) : h.Switches m (h.told type data w) ↔
    h.Switches m w :=
  Iff.rfl

/-- The world after a message that is told first and then switches the session. -/
theorem andThen_switch (f : Effect) (m : SessionMessage) :
    (f.andThen (h.switch m) w).2 =
    if (f w).1 = .ok () then (h.switch m (f w).2).2 else (f w).2 := by
  unfold Effect.andThen
  obtain ⟨res, w'⟩ := f w
  cases res with
  | error e => exact (if_neg fun he => nomatch he).symm
  | ok _ => exact (if_pos rfl).symm

/-- A switch. -/
theorem switch_agrees_iff (htracks : h.Tracks) (hrelays : h.nodeID ≠ h.handlerID)
    (htype : relayedType relayType msg.type = some type) (m : SessionMessage) :
    ((h.here.tell relayType type msg).andThen (h.here.switch m) w).2 =
        ((h.tell relayType type msg).andThen (h.switch m) w).2 ↔
      Survives msg.data ∧ (h.Switches m w → h.Accepted type msg.data) := by
  obtain ⟨hworld, hres⟩ := here_tell h relayType type msg w
  rw [here_switch, andThen_switch, andThen_switch, hworld, tell_of_relays hrelays]
  by_cases hs : Survives msg.data
  · rw [relay_of_survives htracks hs htype]
    simp only [if_true]
    by_cases hok : h.Accepted type msg.data
    · rw [if_pos (hres.2 hok)]
      exact iff_of_true rfl ⟨hs, fun _ => hok⟩
    · rw [if_neg fun he => hok (hres.1 he), eq_comm, switch_eq_iff, switches_told]
      exact ⟨fun hno => ⟨hs, fun hm => absurd hm hno⟩, fun hm hsw => hok (hm.2 hsw)⟩
  · -- the RTC server was told on one way only
    have hrtc : (if (h.relay relayType msg w).1 = .ok () then
        (h.switch m (h.relay relayType msg w).2).2
            else (h.relay relayType msg w).2).rtc = w.rtc := by
      rw [relay_of_not_survives hs]
      split
      · exact switch_rtc m
      · rfl
    refine iff_of_false (fun he => ?_) fun hm => hs hm.1
    have hsame := congrArg World.rtc he
    rw [hrtc] at hsame
    split at hsame
    · rw [switch_rtc] at hsame
      exact told_rtc_ne hsame
    · exact told_rtc_ne hsame

/-! ### Screen sharing -/

/-- The sharing of a screen goes on once it is stored. -/
theorem screenStored_ok_iff {state : Option CallState} :
    (∃ st, (h.run (h.screenStored true state) w).1 = .ok st) ↔
      ∃ st, state = some st ∧ st.call.props.screenSharingSessionID = "" ∧
        h.fails (.updateCall (shareScreen h.env st.call h.us.originalConnID)) = false ∧
        (shareScreen h.env st.call h.us.originalConnID).isValid = .ok () := by
  cases state with
  | none =>
      exact iff_of_false (fun ⟨st, he⟩ => nomatch he) fun ⟨st, he, _⟩ => nomatch he
  | some st =>
      by_cases hsharing : st.call.props.screenSharingSessionID = ""
      · have hrun : h.screenStored true (some st) = (do
            match ← updateCallOf { st with
              call := shareScreen h.env st.call h.us.originalConnID } with
            | .error e => return .error e
            | .ok _ => return .ok { st with
                call := shareScreen h.env st.call h.us.originalConnID }) := by
          simp [screenStored, hsharing]
        rw [hrun]
        unfold updateCallOf
        rw [Code.bind_assoc, run_store]
        rcases attempt_checked (h := h)
          (.updateCall (shareScreen h.env st.call h.us.originalConnID))
          (shareScreen h.env st.call h.us.originalConnID).isValid
          (s := w.store) rfl with
          ⟨hup, hok⟩ | ⟨⟨e, hup⟩, hno⟩
        · rw [hup]
          exact iff_of_true ⟨_, rfl⟩ ⟨st, rfl, hsharing, hok⟩
        · rw [hup]
          refine iff_of_false (fun ⟨st', he⟩ => nomatch he) fun ⟨st', he, _, hok⟩ => ?_
          cases he
          exact hno hok
      · have hrun : ∃ e, h.screenStored true (some st) = .ret (.error e) := by
          refine ⟨"cannot start screen sharing, someone else is sharing already: connID=" ++
            st.call.props.screenSharingSessionID, ?_⟩
          simp [screenStored, hsharing]
        obtain ⟨e, hrun⟩ := hrun
        rw [hrun]
        refine iff_of_false (fun ⟨st', he⟩ => nomatch he) fun ⟨st', he, hno, _⟩ => ?_
        cases he
        exact hsharing hno

/-- The state with which the handling of a screen message tells the RTC server. -/
def Stored (h : Handling) (turnOn : Bool) (w : World) : Prop :=
  h.allowScreenSharing = some true ∧ ∃ state st, h.lockCallReturnState w = .ok state ∧
    (h.run (h.screenStored turnOn state) w).1 = .ok st

theorem stored_iff_shares : h.Stored true w ↔ h.Shares w := by
  refine and_congr_right fun _ => ?_
  constructor
  · rintro ⟨state, st, hlock, hst⟩
    obtain ⟨st', rfl, hrest⟩ := screenStored_ok_iff.1 ⟨st, hst⟩
    exact ⟨st', hlock, hrest⟩
  · rintro ⟨st, hlock, hrest⟩
    obtain ⟨st', hst'⟩ := screenStored_ok_iff.2 ⟨st, rfl, hrest⟩
    exact ⟨some st, st', hlock, hst'⟩

/-- The end of a screen message, once it is stored. -/
def screenTold (h : Handling) (turnOn : Bool) (msg : ClientMessage) (st : CallState) :
    Effect :=
  (h.tellLogged .userState (if turnOn then .screenOnMessage else .screenOffMessage)
    msg).andThen fun w => (.ok (), (h.run (h.screenPublished turnOn st) w).2)

theorem screenTold_agrees_iff (htracks : h.Tracks) (hrelays : h.nodeID ≠ h.handlerID)
    (turnOn : Bool) (htype : msg.type = if turnOn then .screenOn else .screenOff)
    (st : CallState) :
    (h.here.screenTold turnOn msg st w).2 = (h.screenTold turnOn msg st w).2 ↔
      Survives msg.data := by
  have hkind : relayedType .userState msg.type =
      some (if turnOn then .screenOnMessage else .screenOffMessage) := by
    rw [htype]
    cases turnOn <;> rfl
  have hlocal : h.here.tellLogged .userState
        (if turnOn then .screenOnMessage else .screenOffMessage) msg w =
      (.ok (), h.told (if turnOn then .screenOnMessage else .screenOffMessage)
        msg.data w) :=
    if_neg fun hne => hne rfl
  have hremote : h.tellLogged .userState
        (if turnOn then .screenOnMessage else .screenOffMessage) msg w =
      h.relay .userState msg w := if_pos hrelays.symm
  unfold screenTold Effect.andThen
  dsimp only
  rw [hlocal, hremote]
  by_cases hs : Survives msg.data
  · rw [relay_of_survives htracks hs hkind]
    exact iff_of_true rfl hs
  · have hworld : (h.relay .userState msg w).2 = w := relay_of_not_survives hs
    cases hrelay : h.relay .userState msg w with
    | mk res w' =>
        rw [hrelay] at hworld
        obtain rfl : w' = w := hworld
        refine iff_of_false (fun he => ?_) hs
        have hrtc := congrArg World.rtc he
        cases res with
        | error e => exact told_rtc_ne hrtc
        | ok _ => exact told_rtc_ne hrtc

/-- A screen message. -/
theorem screen_agrees_iff (htracks : h.Tracks) (hrelays : h.nodeID ≠ h.handlerID)
    (turnOn : Bool) (htype : msg.type = if turnOn then .screenOn else .screenOff) :
    (h.here.handleClientMessageTypeScreen turnOn msg w).2 =
        (h.handleClientMessageTypeScreen turnOn msg w).2 ↔
      (h.Stored turnOn w → Survives msg.data) := by
  by_cases hallow : h.allowScreenSharing = some true
  · have hallow' : h.here.allowScreenSharing = some true := hallow
    cases hlock : h.lockCallReturnState w with
    | error e =>
        have hlock' : h.here.lockCallReturnState w = .error e := hlock
        have hsame : (h.here.handleClientMessageTypeScreen turnOn msg w).2 =
            (h.handleClientMessageTypeScreen turnOn msg w).2 := by
          simp only [handleClientMessageTypeScreen, if_neg (not_not.2 hallow),
            if_neg (not_not.2 hallow'), hlock, hlock']
        refine iff_of_true hsame fun ⟨_, state, st, he, _⟩ => ?_
        rw [hlock] at he
        cases he
    | ok state =>
        have hlock' : h.here.lockCallReturnState w = .ok state := hlock
        cases hstored : h.run (h.screenStored turnOn state) w with
        | mk res w' =>
            have hstored' : h.here.run (h.here.screenStored turnOn state) w =
                (res, w') := hstored
            simp only [handleClientMessageTypeScreen, if_neg (not_not.2 hallow),
              if_neg (not_not.2 hallow'), hlock, hlock', hstored, hstored']
            cases res with
            | error e =>
                refine iff_of_true rfl fun ⟨_, state', st, he, hst⟩ => ?_
                rw [hlock] at he
                cases he
                rw [hstored] at hst
                cases hst
            | ok st =>
                have hyes : h.Stored turnOn w :=
                  ⟨hallow, state, st, hlock, by rw [hstored]⟩
                exact (screenTold_agrees_iff htracks hrelays turnOn htype st).trans
                  ⟨fun hs _ => hs, fun hs => hs hyes⟩
  · have hallow' : ¬ h.here.allowScreenSharing = some true := hallow
    have hsame : (h.here.handleClientMessageTypeScreen turnOn msg w).2 =
        (h.handleClientMessageTypeScreen turnOn msg w).2 := by
      simp only [handleClientMessageTypeScreen, ne_eq, hallow, hallow',
        not_false_eq_true, if_true]
    exact iff_of_true hsame fun hst => absurd hst.1 hallow

/-- **Relaying and sending agree**, for a message on a node that relays: the RTC server
is sent the same, the rows are the same and so are the events, exactly when the payload
survives the relay and, where the session is switched, the RTC server accepts the
message. -/
theorem relay_agrees_iff (htracks : h.Tracks) (hrelays : h.nodeID ≠ h.handlerID)
    (kind : ClientMessageType) (data : Bytes) (w : World) :
    (h.here.handleClientMsg (postedMessage kind data) w).2 =
      (h.handleClientMsg (postedMessage kind data) w).2 ↔ h.Agrees data w kind := by
  cases kind with
  | sdp => exact signal_agrees_iff htracks hrelays rfl
  | ice => exact signal_agrees_iff htracks hrelays rfl
  | mute =>
      exact (switch_agrees_iff htracks hrelays rfl .mute).trans
        (and_iff_right (.inl rfl))
  | unmute =>
      exact (switch_agrees_iff htracks hrelays rfl .unmute).trans
        (and_iff_right (.inl rfl))
  | videoOn => exact switch_agrees_iff htracks hrelays rfl .videoOn
  | videoOff =>
      exact (switch_agrees_iff htracks hrelays rfl .videoOff).trans
        (and_iff_right (.inl rfl))
  | screenOn =>
      refine (screen_agrees_iff htracks hrelays true rfl).trans ?_
      rw [stored_iff_shares]
      exact Iff.rfl
  | screenOff =>
      exact (screen_agrees_iff htracks hrelays false rfl).trans
        (iff_of_true (fun _ => .inl rfl) trivial)

/-! ## Instances -/

/-- A node that keeps alice's session, with a connection of its own. -/
def aliceNode : Node where
  sessions := ⟨[⟨"s1", 0⟩], by decide⟩
  heap _ := newUserSession "alice" "chan" "s1" "call" true
  next := 1
  readers := []

/-- Alice's connection is on another node; the RTC server accepts everything. -/
def aliceRelayed : Handling where
  nodeID := "other"
  handlerID := "node"
  handler := aliceNode
  iter l := l
  allowScreenSharing := some true
  env := .sample 30
  us := ⟨"alice", "s1"⟩
  channelID := "chan"
  send _ := .ok ()
  locks := true
  fails _ := false

/-- The sample call, before the message. -/
def sampleWorld : World := ⟨sampleStore, [], []⟩

theorem aliceRelayed_tracks : aliceRelayed.Tracks :=
  ⟨newUserSession "alice" "chan" "s1" "call" true, rfl, rfl⟩

/-- The text of an empty object. -/
def emptyObject : Bytes := [openBrace, closeBrace]

/-- A screen is shared with a payload that is the text of a value. -/
theorem relay_of_emptyObject :
    (aliceRelayed.here.handleClientMsg (postedMessage .screenOn emptyObject)
      sampleWorld).2 =
      (aliceRelayed.handleClientMsg (postedMessage .screenOn emptyObject)
        sampleWorld).2 := by
  have hvalue : valueWithin (maxNestingDepth - 2) emptyObject =
      some [.char openBrace, .char closeBrace] := by decide
  have hagrees : aliceRelayed.Agrees emptyObject sampleWorld .screenOn :=
    fun _ => .inr ⟨_, hvalue⟩
  exact (relay_agrees_iff aliceRelayed_tracks (by decide) .screenOn emptyObject
    sampleWorld).2 hagrees

/-- A payload that is no text of a value: relayed, the screen is stored as shared, but
neither the RTC server nor anybody else is told.  And where the RTC server refuses a
message, a participant who mutes stays as it was, unless the message is relayed. -/
theorem relay_differs :
    aliceRelayed.Tracks ∧ aliceRelayed.nodeID ≠ aliceRelayed.handlerID ∧
    (aliceRelayed.here.handleClientMsg (postedMessage .screenOn [0x78])
      sampleWorld).2.rtc ≠
      (aliceRelayed.handleClientMsg (postedMessage .screenOn [0x78])
        sampleWorld).2.rtc ∧
    (aliceRelayed.here.handleClientMsg (postedMessage .screenOn [0x78])
      sampleWorld).2.published ≠
      (aliceRelayed.handleClientMsg (postedMessage .screenOn [0x78])
        sampleWorld).2.published ∧
    (aliceRelayed.handleClientMsg (postedMessage .screenOn [0x78])
      sampleWorld).2.store ≠ sampleStore ∧
    ({ aliceRelayed with
        send := fun _ => .error "session not found" }.here.handleClientMsg
        (postedMessage .mute []) sampleWorld).2.published ≠
      ({ aliceRelayed with send := fun _ => .error "session not found" }.handleClientMsg
        (postedMessage .mute []) sampleWorld).2.published :=
  ⟨aliceRelayed_tracks, by decide, by decide, by decide, by decide, by decide⟩

end Handling

end CallsPlugin.Ports
