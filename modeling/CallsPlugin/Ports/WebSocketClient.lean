import CallsPlugin.Verified.Machine

/-!
# The client's socket (`webapp/src/websocket.ts`)

`WebSocketClient` keeps one connection to the server and replaces it when it
is lost.  Its methods are callbacks of the browser: a socket opens, fails,
closes or gets a frame, a timer fires.  The browser runs them one at a time,
and `Browser` is the client with what the browser keeps for it: the sockets
made so far and the pending timers.

The client of a call listens to `open` and answers with a `join` or a
`reconnect` message (`webapp/src/client.ts`); it is part of the callback, since
listeners run at once.  The run ends before `close()`.
-/

namespace CallsPlugin.Ports.Client

open CallsPlugin.Verified

/-! ## Frames -/

/-- A number as the client computes it; adding to a missing field gives `NaN`. -/
inductive Num where
  | int (n : Int)
  | nan
  deriving DecidableEq, Repr

/-- `seq + 1` -/
def addOne : Option Int → Num
  | some n => .int (n + 1)
  | none => .nan

/-- The `event` and `data` of a frame that has both. -/
inductive Event where
  | hello (connectionID : String)
  | other (event : String) (connID : Option String) (data : String)
  deriving DecidableEq, Repr

/-- A frame, decoded.  Only the fields the client reads. -/
structure Msg where
  seq : Option Int
  seqReply : Option Int
  event : Option Event
  deriving DecidableEq, Repr

/-- What a server sends: an event has a sequence number and answers nothing, a reply has
only the number of the request. -/
def Msg.wellFormed (m : Msg) : Bool :=
  if m.seqReply.isSome then m.seq = none && m.event = none else m.seq.isSome

/-- The `data` of a message event. -/
inductive Payload where
  | empty
  | malformed
  | null
  | msg (m : Msg)
  deriving DecidableEq, Repr

/-! ## The client and its browser -/

/-- `WebSocketErrorType` -/
inductive WebSocketErrorType where
  | native
  | join
  | reconnectTimeout
  deriving DecidableEq, Repr

/-- What a client sends. -/
inductive Action where
  | authenticationChallenge
  | ping
  | join
  | reconnect (originalConnID prevConnID : String)
  | other (action : String)
  deriving DecidableEq, Repr

/-- What happens, as far as somebody else sees it: a socket is made, a frame comes in
(`awaited` if it is the pong the client waits for), an event is emitted or a frame
sent. -/
inductive Entry where
  | connecting (connectionID : String) (sequenceNumber : Num)
  | received (m : Msg) (awaited : Bool)
  | open (originalConnID prevConnID : String) (isReconnect : Bool)
  | error (type : WebSocketErrorType)
  | close (code : Nat)
  | event (m : Msg)
  | joined
  | message (data : String)
  | sent (action : Action) (seq : Int)
  deriving DecidableEq, Repr

/-- `WebSocket.readyState` -/
inductive ReadyState where
  | connecting
  | open
  | closing
  | closed
  deriving DecidableEq, Repr

/-- A `WebSocket`, made by `init(isReconnect)`. -/
structure Socket where
  isReconnect : Bool
  readyState : ReadyState
  /-- `onclose` is set -/
  onclose : Bool
  /-- it has had its hello -/
  greeted : Bool
  deriving DecidableEq, Repr

/-- `wsMinReconnectRetryTimeMs` -/
def wsMinReconnectRetryTimeMs : Nat := 1000

/-- `wsReconnectionTimeout` -/
def wsReconnectionTimeout : Nat := 30000

/-- `wsReconnectTimeIncrement` -/
def wsReconnectTimeIncrement : Nat := 500

/-- `WebSocketClient` with its sockets, of which the last one is `ws`, the pending
callbacks of `setTimeout` by their delays, and the log. -/
structure Browser where
  authToken : String
  seqNo : Int := 1
  serverSeqNo : Num := .int 0
  connID : String := ""
  originalConnID : String := ""
  lastDisconnect : Int := 0
  reconnectRetryTime : Nat := wsMinReconnectRetryTimeMs
  closed : Bool := false
  pingInterval : Bool := false
  waitingForPong : Bool := false
  expectedPongSeqNo : Int := 0
  sockets : List Socket := []
  timers : List Nat := []
  log : List Entry := []
  deriving DecidableEq, Repr

namespace Browser

variable (b : Browser)

/-- Something is to be seen. -/
def record (e : Entry) : Browser := { b with log := b.log ++ [e] }

/-- Change the socket `i`. -/
def modify (i : Nat) (f : Socket → Socket) : Browser :=
  { b with sockets := b.sockets.modify i f }

/-- The client's own socket is open. -/
def isOpen : Bool := b.sockets.getLast?.any fun s => s.readyState = .open

/-- `send` -/
def send (action : Action) : Browser :=
  let sent := if b.isOpen then b.record (.sent action b.seqNo) else b
  { sent with seqNo := b.seqNo + 1 }

/-- `emit('open', …)` and the listener of the call client. -/
def emitOpen (isReconnect : Bool) : Browser :=
  (b.record (.open b.originalConnID b.connID isReconnect)).send
    (if isReconnect then .reconnect b.originalConnID b.connID else .join)

/-- `init` -/
def init (isReconnect : Bool) : Browser :=
  if b.closed then b
  else
    let socket : Socket := ⟨isReconnect, .connecting, true, false⟩
    { b with sockets := b.sockets ++ [socket] }.record
        (.connecting b.connID b.serverSeqNo)

/-- `stopPingInterval` -/
def stopPingInterval : Browser :=
  if b.pingInterval then
    { b with pingInterval := false, waitingForPong := false, expectedPongSeqNo := 0 }
  else b

/-- `startPingInterval` -/
def startPingInterval : Browser := { b.stopPingInterval with pingInterval := true }

/-- `ping` -/
def ping : Browser :=
  if b.isOpen then
    { b with waitingForPong := true, expectedPongSeqNo := b.seqNo }.send .ping
  else b

/-- `reconnect`, at the time `now`. -/
def reconnect (now : Int) : Browser :=
  let b := if b.lastDisconnect = 0 then { b with lastDisconnect := now } else b
  if now - b.lastDisconnect ≥ wsReconnectionTimeout then
    { b with closed := true }.record (.error .reconnectTimeout)
  else
    { b with
      timers := b.timers ++ [b.reconnectRetryTime]
      reconnectRetryTime := b.reconnectRetryTime + wsReconnectTimeIncrement }

/-- `closeHandler` -/
def closeHandler (code : Nat) (now : Int) : Browser :=
  let b := b.stopPingInterval.record (.close code)
  if b.closed then b else b.reconnect now

/-- `onopen` of a socket. -/
def onopen (isReconnect : Bool) : Browser :=
  let b := if b.authToken ≠ "" then b.send .authenticationChallenge else b
  let b :=
    if isReconnect then
      { b with
          lastDisconnect :=
            0, reconnectRetryTime := wsMinReconnectRetryTimeMs }.emitOpen true
    else b
  b.startPingInterval.ping

/-- `onmessage` of a socket takes over the connection id of a hello. -/
def takeConnID (m : Msg) (connectionID : String) : Browser :=
  if connectionID ≠ b.connID then
    { b with
      connID := connectionID
      serverSeqNo := .int 0
      seqNo := 1
      originalConnID :=
        if b.originalConnID = "" then connectionID else b.originalConnID }.record
        (.event m)
  else b

/-- `onmessage` of a socket, for a hello. -/
def onhello (isReconnect : Bool) (m : Msg) (connectionID : String) : Browser :=
  let b := b.takeConnID m connectionID
  if isReconnect then b else b.emitOpen false

/-- `onmessage` of a socket, for any other event. -/
def onevent (m : Msg) (event : String) (connID : Option String) (data : String) :
    Browser :=
  if b.connID = "" then b
  else
    let b := b.record (.event m)
    if connID ≠ some b.connID ∧ connID ≠ some b.originalConnID then b
    else if event = "custom_com.mattermost.calls_join" then b.record .joined
    else if event = "custom_com.mattermost.calls_error" then b.record (.error .join)
    else if event = "custom_com.mattermost.calls_signal" then b.record (.message data)
    else b

/-- The frame is the pong the client waits for. -/
def awaits (m : Msg) : Bool := b.waitingForPong && m.seqReply = some b.expectedPongSeqNo

/-- `onmessage` of a socket, for a frame. -/
def onframe (isReconnect : Bool) (m : Msg) : Browser :=
  let awaited := b.awaits m
  let b := b.record (.received m awaited)
  if awaited then { b with waitingForPong := false, expectedPongSeqNo := 0 }
  else
    let b := { b with serverSeqNo := addOne m.seq }
    match m.event with
    | none => b
    | some (.hello connectionID) => b.onhello isReconnect m connectionID
    | some (.other event connID data) => b.onevent m event connID data

/-- `onmessage` of a socket. -/
def onmessage (isReconnect : Bool) : Payload → Browser
  | .msg m => b.onframe isReconnect m
  | .empty | .malformed | .null => b

/-- The callback of `setInterval`. -/
def onPingTimer (now : Int) : Browser :=
  if b.waitingForPong then
    let b := b.modify (b.sockets.length - 1)
      fun s => { s with onclose := false, readyState := .closing }
    b.closeHandler 4000 now
  else b.ping

end Browser

/-- `new WebSocketClient(wsURL, authToken)` -/
def new (authToken : String) : Browser :=
  { authToken := authToken : Browser }.init false

/-! ## Callbacks -/

/-- What the browser does next; `i` tells the socket. -/
inductive Callback where
  | opened (i : Nat)
  | errored (i : Nat)
  | closed (i : Nat) (code : Nat) (now : Int)
  | message (i : Nat) (data : Payload)
  | pingTimer (now : Int)
  | reconnectTimer
  | send (action : String)
  deriving DecidableEq, Repr

namespace Callback

/-- The frame is a hello. -/
def isHello : Payload → Bool
  | .msg ⟨_, _, some (.hello _)⟩ => true
  | _ => false

/-- The frame is one a server sends. -/
def wellFormed : Payload → Bool
  | .msg m => m.wellFormed
  | _ => true

/-- What the browser does when it can: a socket opens once, gets frames while it is open
and closes once. -/
def Possible (b : Browser) : Callback → Prop
  | .opened i => b.sockets[i]?.any (fun s => s.readyState = .connecting) = true
  | .errored i | .closed i _ _ =>
      b.sockets[i]?.any (fun s => s.readyState ≠ .closed) = true
  | .message i data =>
      wellFormed data = true ∧ b.sockets[i]?.any (fun s => s.readyState = .open) = true
  | .pingTimer _ => b.pingInterval = true
  | .reconnectTimer => b.timers ≠ []
  | .send _ => True

instance (b : Browser) (a : Callback) : Decidable (a.Possible b) := by
  cases a <;> unfold Possible <;> infer_instance

/-- The callback runs. -/
def run (b : Browser) : Callback → Browser
  | .opened i =>
      (b.modify i fun s => { s with readyState := .open }).onopen
        (b.sockets[i]?.any Socket.isReconnect)
  | .errored _ => b.record (.error .native)
  | .closed i code now =>
      let b' := b.modify i fun s => { s with readyState := .closed }
      if b.sockets[i]?.any Socket.onclose then b'.closeHandler code now else b'
  | .message i data =>
      (b.modify i fun s => { s with greeted := s.greeted || isHello data }).onmessage
        (b.sockets[i]?.any Socket.isReconnect) data
  | .pingTimer now => b.onPingTimer now
  | .reconnectTimer =>
      let b' := { b with timers := b.timers.tail }
      if b.closed then b' else b'.init true
  | .send action => b.send (.other action)

end Callback

/-- The client in its browser. -/
def machine : Machine Browser Callback := ⟨fun b a => a.Possible b, Callback.run⟩

instance (b : Browser) (a : Callback) : Decidable (machine.Enabled b a) :=
  inferInstanceAs (Decidable (a.Possible b))

/-! ## Callbacks that only send and report -/

/-- An entry that neither opens nor greets. -/
def Entry.plain : Entry → Bool
  | .connecting _ _ | .received _ _ | .open _ _ _ => false
  | _ => true

/-- The ids, the position and the sockets stay, and nothing but plain entries is
written. -/
structure Quiet (b b' : Browser) : Prop where
  connID : b'.connID = b.connID
  originalConnID : b'.originalConnID = b.originalConnID
  serverSeqNo : b'.serverSeqNo = b.serverSeqNo
  sockets : b'.sockets = b.sockets
  log : ∃ es, b'.log = b.log ++ es ∧ ∀ e ∈ es, e.plain = true

namespace Quiet

variable {b b' b'' : Browser}

theorem refl (b : Browser) : Quiet b b :=
  ⟨rfl, rfl, rfl, rfl, [], (List.append_nil _).symm, by simp⟩

theorem trans (h : Quiet b b') (h' : Quiet b' b'') : Quiet b b'' := by
  obtain ⟨es, hlog, hes⟩ := h.log
  obtain ⟨es', hlog', hes'⟩ := h'.log
  refine ⟨h'.connID.trans h.connID, h'.originalConnID.trans h.originalConnID,
    h'.serverSeqNo.trans h.serverSeqNo, h'.sockets.trans h.sockets, es ++ es', ?_, ?_⟩
  · rw [hlog', hlog, List.append_assoc]
  · intro e he
    rcases List.mem_append.1 he with he | he
    · exact hes e he
    · exact hes' e he

theorem record (b : Browser) {e : Entry} (he : e.plain = true) : Quiet b (b.record e) :=
  ⟨rfl, rfl, rfl, rfl, [e], rfl, fun e' he' => by rwa [List.mem_singleton.1 he']⟩

theorem send (b : Browser) (action : Action) : Quiet b (b.send action) := by
  unfold Browser.send
  by_cases hopen : b.isOpen = true
  · rw [if_pos hopen]
    obtain ⟨hconn, horig, hseq, hsockets, hlog⟩ :=
      record b (e := .sent action b.seqNo) rfl
    exact ⟨hconn, horig, hseq, hsockets, hlog⟩
  · rw [if_neg hopen]
    obtain ⟨hconn, horig, hseq, hsockets, hlog⟩ := refl b
    exact ⟨hconn, horig, hseq, hsockets, hlog⟩

theorem stopPingInterval (b : Browser) : Quiet b b.stopPingInterval := by
  unfold Browser.stopPingInterval
  split
  · exact ⟨rfl, rfl, rfl, rfl, [], (List.append_nil _).symm, by simp⟩
  · exact refl b

theorem startPingInterval (b : Browser) : Quiet b b.startPingInterval := by
  obtain ⟨hconn, horig, hseq, hsockets, hlog⟩ := stopPingInterval b
  exact ⟨hconn, horig, hseq, hsockets, hlog⟩

theorem ping (b : Browser) : Quiet b b.ping := by
  unfold Browser.ping
  split
  · obtain ⟨hconn, horig, hseq, hsockets, hlog⟩ :=
      send { b with waitingForPong := true, expectedPongSeqNo := b.seqNo } .ping
    exact ⟨hconn, horig, hseq, hsockets, hlog⟩
  · exact refl b

theorem emitOpen (b : Browser) (isReconnect : Bool) :
    Quiet (b.record (.open b.originalConnID b.connID isReconnect))
      (b.emitOpen isReconnect) :=
  send _ _

theorem reconnect (b : Browser) (now : Int) : Quiet b (b.reconnect now) := by
  have hlast : Quiet b
      (if b.lastDisconnect = 0 then { b with lastDisconnect := now } else b) := by
    split
    · exact ⟨rfl, rfl, rfl, rfl, [], (List.append_nil _).symm, by simp⟩
    · exact refl b
  have hretry : ∀ b' : Browser,
      Quiet b' (if now - b'.lastDisconnect ≥ wsReconnectionTimeout then
      { b' with closed := true }.record (.error .reconnectTimeout)
    else
      { b' with
        timers := b'.timers ++ [b'.reconnectRetryTime]
        reconnectRetryTime := b'.reconnectRetryTime + wsReconnectTimeIncrement }) := by
    intro b'
    split
    · exact ⟨rfl, rfl, rfl, rfl, [.error .reconnectTimeout], rfl, by simp [Entry.plain]⟩
    · exact ⟨rfl, rfl, rfl, rfl, [], (List.append_nil _).symm, by simp⟩
  exact hlast.trans (hretry _)

theorem closeHandler (b : Browser) (code : Nat) (now : Int) :
    Quiet b (b.closeHandler code now) := by
  have hclose : Quiet b (b.stopPingInterval.record (.close code)) :=
    (stopPingInterval b).trans (record _ rfl)
  unfold Browser.closeHandler
  refine hclose.trans ?_
  dsimp only
  split
  · exact refl _
  · exact reconnect _ now

/-- The first socket opens. -/
theorem onopen_first (b : Browser) : Quiet b (b.onopen false) := by
  have hauth :
      Quiet b (if b.authToken ≠ "" then b.send .authenticationChallenge else b) := by
    split
    · exact send b _
    · exact refl b
  exact (hauth.trans (startPingInterval _)).trans (ping _)

/-- A socket opens that replaces another. -/
theorem onopen_replaced (b : Browser) :
    ∃ b₁, Quiet b b₁ ∧
      Quiet (b₁.record (.open b.originalConnID b.connID true)) (b.onopen true) := by
  have hauth :
      Quiet b (if b.authToken ≠ "" then b.send .authenticationChallenge else b) := by
    split
    · exact send b _
    · exact refl b
  generalize hb₀ : (if b.authToken ≠ "" then b.send .authenticationChallenge else b) =
    b₀ at hauth
  have hreset : Quiet b₀
      { b₀ with
          lastDisconnect := 0, reconnectRetryTime := wsMinReconnectRetryTimeMs } :=
    ⟨rfl, rfl, rfl, rfl, [], (List.append_nil _).symm, by simp⟩
  refine ⟨_, hauth.trans hreset, ?_⟩
  unfold Browser.onopen
  rw [hb₀, ← hauth.originalConnID, ← hauth.connID]
  exact ((emitOpen _ true).trans (startPingInterval _)).trans (ping _)

theorem onevent (b : Browser) (m : Msg) (event : String) (connID : Option String)
    (data : String) :
    Quiet b (b.onevent m event connID data) := by
  unfold Browser.onevent
  split
  · exact refl b
  · refine (record b (e := .event m) rfl).trans ?_
    dsimp only
    split
    · exact refl _
    · split
      · exact record _ rfl
      · split
        · exact record _ rfl
        · split
          · exact record _ rfl
          · exact refl _

end Quiet

end CallsPlugin.Ports.Client
