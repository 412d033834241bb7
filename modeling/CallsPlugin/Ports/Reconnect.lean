import CallsPlugin.Ports.State

/-!
# Reconnections (`server/websocket.go`, `server/plugin.go`)

Each node of a cluster keeps the sessions of the connections it serves in a map from
connection ids, and the node that handles the RTC traffic of a call keeps all sessions
of that call.  A client that reconnects, to the same node or to another, gets a new
session there; the other nodes are told by a cluster message.  This is the deployment
without RTCD.
-/

namespace CallsPlugin.Ports

open CallsPlugin.Verified
open CallsPlugin.Ports.Public

/-! ## A node -/

/-- `session`, without its queues of messages; a flag that is set and the closed channel
that goes with it are one. -/
structure Session where
  userID : String
  channelID : String
  connID : String
  originalConnID : String
  callID : String
  wsClosed : Bool
  wsReconnected : Bool
  rtcClosed : Bool
  rtc : Bool
  left : Bool
  removed : Bool
  deriving DecidableEq, Repr

/-- `newUserSession` -/
def newUserSession (userID channelID connID callID : String) (rtc : Bool) : Session :=
  ⟨userID, channelID, connID, connID, callID, false, false, false, rtc, false, false⟩

/-- An entry of the map of sessions: a key and a pointer. -/
structure Slot where
  key : String
  us : Nat
  deriving DecidableEq, Repr

/-- A routine that reads from the connection of a session and calls `handleLeave`
afterwards. -/
structure Reader where
  connID : String
  us : Nat
  deriving DecidableEq, Repr

/-- What a node keeps: the map of sessions, the sessions the pointers point to, the next
free pointer and the routines. -/
structure Node where
  sessions : Table Slot.key
  heap : Nat → Session
  next : Nat
  readers : List Reader

namespace Node

/-- Change the session a pointer points to. -/
def set (n : Node) (us : Nat) (s : Session) : Node :=
  { n with heap := Function.update n.heap us s }

/-- Close the `wsReconnectCh` of a session. -/
def markReconnected (n : Node) (us : Nat) : Node :=
  n.set us { n.heap us with wsReconnected := true }

/-- Where `getSessionByOriginalID` finds a session; `iter` is the order in which the map
is walked. -/
def slotByOriginalID (n : Node) (iter : List Slot → List Slot) (sessionID : String) :
    Option Slot :=
  match n.sessions.find? sessionID with
  | some slot => some slot
  | none =>
      (iter n.sessions.rows).find? fun slot =>
        (n.heap slot.us).originalConnID = sessionID

/-- `getSessionByOriginalID` -/
def getSessionByOriginalID (n : Node) (iter : List Slot → List Slot)
    (sessionID : String) :
    Option Session :=
  (n.slotByOriginalID iter sessionID).map fun slot => n.heap slot.us

section Lookup

variable {n : Node} {iter : List Slot → List Slot} {sessionID : String} {slot : Slot}

/-- What is found is in the map, under the id or with it as its original one. -/
theorem slotByOriginalID_eq_some (hiter : ∀ l, (iter l).Perm l)
    (h : n.slotByOriginalID iter sessionID = some slot) :
    slot ∈ n.sessions ∧ (slot.key = sessionID ∨ (n.heap slot.us).originalConnID =
      sessionID) := by
  unfold slotByOriginalID at h
  split at h
  next s hs =>
    cases h
    obtain ⟨hmem, hk⟩ := Table.find?_eq_some.1 hs
    exact ⟨hmem, .inl hk⟩
  next =>
    have ho := List.find?_some h
    exact ⟨(hiter _).mem_iff.1 (List.mem_of_find?_eq_some h), .inr (by simpa using ho)⟩

/-- A session in the map is found, or another one in its stead. -/
theorem exists_slotByOriginalID (hiter : ∀ l, (iter l).Perm l)
    (hslot : slot ∈ n.sessions) (ho : (n.heap slot.us).originalConnID = sessionID) :
    ∃ s, n.slotByOriginalID iter sessionID = some s := by
  unfold slotByOriginalID
  split
  next s _ => exact ⟨s, rfl⟩
  next =>
    refine Option.isSome_iff_exists.1
      (List.find?_isSome.2 ⟨slot, ?_, by simpa using ho⟩)
    exact (hiter _).mem_iff.2 hslot

end Lookup

/-- The connection to which `wsWriter` sends a signal for the session. -/
def signalTarget (n : Node) (iter : List Slot → List Slot) (sessionID : String) :
    Option String :=
  (n.getSessionByOriginalID iter sessionID).map Session.connID

/-- A new session under a key. -/
def insertSession (n : Node) (connID : String) (us : Session) : Node :=
  { n with
    sessions := n.sessions.put ⟨connID, n.next⟩
    heap := Function.update n.heap n.next us
    next := n.next + 1 }

end Node

/-! ## Joining -/

/-- A cluster message of the type `clusterMessageTypeConnect`. -/
structure ConnectMessage where
  connID : String
  userID : String
  channelID : String
  callID : String
  deriving DecidableEq, Repr

/-- `handleEvent` of such a message, on the node that handles the call's RTC. -/
def handleConnectEvent (msg : ConnectMessage) (n : Node) : Except String Unit × Node :=
  match n.sessions.find? msg.connID with
  | some slot =>
      (.error ("session already exists, userID=" ++ (n.heap slot.us).userID.quote ++
        ", connID=" ++ msg.connID.quote ++ ", channelID=" ++
          (n.heap slot.us).channelID.quote), n)
  | none =>
      (.ok (), n.insertSession msg.connID
        (newUserSession msg.userID msg.channelID msg.connID msg.callID true))

/-- What `handleJoin` does to the node when the client is in the call; `handles` says
whether the node handles its RTC. -/
def Node.handleJoin (n : Node) (userID connID channelID callID : String)
    (handles : Bool) : Node :=
  let n' :=
    n.insertSession connID (newUserSession userID channelID connID callID handles)
  { n' with readers := ⟨connID, n.next⟩ :: n.readers }

/-! ## `handleReconnect` -/

/-- The identities of a request to reconnect. -/
structure ReconnectRequest where
  userID : String
  connID : String
  channelID : String
  originalConnID : String
  prevConnID : String
  deriving DecidableEq, Repr

/-- What the handling of such a request learns from elsewhere. -/
structure ReconnectEnv where
  hasPermission : Bool
  isBot : Bool
  /-- `getCallState` -/
  state : Except String (Option CallState)
  handleBotWSReconnect : Except String Unit

/-- A cluster message of the type `clusterMessageTypeReconnect`. -/
structure ReconnectMessage where
  connID : String
  newConnID : String
  userID : String
  callID : String
  deriving DecidableEq, Repr

/-- The checks of `handleReconnect`: the ongoing call, in which the user has the
session. -/
def reconnectCall (e : ReconnectEnv) (r : ReconnectRequest) : Except String CallState :=
  if ¬ e.isBot ∧ ¬ e.hasPermission then .error "forbidden"
  else
    match e.state with
    | .error err => .error err
    | .ok none => .error "no call ongoing"
    | .ok (some state) =>
        match state.sessions.find? r.originalConnID with
        | none => .error "session not found in call state"
        | some session =>
            if session.userID ≠ r.userID then .error "session not found in call state"
            else .ok state

/-- The session of the request on the node, by its new connection id or by the previous
one, is marked; whether it handles RTC is returned. -/
def Node.claimSession (n : Node) (r : ReconnectRequest) : Except String (Bool × Node) :=
  match (n.sessions.find? r.connID).or (n.sessions.find? r.prevConnID) with
  | none => .ok (false, n)
  | some slot =>
      if (n.heap slot.us).wsReconnected then .error "session already reconnected"
      else .ok ((n.heap slot.us).rtc, n.markReconnected slot.us)

/-- The new session takes its place in the map, and its routine starts. -/
def Node.storeSession (n : Node) (r : ReconnectRequest) (callID : String) (rtc : Bool) :
    Node :=
  let n' :=
    { n with sessions := n.sessions.erase r.originalConnID }.insertSession r.connID
    { newUserSession r.userID r.channelID r.connID callID rtc with
      originalConnID := r.originalConnID }
  { n' with readers := ⟨r.connID, n.next⟩ :: n.readers }

/-- `handleReconnect` up to the message to the other nodes, and the node it leaves. -/
def handleReconnect (e : ReconnectEnv) (r : ReconnectRequest) (n : Node) :
    Except String ReconnectMessage × Node :=
  match reconnectCall e r with
  | .error err => (.error err, n)
  | .ok state =>
      match n.claimSession r with
      | .error err => (.error err, n)
      | .ok (rtc, n) =>
          match (if e.isBot then e.handleBotWSReconnect else .ok ()) with
          | .error err => (.error ("handleBotWSReconnect failed: " ++ err), n)
          | .ok _ =>
              (.ok ⟨r.prevConnID, r.connID, r.userID, state.call.id⟩,
                n.storeSession r state.call.id rtc)

/-! ## The other nodes -/

/-- `handleEvent` of such a message.  Of a session that handles RTC the connection id is
updated, but not its key. -/
def handleReconnectEvent (msg : ReconnectMessage) (n : Node) :
    Except String Unit × Node :=
  match n.sessions.find? msg.connID with
  | none => (.ok (), n)
  | some slot =>
      if (n.heap slot.us).wsReconnected then
        (.error ("session already reconnected, connID=" ++ msg.connID.quote), n)
      else
        let n := n.markReconnected slot.us
        if (n.heap slot.us).rtc then
          (.ok (), n.set slot.us { n.heap slot.us with connID := msg.newConnID })
        else (.ok (), { n with sessions := n.sessions.erase (n.heap slot.us).connID })

/-- `handleLeave` of a routine whose session has reconnected. -/
def Node.handleLeave (n : Node) (r : Reader) : Node where
  sessions :=
    match n.sessions.find? r.connID with
    | none => n.sessions
    | some slot =>
        if slot.us = r.us ∧ (n.heap r.us).rtc = false then n.sessions.erase r.connID
        else n.sessions
  heap := n.heap
  next := n.next
  readers := n.readers.erase r

/-! ## Sequences of reconnections -/

/-- The nodes, the messages that have not arrived, and the connection ids that a client
has and has had. -/
structure Cluster (N : Type) where
  nodes : N → Node
  inFlight : List (N × ReconnectMessage)
  latest : String
  used : List String

section Sequences

variable {N : Type} [DecidableEq N]

/-- What can follow when a client reconnects again and again, each time after the
messages of the last one have arrived.  The list has the nodes it reconnected to. -/
inductive Reconnects (peers : List N) (userID channelID originalConnID : String)
    (c₀ : Cluster N) :
    List N → Cluster N → Prop
  | refl : Reconnects peers userID channelID originalConnID c₀ [] c₀
  | reconnect {w : List N} {c : Cluster N} (n : N) (e : ReconnectEnv) (connID : String)
      {msg : ReconnectMessage} {node : Node}
      (hr : Reconnects peers userID channelID originalConnID c₀ w c)
      (hdelivered : c.inFlight = [])
      (hnew : connID ∉ c.used)
      (hkeys : ∀ m, ∀ slot ∈ (c.nodes m).sessions, slot.key ≠ connID)
      (hok : handleReconnect e ⟨userID, connID, channelID, originalConnID, c.latest⟩
        (c.nodes n) = (.ok msg, node)) :
      Reconnects peers userID channelID originalConnID c₀ (w ++ [n])
        { nodes := Function.update c.nodes n node
          inFlight := (peers.filter (· ≠ n)).map (·, msg)
          latest := connID
          used := connID :: c.used }
  | deliver {w : List N} {c : Cluster N} (n : N) (msg : ReconnectMessage)
      (hr : Reconnects peers userID channelID originalConnID c₀ w c)
      (hmsg : (n, msg) ∈ c.inFlight) :
      Reconnects peers userID channelID originalConnID c₀ w
        { c with
          nodes := Function.update c.nodes n (handleReconnectEvent msg (c.nodes n)).2
          inFlight := c.inFlight.erase (n, msg) }
  | leave {w : List N} {c : Cluster N} (n : N) (r : Reader)
      (hr : Reconnects peers userID channelID originalConnID c₀ w c)
      (hreader : r ∈ (c.nodes n).readers)
      (hrec : ((c.nodes n).heap r.us).wsReconnected = true) :
      Reconnects peers userID channelID originalConnID c₀ w
        { c with nodes := Function.update c.nodes n ((c.nodes n).handleLeave r) }

end Sequences

end CallsPlugin.Ports
