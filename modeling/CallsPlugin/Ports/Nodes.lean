import CallsPlugin.Verified.Machine
import CallsPlugin.Ports.Reconnect

/-!
# The sessions on all nodes (`server/plugin.go`, `server/session.go`,
`server/websocket.go`)

What the nodes of a cluster do to the sessions they keep, as one machine: joins,
reconnections, the cluster messages about sessions, the routines that read from a
connection and then call `handleLeave`, the routines that serve an RTC session opened
for another node, and the removals.  A removal and a join may wait in a batcher.
-/

namespace CallsPlugin.Ports

open CallsPlugin.Verified

/-! ## The deployment -/

/-- What stays fixed: the nodes, the user of each WebSocket connection, the channel of a
call, and the node that handles the RTC of a call, if that is not left to RTCD. -/
structure Deployment (N : Type) where
  peers : List N
  owner : String → String
  channel : String → String
  handler : String → Option N

/-- A cluster message about a session. -/
inductive ClusterMessage where
  | connect (msg : ConnectMessage)
  | reconnect (msg : ReconnectMessage)
  | leave (connID : String)
  | disconnect (connID : String)
  | signaling (connID : String)
  deriving DecidableEq, Repr

/-! ## The RTC servers -/

/-- What an RTC session is asked, or says. -/
inductive RtcKind where
  | initSession
  | initFailed
  | closeSession
  | message
  /-- a cluster message that asks another node to close the session -/
  | disconnect
  /-- the session has closed -/
  | closed
  deriving DecidableEq, Repr

/-- One such request at a node: the session id it names, and the participant on whose
behalf it is made, by the session id the participant joined with. -/
structure RtcEvent (N : Type) where
  node : N
  kind : RtcKind
  sessionID : String
  originalConnID : String
  deriving DecidableEq, Repr

/-- The RTC server of the node has an open session of this id; the newest event comes
first. -/
def rtcOpen {N : Type} [DecidableEq N] (n : N) (sessionID : String) :
    List (RtcEvent N) → Bool
  | [] => false
  | ev :: rest =>
      if ev.node = n ∧ ev.sessionID = sessionID then
        match ev.kind with
        | .initSession => true
        | .closeSession => false
        | .closed => false
        | _ => rtcOpen n sessionID rest
      else rtcOpen n sessionID rest

/-! ## The cluster -/

/-- An RTC session that was opened for the session `us` of the node, by `startSession`
or by `handleJoin`. -/
structure RtcSession (N : Type) where
  node : N
  us : Nat
  sessionID : String
  started : Bool
  deriving DecidableEq, Repr

/-- How a removal goes on: at once, in a batch, or not at all because the batcher is
full. -/
inductive Removal where
  | direct
  | queued
  | dropped
  deriving DecidableEq, Repr

/-- The identities of a session that has joined. -/
structure Joined where
  id : String
  userID : String
  callID : String
  deriving DecidableEq, Repr

/-- The cluster: its nodes and the messages between them; the routines in `handleLeave`;
the routines of `startSession`, before and after they have opened their RTC session; the
RTC sessions whose callback may come; the removals under way; the batchers of each node,
by the number of operations in their queues.

The last four fields are kept for what is proved: who has joined, what the RTC servers
were asked, whose RTC session should have been closed since it joined, and which
sessions of a node are still those of their participants. -/
structure Net (N : Type) where
  nodes : N → Node
  inFlight : List (N × ClusterMessage)
  leaving : List (N × Reader)
  spawned : List (N × Nat)
  serving : List (N × Nat)
  opened : List (RtcSession N)
  removals : List (N × Nat × Removal)
  addSessionsBatchers : N → String → Option Nat
  removeSessionsBatchers : N → String → Option Nat
  joined : List Joined
  record : List (RtcEvent N)
  ending : List String
  live : List (N × Nat)

/-- Why a routine returns from `handleLeave`. -/
inductive LeaveExit where
  | reconnected
  | left
  | rtcClosed
  | timeout
  deriving DecidableEq, Repr

/-- What can happen in the cluster. -/
inductive Action (N : Type) where
  /-- `handleJoin` puts the join into the batcher of the channel -/
  | queueJoin (n : N) (channelID : String)
  /-- a join is refused -/
  | refuseJoin (n : N) (channelID : String) (queued : Bool)
  /-- a join is accepted; `ok` says whether the RTC side could be told -/
  | join (n : N) (userID connID channelID callID : String) (queued ok : Bool)
  /-- `handleReconnect`; `told` says whether RTCD, if it has to be told, could be -/
  | reconnect (n : N) (e : ReconnectEnv) (r : ReconnectRequest) (told : Bool)
  /-- `handleEvent`; `iter` is the order in which the map is walked -/
  | handleEvent (n : N) (msg : ClusterMessage) (iter : List Slot → List Slot)
  /-- `OnWebSocketDisconnect` -/
  | disconnect (n : N) (connID : String)
  /-- the client leaves -/
  | leave (n : N) (connID : String)
  /-- `wsReader` relays a message to the RTC server -/
  | message (n : N) (r : Reader)
  /-- `wsReader` returns because a channel of its session was closed -/
  | stopReading (n : N) (r : Reader)
  /-- `wsReader` finds the login session revoked -/
  | revoke (n : N) (r : Reader)
  | handleLeave (n : N) (r : Reader) (exit : LeaveExit) (how : Removal)
  /-- `startSession` opens its RTC session -/
  | startSession (n : N) (us : Nat) (ok : Bool)
  /-- `startSession` returns -/
  | endSession (n : N) (us : Nat)
  /-- the callback of an RTC session -/
  | rtcClosed (s : RtcSession N) (how : Removal)
  /-- RTCD says that a session has closed -/
  | rtcdClosed (n : N) (sessionID : String) (iter : List Slot → List Slot)
      (how : Removal)
  /-- a removal reaches the call, or fails to -/
  | remove (n : N) (us : Nat) (how : Removal) (ok : Bool)
  /-- a host, or the channel, puts a participant out -/
  | putOut (n : N) (sessionID callID : String)

/-! ## Single steps -/

namespace Node

/-- `hasSessionsForCall` -/
def hasSessionsForCall (n : Node) (callID : String) : Bool :=
  n.sessions.rows.any fun slot => (n.heap slot.us).callID = callID

/-- Change the session under a connection id, if there is one. -/
def adjust (n : Node) (connID : String) (f : Session → Session) : Node :=
  match n.sessions.find? connID with
  | none => n
  | some slot => n.set slot.us (f (n.heap slot.us))

/-- `OnWebSocketDisconnect`, also when it looks again later. -/
def onWebSocketDisconnect (n : Node) (connID : String) : Node :=
  n.adjust connID fun us => { us with wsClosed := true }

/-- What a message of the type `clusterMessageTypeLeave` does, and a client's own
one. -/
def handleLeaveEvent (n : Node) (connID : String) : Node :=
  n.adjust connID fun us => { us with left := true }

/-- What a message of the type `clusterMessageTypeDisconnect` does. -/
def handleDisconnectEvent (n : Node) (connID : String) : Node :=
  n.adjust connID fun us => { us with rtcClosed := true }

end Node

namespace Net

variable {N : Type} [DecidableEq N]

/-- Change one node. -/
def setNode (c : Net N) (n : N) (node : Node) : Net N :=
  { c with nodes := Function.update c.nodes n node }

/-- `sendClusterMessage` -/
def send (c : Net N) (targets : List N) (msg : ClusterMessage) : Net N :=
  { c with inFlight := c.inFlight ++ targets.map (·, msg) }

/-- Note what an RTC server is asked. -/
def note (c : Net N) (n : N) (kind : RtcKind) (sessionID originalConnID : String) :
    Net N :=
  { c with record := ⟨n, kind, sessionID, originalConnID⟩ :: c.record }

/-- `closeRTCSession` on the node `n`, for the participant who joined as
`originalConnID`. -/
def closeRTCSession (c : Net N) (handler : Option N) (n : N)
    (connID originalConnID : String) :
    Net N :=
  let c := { c with ending := originalConnID :: c.ending }
  match handler with
  | none => c
  | some h =>
      if h = n then c.note h .closeSession connID originalConnID
      else (c.send [h] (.disconnect connID)).note h .disconnect connID originalConnID

/-- Put an operation into a batcher, which is created if need be. -/
def push (batchers : N → String → Option Nat) (n : N) (channelID : String) :
    N → String → Option Nat :=
  Function.update batchers n
    (Function.update (batchers n) channelID (some ((batchers n channelID).getD 0 + 1)))

/-- A batcher runs an operation. -/
def pop (batchers : N → String → Option Nat) (n : N) (channelID : String) :
    N → String → Option Nat :=
  Function.update batchers n
    (Function.update (batchers n) channelID ((batchers n channelID).map (· - 1)))

/-- A batcher is stopped and dropped if its queue is empty. -/
def stopIfEmpty (batchers : N → String → Option Nat) (n : N) (channelID : String) :
    N → String → Option Nat :=
  Function.update batchers n
    (Function.update (batchers n) channelID ((batchers n channelID).filter (· ≠ 0)))

/-- `removeSession`, until the call is locked. -/
def removeSession (c : Net N) (n : N) (us : Nat) (how : Removal) : Net N :=
  let s := (c.nodes n).heap us
  if s.removed then c
  else
    { c.setNode n ((c.nodes n).set us { s with removed := true }) with
      removals := (n, us, how) :: c.removals
      removeSessionsBatchers :=
        if how = .queued then push c.removeSessionsBatchers n s.channelID
        else c.removeSessionsBatchers }

/-- `removeSessionFromCall`, as far as the node goes. -/
def removeSessionFromCall (c : Net N) (n : N) (us : Nat) : Net N :=
  let s := (c.nodes n).heap us
  let node := { c.nodes n with sessions := (c.nodes n).sessions.erase s.connID }
  let c := { c.setNode n node with live := c.live.filter (· ≠ (n, us)) }
  if node.hasSessionsForCall s.callID then c
  else
    { c with
      addSessionsBatchers := stopIfEmpty c.addSessionsBatchers n s.channelID
      removeSessionsBatchers := stopIfEmpty c.removeSessionsBatchers n s.channelID }

/-- The sessions that are still those of their participants once `us` is the one of the
participant who joined as `originalConnID`. -/
def renew (c : Net N) (n : N) (us : Nat) (originalConnID : String) : List (N × Nat) :=
  (n, us) :: c.live.filter fun x =>
    ¬ (x.1 = n ∧ ((c.nodes n).heap x.2).originalConnID = originalConnID)

/-- `addSessionToCall`, once `addUserSession` has accepted the join. -/
def addSessionToCall (d : Deployment N) (c : Net N) (n : N)
    (userID connID channelID callID : String) (queued ok : Bool) : Net N :=
  let us := (c.nodes n).next
  let c' : Net N :=
    { c.setNode n ((c.nodes n).handleJoin userID connID channelID callID
        (d.handler callID = some n)) with
      addSessionsBatchers :=
        if queued then pop c.addSessionsBatchers n channelID else c.addSessionsBatchers
      joined := ⟨connID, userID, callID⟩ :: c.joined
      ending := c.ending.filter (· ≠ connID)
      live := c.renew n us connID }
  if ok then
    match d.handler callID with
    | none => c'
    | some h =>
        if h = n then
          { c'.note n .initSession connID connID with
            opened := ⟨n, us, connID, false⟩ :: c'.opened }
        else c'.send [h] (.connect ⟨connID, userID, channelID, callID⟩)
  else
    { (if d.handler callID =
          some n then c'.note n .initFailed connID connID else c') with
      leaving := (n, ⟨connID, us⟩) :: c'.leaving }

/-- `handleEvent` -/
def handleEvent (d : Deployment N) (c : Net N) (n : N) (msg : ClusterMessage)
    (iter : List Slot → List Slot) : Net N :=
  match msg with
  | .connect msg =>
      match handleConnectEvent msg (c.nodes n) with
      | (.error _, _) => c
      | (.ok _, node) =>
          { c.setNode n node with
            spawned := (n, (c.nodes n).next) :: c.spawned
            live := c.renew n (c.nodes n).next msg.connID }
  | .reconnect msg =>
      { c.setNode n (handleReconnectEvent msg (c.nodes n)).2 with
        live := c.live.filter fun x =>
          ¬ (x.1 = n ∧ ((c.nodes n).sessions.find? msg.connID).map Slot.us = some x.2 ∧
            ((c.nodes n).heap x.2).rtc = false) }
  | .leave connID => c.setNode n ((c.nodes n).handleLeaveEvent connID)
  | .disconnect connID => c.setNode n ((c.nodes n).handleDisconnectEvent connID)
  | .signaling connID =>
      match (c.nodes n).getSessionByOriginalID iter connID with
      | none => c
      | some us =>
          if d.handler us.callID = none then c
          else c.note n .message us.originalConnID connID

/-- A routine relays a message of its client. -/
def relay (d : Deployment N) (c : Net N) (n : N) (r : Reader) : Net N :=
  let us := (c.nodes n).heap r.us
  match d.handler us.callID with
  | none => c
  | some h =>
      if h = n then c.note n .message us.originalConnID us.originalConnID
      else c.send [h] (.signaling us.originalConnID)

/-- `handleLeave` -/
def handleLeave (d : Deployment N) (c : Net N) (n : N) (r : Reader) (exit : LeaveExit)
    (how : Removal) : Net N :=
  let us := (c.nodes n).heap r.us
  let c := { c with leaving := c.leaving.erase (n, r) }
  match exit with
  | .reconnected => c.setNode n ((c.nodes n).handleLeave r)
  | .rtcClosed => c.setNode n { c.nodes n with readers := (c.nodes n).readers.erase r }
  | _ =>
      let c := c.setNode n { c.nodes n with readers := (c.nodes n).readers.erase r }
      (c.closeRTCSession (d.handler us.callID) n us.originalConnID
        us.originalConnID).removeSession n r.us how

/-- The callback of an RTC session.  That of a session opened by `handleJoin` removes
the session only if its channel had not been closed. -/
def rtcCallback (c : Net N) (s : RtcSession N) (how : Removal) : Net N :=
  let us := (c.nodes s.node).heap s.us
  let c' := { c with opened := c.opened.erase s }.note s.node .closed s.sessionID
    us.originalConnID
  let c' := c'.setNode s.node ((c'.nodes s.node).set s.us { us with rtcClosed := true })
  if s.started ∨ us.rtcClosed = false then c'.removeSession s.node s.us how else c'

/-- `rtcdClientManager.handleClientMsg` of a message that a session has closed. -/
def rtcdCallback (c : Net N) (n : N) (sessionID : String) (iter : List Slot → List Slot)
    (how : Removal) : Net N :=
  match (c.nodes n).slotByOriginalID iter sessionID with
  | none => c
  | some slot =>
      let us := (c.nodes n).heap slot.us
      if us.rtcClosed then c
      else (c.setNode n ((c.nodes n).set slot.us
        { us with rtcClosed := true })).removeSession n slot.us how

end Net

/-! ## The machine -/

section Machine

variable {N : Type} [DecidableEq N]

/-- What the cluster does. -/
def Net.step (d : Deployment N) (c : Net N) : Action N → Net N
  | .queueJoin n channelID =>
      { c with addSessionsBatchers := Net.push c.addSessionsBatchers n channelID }
  | .refuseJoin n channelID queued =>
      if queued then
        { c with addSessionsBatchers := Net.pop c.addSessionsBatchers n channelID }
      else c
  | .join n userID connID channelID callID queued ok =>
      c.addSessionToCall d n userID connID channelID callID queued ok
  | .reconnect n e r told =>
      match handleReconnect e r (c.nodes n) with
      | (.error _, node) => c.setNode n node
      | (.ok msg, node) =>
          -- if RTCD could not be told, the routine does not start
          let node :=
            if told then node else { node with readers := (c.nodes n).readers }
          { (c.setNode n node).send (d.peers.filter (· ≠ n)) (.reconnect msg) with
            live := c.renew n (c.nodes n).next r.originalConnID }
  | .handleEvent n msg iter =>
      { c with inFlight := c.inFlight.erase (n, msg) }.handleEvent d n msg iter
  | .disconnect n connID => c.setNode n ((c.nodes n).onWebSocketDisconnect connID)
  | .leave n connID =>
      (c.setNode n ((c.nodes n).handleLeaveEvent connID)).send (d.peers.filter (· ≠ n))
        (.leave connID)
  | .message n r => c.relay d n r
  | .stopReading n r => { c with leaving := (n, r) :: c.leaving }
  | .revoke n r =>
      let us := (c.nodes n).heap r.us
      { c.closeRTCSession (d.handler us.callID) n us.connID us.originalConnID with
        leaving := (n, r) :: c.leaving }
  | .handleLeave n r exit how => c.handleLeave d n r exit how
  | .startSession n us ok =>
      let s := (c.nodes n).heap us
      let c := { c with spawned := c.spawned.erase (n, us) }
      if ok then
        { c.note n .initSession s.connID s.originalConnID with
          serving := (n, us) :: c.serving
          opened := ⟨n, us, s.connID, true⟩ :: c.opened }
      else c.note n .initFailed s.connID s.originalConnID
  | .endSession n us =>
      let s := (c.nodes n).heap us
      { c with serving := c.serving.erase (n, us) }.note n .closeSession s.connID
          s.originalConnID
  | .rtcClosed s how => c.rtcCallback s how
  | .rtcdClosed n sessionID iter how => c.rtcdCallback n sessionID iter how
  | .remove n us how ok =>
      let s := (c.nodes n).heap us
      let c : Net N :=
        { c with
          removals := c.removals.erase (n, us, how)
          removeSessionsBatchers :=
            if how = .queued then Net.pop c.removeSessionsBatchers n s.channelID
            else c.removeSessionsBatchers }
      if ok then c.removeSessionFromCall n us else c
  | .putOut n sessionID callID =>
      c.closeRTCSession (d.handler callID) n sessionID sessionID

/-- When it can. -/
def Net.Enabled (d : Deployment N) (c : Net N) : Action N → Prop
  | .queueJoin _ _ => True
  | .refuseJoin n channelID queued =>
      queued → ∃ k, c.addSessionsBatchers n channelID = some (k + 1)
  | .join n userID connID channelID callID queued _ =>
      d.owner connID = userID ∧ d.channel callID = channelID ∧
        (queued → ∃ k, c.addSessionsBatchers n channelID = some (k + 1))
  | .reconnect _ e r told =>
      d.owner r.connID = r.userID ∧
        ∀ st, e.state = .ok (some st) →
          d.channel st.call.id = r.channelID ∧
            (∀ row ∈ st.sessions, ⟨row.id, row.userID, row.callID⟩ ∈ c.joined) ∧
            (told = false → d.handler st.call.id = none)
  | .handleEvent n msg iter => (n, msg) ∈ c.inFlight ∧ ∀ l, (iter l).Perm l
  | .disconnect _ _ => True
  | .leave _ _ => True
  | .message n r => r ∈ (c.nodes n).readers ∧ (n, r) ∉ c.leaving
  | .stopReading n r =>
      r ∈ (c.nodes n).readers ∧ (n, r) ∉ c.leaving ∧
        let us := (c.nodes n).heap r.us
        us.wsClosed ∨ us.wsReconnected ∨ us.rtcClosed ∨ us.left
  | .revoke n r => r ∈ (c.nodes n).readers ∧ (n, r) ∉ c.leaving
  | .handleLeave n r exit _ =>
      (n, r) ∈ c.leaving ∧
        let us := (c.nodes n).heap r.us
        match exit with
        | .reconnected => us.wsReconnected
        | .left => us.left
        | .rtcClosed => us.rtcClosed
        | .timeout => True
  | .startSession n us _ => (n, us) ∈ c.spawned
  | .endSession n us => (n, us) ∈ c.serving ∧ ((c.nodes n).heap us).rtcClosed
  | .rtcClosed s _ => s ∈ c.opened
  | .rtcdClosed _ _ iter _ => ∀ l, (iter l).Perm l
  | .remove n us how ok =>
      (n, us, how) ∈ c.removals ∧
        match how with
        | .direct => True
        | .queued =>
            ok = true ∧
              ∃ k, c.removeSessionsBatchers n ((c.nodes n).heap us).channelID =
              some (k + 1)
        | .dropped => ok = false
  | .putOut _ sessionID callID => ∃ j ∈ c.joined, j.id = sessionID ∧ j.callID = callID

/-- The cluster. -/
def Net.machine (d : Deployment N) : Machine (Net N) (Action N) where
  Enabled := Net.Enabled d
  step := Net.step d

/-- The cluster before anybody has joined. -/
def Net.empty : Net N where
  nodes _ := ⟨.empty, fun _ => newUserSession "" "" "" "" false, 0, []⟩
  inFlight := []
  leaving := []
  spawned := []
  serving := []
  opened := []
  removals := []
  addSessionsBatchers _ _ := none
  removeSessionsBatchers _ _ := none
  joined := []
  record := []
  ending := []
  live := []

end Machine

end CallsPlugin.Ports
