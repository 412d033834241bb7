import Mathlib.Data.Fintype.Basic
import CallsPlugin.Verified.Machine
import CallsPlugin.Verified.Pipeline
import CallsPlugin.Ports.Handlers
import CallsPlugin.Ports.NodeSteps

/-!
# Last actions (`server/websocket.go`, `webapp/src/websocket.ts`,
`webapp/src/client.ts`)

A participant switches microphone, camera and hand by messages.  A message is sent
on the socket that the client has, put into the queue of the session that its node has
for that socket, and handled by the reader of that session.  A client that reconnects
gets a new socket and a new session, with a queue and a reader of its own.

The messages that are on their way are numbered by what the participant has done, so
that one can tell which of them have been handled.  A message is handled under the lock
of the call, which no other request holds meanwhile: that is one step.
-/

namespace CallsPlugin.Ports

open CallsPlugin.Verified
open CallsPlugin.Ports.Public CallsPlugin.Ports.Db

/-! ## The system -/

/-- Who the participant is, in which channel, and the nodes of the cluster. -/
structure Identity (N : Type) where
  userID : String
  channelID : String
  originalConnID : String
  peers : List N

/-- Where a message can be: on a socket, in the `wsMsgCh` of a session, or with the
reader of that session. -/
inductive Place (N : Type) where
  | wire (socket : Nat)
  | wsMsgCh (n : N) (us : Nat)
  | handling (n : N) (us : Nat)
  deriving DecidableEq

/-- How far a message at a place is from being handled. -/
def Place.rank {N : Type} : Place N → Nat
  | .wire _ => 2
  | .wsMsgCh _ _ => 1
  | .handling _ _ => 0

/-- A socket of the client, by the node that serves it and its connection id there. -/
structure ClientSocket (N : Type) where
  node : N
  connID : String
  isOpen : Bool
  deriving DecidableEq

/-- The nodes with their readers, some of which no longer read, the sockets that the
client has had, and the messages by their places.  `actions` is all that the participant
has done, `accepted` and `handled` are the messages put into a queue and those
handled. -/
structure Participant (N : Type) where
  nodes : N → Node
  inFlight : List (N × ReconnectMessage)
  leaving : List (N × Reader)
  sockets : List (ClientSocket N)
  messages : Place N → List (Numbered SessionMessage)
  store : Store
  actions : List SessionMessage
  accepted : List (Numbered SessionMessage)
  handled : List (Numbered SessionMessage)

/-- What can happen. -/
inductive ParticipantStep (N : Type) where
  /-- the participant does something, and the client sends it -/
  | act (msg : SessionMessage)
  /-- the socket of the client closes -/
  | closeSocket
  /-- the client has opened another one -/
  | openSocket (n : N) (connID : String)
  /-- what was sent on a socket that has closed is lost -/
  | lose (socket : Nat)
  /-- `WebSocketMessageHasBeenPosted` -/
  | deliver (socket : Nat)
  /-- `handleReconnect`, asked for on a socket, until it reads -/
  | reconnect (socket : Nat) (e : ReconnectEnv) (prevConnID : String)
  /-- `handleEvent` of a message about a reconnection -/
  | reconnectEvent (n : N) (msg : ReconnectMessage)
  /-- `OnWebSocketDisconnect` -/
  | disconnect (n : N) (connID : String)
  /-- the client leaves -/
  | leave (n : N) (connID : String)
  /-- the RTC connection of a session is closed -/
  | closeRTC (n : N) (us : Nat)
  /-- `wsReader` takes a message from its queue -/
  | receive (n : N) (r : Reader)
  /-- `handleClientMsg`; `relayed` says whether the RTC side could be told -/
  | handle (n : N) (r : Reader) (env : Env) (relayed : Bool)
  /-- `wsReader` returns, perhaps because the login session was revoked -/
  | stopReading (n : N) (r : Reader) (revoked : Bool)
  /-- `handleLeave` returns -/
  | handleLeave (n : N) (r : Reader) (exit : LeaveExit)
  /-- a session is taken from the map when it is removed from the call -/
  | forget (n : N) (connID : String)
  /-- other requests change the store, and may remove the session -/
  | others (s : Store)

/-- The messages of which the RTC side is told before they are handled. -/
def SessionMessage.relays : SessionMessage → Bool
  | .raiseHand | .unraiseHand => false
  | _ => true

/-- The capacity of a `wsMsgCh`. -/
def msgChSize : Nat := 50

namespace Identity

variable {N : Type} (i : Identity N)

/-- The stored session of the participant. -/
def session (s : Store) : Option CallSession :=
  (storedState s i.channelID).bind fun st => st.sessions.find? i.originalConnID

/-- `handleClientMsg` once the RTC side has been told, on a store that works.  All
sessions of the participant have the user and the original connection id. -/
def handleClientMsg (env : Env) (msg : SessionMessage) (s : Store) : Store :=
  ((sessionMessage env ⟨i.userID, i.originalConnID⟩ i.channelID msg
    (storedState s i.channelID)).run (exec .works) s).2

end Identity

namespace Participant

variable {N : Type} [DecidableEq N]

/-- Change a node. -/
def setNode (c : Participant N) (n : N) (node : Node) : Participant N :=
  { c with nodes := Function.update c.nodes n node }

/-- The node has a reader that reads for the session. -/
def Reads (c : Participant N) (n : N) (us : Nat) : Prop :=
  ∃ r ∈ (c.nodes n).readers, r.us = us ∧ (n, r) ∉ c.leaving

/-- `send` -/
def send (c : Participant N) (msg : SessionMessage) : Participant N :=
  match c.sockets.getLast? with
  | some s =>
      if s.isOpen then
        { c with
          messages :=
            arrive c.messages (.wire (c.sockets.length - 1)) ⟨c.actions.length, msg⟩ }
      else c
  | none => c

/-- A message is put into the queue of a session, or dropped if the queue is full. -/
def enqueue (c : Participant N) (n : N) (us : Nat) (x : Numbered SessionMessage) :
    Participant N :=
  if (c.messages (.wsMsgCh n us)).length < msgChSize * 2 then
    { c with
      messages := arrive c.messages (.wsMsgCh n us) x
      accepted := c.accepted ++ [x] }
  else c

/-- `WebSocketMessageHasBeenPosted` of the next message on a socket. -/
def post (c : Participant N) (socket : Nat) (s : ClientSocket N)
    (x : Numbered SessionMessage) :
    Participant N :=
  let c := { c with messages := depart c.messages (.wire socket) }
  match (c.nodes s.node).sessions.find? s.connID with
  | none => c
  | some slot => c.enqueue s.node slot.us x

/-- What happens in a step. -/
def step (i : Identity N) (c : Participant N) : ParticipantStep N → Participant N
  | .act msg => { c.send msg with actions := c.actions ++ [msg] }
  | .closeSocket =>
      { c with
        sockets :=
          c.sockets.modify (c.sockets.length - 1) fun s => { s with isOpen := false } }
  | .openSocket n connID => { c with sockets := c.sockets ++ [⟨n, connID, true⟩] }
  | .lose socket => { c with messages := Function.update c.messages (.wire socket) [] }
  | .deliver socket =>
      match c.sockets[socket]?, c.messages (.wire socket) with
      | some s, x :: _ => c.post socket s x
      | _, _ => c
  | .reconnect socket e prevConnID =>
      match c.sockets[socket]? with
      | none => c
      | some s =>
          match handleReconnect e ⟨i.userID, s.connID, i.channelID, i.originalConnID,
            prevConnID⟩ (c.nodes s.node) with
          | (.error _, _) => c
          | (.ok msg, node) =>
              { c.setNode s.node node with
                inFlight := c.inFlight ++ (i.peers.filter (· ≠ s.node)).map (·, msg) }
  | .reconnectEvent n msg =>
      { c.setNode n (handleReconnectEvent msg (c.nodes n)).2 with
        inFlight := c.inFlight.erase (n, msg) }
  | .disconnect n connID => c.setNode n ((c.nodes n).onWebSocketDisconnect connID)
  | .leave n connID => c.setNode n ((c.nodes n).handleLeaveEvent connID)
  | .closeRTC n us =>
      c.setNode n ((c.nodes n).set us { (c.nodes n).heap us with rtcClosed := true })
  | .receive n r =>
      match c.messages (.wsMsgCh n r.us) with
      | [] => c
      | x :: _ =>
          { c with
            messages :=
              arrive (depart c.messages (.wsMsgCh n r.us)) (.handling n r.us) x }
  | .handle n r env relayed =>
      match c.messages (.handling n r.us) with
      | [] => c
      | x :: _ =>
          { c with
            messages := depart c.messages (.handling n r.us)
            store :=
              if x.item.relays ∧ relayed = false then c.store
              else i.handleClientMsg env x.item c.store
            handled := c.handled ++ [x] }
  | .stopReading n r _ => { c with leaving := (n, r) :: c.leaving }
  | .handleLeave n r exit =>
      let c := { c with leaving := c.leaving.erase (n, r) }
      match exit with
      | .reconnected => c.setNode n ((c.nodes n).handleLeave r)
      | _ => c.setNode n { c.nodes n with readers := (c.nodes n).readers.erase r }
  | .forget n connID =>
      c.setNode n { c.nodes n with sessions := (c.nodes n).sessions.erase connID }
  | .others s => { c with store := s }

/-- When it can.  Reconnections succeed, and other requests leave what the participant
has switched alone. -/
def Enabled (i : Identity N) (c : Participant N) : ParticipantStep N → Prop
  | .closeSocket => ∃ s ∈ c.sockets.getLast?, s.isOpen = true
  | .openSocket _ _ => ∀ s ∈ c.sockets.getLast?, s.isOpen = false
  | .lose socket => ∃ s ∈ c.sockets[socket]?, s.isOpen = false
  | .reconnect socket e prevConnID =>
      ∃ s ∈ c.sockets[socket]?,
        (handleReconnect e ⟨i.userID, s.connID, i.channelID, i.originalConnID,
          prevConnID⟩ (c.nodes s.node)).1.isOk = true
  | .reconnectEvent n msg => (n, msg) ∈ c.inFlight
  | .receive n r =>
      r ∈ (c.nodes n).readers ∧ (n, r) ∉ c.leaving ∧ c.messages (.handling n r.us) = []
  | .stopReading n r revoked =>
      r ∈ (c.nodes n).readers ∧ (n, r) ∉ c.leaving ∧
        c.messages (.handling n r.us) = [] ∧
        let us := (c.nodes n).heap r.us
        us.wsReconnected ∨ us.left ∨ us.wsClosed ∨ us.rtcClosed ∨ revoked
  | .handleLeave n r exit =>
      (n, r) ∈ c.leaving ∧
        let us := (c.nodes n).heap r.us
        match exit with
        | .reconnected => us.wsReconnected
        | .left => us.left
        | .rtcClosed => us.rtcClosed
        | .timeout => True
  | .others s => i.session s = i.session c.store ∨ i.session s = none
  | _ => True

instance (i : Identity N) (c : Participant N) (a : ParticipantStep N) :
    Decidable (c.Enabled i a) := by
  cases a with
  | handleLeave n r exit => cases exit <;> unfold Enabled <;> infer_instance
  | _ => unfold Enabled; infer_instance

/-- The participant and the cluster. -/
def machine (i : Identity N) : Machine (Participant N) (ParticipantStep N) :=
  ⟨fun c a => c.Enabled i a, step i⟩

instance (i : Identity N) (c : Participant N) (a : ParticipantStep N) :
    Decidable ((machine i).Enabled c a) :=
  inferInstanceAs (Decidable (c.Enabled i a))

end Participant

/-! ## What is expected -/

namespace SessionMessage

/-- What a message makes of the microphone, if it is about it. -/
def microphone : SessionMessage → Option Bool
  | .mute => some false
  | .unmute => some true
  | _ => none

/-- What a message makes of the camera. -/
def camera : SessionMessage → Option Bool
  | .videoOff => some false
  | .videoOn => some true
  | _ => none

/-- What a message makes of the hand. -/
def hand : SessionMessage → Option Bool
  | .unraiseHand => some false
  | .raiseHand => some true
  | _ => none

end SessionMessage

/-- What the last action of a kind was for. -/
def lastAction (kind : SessionMessage → Option Bool) (actions : List SessionMessage) :
    Option Bool :=
  (actions.filterMap kind).getLast?

/-- The session is as the last action of each kind has it. -/
structure ShowsLast (session : CallSession) (actions : List SessionMessage) : Prop where
  unmuted : ∀ on ∈ lastAction SessionMessage.microphone actions, session.unmuted = on
  video : ∀ on ∈ lastAction SessionMessage.camera actions, session.video = on
  raisedHand : ∀ on ∈ lastAction SessionMessage.hand actions,
    decide (session.raisedHand ≠ 0) = on

namespace Participant

variable {N : Type} [DecidableEq N]

/-- The client has a socket whose session is read for. -/
def Connected (c : Participant N) : Prop :=
  ∃ s ∈ c.sockets.getLast?, s.isOpen = true ∧
    ∃ slot ∈ (c.nodes s.node).sessions.find? s.connID, c.Reads s.node slot.us

/-- No message is on a socket, or in the queue or the hands of a reader. -/
def Settled (c : Participant N) : Prop :=
  (∀ k < c.sockets.length, c.messages (.wire k) = []) ∧
    ∀ n, ∀ r ∈ (c.nodes n).readers, (n, r) ∉ c.leaving →
      c.messages (.wsMsgCh n r.us) = [] ∧ c.messages (.handling n r.us) = []

/-- The last action of each kind wins, and what was put into a queue is handled, each
message once and in the order in which they were sent. -/
structure Right (i : Identity N) (c : Participant N) : Prop where
  lastWins : c.Connected → c.Settled →
    ∀ session ∈ i.session c.store, ShowsLast session c.actions
  inOrder : c.handled.Pairwise fun x y => x.no < y.no
  allHandled : c.Settled → ∀ x ∈ c.accepted, x ∈ c.handled

/-- The session for a socket has a reader and room in its queue, and no other session
has messages in its own. -/
def Awaits (c : Participant N) (s : ClientSocket N) : Prop :=
  ∃ slot ∈ (c.nodes s.node).sessions.find? s.connID, c.Reads s.node slot.us ∧
    (c.messages (.wsMsgCh s.node slot.us)).length < msgChSize * 2 ∧
      ∀ n, ∀ r ∈ (c.nodes n).readers, (n, r.us) ≠ (s.node, slot.us) →
        c.messages (.wsMsgCh n r.us) = []

/-- The step does no harm: the participant acts only on an open socket, when what was
sent on earlier ones has arrived; nothing sent is lost; a message arrives only where it
is awaited; a reader takes one only if no other reader is handling one, and returns only
if its queue is empty; and the RTC side can be told. -/
def Harmless (c : Participant N) : ParticipantStep N → Prop
  | .act _ =>
      (∃ s ∈ c.sockets.getLast?, s.isOpen = true) ∧
        ∀ k < c.sockets.length - 1, c.messages (.wire k) = []
  | .lose socket => c.messages (.wire socket) = []
  | .deliver socket =>
      ∀ s ∈ c.sockets[socket]?, c.messages (.wire socket) ≠ [] → c.Awaits s
  | .receive _ _ => ∀ n, ∀ r ∈ (c.nodes n).readers, c.messages (.handling n r.us) = []
  | .handle n r _ relayed =>
      ∀ x ∈ (c.messages (.handling n r.us)).head?, x.item.relays = true → relayed = true
  | .stopReading n r _ => c.messages (.wsMsgCh n r.us) = []
  | _ => True

instance (c : Participant N) (n : N) (us : Nat) : Decidable (c.Reads n us) := by
  unfold Reads; infer_instance

instance (c : Participant N) :
    Decidable c.Connected := by unfold Connected; infer_instance

instance [Fintype N] (c : Participant N) :
    Decidable c.Settled := by unfold Settled; infer_instance

instance [Fintype N] (c : Participant N) (s : ClientSocket N) :
    Decidable (c.Awaits s) := by
  unfold Awaits; infer_instance

instance [Fintype N] (c : Participant N) (a : ParticipantStep N) :
    Decidable (c.Harmless a) := by
  cases a <;> unfold Harmless <;> infer_instance

/-- As it is when the participant has joined and done nothing yet. -/
structure Started (i : Identity N) (c : Participant N) : Prop where
  messages : ∀ p, c.messages p = []
  actions : c.actions = []
  accepted : c.accepted = []
  handled : c.handled = []
  valid : ∀ session ∈ i.session c.store, session.isValid = .ok ()

end Participant

/-! ## What a message does -/

section Messages

variable {session : CallSession} {actions : List SessionMessage} {msg : SessionMessage}
  {env : Env}

theorem lastAction_concat (kind : SessionMessage → Option Bool) :
    lastAction kind (actions ++ [msg]) = (kind msg).or (lastAction kind actions) := by
  unfold lastAction
  rw [List.filterMap_append, List.getLast?_append]
  cases h : kind msg <;> simp [h]

/-- A message is the last one of its kind, and touches no other. -/
theorem ShowsLast.apply (h : ShowsLast session actions) :
    ShowsLast (msg.apply env session) (actions ++ [msg]) := by
  constructor
  · intro on hon
    rw [lastAction_concat] at hon
    cases msg with
    | mute => exact Option.some.inj hon
    | unmute => exact Option.some.inj hon
    | _ => exact h.unmuted on hon
  · intro on hon
    rw [lastAction_concat] at hon
    cases msg with
    | videoOn => exact Option.some.inj hon
    | videoOff => exact Option.some.inj hon
    | _ => exact h.video on hon
  · intro on hon
    rw [lastAction_concat] at hon
    cases msg with
    | raiseHand =>
        rw [← Option.some.inj hon]
        exact decide_eq_true (Int.ne_of_gt (env.now_pos .raiseHand))
    | unraiseHand => exact Option.some.inj hon
    | _ => exact h.raisedHand on hon

theorem setSession_apply (msg : SessionMessage) (env : Env) (session : CallSession) :
    Store.setSession session (msg.apply env session) = msg.apply env session := by
  cases msg <;> rfl

/-- The row that a message asks for is valid if the row is. -/
theorem isValid_apply (h : session.isValid = .ok ()) :
    (msg.apply env session).isValid = .ok () := by
  rw [CallSession.isValid_ok] at h ⊢
  cases msg <;> exact h

theorem apply_ids (msg : SessionMessage) (env : Env) (session : CallSession) :
    (msg.apply env session).id = session.id ∧
    (msg.apply env session).callID = session.callID := by
  cases msg <;> exact ⟨rfl, rfl⟩

end Messages

namespace Identity

variable {N : Type} {i : Identity N} {s : Store} {session : CallSession} {env : Env}
  {msg : SessionMessage}

theorem session_eq_some : i.session s = some session ↔
    ∃ call, s.getActiveCallByChannelID i.channelID = some call ∧
      session ∈ s.sessions ∧ session.callID = call.id ∧
      session.id = i.originalConnID := by
  unfold Identity.session storedState
  rw [Option.bind_eq_some_iff]
  constructor
  · rintro ⟨st, hst, hfind⟩
    obtain ⟨call, hcall, rfl⟩ := Option.map_eq_some_iff.1 hst
    obtain ⟨hmem, hid⟩ := Table.find?_eq_some.1 hfind
    obtain ⟨hrow, hcallID⟩ := Store.mem_getCallSessions.1 hmem
    exact ⟨call, hcall, hrow, hcallID, hid⟩
  · rintro ⟨call, hcall, hrow, hcallID, hid⟩
    refine ⟨stateOfCall s call, Option.map_eq_some_iff.2 ⟨call, hcall, rfl⟩, ?_⟩
    exact Table.find?_eq_some.2 ⟨Store.mem_getCallSessions.2 ⟨hrow, hcallID⟩, hid⟩

/-- Writing the row of the participant. -/
theorem session_updateCallSession (h : i.session s = some session) :
    i.session (s.updateCallSession (msg.apply env session)) =
    some (msg.apply env session) := by
  obtain ⟨call, hcall, hrow, hcallID, hid⟩ := session_eq_some.1 h
  obtain ⟨hid', hcallID'⟩ := apply_ids msg env session
  refine session_eq_some.2 ⟨call, hcall, ?_, hcallID'.trans hcallID, hid'.trans hid⟩
  refine Store.mem_updateCallSession.2 ⟨session, hrow, ?_⟩
  rw [if_pos hid'.symm, setSession_apply]

/-- A message that is handled changes the row of the participant, if there is one. -/
theorem session_handleClientMsg
    (hvalid : ∀ session ∈ i.session s, session.isValid = .ok ()) :
    i.session (i.handleClientMsg env msg s) = (i.session s).map (msg.apply env) := by
  cases hst : storedState s i.channelID with
  | none =>
      have hnone : i.session s = none := by
        rw [session, hst]
        rfl
      rw [handleClientMsg, hst, hnone]
      exact hnone
  | some st =>
      have hfind : i.session s = st.sessions.find? i.originalConnID := by
        rw [session, hst]
        rfl
      cases hsession : i.session s with
      | none =>
          rw [handleClientMsg, hst]
          unfold sessionMessage
          dsimp only
          rw [← hfind, hsession]
          exact hsession
      | some session =>
          have hok : (msg.apply env session).isValid = .ok () :=
            isValid_apply (hvalid session hsession)
          have hwrite : i.handleClientMsg env msg s =
              s.updateCallSession (msg.apply env session) := by
            rw [handleClientMsg, hst]
            unfold sessionMessage
            dsimp only
            rw [← hfind, hsession]
            simp [StoreOp.exec, hok, publish]
          rw [hwrite]
          exact session_updateCallSession hsession

end Identity

/-! ## Readers -/

section Readers

variable {n : Node}

theorem Node.readers_adjust (connID : String) (f : Session → Session) :
    (n.adjust connID f).readers = n.readers := by
  unfold Node.adjust
  split <;> rfl

theorem readers_handleReconnectEvent (msg : ReconnectMessage) :
    (handleReconnectEvent msg n).2.readers = n.readers := by
  unfold handleReconnectEvent
  split
  · rfl
  · split
    · rfl
    · dsimp only
      split <;> rfl

/-- Reconnecting starts a reader and leaves the others alone. -/
theorem readers_handleReconnect {e : ReconnectEnv} {r : ReconnectRequest}
    {msg : ReconnectMessage} {n' : Node} (hok : handleReconnect e r n = (.ok msg, n')) :
    ∀ x ∈ n.readers, x ∈ n'.readers := by
  obtain ⟨callID, rtc, n₁, hclaim, rfl, -⟩ := handleReconnect_ok hok
  have hreaders : n₁.readers = n.readers := by
    obtain ⟨-, -, rfl⟩ | ⟨x, -, -, -, rfl⟩ := Node.claimSession_ok hclaim
    · rfl
    · rfl
  intro x hx
  rw [← hreaders] at hx
  exact List.mem_cons_of_mem _ hx

end Readers

namespace Participant

variable {N : Type} {i : Identity N} {c c' : Participant N} {n : N} {us : Nat}

/-! ## The invariant -/

/-- Messages go in line from the socket to the reader, each of them has a reader that
will handle it once it is in a queue, and the row shows those that have been handled. -/
structure Sound (i : Identity N) (c : Participant N) : Prop where
  line : Pipeline Place.rank c.actions c.messages c.handled
  wires : ∀ k, c.messages (.wire k) ≠ [] → k < c.sockets.length
  reads : ∀ n us, c.messages (.wsMsgCh n us) ≠ [] ∨
    c.messages (.handling n us) ≠ [] → c.Reads n us
  accepted : ∀ x ∈ c.accepted, x ∈ numbered c.actions
  valid : ∀ session ∈ i.session c.store, session.isValid = .ok ()
  shows : ∀ session ∈ i.session c.store, ShowsLast session (c.handled.map Numbered.item)

theorem Started.sound (h : c.Started i) : c.Sound i := by
  constructor
  case line =>
    rw [h.actions, h.handled]
    exact Pipeline.start h.messages
  case wires => exact fun k hk => absurd (h.messages _) hk
  case reads =>
    exact fun n us hne => hne.elim (absurd (h.messages _)) (absurd (h.messages _))
  case accepted =>
    rw [h.accepted]
    exact fun x hx => absurd hx List.not_mem_nil
  case valid => exact h.valid
  case shows =>
    intro session _
    rw [h.handled]
    constructor <;> exact fun on hon => nomatch hon

/-- A step that moves no message. -/
theorem Sound.frame (h : c.Sound i) (hmessages : c'.messages = c.messages)
    (hstore : c'.store = c.store) (hactions : c'.actions = c.actions)
    (haccepted : c'.accepted = c.accepted) (hhandled : c'.handled = c.handled)
    (hsockets : c.sockets.length ≤ c'.sockets.length)
    (hreads : ∀ n us, c.messages (.wsMsgCh n us) ≠ [] ∨
      c.messages (.handling n us) ≠ [] →
      c.Reads n us → c'.Reads n us) : c'.Sound i := by
  constructor
  case line =>
    rw [hactions, hmessages, hhandled]
    exact h.line
  case wires =>
    rw [hmessages]
    exact fun k hk => Nat.lt_of_lt_of_le (h.wires k hk) hsockets
  case reads =>
    rw [hmessages]
    exact fun n us hne => hreads n us hne (h.reads n us hne)
  case accepted =>
    rw [haccepted, hactions]
    exact h.accepted
  case valid =>
    rw [hstore]
    exact h.valid
  case shows =>
    rw [hstore, hhandled]
    exact h.shows

/-- The row after a message has been handled. -/
theorem Sound.handled_row (h : c.Sound i) {env : Env} (msg : SessionMessage)
    {session : CallSession}
    (hsession : i.session (i.handleClientMsg env msg c.store) = some session) :
    session.isValid = .ok () ∧
    ShowsLast session (c.handled.map Numbered.item ++ [msg]) := by
  rw [Identity.session_handleClientMsg h.valid, Option.map_eq_some_iff] at hsession
  obtain ⟨session', hsession', rfl⟩ := hsession
  exact ⟨isValid_apply (h.valid session' hsession'), (h.shows session' hsession').apply⟩

/-- When no message is left on its way, all that the participant has done has been
handled. -/
theorem Sound.handled_eq (h : c.Sound i) (hsettled : c.Settled) :
    c.handled = numbered c.actions := by
  refine h.line.complete fun p => ?_
  have hread : ∀ n us, c.messages (.wsMsgCh n us) = [] ∧
      c.messages (.handling n us) = [] := by
    intro n us
    by_cases hne : c.messages (.wsMsgCh n us) ≠ [] ∨ c.messages (.handling n us) ≠ []
    · obtain ⟨r, hr, rfl, hreads⟩ := h.reads n us hne
      exact hsettled.2 n r hr hreads
    · rw [not_or, not_not, not_not] at hne
      exact hne
  cases p with
  | wire k =>
      by_contra hne
      exact hne (hsettled.1 k (h.wires k hne))
  | wsMsgCh n us => exact (hread n us).1
  | handling n us => exact (hread n us).2

/-! ## Steps keep it -/

variable [DecidableEq N]

theorem Reads.setNode {node : Node} (h : c.Reads n us) {m : N}
    (hreaders : ∀ x ∈ (c.nodes m).readers, x ∈ node.readers) :
    (c.setNode m node).Reads n us := by
  obtain ⟨r, hr, hus, hreads⟩ := h
  refine ⟨r, ?_, hus, hreads⟩
  show r ∈ (Function.update c.nodes m node n).readers
  by_cases hn : n = m
  · subst hn
    rw [Function.update_self]
    exact hreaders r hr
  · rw [Function.update_of_ne hn]
    exact hr

/-- A step of one node that keeps its readers. -/
theorem Sound.setNode (h : c.Sound i) {node : Node}
    (hreaders : ∀ x ∈ (c.nodes n).readers, x ∈ node.readers) :
    (c.setNode n node).Sound i :=
  h.frame rfl rfl rfl rfl rfl (Nat.le_refl _) fun _ _ _ hr => hr.setNode hreaders

/-- `handleLeave` concerns a reader that no longer reads. -/
theorem Sound.handleLeave (h : c.Sound i) {r : Reader} {exit : LeaveExit}
    (hleaving : (n, r) ∈ c.leaving) : (step i c (.handleLeave n r exit)).Sound i := by
  have hstep : ∃ node : Node, (∀ x ∈ (c.nodes n).readers, x ≠ r → x ∈ node.readers) ∧
      step i c (.handleLeave n r exit) =
        { c with
          nodes := Function.update c.nodes n node
          leaving := c.leaving.erase (n, r) } := by
    cases exit with
    | reconnected =>
        exact ⟨(c.nodes n).handleLeave r,
          fun x hx hne => (List.mem_erase_of_ne hne).2 hx, rfl⟩
    | _ =>
        exact ⟨{ c.nodes n with readers := (c.nodes n).readers.erase r },
          fun x hx hne => (List.mem_erase_of_ne hne).2 hx, rfl⟩
  obtain ⟨node, hreaders, hstep⟩ := hstep
  rw [hstep]
  refine h.frame rfl rfl rfl rfl rfl (Nat.le_refl _) fun n' us _ hr => ?_
  obtain ⟨r', hr', hus, hreads⟩ := hr
  refine ⟨r', ?_, hus, fun hmem => hreads (List.mem_of_mem_erase hmem)⟩
  show r' ∈ (Function.update c.nodes n node n').readers
  by_cases hn : n' = n
  · subst hn
    rw [Function.update_self]
    refine hreaders r' hr' fun heq => hreads ?_
    rw [heq]
    exact hleaving
  · rw [Function.update_of_ne hn]
    exact hr'

theorem Sound.act (h : c.Sound i) {msg : SessionMessage} (hok : c.Harmless (.act msg)) :
    (step i c (.act msg)).Sound i := by
  obtain ⟨⟨s, hs, hopen⟩, harrived⟩ := hok
  have hsend : step i c (.act msg) =
      { c with
        messages :=
          arrive c.messages (.wire (c.sockets.length - 1)) ⟨c.actions.length, msg⟩
        actions := c.actions ++ [msg] } := by
    show { c.send msg with actions := c.actions ++ [msg] } = _
    rw [send, Option.mem_def.1 hs]
    dsimp only
    rw [if_pos hopen]
  have hpos : 0 < c.sockets.length := List.length_pos_of_mem (List.mem_of_getLast? hs)
  rw [hsend]
  constructor
  case line =>
    refine h.line.post msg fun p y hy => ?_
    cases p with
    | wire k =>
        have hk := h.wires k (List.ne_nil_of_mem hy)
        refine .inl (congrArg Place.wire (Nat.le_antisymm (Nat.le_sub_one_of_lt hk) ?_))
        refine Nat.le_of_not_lt fun hlt => ?_
        rw [harrived k hlt] at hy
        cases hy
    | wsMsgCh n us => exact .inr (show 1 < 2 by decide)
    | handling n us => exact .inr (show 0 < 2 by decide)
  case wires =>
    intro k hk
    by_cases heq : k = c.sockets.length - 1
    · show k < c.sockets.length
      omega
    · have hkeep : arrive c.messages (.wire (c.sockets.length - 1)) ⟨c.actions.length,
          msg⟩ (.wire k) = c.messages (.wire k) :=
        arrive_of_ne fun hp => heq (Place.wire.inj hp)
      refine h.wires k ?_
      rw [← hkeep]
      exact hk
  case reads => exact h.reads
  case accepted =>
    intro x hx
    rw [numbered_concat]
    exact List.mem_append_left _ (h.accepted x hx)
  case valid => exact h.valid
  case shows => exact h.shows

theorem Sound.deliver (h : c.Sound i) {socket : Nat}
    (hok : c.Harmless (.deliver socket)) :
    (step i c (.deliver socket)).Sound i := by
  have hstep : step i c (.deliver socket) = match c.sockets[socket]?,
      c.messages (.wire socket) with
      | some s, x :: _ => c.post socket s x
      | _, _ => c := rfl
  rw [hstep]
  split
  next s x rest hs hwire =>
    obtain ⟨slot, hslot, hreads, hroom, hothers⟩ := hok s hs (by simp [hwire])
    have hx : x ∈ c.messages (.wire socket) := by
      rw [hwire]
      exact List.mem_cons_self
    have hqueue : depart c.messages (.wire socket) (.wsMsgCh s.node slot.us) =
        c.messages (.wsMsgCh s.node slot.us) := depart_of_ne (by simp)
    have hpost : c.post socket s x =
        { c with
          messages :=
            arrive (depart c.messages (.wire socket)) (.wsMsgCh s.node slot.us) x
          accepted := c.accepted ++ [x] } := by
      unfold post
      dsimp only
      rw [Option.mem_def.1 hslot]
      dsimp only
      refine if_pos ?_
      show (depart c.messages (.wire socket) (.wsMsgCh s.node slot.us)).length <
        msgChSize * 2
      rw [hqueue]
      exact hroom
    rw [hpost]
    constructor
    case line =>
      refine h.line.move hwire rfl fun p y hy hrank => ?_
      cases p with
      | wire k => cases hrank
      | handling n us => cases hrank
      | wsMsgCh n us =>
          obtain ⟨r, hr, rfl, -⟩ := h.reads n us (.inl (List.ne_nil_of_mem hy))
          by_cases heq : (n, r.us) = (s.node, slot.us)
          · obtain ⟨rfl, hus⟩ := Prod.mk.inj heq
            rw [hus]
          · rw [hothers n r hr heq] at hy
            cases hy
    case wires =>
      intro k hk
      by_cases heq : k = socket
      · rw [heq]
        exact h.wires socket (List.ne_nil_of_mem hx)
      · have hkeep : arrive (depart c.messages (.wire socket)) (.wsMsgCh s.node slot.us)
            x (.wire k) =
            c.messages (.wire k) :=
          arrive_depart_of_ne (fun hp => heq (Place.wire.inj hp)) nofun
        exact h.wires k (hkeep ▸ hk)
    case reads =>
      intro n us hne
      by_cases heq : (Place.wsMsgCh n us) = .wsMsgCh s.node slot.us
      · obtain ⟨rfl, rfl⟩ := Place.wsMsgCh.inj heq
        exact hreads
      · have hqueue' : arrive (depart c.messages (.wire socket))
            (.wsMsgCh s.node slot.us) x (.wsMsgCh n us) = c.messages (.wsMsgCh n us) :=
            arrive_depart_of_ne nofun heq
        have hhands : arrive (depart c.messages (.wire socket))
            (.wsMsgCh s.node slot.us) x (.handling n us) =
            c.messages (.handling n us) := arrive_depart_of_ne nofun nofun
        exact h.reads n us (hqueue' ▸ hhands ▸ hne)
    case accepted =>
      intro y hy
      obtain hy | hy := List.mem_append.1 hy
      · exact h.accepted y hy
      · rw [List.mem_singleton.1 hy]
        exact h.line.sent _ x hx
    case valid => exact h.valid
    case shows => exact h.shows
  next => exact h

theorem Sound.receive (h : c.Sound i) {r : Reader} (hen : c.Enabled i (.receive n r))
    (hok : c.Harmless (.receive n r)) : (step i c (.receive n r)).Sound i := by
  have hstep : step i c (.receive n r) = match c.messages (.wsMsgCh n r.us) with
      | [] => c
      | x :: _ =>
          { c with
            messages :=
              arrive (depart c.messages (.wsMsgCh n r.us)) (.handling n r.us) x } := rfl
  rw [hstep]
  split
  next => exact h
  next x rest hqueue =>
    constructor
    case line =>
      refine h.line.move hqueue rfl fun p y hy hrank => ?_
      cases p with
      | wire k => cases hrank
      | wsMsgCh n us => cases hrank
      | handling n' us =>
          obtain ⟨r', hr', rfl, -⟩ := h.reads n' us (.inr (List.ne_nil_of_mem hy))
          rw [hok n' r' hr'] at hy
          cases hy
    case wires =>
      intro k hk
      have hkeep : arrive (depart c.messages (.wsMsgCh n r.us)) (.handling n r.us) x
          (.wire k) = c.messages (.wire k) := arrive_depart_of_ne nofun nofun
      exact h.wires k (hkeep ▸ hk)
    case reads =>
      intro n' us hne
      by_cases heq : (n', us) = (n, r.us)
      · obtain ⟨rfl, rfl⟩ := Prod.mk.inj heq
        exact ⟨r, hen.1, rfl, hen.2.1⟩
      · have hne' : ¬(n' = n ∧ us = r.us) := fun hand => heq (Prod.ext hand.1 hand.2)
        have hqueue' : arrive (depart c.messages (.wsMsgCh n r.us)) (.handling n r.us) x
            (.wsMsgCh n' us) = c.messages (.wsMsgCh n' us) :=
          arrive_depart_of_ne (fun hp => hne' (Place.wsMsgCh.inj hp)) nofun
        have hhands : arrive (depart c.messages (.wsMsgCh n r.us)) (.handling n r.us) x
            (.handling n' us) = c.messages (.handling n' us) :=
          arrive_depart_of_ne nofun fun hp => hne' (Place.handling.inj hp)
        exact h.reads n' us (hqueue' ▸ hhands ▸ hne)
    case accepted => exact h.accepted
    case valid => exact h.valid
    case shows => exact h.shows

theorem Sound.handle (h : c.Sound i) {r : Reader} {env : Env} {relayed : Bool}
    (hok : c.Harmless (.handle n r env relayed)) :
    (step i c (.handle n r env relayed)).Sound i := by
  have hstep : step i c (.handle n r env relayed) =
      match c.messages (.handling n r.us) with
      | [] => c
      | x :: _ =>
          { c with
            messages := depart c.messages (.handling n r.us)
            store :=
              if x.item.relays ∧ relayed = false then c.store
              else i.handleClientMsg env x.item c.store
            handled := c.handled ++ [x] } := rfl
  have hhead : ∀ x ∈ (c.messages (.handling n r.us)).head?, x.item.relays = true →
      relayed = true :=
    hok
  rw [hstep]
  split
  next => exact h
  next x rest hhands =>
    have hrelayed : ¬(x.item.relays = true ∧ relayed = false) := by
      rintro ⟨hrelays, hfail⟩
      have htold := hhead x (by rw [hhands]; rfl) hrelays
      rw [hfail] at htold
      cases htold
    rw [if_neg hrelayed]
    have hsub : ∀ p, depart c.messages (.handling n r.us) p ≠ [] →
        c.messages p ≠ [] := by
      intro p hp hnil
      obtain ⟨y, hy⟩ := List.exists_mem_of_ne_nil _ hp
      have hold := ((h.line.mem_depart hhands).1 hy).1
      rw [hnil] at hold
      cases hold
    constructor
    case line => exact h.line.finish hhands rfl
    case wires => exact fun k hk => h.wires k (hsub _ hk)
    case reads => exact fun n us hne => h.reads n us (hne.imp (hsub _) (hsub _))
    case accepted => exact h.accepted
    case valid => exact fun session hs => (h.handled_row x.item hs).1
    case shows =>
      intro session hs
      rw [List.map_append]
      exact (h.handled_row x.item hs).2

/-- **Step lemma**: a step that does no harm keeps the invariant. -/
theorem Sound.step (h : c.Sound i) {a : ParticipantStep N} (hen : c.Enabled i a)
    (hok : c.Harmless a) : (step i c a).Sound i := by
  cases a with
  | act msg => exact h.act hok
  | closeSocket =>
      refine h.frame rfl rfl rfl rfl rfl (Nat.le_of_eq ?_) fun _ _ _ hr => hr
      exact (List.length_modify ..).symm
  | openSocket n connID =>
      refine h.frame rfl rfl rfl rfl rfl ?_ fun _ _ _ hr => hr
      show _ ≤ (c.sockets ++ [_]).length
      rw [List.length_append]
      exact Nat.le_add_right _ _
  | lose socket =>
      have hnone : Function.update c.messages (.wire socket) [] = c.messages :=
        Function.update_eq_self_iff.2 (Eq.symm hok)
      exact h.frame hnone rfl rfl rfl rfl (Nat.le_refl _) fun _ _ _ hr => hr
  | deliver socket => exact h.deliver hok
  | reconnect socket e prevConnID =>
      have hstep : Participant.step i c (.reconnect socket e prevConnID) =
          match c.sockets[socket]? with
          | none => c
          | some s =>
              match handleReconnect e ⟨i.userID, s.connID, i.channelID,
                i.originalConnID, prevConnID⟩ (c.nodes s.node) with
              | (.error _, _) => c
              | (.ok msg, node) =>
                  { c.setNode s.node node with
                    inFlight :=
                      c.inFlight ++ (i.peers.filter (· ≠ s.node)).map (·, msg) } := rfl
      rw [hstep]
      split
      next => exact h
      next s _ =>
        split
        next => exact h
        next msg node hres =>
          exact (h.setNode (readers_handleReconnect hres)).frame rfl rfl rfl rfl rfl
            (Nat.le_refl _) fun _ _ _ hr => hr
  | reconnectEvent n msg =>
      have hreaders : ∀ x ∈ (c.nodes n).readers,
          x ∈ (handleReconnectEvent msg (c.nodes n)).2.readers := by
        rw [readers_handleReconnectEvent]
        exact fun x hx => hx
      exact (h.setNode hreaders).frame rfl rfl rfl rfl rfl (Nat.le_refl _)
        fun _ _ _ hr => hr
  | disconnect n connID =>
      refine h.setNode fun x hx => ?_
      rw [Node.onWebSocketDisconnect, Node.readers_adjust]
      exact hx
  | leave n connID =>
      refine h.setNode fun x hx => ?_
      rw [Node.handleLeaveEvent, Node.readers_adjust]
      exact hx
  | closeRTC n us => exact h.setNode fun x hx => hx
  | receive n r => exact h.receive hen hok
  | handle n r env relayed => exact h.handle hok
  | stopReading n r revoked =>
      refine h.frame rfl rfl rfl rfl rfl (Nat.le_refl _) fun n' us hne hr => ?_
      obtain ⟨r', hr', rfl, hreads⟩ := hr
      refine ⟨r', hr', rfl, fun hmem => ?_⟩
      obtain heq | hold := List.mem_cons.1 hmem
      · obtain ⟨rfl, rfl⟩ := Prod.mk.inj heq
        exact hne.elim (absurd hok) (absurd hen.2.2.1)
      · exact hreads hold
  | handleLeave n r exit => exact h.handleLeave hen.1
  | forget n connID => exact h.setNode fun x hx => hx
  | others s =>
      have hsub : ∀ session ∈ i.session s, session ∈ i.session c.store := by
        intro session hs
        obtain heq | hnone := hen
        · exact heq ▸ hs
        · exact absurd (hnone ▸ hs) nofun
      exact ⟨h.line, h.wires, h.reads, h.accepted,
        fun session hs => h.valid session (hsub session hs),
        fun session hs => h.shows session (hsub session hs)⟩

/-- **The last action wins.**  In every run whose steps do no harm the messages of a
participant are handled once each in the order in which they were sent, whatever sockets
and sessions they go through, and when none is left the session is as the last action of
each kind has it. -/
theorem lastActionWins_of_runs {c₀ : Participant N} (h₀ : c₀.Started i)
    (hr : (machine i).Runs Harmless c₀ c) : c.Right i := by
  have hsound : c.Sound i := hr.inv h₀.sound fun _ _ hen hok h => h.step hen hok
  constructor
  case lastWins =>
    intro _ hsettled session hsession
    have hshows := hsound.shows session hsession
    rw [hsound.handled_eq hsettled, items_numbered] at hshows
    exact hshows
  case inOrder => exact pairwise_numbered.sublist hsound.line.inOrder.sublist
  case allHandled =>
    intro hsettled x hx
    rw [hsound.handled_eq hsettled]
    exact hsound.accepted x hx

/-! ## Runs on fixed actions -/

/-- Alice, who has joined on the only node. -/
def alice : Identity Unit := ⟨"alice", "chan", "s1", [()]⟩

/-- She has done nothing yet. -/
def aliceIdle : Participant Unit where
  nodes _ := emptyNode.handleJoin "alice" "s1" "chan" sampleCall.id true
  inFlight := []
  leaving := []
  sockets := [⟨(), "s1", true⟩]
  messages _ := []
  store := sampleStore
  actions := []
  accepted := []
  handled := []

theorem aliceIdle_started : aliceIdle.Started alice where
  messages _ := rfl
  actions := rfl
  accepted := rfl
  handled := rfl
  valid := by decide

/-- Her call is found when she reconnects. -/
def aliceFound : ReconnectEnv where
  hasPermission := true
  isBot := false
  state := .ok (some sampleState)
  handleBotWSReconnect := .ok ()

/-- The readers of her first and of her second session. -/
def reader₁ : Reader := ⟨"s1", 0⟩

def reader₂ : Reader := ⟨"c1", 1⟩

/-- She unmutes, her socket is replaced, and she mutes. -/
theorem lastActionWins_muted :
    ∃ c : Participant Unit,
      (c.actions, (alice.session c.store).map CallSession.unmuted) =
      ([.unmute, .mute], some false) ∧ (c.Connected ∧ c.Settled) ∧ c.Right alice := by
  have hrun : ∃ c, (machine alice).Runs Harmless aliceIdle c ∧
      (c.actions, (alice.session c.store).map CallSession.unmuted,
        decide (c.Connected ∧ c.Settled)) =
        ([.unmute, .mute], some false, true) :=
    Machine.Runs.exists_of_leads (fun _ _ h => of_decide_eq_true h)
      (show ((machine alice).leads (fun c a => decide (c.Harmless a)) aliceIdle
        [.act .unmute,
        .deliver 0, .receive () reader₁, .handle () reader₁ (.sample 20) true,
        .closeSocket,
        .disconnect () "s1", .openSocket () "c1", .reconnect 1 aliceFound "s1",
        .stopReading () reader₁ false, .handleLeave () reader₁ .reconnected, .act .mute,
        .deliver 1,
        .receive () reader₂, .handle () reader₂ (.sample 30) true]).map (fun c =>
          (c.actions, (alice.session c.store).map CallSession.unmuted,
            decide (c.Connected ∧ c.Settled))) =
              some ([.unmute, .mute], some false, true) by decide)
  obtain ⟨c, hc, hres⟩ := hrun
  obtain ⟨hactions, hrest⟩ := Prod.mk.inj hres
  obtain ⟨hunmuted, hquiet⟩ := Prod.mk.inj hrest
  exact ⟨c, Prod.ext hactions hunmuted, of_decide_eq_true hquiet,
    lastActionWins_of_runs aliceIdle_started hc⟩

/-- A message sent while the client has no open socket is dropped; one in the queue of a
session whose reader returns is never handled; and one that an old reader is still
handling is applied after one of the new reader. -/
theorem lastAction_lost :
    (∃ c : Participant Unit, (machine alice).Runs Machine.Always aliceIdle c ∧
      (c.Connected ∧ c.Settled) ∧ ¬ ∀ session ∈ alice.session c.store,
        ShowsLast session c.actions) ∧
    (∃ c : Participant Unit, (machine alice).Runs Machine.Always aliceIdle c ∧
      (c.Connected ∧ c.Settled) ∧ ¬ ∀ x ∈ c.accepted, x ∈ c.handled) ∧
    ∃ c : Participant Unit, (machine alice).Runs Machine.Always aliceIdle c ∧
      (c.Connected ∧ c.Settled) ∧ ¬ c.handled.Pairwise fun x y => x.no < y.no := by
  have hrun : ∀ {β : Type} (f : Participant Unit → β) (l : List (ParticipantStep Unit))
      (y : β), ((machine alice).leads (fun _ _ => true) aliceIdle l).map f = some y →
        ∃ c, (machine alice).Runs Machine.Always aliceIdle c ∧ f c = y := fun f l y h =>
    Machine.Runs.exists_of_leads (fun b a _ => (trivial : Machine.Always b a)) h
  obtain ⟨c₁, hc₁, hres₁⟩ := hrun
    (fun c => (decide (c.Connected ∧ c.Settled), c.actions, alice.session c.store))
    [.act .unmute, .deliver 0, .receive () reader₁,
      .handle () reader₁ (.sample 20) true,
      .closeSocket, .act .mute, .disconnect () "s1", .openSocket () "c1",
      .reconnect 1 aliceFound "s1", .stopReading () reader₁ false,
      .handleLeave () reader₁ .reconnected]
    (true, [.unmute, .mute], some { sampleSession with unmuted := true }) (by decide)
  obtain ⟨c₂, hc₂, hres₂⟩ := hrun
    (fun c => (decide (c.Connected ∧ c.Settled),
      decide (∀ x ∈ c.accepted, x ∈ c.handled)))
    [.act .unmute, .deliver 0, .closeSocket, .disconnect () "s1",
      .stopReading () reader₁ false, .openSocket () "c1", .reconnect 1 aliceFound "s1",
      .handleLeave () reader₁ .reconnected] (true, false) (by decide)
  obtain ⟨c₃, hc₃, hres₃⟩ := hrun
    (fun c => (decide (c.Connected ∧ c.Settled), c.handled.map Numbered.no))
    [.act .unmute, .deliver 0, .receive () reader₁, .closeSocket, .openSocket () "c1",
      .reconnect 1 aliceFound "s1", .act .mute, .deliver 1, .receive () reader₂,
      .handle () reader₂ (.sample 30) true, .handle () reader₁ (.sample 40) true]
        (true, [1, 0])
    (by decide)
  refine ⟨⟨c₁, hc₁, of_decide_eq_true (congrArg Prod.fst hres₁), fun hshows => ?_⟩,
    ⟨c₂, hc₂, of_decide_eq_true (congrArg Prod.fst hres₂),
      of_decide_eq_false (congrArg Prod.snd hres₂)⟩,
    ⟨c₃, hc₃, of_decide_eq_true (congrArg Prod.fst hres₃), fun hpair => ?_⟩⟩
  · have hactions : c₁.actions = [.unmute, .mute] := congrArg (fun res => res.2.1) hres₁
    have hsession : alice.session c₁.store =
        some { sampleSession with unmuted := true } :=
      congrArg (fun res => res.2.2) hres₁
    have hunmuted := (hshows _ hsession).unmuted false (by rw [hactions]; rfl)
    cases hunmuted
  · have hsorted : (c₃.handled.map Numbered.no).Pairwise (· < ·) :=
      List.pairwise_map.2 hpair
    rw [show c₃.handled.map Numbered.no =
      [1, 0] from congrArg Prod.snd hres₃] at hsorted
    exact absurd hsorted (by decide)

end Participant

end CallsPlugin.Ports
