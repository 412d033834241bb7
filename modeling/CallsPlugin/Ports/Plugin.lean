import CallsPlugin.Verified.Monitor
import CallsPlugin.Ports.Db

/-!
# The plugin's environment

What a handler can do besides computing: call the store, run or stop an
offloaded job, update the call's post, publish an event, and take or release
the lock of the call's channel (`server/sync.go`).  `Op` names these and
`exec` gives their outcome under a `Choice`, which settles what the plugin
does not control: whether a store call fails, and what the job service
answers.

Settings that stay fixed during one invocation are `Plugin`, what the
invocation reads from outside (clock, fresh ids, the answers of the server's
API) is `Env`.
-/

namespace CallsPlugin.Ports

open CallsPlugin.Verified
open CallsPlugin.Ports.Public CallsPlugin.Ports.Db

/-! ## Published events -/

/-- `JobStateClient` -/
structure JobStateClient where
  type : JobType
  initAt : Int
  startAt : Int
  endAt : Int
  err : String
  deriving DecidableEq, Repr

/-- `UserStateClient` -/
structure UserStateClient where
  sessionID : String
  userID : String
  unmuted : Bool
  raisedHand : Int
  video : Bool
  deriving DecidableEq, Repr

/-- `CallStateClient` -/
structure CallStateClient where
  id : String
  startAt : Int
  sessions : List UserStateClient
  threadID : String
  postID : String
  screenSharingSessionID : String
  ownerID : String
  hostID : String
  recording : Option JobStateClient
  transcription : Option JobStateClient
  liveCaptions : Option JobStateClient
  dismissedNotification : Bool
  deriving DecidableEq, Repr

/-- The events the modelled handlers publish, with their payload.  The screen
event carries no session when it announces that the sharer has left. -/
inductive WsEvent where
  | userJoined (userID sessionID : String)
  | userLeft (userID sessionID : String)
  | userScreenOn (userID sessionID : String)
  | userScreenOff (sharer : Option (String × String))
  | userVideoOn (userID sessionID : String)
  | userVideoOff (userID sessionID : String)
  | userMuted (userID sessionID : String)
  | userUnmuted (userID sessionID : String)
  | userRaiseHand (userID sessionID : String) (raisedHand : Int)
  | userUnraiseHand (userID sessionID : String) (raisedHand : Int)
  | callStart (id channelID : String) (startAt : Int)
      (threadID postID ownerID hostID : String)
  | callState (channelID : String) (call : CallStateClient)
  | callEnd
  | callHostChanged (hostID callID : String)
  | callJobState (callID : String) (jobState : JobStateClient)
  | userDismissedNotification (userID callID : String)
  | join (connID : String)
  | error (data connID : String)
  deriving DecidableEq, Repr

/-- `WebSocketBroadcast` -/
structure WebSocketBroadcast where
  channelID : String := ""
  userID : String := ""
  connectionID : String := ""
  reliableClusterSend : Bool := false
  userIDs : List String := []
  deriving DecidableEq, Repr

/-! ## Operations -/

/-- Places of the handlers at which their fate is settled; passing one has no
effect. -/
inductive Point where
  /-- a join or a leave returns because a store call failed -/
  | gaveUp
  /-- a start timed out: the bot of the job has not joined -/
  | startTimedOut (type : JobType) (callID : String)
  /-- the bot reported that its job has failed -/
  | jobFailed (type : JobType) (callID : String)
  /-- the job service refused to run the job; `liveCaptions` tells whether the
  handler also ends the captioning job -/
  | runJobFailed (type : JobType) (callID : String) (liveCaptions : Bool)
  /-- a screen message is stored, and returns because the node that handles the call
  could not be told: no event is published -/
  | untold
  deriving DecidableEq, Repr

/-- What a handler can ask of its environment. -/
inductive Op where
  | store (o : StoreOp)
  | runJob (type : JobType) (callID postID jobID : String)
  | stopJob (channelID jobID botUserID botConnID : String)
  | updateCallPostEnded (postID : String) (participants : List String)
  | publish (ev : WsEvent) (broadcast : WebSocketBroadcast)
  | sendEphemeralPost (userID channelID message : String)
  | reach (p : Point)
  deriving DecidableEq

/-- The answer to an operation. -/
@[reducible]
def Op.Resp : Op → Type
  | .store o => Except String o.Result
  | .runJob _ _ _ _ => Except String String
  | .stopJob _ _ _ _ => Except String Unit
  | .updateCallPostEnded _ _ => Unit
  | .publish _ _ => Unit
  | .sendEphemeralPost _ _ _ => Unit
  | .reach _ => Unit

/-- What a handler does without touching the lock. -/
abbrev Body := Code Op Op.Resp

/-- Handler code. -/
abbrev P := Prog Op Op.Resp

/-- What the environment decides about one operation. -/
structure Choice where
  storeFails : Bool
  runJob : Except String String
  deriving Repr

/-- The choice under which everything works. -/
def Choice.works : Choice := ⟨false, .ok "job"⟩

/-- A store call, which fails without effect if the database fails it. -/
def attempt (fails : Bool) (s : Store) (o : StoreOp) : Except String o.Result × Store :=
  if fails then (.error "failed to run query", s) else o.exec s

/-- The outcome of an operation. -/
def exec (c : Choice) (s : Store) : (o : Op) → o.Resp × Store
  | .store o => attempt c.storeFails s o
  | .runJob _ _ _ _ => (c.runJob, s)
  | .stopJob channelID jobID botUserID _ =>
      (if channelID = "" then .error "channelID should not be empty"
       else if jobID = "" then .error "jobID should not be empty"
       else if botUserID = "" then .error "botUserID should not be empty"
       else .ok (), s)
  | .updateCallPostEnded _ _ => ((), s)
  | .publish _ _ => ((), s)
  | .sendEphemeralPost _ _ _ => ((), s)
  | .reach _ => ((), s)

@[simp] theorem attempt_false (s : Store) (o : StoreOp) :
    attempt false s o = o.exec s := rfl

@[simp] theorem attempt_true (s : Store) (o : StoreOp) :
    attempt true s o = (.error "failed to run query", s) := rfl

theorem attempt_read {o : StoreOp} (ho : o.isWrite = false) (fails : Bool) (s : Store) :
    (attempt fails s o).2 = s := by
  unfold attempt
  split
  · rfl
  · exact StoreOp.exec_read ho s

section Exec

variable (c : Choice) (s : Store)

@[simp] theorem exec_store (o : StoreOp) :
    exec c s (.store o) = attempt c.storeFails s o := rfl

@[simp] theorem exec_runJob (type : JobType) (callID postID jobID : String) :
    exec c s (.runJob type callID postID jobID) = (c.runJob, s) := rfl

@[simp] theorem exec_updateCallPostEnded (postID : String)
    (participants : List String) :
    exec c s (.updateCallPostEnded postID participants) = ((), s) := rfl

@[simp] theorem exec_publish (ev : WsEvent) (broadcast : WebSocketBroadcast) :
    exec c s (.publish ev broadcast) = ((), s) := rfl

@[simp] theorem exec_sendEphemeralPost (userID channelID message : String) :
    exec c s (.sendEphemeralPost userID channelID message) = ((), s) := rfl

@[simp] theorem exec_reach (p : Point) : exec c s (.reach p) = ((), s) := rfl

/-- Stopping a job leaves the store alone. -/
@[simp] theorem exec_stopJob_snd (channelID jobID botUserID botConnID : String) :
    (exec c s (.stopJob channelID jobID botUserID botConnID)).2 = s := rfl

end Exec

@[simp] theorem works_storeFails : Choice.works.storeFails = false := rfl

/-- Call the store. -/
@[simp]
def store (o : StoreOp) : Body (Except String o.Result) := Code.perform (Op.store o)

/-- `publishWebSocketEvent` -/
@[simp]
def publish (ev : WsEvent) (broadcast : WebSocketBroadcast) : Body Unit :=
  Code.perform (Op.publish ev broadcast)

/-- `API.SendEphemeralPost`, posted by the bot. -/
@[simp]
def sendEphemeralPost (userID channelID message : String) : Body Unit :=
  Code.perform (Op.sendEphemeralPost userID channelID message)

/-- `jobService.StopJob` -/
@[simp]
def stopJob (channelID jobID botUserID botConnID : String) :
    Body (Except String Unit) :=
  Code.perform (Op.stopJob channelID jobID botUserID botConnID)

/-- `jobService.RunJob`, a request to the job service. -/
@[simp]
def runJob (type : JobType) (callID postID jobID : String) :
    Body (Except String String) :=
  Code.perform (Op.runJob type callID postID jobID)

/-- `updateCallPostEnded`, whose error is only logged. -/
@[simp]
def updateCallPostEnded (postID : String) (participants : List String) : Body Unit :=
  Code.perform (Op.updateCallPostEnded postID participants)

/-- Pass a `Point`. -/
@[simp]
def reach (p : Point) : Body Unit := Code.perform (Op.reach p)

/-- A write that an operation cannot go on without, and the text before its error. -/
structure Write where
  op : StoreOp
  what : String

/-- Make such a write. -/
def write (w : Write) : Body (Except String Unit) := do
  match ← store w.op with
  | .error e =>
      reach .gaveUp
      return .error (w.what ++ e)
  | .ok _ => return .ok ()

/-- Writing a job. -/
def jobWrite (job : CallJob) : Write :=
  ⟨.updateCallJob job, "failed to update call job: "⟩

/-- `lockCall` on the channel's lock: whether it was obtained. -/
def lockCall : P Bool := .lock .ret

/-- `unlockCall` on the channel's lock. -/
def unlockCall : P Unit := .unlock (.ret ())

/-! ## Settings and readings -/

/-- The licence, configuration and deployment settings the handlers read. -/
structure Plugin where
  botID : String
  nodeID : String
  /-- `rtcdManager` is set -/
  rtcd : Bool
  groupCallsAllowed : Bool
  isSysadmin : String → Bool
  defaultEnabled : Option Bool
  maxCallParticipants : Option Int
  allowScreenSharing : Option Bool
  enableRecordings : Option Bool
  enableTranscriptions : Option Bool
  enableLiveCaptions : Option Bool

namespace Plugin

/-- `configuration.recordingsEnabled` -/
def recordingsEnabled (p : Plugin) : Bool := p.enableRecordings = some true

/-- `configuration.transcriptionsEnabled` -/
def transcriptionsEnabled (p : Plugin) : Bool :=
  p.recordingsEnabled && p.enableTranscriptions = some true

/-- `configuration.liveCaptionsEnabled` -/
def liveCaptionsEnabled (p : Plugin) : Bool :=
  p.recordingsEnabled && p.transcriptionsEnabled && p.enableLiveCaptions = some true

end Plugin

/-- The places where an invocation reads the clock. -/
inductive Site where
  | callCreate
  | callStart
  | joinAt
  | screenOn
  | screenOff
  | raiseHand
  | callEnd
  | recordingInit
  | transcribingInit
  | captioningInit
  | recordingEnd
  | transcribingEnd
  | captioningEnd
  | jobStart
  | captioningStart
  deriving DecidableEq, Repr

/-- What one invocation reads from outside: the clock (`time.Now().UnixMilli()`,
after the epoch), fresh ids, the RTCD host for a new call, the post of a new
call, whether an RTC session can be opened, whether RTCD has ended a call, and the
orders in which it walks the maps of sessions and of jobs. -/
structure Env where
  now : Site → Int
  now_pos : ∀ s, 0 < now s
  newID : String
  newJobID : JobType → String
  newHost : Except String String
  startedPost : Except String (String × String)
  /-- the RTC session of a join is opened: on RTCD, on this node or, by a message, on
  the node that handles the call -/
  opensRTC : Bool
  /-- `sendClusterMessage` of a screen message, where another node handles the call; the
  errors of this node's own RTC server are only logged -/
  sendClusterMessage : Except String Unit
  /-- `rtcdManager.hasCallEnded` -/
  hasCallEnded : Call → Bool
  iter : List CallSession → List CallSession
  iter_perm : ∀ l, (iter l).Perm l
  iterJobs : List CallJob → List CallJob
  iterJobs_perm : ∀ l, (iterJobs l).Perm l

/-- `secondsSinceTimestamp` of `ts` (seconds) at the reading `now`: rounded to
the nearest second, halves away from zero. -/
def secondsSinceTimestamp (now ts : Int) : Int :=
  let d := now - ts * 1000
  if 0 ≤ d then (d + 500) / 1000 else -((500 - d) / 1000)

example : secondsSinceTimestamp 12500 10 = 3 := by decide

/-! ## Sample settings and rows

One deployment and one ongoing call, on which the concrete runs of this
development start. -/

/-- Every feature on and no limit. -/
def Plugin.sample : Plugin where
  botID := "bot"
  nodeID := "node"
  rtcd := false
  groupCallsAllowed := true
  isSysadmin _ := false
  defaultEnabled := some true
  maxCallParticipants := none
  allowScreenSharing := some true
  enableRecordings := some true
  enableTranscriptions := some true
  enableLiveCaptions := some true

/-- Readings at the time `at_`. -/
def Env.sample (at_ : Int) (h : decide (0 < at_) = true := by exact Eq.refl true) :
    Env where
  now _ := at_
  now_pos _ := of_decide_eq_true h
  newID := "call"
  newJobID
    | .recording => "rec"
    | .transcribing => "tr"
    | .captioning => "lc"
  newHost := .ok ""
  startedPost := .ok ("post", "")
  opensRTC := true
  sendClusterMessage := .ok ()
  hasCallEnded _ := true
  iter l := l
  iter_perm l := .refl l
  iterJobs l := l
  iterJobs_perm l := .refl l

/-- An ongoing call with one participant, who hosts it. -/
def sampleCall : Call where
  id := "call"
  channelID := "chan"
  startAt := 10
  endAt := 0
  createAt := 10
  deleteAt := 0
  title := ""
  postID := "post"
  threadID := ""
  ownerID := "alice"
  participants := []
  stats := ⟨0⟩
  props := ⟨["alice"], "", "", [], 0, "node", ["alice"], ""⟩

/-- The participant's session. -/
def sampleSession : CallSession := ⟨"s1", "call", "alice", 10, false, 0, false⟩

/-- The store before any call. -/
def emptyStore : Store := ⟨.empty, .empty, .empty⟩

/-- The store with that call and session. -/
def sampleStore : Store where
  calls := ⟨[sampleCall], by decide⟩
  sessions := ⟨[sampleSession], by decide⟩
  jobs := .empty

end CallsPlugin.Ports
