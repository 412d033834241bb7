import CallsPlugin.Ports.Plugin

/-!
# Call state (`server/state.go`, `server/sync.go`)

The in-memory state of a call, how it is read from the store, and how a call
is ended.  The pointers of the source become values: code that mutates a state
through a pointer returns the state it leaves, and `Clone` is the identity.
-/

namespace CallsPlugin.Ports

open CallsPlugin.Verified
open CallsPlugin.Ports.Public CallsPlugin.Ports.Db

/-- `callState` -/
structure CallState where
  call : Call
  sessions : Table CallSession.id
  recording : Option CallJob
  transcription : Option CallJob
  liveCaptions : Option CallJob
  deriving DecidableEq

/-- `getClientStateFromCallJob` -/
def getClientStateFromCallJob (job : CallJob) : JobStateClient :=
  ⟨job.type, job.initAt, job.startAt, job.endAt, job.props.err⟩

/-- `getUserIDsFromSessions`, each user once. -/
def getUserIDsFromSessions (env : Env) (sessions : Table CallSession.id) :
    List String :=
  ((env.iter sessions.rows).map CallSession.userID).reverse.dedup.reverse

/-- The loop of `getHostID`: `hostUserID` and `hostJoinAt` are the earliest
candidate so far, with an empty id for none. -/
def hostLoop (botID currentHostID : String) :
    List CallSession → (hostUserID : String) → (hostJoinAt : Int) → String
  | [], hostUserID, _ => hostUserID
  | session :: rest, hostUserID, hostJoinAt =>
      if session.userID = currentHostID then currentHostID
      else if session.userID = botID then
        hostLoop botID currentHostID rest hostUserID hostJoinAt
      else if hostUserID = "" then
        hostLoop botID currentHostID rest session.userID session.joinAt
      else if session.joinAt < hostJoinAt then
        hostLoop botID currentHostID rest session.userID session.joinAt
      else hostLoop botID currentHostID rest hostUserID hostJoinAt

namespace CallState

/-- `callState.isUserIDInCall` -/
def isUserIDInCall (cs : CallState) (userID : String) : Bool :=
  cs.sessions.rows.any fun session => session.userID = userID

/-- `callState.getHostID` -/
def getHostID (env : Env) (cs : CallState) (botID : String) : String :=
  if cs.call.props.hostLockedUserID ≠ "" ∧
    cs.isUserIDInCall cs.call.props.hostLockedUserID
  then cs.call.props.hostLockedUserID
  else hostLoop botID cs.call.getHostID (env.iter cs.sessions.rows) "" 0

/-- `callState.onlyUserLeft` -/
def onlyUserLeft (cs : CallState) (userID : String) : Bool :=
  cs.sessions.rows ≠ [] && cs.sessions.rows.all fun session => session.userID = userID

/-- `callState.getStates`: the bot is not shown to clients. -/
def getStates (env : Env) (cs : CallState) (botID : String) : List UserStateClient :=
  ((env.iter cs.sessions.rows).filter fun session => session.userID ≠ botID).map
    fun session =>
      ⟨session.id, session.userID, session.unmuted, session.raisedHand, session.video⟩

/-- `callState.getClientState` -/
def getClientState (env : Env) (cs : CallState) (botID userID : String) :
    CallStateClient where
  id := cs.call.id
  startAt := cs.call.startAt
  sessions := cs.getStates env botID
  threadID := cs.call.threadID
  postID := cs.call.postID
  screenSharingSessionID := cs.call.props.screenSharingSessionID
  ownerID := cs.call.ownerID
  hostID := cs.call.getHostID
  recording := cs.recording.map getClientStateFromCallJob
  transcription := cs.transcription.map getClientStateFromCallJob
  liveCaptions := cs.liveCaptions.map getClientStateFromCallJob
  dismissedNotification := userID ∈ cs.call.props.dismissedNotification

/-- The audience of the events that only concern those in the call. -/
def audience (env : Env) (cs : CallState) (channelID : String) :
    WebSocketBroadcast where
  channelID := channelID
  reliableClusterSend := true
  userIDs := getUserIDsFromSessions env cs.sessions

end CallState

/-- The audience of the events that concern the whole channel. -/
def wholeChannel (channelID : String) : WebSocketBroadcast where
  channelID := channelID
  reliableClusterSend := true

/-! ## Reading the state -/

/-- `getCallStateFromCall` -/
def getCallStateFromCall (call : Call) : Body (Except String CallState) := do
  match ← store (.getCallSessions call.id) with
  | .error e => return .error ("failed to get call sessions: " ++ e)
  | .ok sessions =>
      match ← store (.getActiveCallJobs call.id) with
      | .error e => return .error ("failed to get call jobs: " ++ e)
      | .ok jobs =>
          return .ok ⟨call, sessions, jobs .recording, jobs .transcribing,
            jobs .captioning⟩

/-- `getCallState`; no state means that no call is ongoing. -/
def getCallState (channelID : String) : Body (Except String (Option CallState)) := do
  match ← store (.getActiveCallByChannelID channelID) with
  | .error e => return .error ("failed to get active call: " ++ e)
  | .ok none => return .ok none
  | .ok (some call) =>
      match ← getCallStateFromCall call with
      | .error e => return .error e
      | .ok state => return .ok (some state)

/-- The state of a call as the store has it. -/
def stateOfCall (s : Store) (call : Call) : CallState :=
  ⟨call, s.getCallSessions call.id, s.getActiveCallJobs call.id .recording,
    s.getActiveCallJobs call.id .transcribing, s.getActiveCallJobs call.id .captioning⟩

/-- The state of the ongoing call of a channel as the store has it. -/
def storedState (s : Store) (channelID : String) : Option CallState :=
  (s.getActiveCallByChannelID channelID).map (stateOfCall s)

section Stored

variable {s : Store} {channelID : String} {st : CallState}

/-- The call that is read is an active one of the channel. -/
theorem storedState_active (h : storedState s channelID = some st) :
    st.call ∈ s.calls ∧ st.call.channelID = channelID ∧ Active st.call := by
  obtain ⟨call, hget, rfl⟩ := Option.map_eq_some_iff.1 h
  exact Store.getActiveCallByChannelID_eq_some hget

/-- The call in memory is its row. -/
theorem storedState_row (h : storedState s channelID = some st) {c : Call}
    (hc : c ∈ s.calls) (hid : c.id = st.call.id) : c = st.call :=
  s.calls.eq_of_key_eq hc (storedState_active h).1 hid

/-- The sessions in memory are those of the call. -/
theorem mem_storedState_sessions (h : storedState s channelID = some st)
    {r : CallSession} :
    r ∈ st.sessions ↔ r ∈ s.sessions ∧ r.callID = st.call.id := by
  obtain ⟨call, -, rfl⟩ := Option.map_eq_some_iff.1 h
  exact Store.mem_getCallSessions

end Stored

/-- The state of the sample call. -/
def sampleState : CallState := stateOfCall sampleStore sampleCall

/-- `lockCallReturnState`; an error means that the lock is not held. -/
def lockCallReturnState (channelID : String) :
    P (Except String (Option CallState)) := do
  if ← lockCall then
    match ← getCallState channelID with
    | .error e =>
        unlockCall
        return .error ("failed to get call state: " ++ e)
    | .ok state => return .ok state
  else return .error "failed to create call lock: failed to lock"

/-- A handler body between `lockCallReturnState` and the deferred `unlockCall`. -/
def withLock {α : Type} (channelID : String) (body : Option CallState → P α) :
    P (Except String α) := do
  match ← lockCallReturnState channelID with
  | .error e => return .error ("failed to lock call: " ++ e)
  | .ok state =>
      let res ← body state
      unlockCall
      return .ok res

/-- A handler whose body leaves the lock alone. -/
def underLock {α : Type} (channelID : String) (body : Option CallState → Body α) :
    P (Except String α) :=
  withLock channelID fun state => Prog.lift (body state)

/-! ## Ending a call -/

/-- `setCallEnded` -/
def setCallEnded (env : Env) (call : Call) : Call :=
  { call with
    endAt := env.now .callEnd
    participants := call.props.participants
    props := { call.props with
      rtcdHost := ""
      dismissedNotification := []
      nodeID := ""
      hosts := []
      participants := [] } }

/-- The loop of `cleanCallState` over the active jobs of the call. -/
def endJobs (env : Env) (call : Call) : List CallJob → Body Unit
  | [] => .ret ()
  | job :: rest => do
      if job.endAt = 0 then
        let job := { job with endAt := env.now .callEnd }
        let _ ← store (.updateCallJob job)
        if job.type = .recording then
          publish (.callJobState call.channelID (getClientStateFromCallJob job))
            (wholeChannel call.channelID)
      endJobs env call rest

/-- `cleanCallState` of a call that was found.  Failures are logged, that of
the last write is returned. -/
def cleanCallState (env : Env) (call : Call) : Body (Except String Unit) := do
  updateCallPostEnded call.postID call.props.participants
  let call := if call.endAt = 0 then setCallEnded env call else call
  let _ ← store (.deleteCallsSessions call.id)
  match ← store (.getActiveCallJobs call.id) with
  | .error _ => pure ()
  | .ok jobs =>
      endJobs env call (env.iterJobs
        ([JobType.recording, JobType.transcribing, JobType.captioning].filterMap jobs))
  store (.updateCall call)

/-- The body of the loop of `cleanUpState`, for one call read before. -/
def cleanUpCall (p : Plugin) (env : Env) (call : Call) : P (Except String Unit) := do
  if ← lockCall then
    if p.rtcd ∧ call.props.rtcdHost ≠ "" ∧ env.hasCallEnded call = false then
      unlockCall
      return .ok ()
    else
      match ← cleanCallState env call with
      | .error e =>
          unlockCall
          return .error ("failed to clean up state: " ++ e)
      | .ok _ =>
          unlockCall
          return .ok ()
  else return .ok ()

/-- The loop of `cleanUpState`; the first error ends it. -/
def cleanUpCalls (p : Plugin) (env : Env) : List Call → P (Except String Unit)
  | [] => .ret (.ok ())
  | call :: rest => do
      match ← cleanUpCall p env call with
      | .error e => return .error e
      | .ok _ => cleanUpCalls p env rest

/-- `cleanUpState` as one channel sees it: the calls are read before any lock is
taken, and those of other channels are handled under other locks. -/
def cleanUpState (p : Plugin) (env : Env) (channelID : String) :
    P (Except String Unit) := do
  match ← store .getAllActiveCalls with
  | .error e => return .error ("failed to get all active calls: " ++ e)
  | .ok calls =>
      cleanUpCalls p env (calls.filter fun call => call.channelID = channelID)

end CallsPlugin.Ports
