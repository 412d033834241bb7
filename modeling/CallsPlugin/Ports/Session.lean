import CallsPlugin.Ports.Jobs

/-!
# Joining and leaving (`server/session.go`, `handleJoin` of `server/websocket.go`)

`addUserSession` and `removeUserSession` on the in-memory state of the call,
cut into the steps the source takes, and the join and leave requests around
them, alone and in batches.
-/

namespace CallsPlugin.Ports

open CallsPlugin.Verified
open CallsPlugin.Ports.Public CallsPlugin.Ports.Db

/-- `model.ChannelType`, as far as it is told apart. -/
inductive ChannelType where
  | direct
  | other
  deriving DecidableEq, Repr

/-- The identities and settings of a join request. -/
structure JoinRequest where
  userID : String
  connID : String
  jobID : String
  callsEnabled : Option Bool
  channelType : ChannelType
  deriving DecidableEq, Repr

/-! ## `addUserSession` -/

/-- The text of `errGroupCallsNotAllowed`. -/
def errGroupCallsNotAllowed : String := "unlicensed servers only allow calls in DMs"

/-- `userCanStartOrJoin` -/
def userCanStartOrJoin (p : Plugin) (userID : String) (enabled : Option Bool)
    (channelType : ChannelType) : Except String Unit :=
  if channelType ≠ .direct ∧ ¬ p.groupCallsAllowed then .error errGroupCallsNotAllowed
  else if enabled = some false then .error "calls are disabled in the channel"
  else if enabled = some true then .ok ()
  else if p.defaultEnabled = some true then .ok ()
  else if p.isSysadmin userID then .ok ()
  else .error "insufficient permissions"

/-- `joinAllowed` -/
def joinAllowed (p : Plugin) (state : CallState) : Bool :=
  match p.maxCallParticipants with
  | none => true
  | some limit => ¬ (limit ≠ 0 ∧ (state.sessions.rows.length : Int) ≥ limit)

/-- The state of a call that is about to start. -/
def newCallState (p : Plugin) (env : Env) (userID channelID rtcdHost : String) :
    CallState where
  call := {
    id := env.newID
    channelID := channelID
    startAt := env.now .callStart
    endAt := 0
    createAt := env.now .callCreate
    deleteAt := 0
    title := ""
    postID := ""
    threadID := ""
    ownerID := userID
    participants := []
    stats := ⟨0⟩
    props := ⟨[], rtcdHost, "", [], 0, p.nodeID, [], ""⟩ }
  sessions := .empty
  recording := none
  transcription := none
  liveCaptions := none

/-- The state `addUserSession` goes on with: the ongoing call, or a new one for a
user who may start it. -/
def callToJoin (p : Plugin) (env : Env) (state : Option CallState) (r : JoinRequest)
    (channelID : String) : Except String CallState :=
  match state with
  | some state => .ok state
  | none =>
      match userCanStartOrJoin p r.userID r.callsEnabled r.channelType with
      | .error e => .error e
      | .ok _ =>
          if p.rtcd then
            match env.newHost with
            | .error e => .error ("failed to get rtcd host: " ++ e)
            | .ok host => .ok (newCallState p env r.userID channelID host)
          else .ok (newCallState p env r.userID channelID "")

/-- The checks on the call before anything is written. -/
def checkJoin (p : Plugin) (state : CallState) (connID : String) : Except String Unit :=
  if state.call.endAt > 0 then .error "call has ended"
  else if (state.sessions.find? connID).isSome then
    .error "session is already connected"
  else if ¬ joinAllowed p state then .error "user cannot join because of limits"
  else .ok ()

/-- The job as the bot's connection `connID` takes it over. -/
def withBotConnID (job : CallJob) (connID : String) : CallJob :=
  { job with props := { job.props with botConnID := connID } }

/-- Store the captioning job with the bot's connection, if it is starting. -/
def botJoinsLiveCaptions (state : CallState) (connID : String) :
    Body (Except String CallState) :=
  match state.liveCaptions with
  | none => .ret (.ok state)
  | some lcState =>
      if lcState.startAt ≠ 0 then .ret (.ok state)
      else do
        let lcState := withBotConnID lcState connID
        match ← write (jobWrite lcState) with
        | .error e => return .error e
        | .ok _ => return .ok { state with liveCaptions := some lcState }

/-- The job of the request, whose bot has not posted its start. -/
def awaitsBot (jobID : String) (job : CallJob) : Bool :=
  job.id = jobID ∧ job.startAt = 0

/-- The bot joins for the recording or transcribing job of the request, which
must be starting. -/
def botJoins (state : CallState) (connID jobID : String) :
    Body (Except String CallState) :=
  if state.recording = none ∧ state.transcription = none then
    .ret (.error "no job in progress")
  else
    match state.recording.filter (awaitsBot jobID) with
    | some recState => do
        let recState := withBotConnID recState connID
        match ← write (jobWrite recState) with
        | .error e => return .error e
        | .ok _ => return .ok { state with recording := some recState }
    | none =>
        match state.transcription.filter (awaitsBot jobID) with
        | some trState => do
            let trState := withBotConnID trState connID
            match ← botJoinsLiveCaptions state connID with
            | .error e => return .error e
            | .ok state =>
                match ← write (jobWrite trState) with
                | .error e => return .error e
                | .ok _ => return .ok { state with transcription := some trState }
        | none => .ret (.error "job not in progress or already started")

/-- The session a join adds. -/
def newSession (env : Env) (state : CallState) (userID connID : String) : CallSession :=
  ⟨connID, state.call.id, userID, env.now .joinAt, false, 0, false⟩

/-- The state with the new session in it: the host is chosen again and the user,
unless it is the bot, becomes a participant. -/
def admitted (p : Plugin) (env : Env) (state : CallState) (userID connID : String) :
    CallState :=
  let state :=
    { state with sessions := state.sessions.put (newSession env state userID connID) }
  let newHostID := state.getHostID env p.botID
  let hosts :=
    if newHostID ≠ state.call.getHostID then [newHostID] else state.call.props.hosts
  let participants :=
    if userID ≠ p.botID ∧ userID ∉ state.call.props.participants
    then state.call.props.participants ++ [userID]
    else state.call.props.participants
  { state with call := { state.call with
      props :=
        { state.call.props with hosts := hosts, participants := participants } } }

/-- The write of the call row: the first session creates it. -/
def callWrite (state : CallState) : Write :=
  if state.sessions.rows.length = 1 then
    ⟨.createCall state.call, "failed to create call: "⟩
  else ⟨.updateCall state.call, "failed to update call: "⟩

/-- The write of the session row. -/
def sessionWrite (session : CallSession) : Write :=
  ⟨.createCallSession session, "failed to create call session: "⟩

/-- The deferred event of a join that changed the host. -/
def announceHost (env : Env) (oldHostID : String) (state : CallState)
    (channelID : String) :
    Body Unit :=
  if state.call.getHostID ≠ oldHostID then
    publish (.callHostChanged state.call.getHostID state.call.id)
      (state.audience env channelID)
  else .ret ()

/-- Write the call and the session, and announce a change of host; `oldHostID` is
the host before. -/
def saveJoin (env : Env) (state : CallState)
    (oldHostID userID connID channelID : String) :
    Body (Except String CallState) := do
  match ← write (callWrite state) with
  | .error e => return .error e
  | .ok _ =>
      match ← write (sessionWrite (newSession env state userID connID)) with
      | .error e => return .error e
      | .ok _ =>
          announceHost env oldHostID state channelID
          return .ok state

/-- `addUserSession` up to its error or the new state. -/
def tryAddUserSession (p : Plugin) (env : Env) (state : Option CallState)
    (r : JoinRequest) (channelID : String) : Body (Except String CallState) :=
  match callToJoin p env state r channelID with
  | .error e => do
      if e = errGroupCallsNotAllowed then
        sendEphemeralPost r.userID channelID
          "app.add_user_session.group_calls_not_allowed_error"
      return .error e
  | .ok state =>
      match checkJoin p state r.connID with
      | .error e => .ret (.error e)
      | .ok _ => do
          match ← (if r.userID = p.botID then botJoins state r.connID r.jobID
              else return .ok state) with
          | .error e => return .error e
          | .ok state =>
              saveJoin env (admitted p env state r.userID r.connID) state.call.getHostID
                r.userID r.connID channelID

/-- `addUserSession`: the state it returns and its error.  On error the state is
the one it was given. -/
def addUserSession (p : Plugin) (env : Env) (state : Option CallState) (r : JoinRequest)
    (channelID : String) : Body (Option CallState × Except String Unit) := do
  match ← tryAddUserSession p env state r channelID with
  | .error e => return (state, .error e)
  | .ok state => return (some state, .ok ())

/-! ## Join requests -/

/-- The start of a call, once its first session is stored: the post is created
and its id stored; failures are logged. -/
def callStarted (p : Plugin) (env : Env) (state : CallState)
    (userID channelID : String) :
    Body CallState := do
  if p.defaultEnabled = some false ∧ p.isSysadmin userID then
    sendEphemeralPost userID channelID
      ("Currently calls are not enabled for non-admin users. " ++
      "You can change the setting through the system console")
  let (postID, threadID) := match env.startedPost with
    | .error _ => ("", "")
    | .ok ids => ids
  let state := { state with
    call := { state.call with postID := postID, threadID := threadID } }
  let _ ← store (.updateCall state.call)
  publish (.callStart state.call.id channelID state.call.startAt threadID postID
    state.call.ownerID state.call.getHostID) (wholeChannel channelID)
  return state

/-- The events of a join that went through.  Where its RTC session cannot be opened it
is not announced, and the session leaves again by a request of its own. -/
def announceJoin (p : Plugin) (env : Env) (state : CallState) (r : JoinRequest)
    (channelID : String) : Body Unit :=
  if env.opensRTC then do
    publish (.join r.connID) { connectionID := r.connID, reliableClusterSend := true }
    publish (.userJoined r.userID r.connID) (wholeChannel channelID)
    if r.userID = p.botID then publishJob? env state channelID state.recording
    publish (.callState channelID (state.getClientState env p.botID r.userID))
      { userID := r.userID, reliableClusterSend := true }
  else .ret ()

/-- `addSessionToCall` of `handleJoin`: the state it returns and whether the
session was added. -/
def addSessionToCall (p : Plugin) (env : Env) (r : JoinRequest) (channelID : String)
    (state : Option CallState) : Body (Option CallState × Except String Unit) := do
  match ← addUserSession p env state r channelID with
  | (state, .error e) =>
      publish (.error e r.connID)
        { connectionID := r.connID, reliableClusterSend := true }
      return (state, .error e)
  | (none, .ok _) => return (none, .ok ())
  | (some state, .ok _) =>
      let state ←
        (if state.sessions.rows.length =
          1 then callStarted p env state r.userID channelID
        else return state)
      announceJoin p env state r channelID
      return (some state, .ok ())

/-! ## `removeUserSession` -/

/-- The identities of a leave request. -/
structure LeaveRequest where
  userID : String
  originalConnID : String
  connID : String
  deriving DecidableEq, Repr

/-- A step of `removeUserSession`: it leaves the state and may end the function. -/
abbrev Step := CallState → Body (CallState × Except String Unit)

/-- Go on with `f` unless the function has returned. -/
def Step.andThen (g f : Step) : Step := fun state => do
  match ← g state with
  | (state, .error e) => return (state, .error e)
  | (state, .ok _) => f state

/-- The leaving session was sharing its screen. -/
def screenLeft (env : Env) (r : LeaveRequest) (channelID : String) (state : CallState) :
    Body CallState :=
  if state.call.props.screenSharingSessionID = r.originalConnID then do
    let shared := state.call.props.screenStartAt
    let duration := state.call.stats.screenDuration
    let state := { state with call := { state.call with
      stats := ⟨if shared > 0
        then duration + secondsSinceTimestamp (env.now .screenOff) shared else duration⟩
      props := { state.call.props with
        screenSharingSessionID := ""
        screenStartAt := if shared > 0 then 0 else shared } } }
    publish (.userScreenOff none) (state.audience env channelID)
    return state
  else return state

/-- Ask the job service to stop a job, logging a failure. -/
def stopJobOf (p : Plugin) (channelID : String) : Option CallJob → Body Unit
  | none => .ret ()
  | some job => do
      let _ ← stopJob channelID job.id p.botID job.props.botConnID

/-- Ask the job service to stop the jobs when only the bot is left. -/
def stopJobsOfLoneBot (p : Plugin) (channelID : String) (state : CallState) :
    Body Unit :=
  if state.onlyUserLeft p.botID then do
    stopJobOf p channelID state.recording
    stopJobOf p channelID state.transcription
  else .ret ()

/-- A running job whose bot sat on the connection that left. -/
def leftBy (connID : String) (job : CallJob) : Bool :=
  job.endAt = 0 ∧ connID = job.props.botConnID

/-- The recording bot left: its job ends, and the transcribing job with it. -/
def recordingBotLeft (p : Plugin) (env : Env) (r : LeaveRequest) (channelID : String) :
    Step :=
  fun state =>
    match state.recording.filter (leftBy r.originalConnID) with
    | none => .ret (state, .ok ())
    | some recState => do
        let recState := { recState with endAt := env.now .recordingEnd }
        let state := { state with recording := some recState }
        match ← write (jobWrite recState) with
        | .error e => return (state, .error e)
        | .ok _ =>
            let state ←
              (if running state.transcription then do
                let res ← stopTranscribingJob p env stopDepth state channelID
                return res.1
              else return state)
            publishJob env state channelID recState
            return (state, .ok ())

/-- The transcribing bot left: its job ends, and the recording job with it. -/
def transcribingBotLeft (p : Plugin) (env : Env) (r : LeaveRequest)
    (channelID : String) : Step :=
  fun state =>
    match state.transcription.filter (leftBy r.originalConnID) with
    | none => .ret (state, .ok ())
    | some trState => do
        let trState := { trState with endAt := env.now .transcribingEnd }
        let state := { state with transcription := some trState }
        match ← write (jobWrite trState) with
        | .error e => return (state, .error e)
        | .ok _ =>
            let state ←
              (if running state.recording then do
                let res ← stopRecordingJob p env stopDepth state channelID
                return res.1
              else return state)
            publishJob env state channelID trState
            publishJob? env state channelID state.liveCaptions
            return (state, .ok ())

/-- The captioning bot left; unlike the others this is told by `connID`. -/
def captioningBotLeft (env : Env) (r : LeaveRequest) : Step := fun state =>
  match state.liveCaptions.filter (leftBy r.connID) with
  | none => .ret (state, .ok ())
  | some lcState => do
      let lcState := { lcState with endAt := env.now .captioningEnd }
      let state := { state with liveCaptions := some lcState }
      match ← write (jobWrite lcState) with
      | .error e => return (state, .error e)
      | .ok _ => return (state, .ok ())

/-- The host left: another one is chosen, if there is a candidate. -/
def hostLeft (p : Plugin) (env : Env) (r : LeaveRequest) (channelID : String)
    (state : CallState) : Body CallState :=
  if state.call.getHostID = r.userID ∧ state.sessions.rows ≠ [] then
    let newHostID := state.getHostID env p.botID
    if newHostID ≠ r.userID then do
      let state := { state with call := { state.call with
        props := { state.call.props with
          hosts := if newHostID = "" then [] else [newHostID] } } }
      publish (.callHostChanged newHostID state.call.id) (state.audience env channelID)
      return state
    else return state
  else return state

/-- The call as it is stored after the leave: ended with its last session. -/
def callLeft (env : Env) (state : CallState) : Call :=
  if state.sessions.rows = [] then
    let shared := state.call.props.screenStartAt
    setCallEnded env { state.call with
      stats := ⟨if shared > 0
        then state.call.stats.screenDuration +
          secondsSinceTimestamp (env.now .screenOff) shared
        else state.call.stats.screenDuration⟩ }
  else state.call

/-- The end of `removeUserSession`.  The deferred update of the post reads the
participants the end of the call has just cleared. -/
def saveLeave (p : Plugin) (env : Env) (r : LeaveRequest) (channelID : String) : Step :=
  fun state => do
    publish (.userLeft r.userID r.originalConnID) (wholeChannel channelID)
    let state ← hostLeft p env r channelID state
    let state := { state with call := callLeft env state }
    let res ← write ⟨.updateCall state.call, "failed to update call: "⟩
    if state.sessions.rows = [] then
      updateCallPostEnded state.call.postID state.call.props.participants
    return (state, res)

/-- `removeUserSession` from the deletion of the session `us` on. -/
def sessionLeft (p : Plugin) (env : Env) (r : LeaveRequest) (channelID : String)
    (us : CallSession) : Step := fun state => do
  match ← write ⟨.deleteCallSession r.originalConnID,
      "failed to delete call session: "⟩ with
  | .error e => return (state, .error e)
  | .ok _ =>
      let state := { state with sessions := state.sessions.erase r.originalConnID }
      let state ← screenLeft env r channelID state
      if us.video then
        publish (.userVideoOff r.userID r.originalConnID) (state.audience env channelID)
      stopJobsOfLoneBot p channelID state
      ((recordingBotLeft p env r channelID).andThen <|
        (transcribingBotLeft p env r channelID).andThen <|
        (captioningBotLeft env r).andThen <|
        saveLeave p env r channelID) state

/-- `removeUserSession`: the state it leaves and its error. -/
def removeUserSession (p : Plugin) (env : Env) (r : LeaveRequest) (channelID : String)
    (state : Option CallState) : Body (Option CallState × Except String Unit) :=
  match state with
  | none => .ret (none, .error "call state is nil")
  | some state =>
      match state.sessions.find? r.originalConnID with
      | none => .ret (some state, .error "session not found in call state")
      | some us => do
          let res ← sessionLeft p env r channelID us state
          return (some res.1, res.2)

/-! ## Requests, alone and in batches -/

/-- A request and what its handling reads from outside. -/
structure Join where
  req : JoinRequest
  env : Env

/-- A leave and what its handling reads from outside. -/
structure Leave where
  req : LeaveRequest
  env : Env

/-- The part of `handleJoin` that runs under the lock, when joins are not
batched. -/
def handleJoin (p : Plugin) (channelID : String) (j : Join) :
    P (Except String (Except String Unit)) :=
  underLock channelID fun state => do
    let res ← addSessionToCall p j.env j.req channelID state
    return res.2

/-- The items of a batch of joins, which pass the state on. -/
def addSessionsToCall (p : Plugin) (channelID : String) :
    List Join → Option CallState → Body (List (Except String Unit))
  | [], _ => .ret []
  | j :: rest, state => do
      let res ← addSessionToCall p j.env j.req channelID state
      let outcomes ← addSessionsToCall p channelID rest res.1
      return res.2 :: outcomes

/-- A batch of joins: `PreRunCb`, the items and `PostRunCb`. -/
def joinBatch (p : Plugin) (channelID : String) (js : List Join) :
    P (Except String (List (Except String Unit))) :=
  underLock channelID (addSessionsToCall p channelID js)

/-- The part of `removeSession` that runs under the lock, when leaves are not
batched. -/
def removeSession (p : Plugin) (channelID : String) (l : Leave) :
    P (Except String (Except String Unit)) :=
  underLock channelID fun state => do
    let res ← removeUserSession p l.env l.req channelID state
    return res.2

/-- The items of a batch of leaves, which share the state. -/
def removeSessionsFromCall (p : Plugin) (channelID : String) :
    List Leave → Option CallState → Body (List (Except String Unit))
  | [], _ => .ret []
  | l :: rest, state => do
      let res ← removeUserSession p l.env l.req channelID state
      let outcomes ← removeSessionsFromCall p channelID rest res.1
      return res.2 :: outcomes

/-- A batch of leaves. -/
def leaveBatch (p : Plugin) (channelID : String) (ls : List Leave) :
    P (Except String (List (Except String Unit))) :=
  underLock channelID (removeSessionsFromCall p channelID ls)

end CallsPlugin.Ports
