import CallsPlugin.Ports.Session

/-!
# The other requests on a call

Screen sharing, the per-session switches, the host's controls, dismissing the
notification, the state request and the bot's reconnection: each reads the
state under the lock, writes at most a few rows and releases.  `forceEnd` is what
`hostEnd` leaves behind; it does not take the lock.
-/

namespace CallsPlugin.Ports

open CallsPlugin.Verified
open CallsPlugin.Ports.Public CallsPlugin.Ports.Db

/-- The identities of a connected session. -/
structure UserSession where
  userID : String
  originalConnID : String
  deriving DecidableEq, Repr

/-- Store the call of a state. -/
def updateCallOf (state : CallState) : Body (Except String Unit) := do
  match ← store (.updateCall state.call) with
  | .error e => return .error ("failed to update call: " ++ e)
  | .ok _ => return .ok ()

/-! ## Screen sharing -/

/-- The call with the screen shared by `sessionID`. -/
def shareScreen (env : Env) (call : Call) (sessionID : String) : Call :=
  { call with props := { call.props with
    screenSharingSessionID := sessionID
    screenStartAt := env.now .screenOn / 1000 } }

/-- The call with the screen no longer shared. -/
def unshareScreen (env : Env) (call : Call) : Call :=
  if call.props.screenStartAt > 0 then
    { call with
      stats := ⟨secondsSinceTimestamp (env.now .screenOff) call.props.screenStartAt⟩
      props := { call.props with screenSharingSessionID := "", screenStartAt := 0 } }
  else { call with props := { call.props with screenSharingSessionID := "" } }

/-- The end of `handleClientMessageTypeScreen`, once the message is stored: the RTC side
is told, and then the clients. -/
def tellScreen (env : Env) (us : UserSession) (channelID : String) (turnOn : Bool)
    (state : CallState) : Body (Except String Unit) :=
  match env.sendClusterMessage with
  | .error e => do
      reach .untold
      return .error e
  | .ok _ => do
      publish
        (if turnOn then .userScreenOn us.userID us.originalConnID
        else .userScreenOff (some (us.userID, us.originalConnID)))
        (state.audience env channelID)
      return .ok ()

theorem tellScreen_only {P : Op → Prop} {env : Env} {us : UserSession}
    {channelID : String} {turnOn : Bool} {state : CallState}
    (huntold : P (.reach .untold)) (hpublish : ∀ ev b, P (.publish ev b)) :
    (tellScreen env us channelID turnOn state).Only P := by
  unfold tellScreen
  split
  · exact ⟨huntold, fun _ => trivial⟩
  · exact ⟨hpublish _ _, fun _ => trivial⟩

/-- `handleClientMessageTypeScreen` under the lock; `turnOn` is the message. -/
def screenMessage (env : Env) (us : UserSession) (channelID : String) (turnOn : Bool) :
    Option CallState → Body (Except String Unit)
  | none => .ret (.error "no call ongoing")
  | some state =>
      let sharing := state.call.props.screenSharingSessionID
      if turnOn ∧ sharing ≠ "" then
        .ret (.error
          ("cannot start screen sharing, someone else is sharing already: connID=" ++
          sharing))
      else if ¬ turnOn ∧ sharing ≠ us.originalConnID then
        .ret (.error
          ("cannot stop screen sharing, someone else is sharing already: connID=" ++
          sharing))
      else do
        let state := { state with
          call :=
            if turnOn then shareScreen env state.call us.originalConnID
            else unshareScreen env state.call }
        match ← updateCallOf state with
        | .error e => return .error e
        | .ok _ => tellScreen env us channelID turnOn state

/-- `handleClientMessageTypeScreen` -/
def handleClientMessageTypeScreen (p : Plugin) (env : Env) (us : UserSession)
    (channelID : String) (turnOn : Bool) : P (Except String (Except String Unit)) :=
  if p.allowScreenSharing ≠ some true then .ret (.error "screen sharing is not allowed")
  else underLock channelID (screenMessage env us channelID turnOn)

/-! ## Microphone, camera and hand -/

/-- The client messages that change the sender's session row. -/
inductive SessionMessage where
  | mute
  | unmute
  | videoOn
  | videoOff
  | raiseHand
  | unraiseHand
  deriving DecidableEq, Repr

namespace SessionMessage

/-- The row the message asks for. -/
def apply (env : Env) (session : CallSession) : SessionMessage → CallSession
  | .mute => { session with unmuted := false }
  | .unmute => { session with unmuted := true }
  | .videoOn => { session with video := true }
  | .videoOff => { session with video := false }
  | .raiseHand => { session with raisedHand := env.now .raiseHand }
  | .unraiseHand => { session with raisedHand := 0 }

/-- The event that announces it. -/
def event (us : UserSession) (session : CallSession) : SessionMessage → WsEvent
  | .mute => .userMuted us.userID us.originalConnID
  | .unmute => .userUnmuted us.userID us.originalConnID
  | .videoOn => .userVideoOn us.userID us.originalConnID
  | .videoOff => .userVideoOff us.userID us.originalConnID
  | .raiseHand => .userRaiseHand us.userID us.originalConnID session.raisedHand
  | .unraiseHand => .userUnraiseHand us.userID us.originalConnID session.raisedHand

/-- The errors of the message: no call, and no session. -/
def errors : SessionMessage → String × String
  | .videoOn | .videoOff =>
      ("channel state is missing from store", "user session is missing from call state")
  | .mute | .unmute => ("no call ongoing", "user state is missing from call state")
  | .raiseHand | .unraiseHand =>
      ("no call ongoing", "user session is missing from call state")

end SessionMessage

/-- The handling of a session message under the lock. -/
def sessionMessage (env : Env) (us : UserSession) (channelID : String)
    (msg : SessionMessage) :
    Option CallState → Body (Except String Unit)
  | none => .ret (.error msg.errors.1)
  | some state =>
      match state.sessions.find? us.originalConnID with
      | none => .ret (.error msg.errors.2)
      | some session => do
          let session := msg.apply env session
          match ← store (.updateCallSession session) with
          | .error e => return .error ("failed to update call session: " ++ e)
          | .ok _ =>
              publish (msg.event us session) (state.audience env channelID)
              return .ok ()

/-- `handleClientMsg` for a session message. -/
def handleSessionMessage (env : Env) (us : UserSession) (channelID : String)
    (msg : SessionMessage) : P (Except String (Except String Unit)) :=
  underLock channelID (sessionMessage env us channelID msg)

/-! ## Host controls -/

/-- `changeHost` under the lock. -/
def hostChanged (p : Plugin) (env : Env) (requesterID channelID newHostID : String) :
    Option CallState → Body (Except String Unit)
  | none => .ret (.error "no call ongoing")
  | some state =>
      if requesterID ≠ state.call.getHostID ∧ ¬ p.isSysadmin requesterID then
        .ret (.error "no permissions")
      else if newHostID = p.botID then
        .ret (.error "cannot assign the bot to be host: not allowed")
      else if state.call.getHostID = newHostID then
        if state.call.props.hostLockedUserID = "" then
          updateCallOf { state with call := { state.call with
            props := { state.call.props with hostLockedUserID := newHostID } } }
        else .ret (.ok ())
      else if ¬ state.isUserIDInCall newHostID then
        .ret (.error "requested session or user is not in the call")
      else do
        let state := { state with call := { state.call with
          props := { state.call.props with
            hosts := [newHostID], hostLockedUserID := newHostID } } }
        match ← updateCallOf state with
        | .error e => return .error e
        | .ok _ =>
            publish (.callHostChanged newHostID state.call.id)
              (state.audience env channelID)
            return .ok ()

/-- `changeHost` -/
def changeHost (p : Plugin) (env : Env) (requesterID channelID newHostID : String) :
    P (Except String (Except String Unit)) :=
  underLock channelID (hostChanged p env requesterID channelID newHostID)

/-- `hostEnd`: the clients are asked to leave.  Returns the id of the call that
`forceEnd` will end. -/
def hostEnd (p : Plugin) (requesterID channelID : String) :
    P (Except String (Except String String)) :=
  underLock channelID fun
    | none => .ret (.error "no call ongoing")
    | some state =>
        if requesterID ≠ state.call.getHostID ∧ ¬ p.isSysadmin requesterID then
          .ret (.error "no permissions")
        else do
          publish .callEnd (wholeChannel channelID)
          return .ok state.call.id

/-- The delayed step of `hostEnd` from the row it read on.  The RTC sessions it
closes leave by requests of their own. -/
def forceEndCall (env : Env) : Except String (Option Call) → Body Unit
  | .error _ => .ret ()
  | .ok none => .ret ()
  | .ok (some call) => do
      let _ ← store (.getCallSessions call.id)
      let _ ← cleanCallState env call

/-- The delayed step of `hostEnd`, which runs without the lock. -/
def forceEnd (env : Env) (callID : String) : Body Unit := do
  let call ← store (.getCall callID)
  forceEndCall env call

/-! ## Notification, state request and reconnection -/

/-- `handleDismissNotification` under the lock. -/
def notificationDismissed (userID : String) : Option CallState → Body (Nat × String)
  | none => .ret (400, "no call ongoing")
  | some state => do
      let dismissed := state.call.props.dismissedNotification
      let state := { state with call := { state.call with
        props := { state.call.props with
          dismissedNotification :=
            if userID ∈ dismissed then dismissed else dismissed ++ [userID] } } }
      match ← updateCallOf state with
      | .error e => return (500, e)
      | .ok _ =>
          publish (.userDismissedNotification userID state.call.id)
            { userID := userID, reliableClusterSend := true }
          return (200, "success")

/-- `handleDismissNotification` -/
def handleDismissNotification (userID channelID : String) :
    P (Except String (Nat × String)) :=
  underLock channelID (notificationDismissed userID)

/-- `handleCallStateRequest`, for a user who may read the channel. -/
def handleCallStateRequest (p : Plugin) (env : Env) (channelID userID connID : String) :
    P (Except String (Except String Unit)) :=
  underLock channelID fun
    | none => .ret (.error "no call ongoing")
    | some state => do
        publish (.callState channelID (state.getClientState env p.botID userID))
          { connectionID := connID, reliableClusterSend := true }
        return .ok ()

/-- The captioning part of `handleBotWSReconnect`. -/
def captionerReconnected (connID prevConnID : String) (lcState : Option CallJob) :
    Body (Except String Unit) :=
  match lcState.filter fun j => j.props.botConnID = prevConnID with
  | none => .ret (.ok ())
  | some lcState => do
      match ← store (.updateCallJob (withBotConnID lcState connID)) with
      | .error e => return .error ("failed to update call job: " ++ e)
      | .ok _ => return .ok ()

/-- `handleBotWSReconnect` under the lock. -/
def botReconnected (connID prevConnID : String) :
    Option CallState → Body (Except String Unit)
  | none => .ret (.ok ())
  | some state =>
      match state.recording.filter fun j => j.props.botConnID = prevConnID with
      | some recState => do
          match ← store (.updateCallJob (withBotConnID recState connID)) with
          | .error e => return .error ("failed to update call job: " ++ e)
          | .ok _ => return .ok ()
      | none =>
          match state.transcription.filter fun j => j.props.botConnID = prevConnID with
          | none => .ret (.ok ())
          | some trState => do
              match ← store (.updateCallJob (withBotConnID trState connID)) with
              | .error e => return .error ("failed to update call job: " ++ e)
              | .ok _ => captionerReconnected connID prevConnID state.liveCaptions

/-- `handleBotWSReconnect` -/
def handleBotWSReconnect (connID prevConnID channelID : String) :
    P (Except String (Except String Unit)) :=
  underLock channelID (botReconnected connID prevConnID)

/-! ## Requests -/

/-- The requests that use the lock of a call, and the delayed step that does not.
`view` stands for the handlers that do nothing to the call under the lock but
read it. -/
inductive Handler where
  | join (j : Join)
  | joinBatch (js : List Join)
  | leave (l : Leave)
  | leaveBatch (ls : List Leave)
  | screen (us : UserSession) (turnOn : Bool)
  | session (us : UserSession) (msg : SessionMessage)
  | changeHost (requesterID newHostID : String)
  | hostEnd (requesterID : String)
  | forceEnd (callID : String)
  | dismissNotification (userID : String)
  | callStateRequest (userID connID : String)
  | botReconnect (connID prevConnID : String)
  | recordingAction (recordingsAllowed : Bool) (userID : String)
      (action : RecordingAction)
  | recordingTimeout (jobID : String)
  | transcriptionTimeout (jobID : String)
  | jobStatus (jobID : String) (status : JobStatus)
  | cleanUp
  | view (body : Option CallState → Body Unit)

/-- The code of a request on a channel. -/
def Handler.code (p : Plugin) (env : Env) (channelID : String) : Handler → P Unit
  | .join j => do let _ ← handleJoin p channelID j
  | .joinBatch js => do let _ ← Ports.joinBatch p channelID js
  | .leave l => do let _ ← removeSession p channelID l
  | .leaveBatch ls => do let _ ← Ports.leaveBatch p channelID ls
  | .screen us turnOn => do
      let _ ← handleClientMessageTypeScreen p env us channelID turnOn
  | .session us msg => do let _ ← handleSessionMessage env us channelID msg
  | .changeHost requesterID newHostID => do
      let _ ← Ports.changeHost p env requesterID channelID newHostID
  | .hostEnd requesterID => do let _ ← Ports.hostEnd p requesterID channelID
  | .forceEnd callID => Ports.forceEnd env callID
  | .dismissNotification userID => do let _ ← handleDismissNotification userID channelID
  | .callStateRequest userID connID => do
      let _ ← handleCallStateRequest p env channelID userID connID
  | .botReconnect connID prevConnID => do
      let _ ← handleBotWSReconnect connID prevConnID channelID
  | .recordingAction recordingsAllowed userID action => do
      let _ ← handleRecordingAction p env recordingsAllowed userID channelID action
  | .recordingTimeout jobID => recJobTimeoutChecker p env channelID jobID
  | .transcriptionTimeout jobID => transcriptionJobTimeoutChecker p env channelID jobID
  | .jobStatus jobID status => do
      let _ ← handleBotPostJobsStatus p env channelID jobID status
  | .cleanUp => do let _ ← cleanUpState p env channelID
  | .view body => do let _ ← underLock channelID body

/-- Requests that have not begun, with the lock free. -/
def start {T N : Type} (store : Store) (code : T → P Unit) :
    Sys Op Op.Resp Store T N where
  world := store
  inner _ := none
  owner := none
  polling _ := false
  code := code

theorem start_unlocked {T N : Type} (store : Store) (code : T → P Unit) :
    (start store code : Sys Op Op.Resp Store T N).Unlocked :=
  ⟨fun _ => rfl, rfl, fun _ => rfl⟩

/-- Requests `h t` by handlers on nodes `node t`, each with its settings and
readings. -/
def requests {T N : Type} (p : T → Plugin) (env : T → Env) (channelID : String)
    (store : Store) (h : T → Handler) : Sys Op Op.Resp Store T N :=
  start store fun t => (h t).code (p t) (env t) channelID

end CallsPlugin.Ports
