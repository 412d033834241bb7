import CallsPlugin.Ports.State

/-!
# Recording, transcribing and captioning jobs

`server/recording_api.go`, `server/transcription_api.go` and
`handleBotPostJobsStatus` of `server/bot_api.go`.  A job is a row of
`calls_jobs`; the state of the call points at the active one of each type.
The channel of a call is called `callID` here, as in the source.
-/

namespace CallsPlugin.Ports

open CallsPlugin.Verified
open CallsPlugin.Ports.Public CallsPlugin.Ports.Db

/-- A job that has not ended. -/
def running (job : Option CallJob) : Bool := job.any fun j => j.endAt = 0

/-- Publish the state of a job to those in the call. -/
def publishJob (env : Env) (state : CallState) (callID : String) (job : CallJob) :
    Body Unit :=
  publish (.callJobState callID (getClientStateFromCallJob job))
    (state.audience env callID)

/-- Publish the state of a job that may be missing. -/
def publishJob? (env : Env) (state : CallState) (callID : String) :
    Option CallJob → Body Unit
  | none => .ret ()
  | some job => publishJob env state callID job

/-- How a handler of job requests fails: with an answer, or by reading the
sessions of a state it did not obtain, which `ServeHTTP` recovers from. -/
inductive JobError where
  | http (code : Nat) (err : String)
  | nilState
  deriving DecidableEq, Repr

/-! ## Stopping -/

/-- The captioning part of `stopTranscribingJob`: the job is ended again even if
it has ended before. -/
def stopLiveCaptions (env : Env) (state : CallState) :
    Body (CallState × Except String Unit) :=
  match state.liveCaptions with
  | none => .ret (state, .ok ())
  | some lcState => do
      let lcState := { lcState with endAt := env.now .captioningEnd }
      let state := { state with liveCaptions := some lcState }
      match ← store (.updateCallJob lcState) with
      | .error e => return (state, .error ("failed to update call job: " ++ e))
      | .ok _ => return (state, .ok ())

mutual

/-- `stopRecordingJob`.  It and `stopTranscribingJob` call each other; the first
argument bounds the depth, and two is enough (`stopRecordingJob_depth`). -/
def stopRecordingJob (p : Plugin) (env : Env) :
    Nat → CallState → String → Body (CallState × Except JobError JobStateClient)
  | 0, state, _ => .ret (state, .error (.http 500 "recursion too deep"))
  | depth + 1, state, callID =>
      match state.recording with
      | none => .ret (state, .error (.http 403 "no recording in progress"))
      | some recState =>
          if recState.endAt ≠ 0 then
            .ret (state, .error (.http 403 "no recording in progress"))
          else do
            let recState := { recState with endAt := env.now .recordingEnd }
            let state := { state with recording := some recState }
            match ← store (.updateCallJob recState) with
            | .error e =>
                return (state, .error (.http 500 ("failed to update call job: " ++ e)))
            | .ok _ =>
                let state ←
                  (if running state.transcription then do
                    let res ← stopTranscribingJob p env depth state callID
                    return res.1
                  else return state)
                match ← stopJob callID recState.id p.botID recState.props.botConnID with
                | .error e =>
                    let err := "failed to stop recording job: " ++ e
                    let recState :=
                      { recState with props := { recState.props with err := err } }
                    let state := { state with recording := some recState }
                    publishJob env state callID recState
                    return (state, .error (.http 500 err))
                | .ok _ =>
                    publishJob env state callID recState
                    return (state, .ok (getClientStateFromCallJob recState))

/-- `stopTranscribingJob` -/
def stopTranscribingJob (p : Plugin) (env : Env) :
    Nat → CallState → String → Body (CallState × Except String Unit)
  | 0, state, _ => .ret (state, .error "recursion too deep")
  | depth + 1, state, callID =>
      match state.transcription with
      | none => .ret (state, .error "no transcription in progress")
      | some trState =>
          if trState.endAt ≠ 0 then .ret (state, .error "no transcription in progress")
          else do
            let trState := { trState with endAt := env.now .transcribingEnd }
            let state := { state with transcription := some trState }
            match ← store (.updateCallJob trState) with
            | .error e => return (state, .error ("failed to update call job: " ++ e))
            | .ok _ =>
                match ← stopLiveCaptions env state with
                | (state, .error e) => return (state, .error e)
                | (state, .ok _) =>
                    match ← stopJob callID trState.id p.botID
                        trState.props.botConnID with
                    | .error e =>
                        let err := "failed to stop transcription job: " ++ e
                        let trState :=
                          { trState with props := { trState.props with err := err } }
                        let state := { state with transcription := some trState }
                        publishJob env state callID trState
                        return (state, .error err)
                    | .ok _ =>
                        let state ←
                          (if running state.recording then do
                            let res ← stopRecordingJob p env depth state callID
                            return res.1
                          else return state)
                        publishJob env state callID trState
                        publishJob? env state callID state.liveCaptions
                        return (state, .ok ())

end

/-- The depth every caller gives. -/
def stopDepth : Nat := 2

/-! ## Starting -/

/-- The job `startRecordingJob` and `startTranscribingJob` create. -/
def newJob (env : Env) (state : CallState) (userID : String) (type : JobType)
    (id : String) (site : Site) : CallJob :=
  ⟨id, state.call.id, type, userID, env.now site, 0, 0, ⟨"", "", ""⟩⟩

/-- The deferred event of a start that failed: the job as it stands, ended now
with the error. -/
def relayStartError (env : Env) (state : CallState) (callID err : String) (site : Site)
    (job : CallJob) : Body Unit :=
  publishJob env state callID
    { job with endAt := env.now site, props := { job.props with err := err } }

/-- The captioning job of `startTranscribingJob`, when live captions are on. -/
def createLiveCaptions (p : Plugin) (env : Env) (state : CallState) (userID : String) :
    Body (Except String Unit) :=
  if p.liveCaptionsEnabled then
    store (.createCallJob
      (newJob env state userID .captioning (env.newJobID .captioning) .captioningInit))
  else .ret (.ok ())

/-- What `startTranscribingJob` does with the captioning job when the job
service refused: it ends it, logging a failure. -/
def endRefusedLiveCaptions (env : Env) (state : CallState) :
    Option CallJob → Body CallState
  | none => .ret state
  | some lcState => do
      let lcState := { lcState with endAt := env.now .captioningEnd }
      let _ ← store (.updateCallJob lcState)
      return { state with liveCaptions := some lcState }

/-- What `startTranscribingJob` does with the captioning job when the job
service answered. -/
def setLiveCaptionsJobID (state : CallState) (trJobID : String) :
    Option CallJob → Body (Except String CallState)
  | none => .ret (.ok state)
  | some lcState => do
      let lcState := { lcState with props := { lcState.props with jobID := trJobID } }
      match ← store (.updateCallJob lcState) with
      | .error e => return .error ("failed to update call job: " ++ e)
      | .ok _ => return .ok { state with liveCaptions := some lcState }

/-- `startTranscribingJob` after the lock was taken again, on the state then
read.  Returns the id of the running job. -/
def transcribingJobStarted (env : Env) (state : Option CallState) (callID : String)
    (liveCaptionsOn : Bool) (ran : Except String String) :
    Body (Except JobError String) :=
  match state with
  | none =>
      .ret (.error (.http 500 "failed to get transcription state: no call ongoing"))
  | some state =>
      match state.transcription with
      | none =>
          .ret (.error (.http 500
            "failed to get transcription state: no transcription ongoing"))
      | some trState =>
          let lcState := if liveCaptionsOn then state.liveCaptions else none
          match ran with
          | .error jobErr => do
              reach (.runJobFailed .transcribing state.call.id lcState.isSome)
              let trState := { trState with
                endAt := env.now .transcribingEnd
                props := { trState.props with err := jobErr } }
              let state := { state with transcription := some trState }
              let _ ← store (.updateCallJob trState)
              let state ← endRefusedLiveCaptions env state lcState
              let err := "failed to create transcription job: " ++ jobErr
              relayStartError env state callID err .transcribingEnd trState
              return .error (.http 500 err)
          | .ok trJobID =>
              if trState.props.jobID ≠ "" then do
                let err := "transcription job already in progress"
                relayStartError env state callID err .transcribingEnd trState
                return .error (.http 500 err)
              else do
                let trState :=
                  { trState with props := { trState.props with jobID := trJobID } }
                let state := { state with transcription := some trState }
                match ← store (.updateCallJob trState) with
                | .error e =>
                    let err := "failed to update call job: " ++ e
                    relayStartError env state callID err .transcribingEnd trState
                    return .error (.http 500 err)
                | .ok _ =>
                    match ← setLiveCaptionsJobID state trJobID lcState with
                    | .error e =>
                        relayStartError env state callID e .transcribingEnd trState
                        return .error (.http 500 e)
                    | .ok state =>
                        publishJob env state callID trState
                        return .ok trJobID

/-- `startTranscribingJob`.  The lock is held on entry and, unless it could not
be taken again, on return. -/
def startTranscribingJob (p : Plugin) (env : Env) (state : CallState)
    (callID userID trID : String) :
    P (Except JobError String) :=
  if running state.transcription then
    .ret (.error (.http 500 "transcription already in progress"))
  else if trID = "" then .ret (.error (.http 500 "trID should not be empty"))
  else do
    let trState := newJob env state userID .transcribing trID .transcribingInit
    match ← store (.createCallJob trState) with
    | .error e => return .error (.http 500 ("failed to create call job: " ++ e))
    | .ok _ =>
        match ← createLiveCaptions p env state userID with
        | .error e => return .error (.http 500 ("failed to create call job: " ++ e))
        | .ok _ =>
            publishJob env state callID trState
            unlockCall
            let ran ← runJob .transcribing callID state.call.postID trState.id
            match ← lockCallReturnState callID with
            | .error _ => return .error .nilState
            | .ok state =>
                transcribingJobStarted env state callID p.liveCaptionsEnabled ran

/-- `startRecordingJob` from the answer of the job service on, with the lock taken
again and a recording found in the state then read.  Besides the client state
of the job it returns the ids whose start the time-outs watch. -/
def recordingJobStarted (p : Plugin) (env : Env) (state : CallState)
    (recState : CallJob) (callID userID : String) (ran : Except String String) :
    P (Except JobError (JobStateClient × String × Option String)) :=
  match ran with
  | .error jobErr => do
      reach (.runJobFailed .recording state.call.id false)
      let recState := { recState with
        endAt := env.now .recordingEnd
        props := { recState.props with err := jobErr } }
      let state := { state with recording := some recState }
      let _ ← store (.updateCallJob recState)
      let err := "failed to create recording job: " ++ jobErr
      relayStartError env state callID err .recordingEnd recState
      return .error (.http 500 err)
  | .ok recJobID =>
      if recState.props.jobID ≠ "" then do
        let err := "recording job already in progress"
        relayStartError env state callID err .recordingEnd recState
        return .error (.http 403 err)
      else do
        let recState :=
          { recState with props := { recState.props with jobID := recJobID } }
        let state := { state with recording := some recState }
        match ← store (.updateCallJob recState) with
        | .error e =>
            let err := "failed to update call job: " ++ e
            relayStartError env state callID err .recordingEnd recState
            return .error (.http 500 err)
        | .ok _ =>
            if p.transcriptionsEnabled then do
              match ← startTranscribingJob p env state callID userID
                  (env.newJobID .transcribing) with
              | .error (.http _ e) =>
                  let err := "failed to start transcribing job: " ++ e
                  relayStartError env state callID err .recordingEnd recState
                  return .error (.http 500 err)
              | .error .nilState => return .error .nilState
              | .ok trJobID =>
                  publishJob env state callID recState
                  return .ok (getClientStateFromCallJob recState,
                    recJobID, some trJobID)
            else do
              publishJob env state callID recState
              return .ok (getClientStateFromCallJob recState, recJobID, none)

/-- `startRecordingJob`.  The lock is held on entry and, unless it could not be
taken again, on return. -/
def startRecordingJob (p : Plugin) (env : Env) (state : CallState)
    (callID userID : String) :
    P (Except JobError (JobStateClient × String × Option String)) :=
  if running state.recording then
    .ret (.error (.http 403 "recording already in progress"))
  else do
    let recState :=
      newJob env state userID .recording (env.newJobID .recording) .recordingInit
    match ← store (.createCallJob recState) with
    | .error e => return .error (.http 500 ("failed to create call job: " ++ e))
    | .ok _ =>
        publishJob env state callID recState
        unlockCall
        let ran ← runJob .recording callID state.call.postID recState.id
        match ← lockCallReturnState callID with
        | .error _ => return .error .nilState
        | .ok none =>
            return .error (.http 500 "failed to get recording state: no call ongoing")
        | .ok (some state) =>
            match state.recording with
            | none =>
                return .error (.http 500
                  "failed to get recording state: no recording ongoing")
            | some recState =>
                recordingJobStarted p env state recState callID userID ran

/-! ## Start time-outs -/

/-- `recJobTimeoutChecker` once the time is up, under the lock. -/
def recJobTimedOut (p : Plugin) (env : Env) (callID jobID : String) :
    Option CallState → Body Unit
  | none => .ret ()
  | some state =>
      match state.recording with
      | none => .ret ()
      | some recState =>
          if recState.startAt ≠ 0 then .ret ()
          else if recState.props.jobID ≠ jobID then .ret ()
          else do
            reach (.startTimedOut .recording state.call.id)
            let err :=
              "failed to start recording job: timed out waiting for bot to join call"
            let recState := { recState with
              endAt := env.now .recordingEnd
              props := { recState.props with err := err } }
            let state := { state with recording := some recState }
            let _ ← store (.updateCallJob recState)
            let state ←
              (if running state.transcription then do
                let res ← stopTranscribingJob p env stopDepth state callID
                return res.1
              else return state)
            publishJob env state callID recState

/-- `recJobTimeoutChecker` -/
def recJobTimeoutChecker (p : Plugin) (env : Env) (callID jobID : String) : P Unit := do
  let _ ← underLock callID (recJobTimedOut p env callID jobID)

/-- The captioning part of `transcriptionJobTimeoutChecker`: the captioning job is
ended in memory, but the row that is written is the transcribing one. -/
def endTimedOutLiveCaptions (env : Env) (state : CallState) (trState : CallJob) :
    Option CallJob → Body CallState
  | none => .ret state
  | some lcState => do
      let lcState := { lcState with endAt := env.now .captioningEnd }
      let _ ← store (.updateCallJob trState)
      return { state with liveCaptions := some lcState }

/-- The recording part of `transcriptionJobTimeoutChecker`. -/
def stopTimedOutRecording (p : Plugin) (env : Env) (state : CallState)
    (callID err : String) :
    Body CallState :=
  match state.recording with
  | none => .ret state
  | some recState =>
      if recState.endAt ≠ 0 then .ret state
      else do
        let res ← stopRecordingJob p env stopDepth state callID
        publish (.callJobState callID
          { getClientStateFromCallJob recState with err := err })
          (res.1.audience env callID)
        return res.1

/-- `transcriptionJobTimeoutChecker` once the time is up, under the lock. -/
def transcriptionJobTimedOut (p : Plugin) (env : Env) (callID jobID : String) :
    Option CallState → Body Unit
  | none => .ret ()
  | some state =>
      match state.transcription with
      | none => .ret ()
      | some trState =>
          let lcState := if p.liveCaptionsEnabled then state.liveCaptions else none
          if trState.startAt ≠ 0 then .ret ()
          else if trState.props.jobID ≠ jobID then .ret ()
          else do
            reach (.startTimedOut .transcribing state.call.id)
            let err :=
              "failed to start transcriber job: timed out waiting for bot to join call"
            let trState := { trState with
              endAt := env.now .transcribingEnd
              props := { trState.props with err := err } }
            let state := { state with transcription := some trState }
            let _ ← store (.updateCallJob trState)
            let state ← endTimedOutLiveCaptions env state trState lcState
            let state ← stopTimedOutRecording p env state callID err
            publishJob env state callID trState

/-- `transcriptionJobTimeoutChecker` -/
def transcriptionJobTimeoutChecker (p : Plugin) (env : Env) (callID jobID : String) :
    P Unit := do
  let _ ← underLock callID (transcriptionJobTimedOut p env callID jobID)

/-! ## Bot status posts -/

/-- `JobStatus` -/
structure JobStatus where
  jobType : JobType
  status : JobStatusType
  error : String
  deriving DecidableEq, Repr

/-- The job of the state a status post is about. -/
def CallState.job (state : CallState) : JobType → Option CallJob
  | .recording => state.recording
  | .transcribing => state.transcription
  | .captioning => state.liveCaptions

/-- The state after a change of that job. -/
def CallState.withJob (state : CallState) (type : JobType) (job : CallJob) :
    CallState :=
  match type with
  | .recording => { state with recording := some job }
  | .transcribing => { state with transcription := some job }
  | .captioning => { state with liveCaptions := some job }

/-- What a failed job takes with it: the bot's other job, but not captions. -/
def stopCoupledJob (p : Plugin) (env : Env) (state : CallState) (callID : String) :
    JobType → Body CallState
  | .recording =>
      if state.transcription.isSome then do
        let res ← stopTranscribingJob p env stopDepth state callID
        return res.1
      else return state
  | .transcribing =>
      if state.recording.isSome then do
        let res ← stopRecordingJob p env stopDepth state callID
        return res.1
      else return state
  | .captioning => return state

/-- The end of `handleBotPostJobsStatus`: store the job and tell the clients. -/
def saveJobStatus (env : Env) (state : CallState) (callID : String) (type : JobType)
    (jb : CallJob) (lcState : Option CallJob) : Body (Nat × String) := do
  match ← store (.updateCallJob jb) with
  | .error e => return (500, "failed to update call job: " ++ e)
  | .ok _ =>
      publishJob env state callID jb
      if type ≠ .recording then publishJob? env state callID lcState
      return (200, "success")

/-- The captioning job starts with the transcribing one. -/
def startLiveCaptions (env : Env) (state : CallState) :
    Option CallJob → Body (Except String (CallState × Option CallJob))
  | none => .ret (.ok (state, none))
  | some lcState => do
      let lcState := { lcState with startAt := env.now .captioningStart }
      match ← store (.updateCallJob lcState) with
      | .error e => return .error ("failed to update call job: " ++ e)
      | .ok _ => return .ok ({ state with liveCaptions := some lcState }, some lcState)

/-- `handleBotPostJobsStatus` once it knows the job `jb` the post is about. -/
def jobStatusPosted (p : Plugin) (env : Env) (state : CallState) (callID : String)
    (status : JobStatus) (jb : CallJob) (lcState : Option CallJob) :
    Body (Nat × String) :=
  match status.status with
  | .failed => do
      reach (.jobFailed status.jobType state.call.id)
      let jb := { jb with
        endAt := env.now .jobStart
        props := { jb.props with err := status.error } }
      let state := state.withJob status.jobType jb
      let state ← stopCoupledJob p env state callID status.jobType
      saveJobStatus env state callID status.jobType jb lcState
  | .started =>
      if jb.startAt > 0 then return (400, "job has already started")
      else do
        let jb := { jb with startAt := env.now .jobStart }
        let state := state.withJob status.jobType jb
        match ← startLiveCaptions env state lcState with
        | .error e => return (500, e)
        | .ok (state, lcState) =>
            saveJobStatus env state callID status.jobType jb lcState
  | .other => return (400, "unsupported status type")

/-- `handleBotPostJobsStatus` under the lock. -/
def botPostedJobsStatus (p : Plugin) (env : Env) (callID jobID : String)
    (status : JobStatus) :
    Option CallState → Body (Nat × String)
  | none => return (400, "no call ongoing")
  | some state =>
      let lcState :=
        if status.jobType = .transcribing ∧
            p.liveCaptionsEnabled then state.liveCaptions
        else none
      if status.jobType = .captioning then return (400, "invalid job type")
      else
        match state.job status.jobType with
        | none => return (400, "no job ongoing")
        | some jb =>
            if jb.id ≠ jobID then return (400, "invalid job ID")
            else if status.status ≠ .failed ∧
                jb.endAt > 0 then return (400, "job has ended")
            else jobStatusPosted p env state callID status jb lcState

/-- `handleBotPostJobsStatus` -/
def handleBotPostJobsStatus (p : Plugin) (env : Env) (callID jobID : String)
    (status : JobStatus) : P (Nat × String) := do
  match ← underLock callID (botPostedJobsStatus p env callID jobID status) with
  | .error e => return (500, e)
  | .ok res => return res

/-! ## Requests -/

/-- `action` of `handleRecordingAction`. -/
inductive RecordingAction where
  | start
  | stop
  | other
  deriving DecidableEq, Repr

/-- `handleRecordingAction`, for a user who may read the channel and with a job
service; `recordingsAllowed` is the licence. -/
def handleRecordingAction (p : Plugin) (env : Env) (recordingsAllowed : Bool)
    (userID callID : String) (action : RecordingAction) :
    P (Except JobError JobStateClient) :=
  if ¬ recordingsAllowed then
    .ret (.error (.http 403 "Recordings are not allowed by your license"))
  else if ¬ p.recordingsEnabled then
    .ret (.error (.http 403 "Recordings are not enabled"))
  else do
    let res ← withLock callID fun
      | none => .ret (.error (.http 403 "no call ongoing"))
      | some state =>
          if state.call.getHostID ≠ userID then
            .ret (.error (.http 403 "no permissions to record"))
          else
            match action with
            | .start => do
                match ← startRecordingJob p env state callID userID with
                | .error e => return .error e
                | .ok (recState, _, _) => return .ok recState
            | .stop => do
                let res ← stopRecordingJob p env stopDepth state callID
                return res.2
            | .other => .ret (.error (.http 400 "unsupported recording action"))
    match res with
    | .error e => return .error (.http 500 e)
    | .ok res => return res

end CallsPlugin.Ports
