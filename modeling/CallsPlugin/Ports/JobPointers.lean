import CallsPlugin.Verified.Turns
import CallsPlugin.Ports.StartOutcome

/-!
# The pointers of a start

`startRecordingJob` and `startTranscribingJob` once more, with the variables that
hold a state or a job as the pointers they are.  `lockCallReturnState` and the
getters return nil beside an error, the variables are assigned before the error
is looked at, and the deferred function that relays an error reads them at every
return.  Dereferencing a nil pointer ends the code (`NilAccess`); the deferred
function then relays nothing, as no error has been returned yet.

The two functions are those of `Ports.Jobs` (`startRecordingJob_run`), and they
dereference nil exactly when the lock is not taken again, or the state not read,
after a request to the job service (`startJobs_no_nil_iff`).
-/

namespace CallsPlugin.Ports.JobPointers

open CallsPlugin.Verified
open CallsPlugin.Ports.Public CallsPlugin.Ports.Db

/-- The nil pointer that was dereferenced. -/
inductive NilAccess where
  | state
  | job
  deriving DecidableEq, Repr

/-- Code that ends when it dereferences nil. -/
abbrev Ptr := ExceptT NilAccess P

/-- Dereference a pointer. -/
def deref {α : Type} (nil : NilAccess) : Option α → Ptr α
  | none => throw nil
  | some a => return a

/-- How a start fails: the status and the text.  `startTranscribingJob` has no status of
its own; its caller answers with 500. -/
abbrev StartError := Nat × String

/-! ## The state's jobs -/

/-- `getRecording`, `getTranscription` and `getLiveCaptions`: the job, nil beside an
error. -/
def getJob (what : String) (job : CallState → Option CallJob) :
    Option CallState → Option CallJob × Option String
  | none => (none, some "no call ongoing")
  | some cs =>
      match job cs with
      | none => (none, some ("no " ++ what ++ " ongoing"))
      | some j => (some j, none)

/-- `getRecording` -/
def getRecording := getJob "recording" CallState.recording

/-- `getTranscription` -/
def getTranscription := getJob "transcription" CallState.transcription

/-- `getLiveCaptions` -/
def getLiveCaptions := getJob "live captions" CallState.liveCaptions

/-- The state a job pointer of it was written through. -/
def withRecording (state : Option CallState) (job : CallJob) : Option CallState :=
  state.map fun st => { st with recording := some job }

def withTranscription (state : Option CallState) (job : CallJob) : Option CallState :=
  state.map fun st => { st with transcription := some job }

def withLiveCaptions (state : Option CallState) (job : CallJob) : Option CallState :=
  state.map fun st => { st with liveCaptions := some job }

/-- Pass a `Point` of the state's call. -/
def passed (state : Option CallState) (point : String → Point) : Body Unit :=
  match state with
  | none => .ret ()
  | some st => reach (point st.call.id)

/-! ## Returning -/

/-- A return: the variables the deferred function reads, and the result. -/
structure Exit (α : Type) where
  state : Option CallState
  job : Option CallJob
  result : Except StartError α

/-- The deferred function of a start, and the return that it comes before. -/
def relayed {α : Type} (env : Env) (callID : String) (site : Site) (x : Exit α) :
    Ptr (Except StartError α) :=
  match x.result, x.job with
  | .error rerr, some job => do
      let job :=
        { job with endAt := env.now site, props := { job.props with err := rerr.2 } }
      let state ← deref .state x.state
      publishJob env state callID job
      return x.result
  | .error _, none => return x.result
  | .ok _, _ => return x.result

/-! ## Starting a transcription -/

/-- `startTranscribingJob` when the job service refused. -/
def transcribingRefused (env : Env) (state : Option CallState)
    (trState lcState : Option CallJob) (jobErr : String) : Ptr (Exit String) := do
  passed state fun callID => .runJobFailed .transcribing callID lcState.isSome
  let job ← deref .job trState
  let job := { job with
    endAt := env.now .transcribingEnd
    props := { job.props with err := jobErr } }
  let state := withTranscription state job
  let _ ← store (.updateCallJob job)
  let err : StartError := (500, "failed to create transcription job: " ++ jobErr)
  match lcState with
  | none => return ⟨state, some job, .error err⟩
  | some _ => do
      -- the captioning job is written through the state
      let st ← deref .state state
      let captions ← deref .job st.liveCaptions
      let captions := { captions with endAt := env.now .captioningEnd }
      let state := withLiveCaptions state captions
      let _ ← store (.updateCallJob captions)
      return ⟨state, some job, .error err⟩

/-- `startTranscribingJob` when the job service answered with the id of the job. -/
def transcribingRuns (env : Env) (state : Option CallState) (callID : String)
    (trState lcState : Option CallJob) (trJobID : String) : Ptr (Exit String) := do
  let job ← deref .job trState
  if job.props.jobID ≠ "" then
    return ⟨state, trState, .error (500, "transcription job already in progress")⟩
  else
    let job := { job with props := { job.props with jobID := trJobID } }
    let state := withTranscription state job
    match ← store (.updateCallJob job) with
    | .error e =>
        return ⟨state, some job, .error (500, "failed to update call job: " ++ e)⟩
    | .ok _ =>
        match lcState with
        | none => do
            let st ← deref .state state
            publishJob env st callID job
            return ⟨state, some job, .ok trJobID⟩
        | some captions => do
            let captions :=
              { captions with props := { captions.props with jobID := trJobID } }
            let state := withLiveCaptions state captions
            match ← store (.updateCallJob captions) with
            | .error e =>
                return ⟨state, some job,
                  .error (500, "failed to update call job: " ++ e)⟩
            | .ok _ => do
                let st ← deref .state state
                publishJob env st callID job
                return ⟨state, some job, .ok trJobID⟩

/-- `startTranscribingJob` from the point on where the lock was taken again. -/
def transcribingRelocked (p : Plugin) (env : Env) (state : Option CallState)
    (callID : String) (ran : Except String String) : Ptr (Exit String) :=
  match getTranscription state with
  | (trState, some err) =>
      return ⟨state, trState,
        .error (500, "failed to get transcription state: " ++ err)⟩
  | (trState, none) =>
      let lcState := if p.liveCaptionsEnabled then (getLiveCaptions state).1 else none
      match ran with
      | .error jobErr => transcribingRefused env state trState lcState jobErr
      | .ok trJobID => transcribingRuns env state callID trState lcState trJobID

/-- `startTranscribingJob` from the point on where its deferred function is
registered. -/
def transcribingBody (p : Plugin) (env : Env) (state : CallState) (callID : String)
    (trState : CallJob) : Ptr (Exit String) := do
  publishJob env state callID trState
  unlockCall
  let ran ← runJob .transcribing callID state.call.postID trState.id
  match ← lockCallReturnState callID with
  | .error err =>
      return ⟨none, some trState, .error (500, "failed to lock call: " ++ err)⟩
  | .ok state => transcribingRelocked p env state callID ran

/-- `startTranscribingJob` -/
def startTranscribingJob (p : Plugin) (env : Env) (state : CallState)
    (callID userID trID : String) : Ptr (Except StartError String) :=
  if running state.transcription then
    return .error (500, "transcription already in progress")
  else if trID = "" then return .error (500, "trID should not be empty")
  else do
    let trState := newJob env state userID .transcribing trID .transcribingInit
    match ← store (.createCallJob trState) with
    | .error e => return .error (500, "failed to create call job: " ++ e)
    | .ok _ =>
        match ← createLiveCaptions p env state userID with
        | .error e => return .error (500, "failed to create call job: " ++ e)
        | .ok _ =>
            let x ← transcribingBody p env state callID trState
            relayed env callID .transcribingEnd x

/-! ## Starting a recording -/

/-- What `startRecordingJob` returns: the client state of the job, and the ids whose
start the time-outs watch. -/
abbrev Started := JobStateClient × String × Option String

/-- `startRecordingJob` when the job service refused. -/
def recordingRefused (env : Env) (state : Option CallState) (recState : Option CallJob)
    (jobErr : String) : Ptr (Exit Started) := do
  passed state fun callID => .runJobFailed .recording callID false
  let job ← deref .job recState
  let job := { job with
    endAt := env.now .recordingEnd
    props := { job.props with err := jobErr } }
  let state := withRecording state job
  let _ ← store (.updateCallJob job)
  return ⟨state, some job, .error (500, "failed to create recording job: " ++ jobErr)⟩

/-- The end of a start that has succeeded.  `saveRecordingMetadata` is given the post of
the state's call and the id of the job; its own error is only logged. -/
def recordingDone (env : Env) (state : Option CallState) (callID : String)
    (recState : Option CallJob) (recJobID : String) (trJobID : Option String) :
    Ptr (Exit Started) := do
  let st ← deref .state state
  let job ← deref .job recState
  publishJob env st callID job
  return ⟨state, recState, .ok (getClientStateFromCallJob job, recJobID, trJobID)⟩

/-- `startRecordingJob` when it also starts a transcription. -/
def recordingWithTranscription (p : Plugin) (env : Env) (state : Option CallState)
    (callID userID : String) (recState : CallJob) (recJobID : String) :
    Ptr (Exit Started) := do
  let st ← deref .state state
  match ← startTranscribingJob p env st callID userID (env.newJobID .transcribing) with
  | .error e =>
      return ⟨state, some recState,
        .error (500, "failed to start transcribing job: " ++ e.2)⟩
  | .ok trJobID =>
      recordingDone env state callID (some recState) recJobID (some trJobID)

/-- `startRecordingJob` when the job service answered with the id of the job. -/
def recordingRuns (p : Plugin) (env : Env) (state : Option CallState)
    (callID userID : String) (recState : Option CallJob) (recJobID : String) :
    Ptr (Exit Started) := do
  let job ← deref .job recState
  if job.props.jobID ≠ "" then
    return ⟨state, recState, .error (403, "recording job already in progress")⟩
  else
    let job := { job with props := { job.props with jobID := recJobID } }
    let state := withRecording state job
    match ← store (.updateCallJob job) with
    | .error e =>
        return ⟨state, some job, .error (500, "failed to update call job: " ++ e)⟩
    | .ok _ =>
        if p.transcriptionsEnabled then
          recordingWithTranscription p env state callID userID job recJobID
        else recordingDone env state callID (some job) recJobID none

/-- `startRecordingJob` from the point on where the lock was taken again. -/
def recordingRelocked (p : Plugin) (env : Env) (state : Option CallState)
    (callID userID : String) (ran : Except String String) : Ptr (Exit Started) :=
  match getRecording state with
  | (recState, some err) =>
      return ⟨state, recState, .error (500, "failed to get recording state: " ++ err)⟩
  | (recState, none) =>
      match ran with
      | .error jobErr => recordingRefused env state recState jobErr
      | .ok recJobID => recordingRuns p env state callID userID recState recJobID

/-- `startRecordingJob` from the point on where its deferred function is registered. -/
def recordingBody (p : Plugin) (env : Env) (state : CallState) (callID userID : String)
    (recState : CallJob) : Ptr (Exit Started) := do
  publishJob env state callID recState
  unlockCall
  let ran ← runJob .recording callID state.call.postID recState.id
  match ← lockCallReturnState callID with
  | .error err =>
      return ⟨none, some recState, .error (500, "failed to lock call: " ++ err)⟩
  | .ok state => recordingRelocked p env state callID userID ran

/-- `startRecordingJob` -/
def startRecordingJob (p : Plugin) (env : Env) (state : CallState)
    (callID userID : String) :
    Ptr (Except StartError Started) :=
  if running state.recording then return .error (403, "recording already in progress")
  else do
    let recState :=
      newJob env state userID .recording (env.newJobID .recording) .recordingInit
    match ← store (.createCallJob recState) with
    | .error e => return .error (500, "failed to create call job: " ++ e)
    | .ok _ =>
        let x ← recordingBody p env state callID userID recState
        relayed env callID .recordingEnd x

/-! ## The two are those of `Ports.Jobs` -/

/-- A result of `Ports.Jobs`, whose `nilState` is the dereferencing of a nil state. -/
def outcome {α : Type} : Except JobError α → Except NilAccess (Except StartError α)
  | .error .nilState => .error .state
  | .error (.http code e) => .ok (.error (code, e))
  | .ok a => .ok (.ok a)

section Equations

variable {α β : Type}

@[simp] theorem run_bind (c : Ptr α) (f : α → Ptr β) : (c >>= f).run = c.run >>= fun
    | .ok a => (f a).run
    | .error nil => .ret (.error nil) := by
  show c.run >>= _ = _
  congr 1
  funext r
  cases r <;> rfl

@[simp] theorem run_body (c : Body α) :
    ((liftM c : Ptr α)).run = Prog.lift c >>= fun a => .ret (.ok a) := rfl

@[simp] theorem run_prog (c : P α) :
    ((liftM c : Ptr α)).run = c >>= fun a => .ret (.ok a) := rfl

theorem deref_some_bind (nil : NilAccess) (a : α) (f : α → Ptr β) :
    deref nil (some a) >>= f = f a := rfl

end Equations

/-- The exits of `startTranscribingJob` once the lock was taken again. -/
theorem transcribingRelocked_run (p : Plugin) (env : Env) (state : Option CallState)
    (callID : String) (ran : Except String String) :
    (transcribingRelocked p env state callID ran >>=
      relayed env callID .transcribingEnd).run =
      Prog.lift (transcribingJobStarted env state callID p.liveCaptionsEnabled ran) >>=
        fun r => .ret (outcome r) := by
  cases state with
  | none => rfl
  | some st =>
    obtain ⟨call, sessions, recording, transcription, liveCaptions⟩ := st
    cases transcription with
    | none => rfl
    | some job =>
      unfold transcribingRelocked transcribingJobStarted
      generalize p.liveCaptionsEnabled = on
      cases ran with
      | error jobErr =>
        cases on with
        | false => rfl
        | true => cases liveCaptions <;> rfl
      | ok trJobID =>
        dsimp only [getTranscription, getJob]
        unfold transcribingRuns
        rw [deref_some_bind]
        by_cases hid : job.props.jobID ≠ ""
        · rw [if_pos hid, if_pos hid]
          rfl
        · rw [if_neg hid, if_neg hid]
          refine congrArg (Prog.op _) (funext fun res => ?_)
          cases res with
          | error e => rfl
          | ok _ =>
            cases on with
            | false => rfl
            | true =>
              cases liveCaptions with
              | none => rfl
              | some captions =>
                refine congrArg (Prog.op _) (funext fun res => ?_)
                cases res <;> rfl

theorem transcribingBody_run (p : Plugin) (env : Env) (state : CallState)
    (callID userID trID : String) :
    (transcribingBody p env state callID (newTranscription env state userID trID) >>=
        relayed env callID .transcribingEnd).run =
      runTranscription p env state callID userID trID >>= fun r =>
        .ret (outcome r) := by
  unfold transcribingBody runTranscription
  simp only [run_bind, run_body, run_prog, Prog.bind_assoc, Prog.ret_bind,
    Prog.liftM_eq]
  refine congrArg _ (funext fun _ =>
      congrArg _ (funext fun _ => congrArg _ (funext fun ran =>
    congrArg _ (funext fun res => ?_))))
  cases res with
  | error e => rfl
  | ok state =>
      exact (run_bind _ _).symm.trans (transcribingRelocked_run p env state callID ran)

/-- `startTranscribingJob` with its pointers is that of `Ports.Jobs`. -/
theorem startTranscribingJob_run (p : Plugin) (env : Env) (state : CallState)
    (callID userID trID : String) :
    (startTranscribingJob p env state callID userID trID).run =
      Ports.startTranscribingJob p env state callID userID trID >>= fun r =>
        .ret (outcome r) := by
  unfold startTranscribingJob Ports.startTranscribingJob
  split
  next => rfl
  next =>
    split
    next => rfl
    next =>
      refine congrArg (Prog.op _) (funext fun res => ?_)
      cases res with
      | error e => rfl
      | ok _ =>
        dsimp only
        unfold createLiveCaptions
        by_cases hon : p.liveCaptionsEnabled
        · simp only [if_pos hon]
          refine congrArg (Prog.op _) (funext fun res => ?_)
          cases res with
          | error e => rfl
          | ok _ => exact transcribingBody_run p env state callID userID trID
        · simp only [if_neg hon]
          exact transcribingBody_run p env state callID userID trID

theorem recordingWithTranscription_run (p : Plugin) (env : Env) (st : CallState)
    (callID userID : String) (job : CallJob) (recJobID : String) :
    (recordingWithTranscription p env (some st) callID userID job recJobID >>=
        relayed env callID .recordingEnd).run =
      (Ports.startTranscribingJob p env st callID userID
        (env.newJobID .transcribing) >>=
        transcriptionStarted env st callID job recJobID) >>= fun r =>
          .ret (outcome r) := by
  unfold recordingWithTranscription
  rw [deref_some_bind]
  simp only [run_bind, startTranscribingJob_run, Prog.bind_assoc, Prog.ret_bind]
  refine congrArg _ (funext fun res => ?_)
  cases res with
  | error e =>
    cases e with
    | http code e => rfl
    | nilState => rfl
  | ok trJobID => rfl

/-- The exits of `startRecordingJob` once the lock was taken again. -/
theorem recordingRelocked_run (p : Plugin) (env : Env) (state : Option CallState)
    (callID userID : String) (ran : Except String String) :
    (recordingRelocked p env state callID userID ran >>=
      relayed env callID .recordingEnd).run =
      (match state with
        | none =>
            .ret (.error (.http 500 "failed to get recording state: no call ongoing"))
        | some st =>
            match st.recording with
            | none =>
                .ret (.error (.http 500
                  "failed to get recording state: no recording ongoing"))
            | some recState =>
                recordingJobStarted p env st recState callID userID ran : P _) >>=
      fun r => .ret (outcome r) := by
  cases state with
  | none => rfl
  | some st =>
    obtain ⟨call, sessions, recording, transcription, liveCaptions⟩ := st
    cases recording with
    | none => rfl
    | some job =>
      unfold recordingRelocked
      dsimp only [getRecording, getJob]
      unfold recordingJobStarted
      cases ran with
      | error jobErr => rfl
      | ok recJobID =>
        dsimp only
        unfold recordingRuns
        rw [deref_some_bind]
        by_cases hid : job.props.jobID ≠ ""
        · rw [if_pos hid, if_pos hid]
          rfl
        · rw [if_neg hid, if_neg hid]
          refine congrArg (Prog.op _) (funext fun res => ?_)
          cases res with
          | error e => rfl
          | ok _ =>
            by_cases hon : p.transcriptionsEnabled
            · dsimp only
              simp only [if_pos hon]
              exact recordingWithTranscription_run p env _ callID userID _ recJobID
            · dsimp only
              simp only [if_neg hon]
              rfl

theorem recordingBody_run (p : Plugin) (env : Env) (state : CallState)
    (callID userID : String) :
    (recordingBody p env state callID userID (newRecording env state userID) >>=
        relayed env callID .recordingEnd).run =
      runRecording p env state callID userID >>= fun r => .ret (outcome r) := by
  unfold recordingBody runRecording
  simp only [run_bind, run_body, run_prog, Prog.bind_assoc, Prog.ret_bind,
    Prog.liftM_eq]
  refine congrArg _ (funext fun _ =>
      congrArg _ (funext fun _ => congrArg _ (funext fun ran =>
    congrArg _ (funext fun res => ?_))))
  cases res with
  | error e => rfl
  | ok state =>
    have h := (run_bind _ _).symm.trans
      (recordingRelocked_run p env state callID userID ran)
    cases state with
    | none => exact h
    | some st => exact h

/-- `startRecordingJob` with its pointers is that of `Ports.Jobs`. -/
theorem startRecordingJob_run (p : Plugin) (env : Env) (state : CallState)
    (callID userID : String) :
    (startRecordingJob p env state callID userID).run =
      Ports.startRecordingJob p env state callID userID >>= fun r =>
        .ret (outcome r) := by
  unfold startRecordingJob Ports.startRecordingJob
  split
  next => rfl
  next =>
    refine congrArg (Prog.op _) (funext fun res => ?_)
    cases res with
    | error e => rfl
    | ok _ => exact recordingBody_run p env state callID userID

/-! ## Taking the lock again -/

/-- A request to the job service, for which the lock is given up. -/
def isRunJob : Op → Bool
  | .runJob _ _ _ _ => true
  | _ => false

section Relock

variable {W : Type}

/-- The lock is taken again and the state of the call, if there still is one, is
read. -/
def Relocks (callID : String) (t : Turn Op Op.Resp W) : Prop :=
  t.locked = true ∧ ∃ state, ((getCallState callID).run t.sem t.world).1 = .ok state

/-- A start that has dereferenced a nil state. -/
def IsNil {α : Type} (r : Except JobError α) : Prop := r = .error .nilState

variable {α : Type} {callID : String}

theorem getCallState_windows (sem : W → (o : Op) → o.Resp × W) (w : W) :
    windows isRunJob ((getCallState callID).record sem w) = 0 := by
  have hreads : (getCallState callID).Only fun o => ¬ isRunJob o = true :=
    getCallState_reads.mono fun o h => by
      cases o <;> first | exact Bool.false_ne_true | exact h.elim
  exact windows_eq_zero hreads.record

/-- What taking the lock again leads to. -/
theorem play_relock (sem : W → (o : Op) → o.Resp × W) (turns : Nat → Turn Op Op.Resp W)
    (w : W) :
    ∃ res w' log, (lockCallReturnState callID).play sem turns w =
        ⟨res, w', log, (turns 0).sem, fun n => turns (n + 1)⟩ ∧
      windows isRunJob log = 0 ∧
      (Relocks callID (turns 0) ∧ (∃ state, res = .ok state) ∨
        ¬ Relocks callID (turns 0) ∧ ∃ e, res = .error e) := by
  rw [lockCallReturnState, lockCall, Prog.lock_bind, Prog.play_lock]
  cases hlocked : (turns 0).locked with
  | false =>
      refine ⟨_, _, _, rfl, rfl, .inr ⟨fun h => ?_, _, rfl⟩⟩
      exact Bool.false_ne_true (hlocked.symm.trans h.1)
  | true =>
      have hlog : windows isRunJob
          ((getCallState callID).record (turns 0).sem (turns 0).world) = 0 :=
        getCallState_windows _ _
      simp only [Prog.ret_bind, if_true, Prog.liftM_eq, Prog.play_lift_bind]
      cases hres : ((getCallState callID).run (turns 0).sem (turns 0).world).1 with
      | error e =>
          refine ⟨_, _, _, rfl, by simpa [unlockCall] using hlog, .inr ⟨?_, _, rfl⟩⟩
          rintro ⟨_, st, hst⟩
          rw [hres] at hst
          cases hst
      | ok state =>
          refine ⟨_, _, _, rfl, by simpa using hlog, .inl ⟨⟨hlocked, state, hres⟩, ?_⟩⟩
          exact ⟨state, rfl⟩

/-- A window: the request to the job service, the lock, and what comes then. -/
theorem window_failsWith {type : JobType} {postID jobID : String}
    {f : Except String String → Except String (Option CallState) →
      P (Except JobError α)}
    (hnil : ∀ ran e, f ran (.error e) = .ret (.error .nilState))
    (hf : ∀ ran st, (f ran (.ok st)).FailsWith isRunJob
      (Relocks (W := W) callID) IsNil) :
    (do
      unlockCall
      let ran ← runJob type callID postID jobID
      let res ← lockCallReturnState callID
      f ran res : P _).FailsWith isRunJob (Relocks (W := W) callID) IsNil := by
  intro sem turns w
  obtain ⟨res, w', log, hplay, hlog, hres⟩ := play_relock sem turns
    (sem w (.runJob type callID postID jobID)).2
  simp only [unlockCall, Prog.unlock_bind, Prog.ret_bind, Prog.play_unlock,
    Prog.liftM_eq, Prog.play_lift_bind, runJob, Code.run_perform, Code.record_perform,
    List.singleton_append]
  rw [Prog.play_bind, hplay]
  rcases hres with ⟨hgood, st, rfl⟩ | ⟨hbad, e, rfl⟩
  · have hrest := (hf (sem w (.runJob type callID postID jobID)).1 st (turns 0).sem
      (fun n => turns (n + 1)) w').prepend hlog
    exact hrest.cons_good (by rfl) hgood
  · dsimp only
    rw [hnil, Prog.play_ret, List.append_nil]
    exact Blames.cons_bad (m := ⟨_, w', log, _, _⟩) (by rfl) hbad rfl hlog rfl

/-! ## Starts fail by the lock alone -/

variable {good : Turn Op Op.Resp W → Prop}

/-- An error that is relayed is none of a nil pointer. -/
theorem relay_failsWith (env : Env) (st : CallState) (err : String) (site : Site)
    (job : CallJob) (code : Nat) :
    (Prog.lift (relayStartError env st callID err site job >>= fun _ =>
      .ret (.error (.http code err))) : P (Except JobError α)).FailsWith
        isRunJob good IsNil :=
  .op Bool.false_ne_true fun _ => .ret fun h => by cases h

theorem transcribingJobStarted_failsWith (env : Env) (state : Option CallState)
    (on : Bool) (ran : Except String String) :
    (Prog.lift (transcribingJobStarted env state callID on ran)).FailsWith isRunJob
      good IsNil := by
  cases state with
  | none => exact .ret fun h => by cases h
  | some st =>
    unfold transcribingJobStarted
    dsimp only
    split
    next => exact .ret fun h => by cases h
    next =>
      cases ran with
      | error jobErr =>
        refine .op Bool.false_ne_true fun _ => .op Bool.false_ne_true fun _ => ?_
        unfold endRefusedLiveCaptions
        split
        next => exact relay_failsWith env _ _ _ _ _
        next => exact .op Bool.false_ne_true fun _ => relay_failsWith env _ _ _ _ _
      | ok trJobID =>
        dsimp only
        split
        next => exact relay_failsWith env _ _ _ _ _
        next =>
          refine .op Bool.false_ne_true fun res => ?_
          cases res with
          | error e => exact relay_failsWith env _ _ _ _ _
          | ok _ =>
            unfold setLiveCaptionsJobID
            split
            next => exact .op Bool.false_ne_true fun _ => .ret fun h => by cases h
            next =>
              refine .op Bool.false_ne_true fun res => ?_
              cases res with
              | error e => exact relay_failsWith env _ _ _ _ _
              | ok _ => exact .op Bool.false_ne_true fun _ => .ret fun h => by cases h

/-- `startTranscribingJob` dereferences nil by a lock that is not taken again. -/
theorem startTranscribingJob_failsWith (p : Plugin) (env : Env) (st : CallState)
    (userID trID : String) :
    (Ports.startTranscribingJob p env st callID userID trID).FailsWith isRunJob
      (Relocks (W := W) callID) IsNil := by
  unfold Ports.startTranscribingJob
  split
  next => exact .ret fun h => by cases h
  next =>
    split
    next => exact .ret fun h => by cases h
    next =>
      refine .op Bool.false_ne_true fun res => ?_
      cases res with
      | error e => exact .ret fun h => by cases h
      | ok _ =>
        have hrun : (runTranscription p env st callID userID trID).FailsWith isRunJob
            (Relocks (W := W) callID) IsNil :=
          .op Bool.false_ne_true fun _ =>
              window_failsWith (fun _ _ => rfl) fun ran st =>
            transcribingJobStarted_failsWith env st _ ran
        unfold createLiveCaptions
        by_cases hon : p.liveCaptionsEnabled
        · simp only [if_pos hon]
          refine .op Bool.false_ne_true fun res => ?_
          cases res with
          | error e => exact .ret fun h => by cases h
          | ok _ => exact hrun
        · simp only [if_neg hon]
          exact hrun

/-- A recording whose transcription is started passes on how that ended. -/
theorem withTranscription_failsWith (p : Plugin) (env : Env) (st : CallState)
    (userID recJobID : String) (recState : CallJob) :
    (Ports.startTranscribingJob p env st callID userID (env.newJobID .transcribing) >>=
      transcriptionStarted env st callID recState recJobID).FailsWith isRunJob
        (Relocks (W := W) callID) IsNil := by
  refine (startTranscribingJob_failsWith p env st userID _).bind ?_ ?_
  · rintro _ rfl
    exact ⟨_, rfl, rfl⟩
  · intro res hres
    cases res with
    | error e =>
      cases e with
      | http code e => exact relay_failsWith env _ _ _ _ _
      | nilState => exact absurd rfl hres
    | ok trJobID => exact .op Bool.false_ne_true fun _ => .ret fun h => by cases h

theorem recordingJobStarted_failsWith (p : Plugin) (env : Env) (st : CallState)
    (recState : CallJob) (userID : String) (ran : Except String String) :
    (recordingJobStarted p env st recState callID userID ran).FailsWith isRunJob
      (Relocks (W := W) callID) IsNil := by
  unfold recordingJobStarted
  cases ran with
  | error jobErr =>
    exact .op Bool.false_ne_true fun _ => .op Bool.false_ne_true fun _ =>
      relay_failsWith env _ _ _ _ _
  | ok recJobID =>
    dsimp only
    split
    next => exact relay_failsWith env _ _ _ _ _
    next =>
      refine .op Bool.false_ne_true fun res => ?_
      cases res with
      | error e => exact relay_failsWith env _ _ _ _ _
      | ok _ =>
        by_cases hon : p.transcriptionsEnabled
        · simp only [if_pos hon]
          exact withTranscription_failsWith p env _ userID recJobID _
        · simp only [if_neg hon]
          exact .op Bool.false_ne_true fun _ => .ret fun h => by cases h

/-- `startRecordingJob` dereferences nil by a lock that is not taken again. -/
theorem startRecordingJob_failsWith (p : Plugin) (env : Env) (st : CallState)
    (userID : String) :
    (Ports.startRecordingJob p env st callID userID).FailsWith isRunJob
      (Relocks (W := W) callID) IsNil := by
  unfold Ports.startRecordingJob
  split
  next => exact .ret fun h => by cases h
  next =>
    refine .op Bool.false_ne_true fun res => ?_
    cases res with
    | error e => exact .ret fun h => by cases h
    | ok _ =>
      refine .op Bool.false_ne_true fun _ => window_failsWith (fun _ _ => rfl)
        fun ran st => ?_
      cases st with
      | none => exact .ret fun h => by cases h
      | some st =>
        dsimp only
        split
        next => exact .ret fun h => by cases h
        next recState _ =>
          exact recordingJobStarted_failsWith p env st recState userID ran

/-! ## When a start returns -/

/-- A run that ended by a return, none of its pointers having been nil. -/
def Returns {β : Type} (m : Played Op Op.Resp W (Except NilAccess β)) : Prop :=
  ∃ res, m.result = .ok res

/-- After each request to the job service that a run made, the lock is taken again. -/
def Relocked {β : Type} (callID : String) (turns : Nat → Turn Op Op.Resp W)
    (m : Played Op Op.Resp W β) : Prop :=
  ∀ n < windows isRunJob m.log, Relocks callID (turns n)

/-- Code with pointers returns when the code of `Ports.Jobs` does not fail. -/
theorem returns_iff {c : Ptr (Except StartError α)} {d : P (Except JobError α)}
    (hc : c.run = d >>= fun r => .ret (outcome r))
    (hd : d.FailsWith isRunJob (Relocks (W := W) callID) IsNil)
    (sem : W → (o : Op) → o.Resp × W) (turns : Nat → Turn Op Op.Resp W) (w : W) :
    Returns (c.run.play sem turns w) ↔
    Relocked callID turns (c.run.play sem turns w) := by
  have hfailed := (hd sem turns w).failed_iff
  rw [hc, Prog.play_bind]
  simp only [Prog.play_ret, List.append_nil]
  have hreturns : Returns (W := W) (β := Except StartError α)
      ⟨outcome (d.play sem turns w).result, w, [], sem, turns⟩ ↔
        ¬ IsNil (d.play sem turns w).result := by
    cases (d.play sem turns w).result with
    | error e =>
      cases e with
      | http code e => exact ⟨fun _ => fun h => (by cases h), fun _ => ⟨_, rfl⟩⟩
      | nilState =>
          exact ⟨fun h => (by obtain ⟨_, h⟩ := h; cases h), fun h => absurd rfl h⟩
    | ok a => exact ⟨fun _ => fun h => (by cases h), fun _ => ⟨_, rfl⟩⟩
  refine Iff.trans hreturns ?_
  rw [hfailed]
  simp only [Relocked, not_exists, not_and, not_not]

end Relock

/-- The two starts return normally, whatever the environment, exactly in the runs in
which the lock is taken again and the state read after every request to the job
service. -/
theorem startJobs_no_nil_iff {W : Type} (p : Plugin) (env : Env) (state : CallState)
    (callID userID trID : String) (sem : W → (o : Op) → o.Resp × W)
    (turns : Nat → Turn Op Op.Resp W) (w : W) :
    (Returns ((startRecordingJob p env state callID userID).run.play sem turns w) ↔
      Relocked callID turns
        ((startRecordingJob p env state callID userID).run.play sem turns w)) ∧
    (Returns ((startTranscribingJob p env state callID userID trID).run.play sem turns
      w) ↔ Relocked callID turns
        ((startTranscribingJob p env state callID userID trID).run.play sem turns w)) :=
  ⟨returns_iff (startRecordingJob_run p env state callID userID)
      (startRecordingJob_failsWith p env state userID) sem turns w,
    returns_iff (startTranscribingJob_run p env state callID userID trID)
      (startTranscribingJob_failsWith p env state userID trID) sem turns w⟩

/-- The lock of a call is not obtained after the request to run its recording: the
deferred function reads the sessions of the nil state. -/
theorem startRecordingJob_nil :
    ¬ ∀ (p : Plugin) (env : Env) (state : CallState) (callID userID trID : String)
      (sem : Store → (o : Op) → o.Resp × Store) (turns : Nat → Turn Op Op.Resp Store)
      (w : Store),
      Returns ((startRecordingJob p env state callID userID).run.play sem turns w) ∧
      Returns ((startTranscribingJob p env state callID userID trID).run.play sem
        turns w) := by
  intro h
  obtain ⟨res, hres⟩ :=
    (h .sample (.sample 20) sampleState "chan" "alice" "tr" (exec .works)
    (fun _ => ⟨false, sampleStore, exec .works⟩) sampleStore).1
  have hnil :
      ((startRecordingJob .sample (.sample 20) sampleState "chan" "alice").run.play
      (exec .works) (fun _ => ⟨false, sampleStore, exec .works⟩) sampleStore).result =
        .error .state := rfl
  rw [hnil] at hres
  cases hres

end CallsPlugin.Ports.JobPointers
