import CallsPlugin.Ports.Webapp

/-!
# Loading a snapshot (`webapp/src`)

The client loads the state of a call whole, from a `call_state` event, or what
of it is known when the call starts, from a `call_start` event.  The reducers
that hold the call, its sessions, its host and who shares the screen replace
their entry.  Those that hold the recording and the live captions merge: what
the payload does not say stays from before, be it of an earlier job or call.
-/

namespace CallsPlugin.Ports

open CallsPlugin.Verified
open CallsPlugin.Ports.Public CallsPlugin.Ports.Db

/-! ## The entries of jobs -/

/-- `CallJobReduxState`.  A `none` is a missing key; the client sets the last two fields
itself. -/
structure CallJobReduxState where
  type : Option JobType := none
  initAt : Option Int := none
  startAt : Option Int := none
  endAt : Option Int := none
  err : Option String := none
  errorAt : Option Int := none
  promptDismissedAt : Option Int := none
  deriving DecidableEq, Repr

namespace CallJobReduxState

/-- `{...state, ...jobState}`, where either object may be missing. -/
def spread (state jobState : Option CallJobReduxState) : CallJobReduxState :=
  let state := state.getD {}
  let jobState := jobState.getD {}
  { type := jobState.type.or state.type
    initAt := jobState.initAt.or state.initAt
    startAt := jobState.startAt.or state.startAt
    endAt := jobState.endAt.or state.endAt
    err := jobState.err.or state.err
    errorAt := jobState.errorAt.or state.errorAt
    promptDismissedAt := jobState.promptDismissedAt.or state.promptDismissedAt }

/-- A job as the server shows it; an empty error is left out. -/
def ofJobState (job : JobStateClient) : CallJobReduxState where
  type := some job.type
  initAt := some job.initAt
  startAt := some job.startAt
  endAt := some job.endAt
  err := if job.err = "" then none else some job.err

end CallJobReduxState

/-- The actions of the reducers of jobs. -/
inductive JobAction where
  | uninit
  | localSessionClose
  | callRecordingState (jobState : Option CallJobReduxState)
  | callLiveCaptionsState (jobState : Option CallJobReduxState)
  | callRecPromptDismissed (dismissedAt : Int)

namespace Reducers

/-- `recordings` -/
def recordings (state : Option CallJobReduxState) : JobAction → Option CallJobReduxState
  | .uninit | .localSessionClose => none
  | .callRecordingState jobState => some (.spread state jobState)
  | .callRecPromptDismissed dismissedAt =>
      some { state.getD {} with promptDismissedAt := some dismissedAt }
  | .callLiveCaptionsState _ => state

/-- `callLiveCaptionsState` -/
def callLiveCaptionsState (state : Option CallJobReduxState) :
    JobAction → Option CallJobReduxState
  | .callLiveCaptionsState jobState => some (.spread state jobState)
  | _ => state

end Reducers

/-! ## Handlers -/

/-- The client's entries for the channel, with those of jobs. -/
structure ClientView where
  entries : ClientStore
  recordings : Option CallJobReduxState
  callLiveCaptionsState : Option CallJobReduxState

namespace ClientView

/-- The reducers of jobs act. -/
def dispatch (d : ClientView) (a : JobAction) : ClientView :=
  { d with
    recordings := Reducers.recordings d.recordings a
    callLiveCaptionsState := Reducers.callLiveCaptionsState d.callLiveCaptionsState a }

/-- `handleCallState`, which is `loadCallState`. -/
def handleCallState (d : ClientView) (call : CallStateClient) : ClientView :=
  let d := d.dispatch (.callRecordingState (call.recording.map .ofJobState))
  let d := d.dispatch (.callLiveCaptionsState (call.liveCaptions.map .ofJobState))
  { d with entries := d.entries.loadCallState call }

/-- `handleCallStart` -/
def handleCallStart (d : ClientView) (call : ClientCall) (hostID : String) :
    ClientView :=
  let d := d.dispatch (.callRecordingState none)
  let d := d.dispatch (.callLiveCaptionsState none)
  { d with entries := d.entries.handleCallStart call hostID }

end ClientView

/-! ## What is left from before -/

namespace CallJobReduxState

/-- The entry as the server knows it. -/
def shared (job : CallJobReduxState) : CallJobReduxState :=
  { job with errorAt := none, promptDismissedAt := none }

/-- What of the entry `state` the payload `jobState` says nothing about. -/
def leftBy (jobState state : Option CallJobReduxState) : CallJobReduxState :=
  let state := state.getD {}
  let jobState := jobState.getD {}
  { type := if jobState.type.isSome then none else state.type
    initAt := if jobState.initAt.isSome then none else state.initAt
    startAt := if jobState.startAt.isSome then none else state.startAt
    endAt := if jobState.endAt.isSome then none else state.endAt
    err := if jobState.err.isSome then none else state.err }

/-- A field is as before exactly if the payload has none. -/
theorem or_eq_or {α : Type} {new old old' : Option α} :
    new.or old = new.or old' ↔
      (if new.isSome then none else old) = if new.isSome then none else old' := by
  cases new <;> simp

/-- Two entries become the same exactly if they agree in what the payload leaves. -/
theorem spread_shared_eq {jobState state state' : Option CallJobReduxState} :
    (spread state jobState).shared = (spread state' jobState).shared ↔
      leftBy jobState state = leftBy jobState state' := by
  simp only [spread, shared, leftBy, CallJobReduxState.mk.injEq, or_eq_or]

end CallJobReduxState

/-! ## Two histories -/

namespace ClientView

/-- The two clients have the same recording and live captions, fields of their own
aside. -/
structure SameJobs (d d' : ClientView) : Prop where
  recordings : d.recordings.map CallJobReduxState.shared =
    d'.recordings.map CallJobReduxState.shared
  captions : d.callLiveCaptionsState.map CallJobReduxState.shared =
    d'.callLiveCaptionsState.map CallJobReduxState.shared

/-- The two clients have the same entries after a `call_state`. -/
structure SameState (d d' : ClientView) : Prop where
  entries : d.entries = d'.entries
  jobs : SameJobs d d'

/-- The two clients have the same entries after a `call_start`, which says nothing of
sessions. -/
structure SameStart (d d' : ClientView) : Prop where
  calls : d.entries.calls = d'.entries.calls
  hosts : d.entries.hosts = d'.entries.hosts
  jobs : SameJobs d d'

/-- The two clients agree in what payloads of these jobs leave. -/
structure AgreeLeft (recording liveCaptions : Option CallJobReduxState)
    (d d' : ClientView) : Prop where
  recordings : CallJobReduxState.leftBy recording d.recordings =
    CallJobReduxState.leftBy recording d'.recordings
  captions : CallJobReduxState.leftBy liveCaptions d.callLiveCaptionsState =
    CallJobReduxState.leftBy liveCaptions d'.callLiveCaptionsState

variable {d d' : ClientView}

/-- The entries the reducers replace do not depend on what was there. -/
theorem loadCallState_entries (e e' : ClientStore) (call : CallStateClient) :
    e.loadCallState call = e'.loadCallState call := rfl

/-- Merging payloads of the jobs. -/
theorem sameJobs_spread {recording liveCaptions : Option CallJobReduxState}
    {e e' : ClientView} (hrec : e.recordings = some (.spread d.recordings recording))
    (hrec' : e'.recordings = some (.spread d'.recordings recording))
    (hcap : e.callLiveCaptionsState =
      some (.spread d.callLiveCaptionsState liveCaptions))
    (hcap' : e'.callLiveCaptionsState =
      some (.spread d'.callLiveCaptionsState liveCaptions)) :
    SameJobs e e' ↔ AgreeLeft recording liveCaptions d d' := by
  have hiff : SameJobs e e' ↔
      (CallJobReduxState.spread d.recordings recording).shared =
          (CallJobReduxState.spread d'.recordings recording).shared ∧
        (CallJobReduxState.spread d.callLiveCaptionsState liveCaptions).shared =
          (CallJobReduxState.spread d'.callLiveCaptionsState liveCaptions).shared := by
    constructor
    · intro h
      have hrecordings := h.recordings
      have hcaptions := h.captions
      rw [hrec, hrec'] at hrecordings
      rw [hcap, hcap'] at hcaptions
      exact ⟨Option.some.inj hrecordings, Option.some.inj hcaptions⟩
    · intro h
      constructor
      · rw [hrec, hrec']
        exact congrArg some h.1
      · rw [hcap, hcap']
        exact congrArg some h.2
  rw [hiff, CallJobReduxState.spread_shared_eq, CallJobReduxState.spread_shared_eq]
  exact ⟨fun h => ⟨h.1, h.2⟩, fun h => ⟨h.recordings, h.captions⟩⟩

/-- **Snapshots and histories**: a payload leaves two clients with the same entries
exactly if they agreed in what the payload does not say of the recording and the live
captions. -/
theorem snapshots_iff (d d' : ClientView) :
    (∀ call : CallStateClient,
      SameState (d.handleCallState call) (d'.handleCallState call) ↔
      AgreeLeft (call.recording.map .ofJobState)
        (call.liveCaptions.map .ofJobState) d d') ∧
    ∀ (call : ClientCall) (hostID : String),
      SameStart (d.handleCallStart call hostID) (d'.handleCallStart call hostID) ↔
        AgreeLeft none none d d' := by
  constructor
  · intro call
    have hjobs : SameJobs (d.handleCallState call) (d'.handleCallState call) ↔ _ :=
      sameJobs_spread rfl rfl rfl rfl
    rw [← hjobs]
    exact ⟨fun h => h.jobs, fun h => ⟨loadCallState_entries _ _ call, h⟩⟩
  · intro call hostID
    have hjobs : SameJobs (d.handleCallStart call hostID)
        (d'.handleCallStart call hostID) ↔ _ :=
      sameJobs_spread rfl rfl rfl rfl
    rw [← hjobs]
    exact ⟨fun h => h.jobs, fun h => ⟨rfl, rfl, h⟩⟩

/-- The client saw a recording end. -/
def recorded : ClientView :=
  ⟨.empty,
    some
      { type := some .recording, initAt := some 10, startAt := some 11, endAt := some 20 },
    none⟩

/-- The client has heard nothing. -/
def fresh : ClientView := ⟨.empty, none, none⟩

/-- The next call starts with the recording of the last one. -/
theorem snapshots_recorded :
    ¬SameStart (recorded.handleCallStart ⟨"call", 30, "alice", "t"⟩ "alice")
    (fresh.handleCallStart ⟨"call", 30, "alice", "t"⟩ "alice") := fun h =>
  absurd h.jobs.recordings (by decide)

/-- A call without a recording is loaded with the recording of the last one. -/
example : (recorded.handleCallState
    (sampleState.getClientState (.sample 5) "bot" "alice")).recordings
    = recorded.recordings := by decide

end ClientView

end CallsPlugin.Ports
