import CallsPlugin.Verified.Play
import CallsPlugin.Ports.JobTable

/-!
# What a start leaves behind

`startRecordingJob` and `startTranscribingJob` against an environment that decides
every store call, every answer of the job service and every attempt to take the lock
again, and that may change the store at will while the lock is released.
-/

namespace CallsPlugin.Ports

open CallsPlugin.Verified
open CallsPlugin.Ports.Public CallsPlugin.Ports.Db

/-! ## The environment of a start -/

/-- The operations as `choose` settles them. -/
def answers (choose : Op → Choice) (s : Store) (o : Op) : o.Resp × Store :=
  exec (choose o) s o

/-- The end of a window in which the lock was released: whether it is obtained again,
the store by then, and how operations are settled from then on. -/
structure Window where
  locked : Bool
  store : Store
  choose : Op → Choice

namespace Window

/-- The window as `play` takes it. -/
def turn (v : Window) : Turn Op Op.Resp Store := ⟨v.locked, v.store, answers v.choose⟩

/-- The state that is read when the lock is obtained again. -/
def state (v : Window) (channelID : String) : Option CallState :=
  if v.locked then
    match ((getCallState channelID).run (answers v.choose) v.store).1 with
    | .error _ => none
    | .ok state => state
  else none

/-- The updates of jobs that follow succeed. -/
structure UpdatesWork (v : Window) : Prop where
  works : ∀ j, (v.choose (.store (.updateCallJob j))).storeFails = false
  valid : ∀ j ∈ v.store.jobs, j.isValid = .ok ()

end Window

/-- The operation inserts no job. -/
def Op.CreatesNoJob : Op → Prop
  | .store (.createCallJob _) => False
  | _ => True

/-- The row was inserted. -/
def Created (log : List (Sigma Op.Resp)) (j : CallJob) : Prop :=
  (⟨.store (.createCallJob j), .ok ()⟩ : Sigma Op.Resp) ∈ log

theorem not_created {log : List (Sigma Op.Resp)} (h : ∀ e ∈ log, e.1.CreatesNoJob)
    (j : CallJob) :
    ¬ Created log j := fun hc => h _ hc

theorem created_append {log log' : List (Sigma Op.Resp)} {j : CallJob} :
    Created (log ++ log') j ↔ Created log j ∨ Created log' j := List.mem_append

/-- The store has an active job with this id. -/
def IsActive (t : JobTable) (id : String) : Prop := ∃ j ∈ t, j.id = id ∧ j.endAt = 0

theorem isActive_insert {t t' : JobTable} {j : CallJob} {id : String}
    (hi : t.insert? j = some t') (hend : j.endAt = 0) : IsActive t' id ↔
    IsActive t id ∨ id = j.id := by
  constructor
  · rintro ⟨x, hx, rfl, he⟩
    rcases (Table.mem_of_insert? hi).1 hx with hx | rfl
    · exact .inl ⟨x, hx, rfl, he⟩
    · exact .inr rfl
  · rintro (⟨x, hx, rfl, he⟩ | rfl)
    · exact ⟨x, (Table.mem_of_insert? hi).2 (.inl hx), rfl, he⟩
    · exact ⟨j, (Table.mem_of_insert? hi).2 (.inr rfl), rfl, hend⟩

theorem isActive_update_ended {t : JobTable} {j : CallJob} {id : String}
    (hend : j.endAt ≠ 0) :
    IsActive (t.update j) id ↔ IsActive t id ∧ id ≠ j.id := by
  constructor
  · rintro ⟨x, hx, rfl, he⟩
    obtain ⟨y, hy, rfl⟩ := (Table.mem_modify (Store.setJob_id · j)).1 hx
    by_cases hk : y.id = j.id
    · rw [if_pos hk] at he
      exact absurd he hend
    · rw [if_neg hk] at he ⊢
      exact ⟨⟨y, hy, rfl, he⟩, hk⟩
  · rintro ⟨⟨x, hx, rfl, he⟩, hk⟩
    exact ⟨x, (Table.mem_modify_of_ne (Store.setJob_id · j) hk).2 hx, rfl, he⟩

/-- Writing an active job as active changes nothing here. -/
theorem isActive_update_running {t : JobTable} {j : CallJob} {id : String}
    (hj : IsActive t j.id) (hend : j.endAt = 0) : IsActive (t.update j) id ↔
    IsActive t id := by
  constructor
  · rintro ⟨x, hx, rfl, he⟩
    obtain ⟨y, hy, rfl⟩ := (Table.mem_modify (Store.setJob_id · j)).1 hx
    by_cases hk : y.id = j.id
    · rw [if_pos hk, Store.setJob_id, hk]
      exact hj
    · rw [if_neg hk] at he ⊢
      exact ⟨y, hy, rfl, he⟩
  · rintro ⟨x, hx, rfl, he⟩
    refine ⟨_, (Table.mem_modify (Store.setJob_id · j)).2 ⟨x, hx, rfl⟩, ?_, ?_⟩
    · split <;> rfl
    · split
      · exact hend
      · exact he

/-! ## Taking the lock again -/

/-- The jobs of a state that was read from the store. -/
def ReadFrom (t : JobTable) (st : CallState) : Prop :=
  ∀ type j, st.job type = some j → ActiveJob t st.call.id type j

section Read

variable {choose : Op → Choice} {s : Store} {channelID : String}

/-- The operation is a store call that does not write. -/
def Op.Reads : Op → Prop
  | .store o => o.isWrite = false
  | _ => False

theorem getCallStateFromCall_reads (call : Call) :
    (getCallStateFromCall call).Only Op.Reads := by
  refine ⟨rfl, fun res => ?_⟩
  cases res with
  | error _ => trivial
  | ok sessions =>
      refine ⟨rfl, fun res => ?_⟩
      cases res <;> trivial

theorem getCallState_reads : (getCallState channelID).Only Op.Reads := by
  unfold getCallState
  refine Code.Only.bind ⟨rfl, fun _ => trivial⟩ fun res => ?_
  match res with
  | .error _ => trivial
  | .ok none => trivial
  | .ok (some call) =>
      refine Code.Only.bind (getCallStateFromCall_reads call) fun res => ?_
      cases res <;> trivial

theorem Op.Reads.createsNoJob {o : Op} (h : o.Reads) : o.CreatesNoJob := by
  cases o with
  | store o => cases o <;> first | exact absurd h (by decide) | trivial
  | _ => trivial

theorem Op.Reads.answers_snd {o : Op} (h : o.Reads) : (answers choose s o).2 = s := by
  cases o with
  | store o =>
      rw [answers, exec_store, attempt]
      split
      · rfl
      · cases o <;> first | rfl | cases h
  | _ => exact h.elim

/-- Reading the state does not change the store. -/
theorem run_getCallState_snd :
    ((getCallState channelID).run (answers choose) s).2 = s :=
  getCallState_reads.run (I := fun s' => s' = s)
    (fun _ _ ho hw => ho.answers_snd.trans hw) rfl

theorem run_store_read {o : StoreOp} (ho : o.isWrite = false) :
    ((store o).run (answers choose) s).2 = s := Op.Reads.answers_snd ho

theorem readFrom_of_call {call : Call} {st : CallState}
    (h : ((getCallStateFromCall call).run (answers choose) s).1 = .ok st) :
    ReadFrom s.jobs st := by
  rw [getCallStateFromCall, Code.run_bind, run_store_read rfl] at h
  split at h
  · cases h
  rw [Code.run_bind, run_store_read rfl] at h
  split at h
  · cases h
  next jobs hjobs =>
    have hjobs : jobs = s.getActiveCallJobs call.id := by
      rw [store, Code.run_perform, answers, exec_store, attempt] at hjobs
      split at hjobs
      · cases hjobs
      · exact (Except.ok.inj hjobs).symm
    cases h
    subst hjobs
    rintro (_ | _ | _) j hj <;>
      exact ⟨(Store.getActiveCallJobs_eq_some hj).1,
        (Store.getActiveCallJobs_eq_some hj).2.1,
        (Store.getActiveCallJobs_eq_some hj).2.2.2,
          (Store.getActiveCallJobs_eq_some hj).2.2.1⟩

/-- The jobs of a state that is read are active rows. -/
theorem readFrom_of_run {st : CallState}
    (h : ((getCallState channelID).run (answers choose) s).1 = .ok (some st)) :
    ReadFrom s.jobs st := by
  rw [getCallState, Code.run_bind, run_store_read rfl] at h
  split at h
  · cases h
  · cases h
  rw [Code.run_bind] at h
  split at h
  · cases h
  next state hstate =>
    cases h
    exact readFrom_of_call hstate

/-- What taking the lock again leads to. -/
theorem play_lockCallReturnState (sem : Store → (o : Op) → o.Resp × Store) (s : Store)
    (channelID : String) (ws : Nat → Window) :
    ∃ res log, (lockCallReturnState channelID).play sem (fun n => (ws n).turn) s =
        ⟨res, (ws 0).store, log, answers (ws 0).choose, fun n => (ws (n + 1)).turn⟩ ∧
      (∀ e ∈ log, e.1.Reads) ∧
      (res = .ok ((ws 0).state channelID) ∨
        (∃ e, res = .error e) ∧ (ws 0).state channelID = none) := by
  rw [lockCallReturnState, lockCall, Prog.lock_bind, Prog.play_lock]
  cases hlocked : (ws 0).locked with
  | false =>
      refine ⟨.error "failed to create call lock: failed to lock", [],
        by simp [Window.turn, hlocked], by simp, .inr ⟨⟨_, rfl⟩, ?_⟩⟩
      simp [Window.state, hlocked]
  | true =>
      have hlog : ∀ e ∈ (getCallState channelID).record (answers (ws 0).choose)
          (ws 0).store,
          e.1.Reads := fun e he => getCallState_reads.record e he
      simp only [Window.turn, hlocked, Prog.ret_bind, if_true, Prog.liftM_eq,
        Prog.play_lift_bind, run_getCallState_snd]
      cases hres :
          ((getCallState channelID).run (answers (ws 0).choose) (ws 0).store).1 with
      | error e =>
          refine ⟨_, _, rfl, by simpa [unlockCall] using hlog, .inr ⟨⟨_, rfl⟩, ?_⟩⟩
          simp [Window.state, hlocked, hres]
      | ok state =>
          refine ⟨_, _, rfl, by simpa using hlog, .inl ?_⟩
          simp [Window.state, hlocked, hres]

theorem Window.readFrom_state {v : Window} {st : CallState}
    (h : v.state channelID = some st) :
    ReadFrom v.store.jobs st := by
  unfold Window.state at h
  split at h
  · split at h
    · cases h
    next state hres => exact readFrom_of_run (h ▸ hres)
  · cases h

end Read

/-! ## The transcription -/

/-- The captions a handler looks at. -/
def captionsIf (liveCaptionsOn : Bool) (st : CallState) : Option CallJob :=
  if liveCaptionsOn then st.liveCaptions else none

/-- The ids of the jobs that end because the job service refused a transcription: those
that are found when the lock is taken again. -/
def endedByRefusal (liveCaptionsOn : Bool) (ran : Except String String) :
    Option CallState → List String
  | none => []
  | some st =>
      match ran, st.transcription with
      | .error _, some tr =>
          tr.id :: ((captionsIf liveCaptionsOn st).map CallJob.id).toList
      | _, _ => []

section Transcribing

variable {choose : Op → Choice} {s : Store}

@[simp] theorem answers_reach (p : Point) : answers choose s (.reach p) = ((), s) := rfl

@[simp] theorem answers_publish (ev : WsEvent) (b : WebSocketBroadcast) :
    answers choose s (.publish ev b) = ((), s) := rfl

@[simp] theorem run_publishJob (env : Env) (st : CallState) (callID : String)
    (job : CallJob) :
    (publishJob env st callID job).run (answers choose) s = ((), s) := rfl

@[simp] theorem run_relayStartError (env : Env) (st : CallState) (callID err : String)
    (site : Site) (job : CallJob) :
    (relayStartError env st callID err site job).run (answers choose) s = ((), s) := rfl

@[simp] theorem run_runJob (type : JobType) (callID postID jobID : String) :
    (runJob type callID postID jobID).run (answers choose) s =
      ((choose (.runJob type callID postID jobID)).runJob, s) := rfl

@[simp] theorem record_runJob (type : JobType) (callID postID jobID : String) :
    (runJob type callID postID jobID).record (answers choose) s =
      [⟨.runJob type callID postID jobID,
        (choose (.runJob type callID postID jobID)).runJob⟩] := rfl

@[simp] theorem record_publishJob (env : Env) (st : CallState) (callID : String)
    (job : CallJob) :
    (publishJob env st callID job).record (answers choose) s =
      [⟨.publish (.callJobState callID (getClientStateFromCallJob job))
        (st.audience env callID), ()⟩] := rfl

/-- Writing a job succeeds or changes nothing. -/
theorem answers_update (choose : Op → Choice) (s : Store) (j : CallJob) :
    (∃ e, answers choose s (.store (.updateCallJob j)) = (.error e, s)) ∨
      answers choose s (.store (.updateCallJob j)) = (.ok (), s.updateCallJob j) := by
  rw [answers, exec_store, attempt]
  split
  · exact .inl ⟨_, rfl⟩
  · simp only [StoreOp.exec]
    split
    · exact .inl ⟨_, rfl⟩
    · exact .inr rfl

/-- Writing a row's job with new end and props succeeds while updates work. -/
theorem answers_update_works {j j' : CallJob}
    (hworks : (choose (.store (.updateCallJob j'))).storeFails = false)
    (hj : j.isValid = .ok ()) (hset : Store.setJob j j' = j') :
    answers choose s (.store (.updateCallJob j')) = (.ok (), s.updateCallJob j') := by
  have hj' : j'.isValid = .ok () := by
    rw [CallJob.isValid_ok] at hj ⊢
    rw [← hset]
    exact hj
  rw [answers, exec_store, hworks, attempt_false]
  simp only [StoreOp.exec, hj']

theorem isActive_answers_update (choose : Op → Choice) {s : Store} {j : CallJob}
    (hj : IsActive s.jobs j.id) (hend : j.endAt = 0) (id : String) :
    IsActive (answers choose s (.store (.updateCallJob j))).2.jobs id ↔
    IsActive s.jobs id := by
  rcases answers_update choose s j with ⟨e, h⟩ | h
  · rw [h]
  · rw [h]
    exact isActive_update_running hj hend

/-- The captions a refusal ends. -/
theorem endRefusedLiveCaptions_left {env : Env} {st : CallState}
    {lcState : Option CallJob}
    (hworks : ∀ j, (choose (.store (.updateCallJob j))).storeFails = false)
    (hvalid : ∀ lc, lcState = some lc → lc.isValid = .ok ()) (id : String) :
    IsActive ((endRefusedLiveCaptions env st lcState).run (answers choose) s).2.jobs
      id ↔ IsActive s.jobs id ∧ id ∉ (lcState.map CallJob.id).toList := by
  cases lcState with
  | none => simp [endRefusedLiveCaptions]
  | some lc =>
      have hset : Store.setJob lc { lc with endAt := env.now .captioningEnd } = _ := rfl
      have hend : (Store.setJob lc { lc with endAt := env.now .captioningEnd }).endAt ≠
          0 :=
        (env.now_pos _).ne'
      simp only [endRefusedLiveCaptions, Code.run_bind, store, Code.run_perform,
        Code.pure_eq, Code.run_ret,
        answers_update_works (hworks _) (hvalid lc rfl) hset, Option.map_some,
        Option.toList_some, List.mem_singleton]
      exact isActive_update_ended hend

/-- Giving the captions the id of the job does not end them. -/
theorem setLiveCaptionsJobID_left (choose : Op → Choice) (st : CallState)
    (trJobID : String) {s : Store} {lcState : Option CallJob} (hlc : ∀ lc,
      lcState = some lc → IsActive s.jobs lc.id ∧ lc.endAt = 0) (id : String) :
    IsActive ((setLiveCaptionsJobID st trJobID lcState).run (answers choose) s).2.jobs
      id ↔
      IsActive s.jobs id := by
  cases lcState with
  | none => rfl
  | some lc =>
      obtain ⟨hact, hend⟩ := hlc lc rfl
      rw [setLiveCaptionsJobID, Code.run_bind, store, Code.run_perform]
      have hwrite := isActive_answers_update choose
        (j := { lc with props := { lc.props with jobID := trJobID } }) hact hend id
      dsimp only at hwrite ⊢
      split <;> simpa using hwrite

theorem captionsIf_eq_some {liveCaptionsOn : Bool} {st : CallState} {lc : CallJob}
    (h : captionsIf liveCaptionsOn st = some lc) : st.job .captioning = some lc := by
  unfold captionsIf at h
  split at h
  · exact h
  · cases h

/-- What the part of `startTranscribingJob` after the window does. -/
theorem transcribingJobStarted_left {env : Env} {state : Option CallState}
    {callID : String} {liveCaptionsOn : Bool} {ran : Except String String}
    (hread : ∀ st, state = some st → ReadFrom s.jobs st)
    (hworks : ∀ e, ran = .error e → Window.UpdatesWork ⟨true, s, choose⟩)
    (id : String) :
    IsActive ((transcribingJobStarted env state callID liveCaptionsOn ran).run
        (answers choose) s).2.jobs id ↔
      IsActive s.jobs id ∧ id ∉ endedByRefusal liveCaptionsOn ran state := by
  cases state with
  | none => simp [transcribingJobStarted, endedByRefusal]
  | some st =>
      have hread := hread st rfl
      unfold transcribingJobStarted
      dsimp only
      rw [show (if liveCaptionsOn = true then st.liveCaptions else none) =
        captionsIf liveCaptionsOn st from rfl]
      split
      next htr => cases ran <;> simp [endedByRefusal, htr]
      next tr htr =>
        have htract : ActiveJob s.jobs st.call.id .transcribing tr :=
          hread .transcribing tr htr
        cases ran with
        | error jobErr =>
            obtain ⟨hworks, hvalid⟩ := hworks jobErr rfl
            have hset : Store.setJob tr { tr with
                endAt := env.now .transcribingEnd
                props := { tr.props with err := jobErr } } = _ := rfl
            have hend : (Store.setJob tr { tr with
                endAt := env.now .transcribingEnd
                props := { tr.props with err := jobErr } }).endAt ≠ 0 :=
                  (env.now_pos _).ne'
            simp only [Code.run_bind, reach, store, Code.run_perform, answers_reach,
              run_relayStartError, Code.pure_eq, Code.run_ret, endedByRefusal, htr,
              List.mem_cons, not_or,
              answers_update_works (hworks _) (hvalid tr htract.mem) hset]
            rw [endRefusedLiveCaptions_left hworks fun lc hlc =>
              hvalid lc (hread .captioning lc (captionsIf_eq_some hlc)).mem,
                ← and_assoc]
            exact and_congr_left' (isActive_update_ended hend)
        | ok trJobID =>
            simp only [endedByRefusal, List.not_mem_nil, not_false_eq_true, and_true]
            split
            · simp
            have hwrite := isActive_answers_update choose
              (j := { tr with props := { tr.props with jobID := trJobID } })
              ⟨tr, htract.mem, rfl, htract.endAt⟩ htract.endAt
            rw [Code.run_bind, store, Code.run_perform]
            split
            · simpa using hwrite id
            · rw [Code.run_bind]
              have hlc := fun st' => setLiveCaptionsJobID_left choose st' trJobID
                (s := (answers choose s (.store (.updateCallJob
                  { tr with props := { tr.props with jobID := trJobID } }))).2)
                (fun lc (hlc : captionsIf liveCaptionsOn st = some lc) => by
                  have hlcact := hread .captioning lc (captionsIf_eq_some hlc)
                  exact ⟨(hwrite lc.id).2 ⟨lc, hlcact.mem, rfl, hlcact.endAt⟩,
                    hlcact.endAt⟩) id
              split <;> simpa using (hlc _).trans (hwrite id)

theorem transcribingJobStarted_createsNoJob (env : Env) (state : Option CallState)
    (callID : String) (liveCaptionsOn : Bool) (ran : Except String String) :
    (transcribingJobStarted env state callID liveCaptionsOn ran).Only
      Op.CreatesNoJob := by
  have hquiet : ∀ {α : Type} (st : CallState) (err : String) (job : CallJob) (a : α),
      (relayStartError env st callID err .transcribingEnd job >>= fun _ =>
        Code.ret a).Only
        Op.CreatesNoJob := fun _ _ _ _ => ⟨trivial, fun _ => trivial⟩
  cases state with
  | none => trivial
  | some st =>
      unfold transcribingJobStarted
      dsimp only
      split
      · trivial
      · cases ran with
        | error jobErr =>
            refine Code.Only.perform trivial fun _ =>
              Code.Only.perform trivial fun _ => ?_
            refine Code.Only.bind ?_ fun _ => hquiet _ _ _ _
            unfold endRefusedLiveCaptions
            split
            · trivial
            · exact ⟨trivial, fun _ => trivial⟩
        | ok trJobID =>
            dsimp only
            split
            · exact hquiet _ _ _ _
            refine Code.Only.perform trivial fun res => ?_
            cases res with
            | error e => exact hquiet _ _ _ _
            | ok _ =>
                refine Code.Only.bind ?_ fun res => ?_
                · unfold setLiveCaptionsJobID
                  split
                  · trivial
                  · refine ⟨trivial, fun res => ?_⟩
                    cases res <;> trivial
                · cases res with
                  | error e => exact hquiet _ _ _ _
                  | ok _ => exact ⟨trivial, fun _ => trivial⟩

/-- The store refuses the row, or the call fails. -/
def Refused (choose : Op → Choice) (s : Store) (j : CallJob) : Prop :=
  (answers choose s (.store (.createCallJob j))).1 ≠ .ok ()

theorem answers_create (choose : Op → Choice) (s : Store) (j : CallJob) :
    (Refused choose s j ∧ ∃ e, answers choose s (.store (.createCallJob j)) =
      (.error e, s)) ∨
    (¬ Refused choose s j ∧ ∃ t, s.jobs.insert? j = some t ∧
      answers choose s (.store (.createCallJob j)) =
        (.ok (), { s with jobs := t })) := by
  unfold Refused
  rw [answers, exec_store, attempt]
  split
  · exact .inl ⟨by simp, _, rfl⟩
  · simp only [StoreOp.exec, insertRow]
    cases hv : j.isValid with
    | error e => exact .inl ⟨by simp, _, rfl⟩
    | ok _ =>
        cases hi : s.jobs.insert? j with
        | none => exact .inl ⟨by simp, _, rfl⟩
        | some t => exact .inr ⟨by simp, t, rfl, rfl⟩

end Transcribing

/-! ## `startTranscribingJob` -/

section StartTranscribing

variable (p : Plugin) (env : Env) (st : CallState) (callID userID trID : String)
  (choose : Op → Choice) (s : Store)

/-- The transcription the start creates. -/
def newTranscription : CallJob :=
  newJob env st userID .transcribing trID .transcribingInit

/-- The captions the start creates with it. -/
def newLiveCaptions : CallJob :=
  newJob env st userID .captioning (env.newJobID .captioning) .captioningInit

/-- The start of a transcription that creates nothing. -/
def NotCreated : Prop :=
  running st.transcription = true ∨ trID = "" ∨
    Refused choose s (newTranscription env st userID trID)

/-- The transcription is created, but not its captions. -/
def CaptionsRefused : Prop :=
  p.liveCaptionsEnabled = true ∧
    Refused choose (answers choose s (.store (.createCallJob
      (newTranscription env st userID trID)))).2 (newLiveCaptions env st userID)

/-- What the job service answers to the request to run the transcription. -/
def transcriptionRan : Except String String :=
  (choose (.runJob .transcribing callID st.call.postID trID)).runJob

/-- `startTranscribingJob` from the point on where its rows are created. -/
def runTranscription : P (Except JobError String) := do
  publishJob env st callID (newTranscription env st userID trID)
  unlockCall
  let ran ← runJob .transcribing callID st.call.postID trID
  match ← lockCallReturnState callID with
  | .error _ => return .error .nilState
  | .ok state => transcribingJobStarted env state callID p.liveCaptionsEnabled ran

theorem runTranscription_left (ws : Nat → Window)
    (hworks : ∀ e, transcriptionRan st callID trID choose = .error e →
      (ws 0).UpdatesWork) :
    let m := (runTranscription p env st callID userID trID).play (answers choose)
      (fun n => (ws n).turn) s
    (∀ e ∈ m.log, e.1.CreatesNoJob) ∧ ∀ id, IsActive m.world.jobs id ↔
      IsActive (ws 0).store.jobs id ∧ id ∉ endedByRefusal p.liveCaptionsEnabled
        (transcriptionRan st callID trID choose) ((ws 0).state callID) := by
  obtain ⟨res, log, hplay, hlog, hres⟩ :=
    play_lockCallReturnState (answers choose) s callID ws
  simp only [runTranscription, Prog.liftM_eq, Prog.play_lift_bind, unlockCall,
    Prog.unlock_bind, Prog.ret_bind, Prog.play_unlock, run_publishJob, run_runJob,
    record_publishJob, record_runJob]
  rw [Prog.play_bind, hplay]
  have hquiet : ∀ l : List (Sigma Op.Resp), (∀ e ∈ l, e.1.CreatesNoJob) →
      ∀ o₁ o₂ : Sigma Op.Resp,
      o₁.1.CreatesNoJob → o₂.1.CreatesNoJob → ∀ e ∈ [o₁] ++ ([o₂] ++ (log ++ l)),
        e.1.CreatesNoJob := by
    intro l hl o₁ o₂ h₁ h₂ e he
    simp only [List.mem_append, List.mem_singleton] at he
    rcases he with rfl | rfl | he | he
    · exact h₁
    · exact h₂
    · exact (hlog e he).createsNoJob
    · exact hl e he
  rcases hres with rfl | ⟨⟨e, rfl⟩, hnone⟩
  · dsimp only
    rw [Prog.play_lift]
    refine ⟨hquiet _ ?_ _ _ trivial trivial, transcribingJobStarted_left
      (fun st' hst' => Window.readFrom_state hst') fun e he => ?_⟩
    · exact fun e he => (transcribingJobStarted_createsNoJob _ _ _ _ _).record e he
    · exact ⟨(hworks e he).works, (hworks e he).valid⟩
  · refine ⟨hquiet [] (by simp) _ _ trivial trivial, fun id => ?_⟩
    simp [hnone, endedByRefusal]

/-- What `startTranscribingJob` leaves, when it creates nothing, when the captions are
refused, and when it comes to call the job service. -/
structure TranscribingLeft (ws : Nat → Window)
    (m : Played Op Op.Resp Store (Except JobError String)) :
    Prop where
  nothing : NotCreated env st userID trID choose s →
    (∀ j, ¬ Created m.log j) ∧ m.world = s
  refused : ¬ NotCreated env st userID trID choose s →
    CaptionsRefused p env st userID trID choose s →
    Created m.log (newTranscription env st userID trID) ∧ IsActive m.world.jobs trID
  ran : ¬ NotCreated env st userID trID choose s →
    ¬ CaptionsRefused p env st userID trID choose s →
    (∀ j, Created m.log j ↔ j = newTranscription env st userID trID ∨
      p.liveCaptionsEnabled = true ∧ j = newLiveCaptions env st userID) ∧
    ∀ id, IsActive m.world.jobs id ↔ IsActive (ws 0).store.jobs id ∧
      id ∉ endedByRefusal p.liveCaptionsEnabled (transcriptionRan st callID trID choose)
        ((ws 0).state callID)

theorem startTranscribingJob_left (ws : Nat → Window)
    (hworks : ∀ e, transcriptionRan st callID trID choose = .error e →
      (ws 0).UpdatesWork) :
    TranscribingLeft p env st callID userID trID choose s ws
      ((startTranscribingJob p env st callID userID trID).play (answers choose)
        (fun n => (ws n).turn) s) := by
  unfold startTranscribingJob
  split
  next hrun => exact ⟨fun _ => ⟨by simp [Created], rfl⟩, fun h => absurd (.inl hrun) h,
    fun h => absurd (.inl hrun) h⟩
  next hrun =>
    split
    next hid =>
      exact ⟨fun _ => ⟨by simp [Created], rfl⟩, fun h => absurd (.inr (.inl hid)) h,
      fun h => absurd (.inr (.inl hid)) h⟩
    next hid =>
      dsimp only
      change TranscribingLeft p env st callID userID trID choose s ws (Prog.play
        (Prog.lift (store (.createCallJob (newTranscription env st userID trID))) >>= _)
          _ _ _)
      rw [Prog.play_lift_bind]
      rcases answers_create choose s (newTranscription env st userID trID) with
        ⟨href, e, hres⟩ | ⟨href, t, hi, hres⟩
      · simp only [store, Code.run_perform, Code.record_perform, hres, Prog.pure_eq,
          Prog.play_ret]
        exact ⟨fun _ => ⟨by simp [Created], rfl⟩, fun h => absurd (.inr (.inr href)) h,
          fun h => absurd (.inr (.inr href)) h⟩
      · simp only [store, Code.run_perform, Code.record_perform, hres]
        have hnot : ¬ NotCreated env st userID trID choose s := by
          rintro (h | h | h)
          · exact hrun h
          · exact hid h
          · exact href h
        have hcapt : CaptionsRefused p env st userID trID choose s ↔
            p.liveCaptionsEnabled = true ∧
            Refused choose { s with jobs := t } (newLiveCaptions env st userID) := by
          rw [CaptionsRefused, hres]
        have hcreated : ∀ j, Created [⟨.store (.createCallJob
            (newTranscription env st userID trID)), .ok ()⟩] j ↔
            j = newTranscription env st userID trID := by
          simp [Created]
        have hleft :=
          fun s => runTranscription_left p env st callID userID trID choose s ws hworks
        by_cases hon : p.liveCaptionsEnabled = true
        · have hrun : (createLiveCaptions p env st userID).run (answers choose)
              { s with jobs := t } = answers choose { s with jobs := t }
                (.store (.createCallJob (newLiveCaptions env st userID))) := by
            rw [createLiveCaptions, if_pos hon]
            rfl
          have hrecord : (createLiveCaptions p env st userID).record (answers choose)
              { s with jobs := t } =
                  [⟨.store (.createCallJob (newLiveCaptions env st userID)),
                (answers choose { s with jobs := t }
                  (.store (.createCallJob (newLiveCaptions env st userID)))).1⟩] := by
            rw [createLiveCaptions, if_pos hon]
            rfl
          rw [Prog.liftM_eq, Prog.play_lift_bind, hrun, hrecord]
          rcases answers_create choose { s with jobs := t }
              (newLiveCaptions env st userID) with
            ⟨hlcref, e, hlcres⟩ | ⟨hlcref, t', hi', hlcres⟩
          · rw [hlcres]
            refine ⟨fun h => absurd h hnot, fun _ _ => ⟨?_, ?_⟩,
              fun _ h => absurd ⟨hon, ?_⟩ h⟩
            · exact List.mem_cons_self ..
            · exact (isActive_insert hi rfl).2 (.inr rfl)
            · rwa [hres]
          · rw [hlcres]
            obtain ⟨hlog, hact⟩ := hleft { s with jobs := t' }
            refine ⟨fun h => absurd h hnot,
                fun _ h => absurd (hcapt.1 h).2 hlcref, fun _ _ =>
              ⟨fun j => ?_, hact⟩⟩
            refine (created_append.trans (or_congr (hcreated j)
              (created_append.trans (or_iff_left (not_created hlog j))))).trans ?_
            simp [Created, hon]
        · rw [createLiveCaptions, if_neg hon, Prog.liftM_eq, Prog.play_lift_bind]
          obtain ⟨hlog, hact⟩ := hleft { s with jobs := t }
          refine ⟨fun h => absurd h hnot,
              fun _ h => absurd (hcapt.1 h).1 hon, fun _ _ =>
            ⟨fun j => ?_, hact⟩⟩
          refine (created_append.trans (or_congr (hcreated j)
            (iff_false_intro (not_created hlog j)))).trans ?_
          simp [hon]

/-- When no row that the start created is left active, nor one of the jobs `also`:
nothing was created and none of `also` is active, or the rows that are still active when
the lock is taken again end because the job service has refused the transcription. -/
structure TranscribingCleansUp (ws : Nat → Window) (also : List String) : Prop where
  nothing : NotCreated env st userID trID choose s → ∀ id ∈ also, ¬ IsActive s.jobs id
  captions : ¬ NotCreated env st userID trID choose s →
    ¬ CaptionsRefused p env st userID trID choose s
  ended : ¬ NotCreated env st userID trID choose s → ∀ id, id ∈ also ∨ id = trID ∨
    (p.liveCaptionsEnabled = true ∧ id = (newLiveCaptions env st userID).id) →
    IsActive (ws 0).store.jobs id → id ∈ endedByRefusal p.liveCaptionsEnabled
      (transcriptionRan st callID trID choose) ((ws 0).state callID)

theorem TranscribingLeft.cleansUp_iff {ws : Nat → Window} {also : List String}
    {m : Played Op Op.Resp Store (Except JobError String)}
    (h : TranscribingLeft p env st callID userID trID choose s ws m) :
    ((∀ j, Created m.log j → ¬ IsActive m.world.jobs j.id) ∧
      ∀ id ∈ also, ¬ IsActive m.world.jobs id) ↔
    TranscribingCleansUp p env st callID userID trID choose s ws also := by
  by_cases hn : NotCreated env st userID trID choose s
  · obtain ⟨hlog, hworld⟩ := h.nothing hn
    rw [hworld]
    exact ⟨fun hc => ⟨fun _ => hc.2, fun h => absurd hn h, fun h => absurd hn h⟩,
      fun hc => ⟨fun j hj => absurd hj (hlog j), hc.nothing hn⟩⟩
  by_cases hlc : CaptionsRefused p env st userID trID choose s
  · obtain ⟨hc, hact⟩ := h.refused hn hlc
    exact ⟨fun hnone => absurd hact (hnone.1 _ hc),
      fun hc => absurd hlc (hc.captions hn)⟩
  obtain ⟨hlog, hact⟩ := h.ran hn hlc
  constructor
  · rintro ⟨hcreated, halso⟩
    refine ⟨fun h => absurd h hn, fun _ => hlc, fun _ id hid ha => ?_⟩
    by_contra hne
    have hleft := (hact id).2 ⟨ha, hne⟩
    rcases hid with hid | rfl | ⟨hon, rfl⟩
    · exact halso id hid hleft
    · exact hcreated _ ((hlog _).2 (.inl rfl)) hleft
    · exact hcreated _ ((hlog _).2 (.inr ⟨hon, rfl⟩)) hleft
  · intro hc
    have hleft : ∀ id, id ∈ also ∨ id = trID ∨ (p.liveCaptionsEnabled = true ∧
        id = (newLiveCaptions env st userID).id) → ¬ IsActive m.world.jobs id :=
      fun id hid ha =>
      ((hact id).1 ha).2 (hc.ended hn id hid ((hact id).1 ha).1)
    refine ⟨fun j hj => ?_, fun id hid => hleft id (.inl hid)⟩
    rcases (hlog j).1 hj with rfl | ⟨hon, rfl⟩
    · exact hleft _ (.inr (.inl rfl))
    · exact hleft _ (.inr (.inr ⟨hon, rfl⟩))

end StartTranscribing

/-! ## `startRecordingJob` -/

section StartRecording

variable (p : Plugin) (env : Env) (st : CallState) (callID userID : String)
  (choose : Op → Choice) (s : Store)

/-- The recording the start creates. -/
def newRecording : CallJob :=
  newJob env st userID .recording (env.newJobID .recording) .recordingInit

/-- What the job service answers to the request to run the recording. -/
def recordingRan : Except String String :=
  (choose (.runJob .recording callID st.call.postID
    (newRecording env st userID).id)).runJob

/-- The recording found when the lock is taken again, with the id of its job. -/
def withJobID (recState : CallJob) (jobID : String) : CallJob :=
  { recState with props := { recState.props with jobID := jobID } }

/-- The transcription is started with the state `st'` in the store `s'`. -/
structure GoesOn (v : Window) (st' : CallState) (s' : Store) : Prop where
  on : p.transcriptionsEnabled = true
  saved : ∃ st₀ recState jobID, v.state callID = some st₀ ∧
    st₀.recording = some recState ∧
    recordingRan env st callID userID choose = .ok jobID ∧ recState.props.jobID = "" ∧
    answers v.choose v.store (.store (.updateCallJob (withJobID recState jobID))) =
    (.ok (), s') ∧ st' = { st₀ with recording := some (withJobID recState jobID) }

/-- The ids of the jobs that end because the job service refused a recording: that of
the recording found when the lock is taken again. -/
def endedByRecordingRefusal (ran : Except String String) :
    Option CallState → List String
  | none => []
  | some st' =>
      match ran, st'.recording with
      | .error _, some recState => [recState.id]
      | _, _ => []

/-- When no row that the start created is left active: the recording, if it is still
active when the lock is taken again, ends because the job service has refused it or
the transcription. -/
structure RecordingCleansUp (ws : Nat → Window) : Prop where
  recording : (¬ ∃ st' s', GoesOn p env st callID userID choose (ws 0) st' s') →
    IsActive (ws 0).store.jobs (newRecording env st userID).id →
    (newRecording env st userID).id ∈ endedByRecordingRefusal
      (recordingRan env st callID userID choose) ((ws 0).state callID)
  transcribing : ∀ st' s', GoesOn p env st callID userID choose (ws 0) st' s' →
    TranscribingCleansUp p env st' callID userID (env.newJobID .transcribing)
      (ws 0).choose s' (fun n => ws (n + 1)) [(newRecording env st userID).id]

/-- What `recordingJobStarted` does when the job service refused. -/
theorem recordingJobStarted_refused {recState : CallJob} {e : String}
    (ws : Nat → Window) (hrec : ActiveJob s.jobs st.call.id .recording recState)
    (hworks : Window.UpdatesWork ⟨true, s, choose⟩) :
    let m := (recordingJobStarted p env st recState callID userID (.error e)).play
      (answers choose) (fun n => (ws n).turn) s
    (∀ j, ¬ Created m.log j) ∧
      ∀ id, IsActive m.world.jobs id ↔ IsActive s.jobs id ∧ id ≠ recState.id := by
  obtain ⟨hworks, hvalid⟩ := hworks
  have hset : Store.setJob recState { recState with
      endAt := env.now .recordingEnd
      props := { recState.props with err := e } } = _ := rfl
  have hend : (Store.setJob recState { recState with
      endAt := env.now .recordingEnd
      props := { recState.props with err := e } }).endAt ≠ 0 := (env.now_pos _).ne'
  simp only [recordingJobStarted, Prog.liftM_eq, Prog.play_lift_bind, reach, store,
    Code.run_perform, Code.record_perform, answers_reach,
    answers_update_works (hworks _) (hvalid recState hrec.mem) hset]
  exact ⟨fun j => by simp [Created, relayStartError],
    fun id => isActive_update_ended hend⟩

/-- What `recordingJobStarted` does when it stops short of the transcription. -/
theorem recordingJobStarted_done {recState : CallJob} {jobID : String}
    (ws : Nat → Window) (hrec : ActiveJob s.jobs st.call.id .recording recState)
    (hdone : ¬ (p.transcriptionsEnabled = true ∧ recState.props.jobID = "" ∧
      (answers choose s (.store (.updateCallJob (withJobID recState jobID)))).1 =
        .ok ())) :
    let m := (recordingJobStarted p env st recState callID userID (.ok jobID)).play
      (answers choose) (fun n => (ws n).turn) s
    (∀ j, ¬ Created m.log j) ∧ ∀ id, IsActive m.world.jobs id ↔ IsActive s.jobs id := by
  unfold recordingJobStarted
  dsimp only
  split
  · exact ⟨fun j => by simp [Created, relayStartError, Prog.play_lift_bind],
      fun id => Iff.rfl⟩
  next hid =>
    have hwrite := isActive_answers_update choose (j := withJobID recState jobID)
      ⟨recState, hrec.mem, rfl, hrec.endAt⟩ hrec.endAt
    simp only [Prog.liftM_eq, Prog.play_lift_bind, store, Code.run_perform,
      Code.record_perform]
    rcases answers_update choose s (withJobID recState jobID) with ⟨e, hres⟩ | hres
    · rw [withJobID] at hres
      rw [hres]
      exact ⟨fun j => by simp [Created, relayStartError, Prog.play_lift_bind],
        fun id => Iff.rfl⟩
    · rw [hres] at hwrite hdone
      rw [withJobID] at hres
      rw [hres]
      have htr : p.transcriptionsEnabled = false := by
        by_contra hne
        exact hdone ⟨by simpa using hne, by simpa using hid, rfl⟩
      dsimp only
      rw [if_neg (by simp [htr])]
      exact ⟨fun j => by simp [Created, publishJob, Prog.play_lift_bind], hwrite⟩

/-- The end of `recordingJobStarted`, once the transcription was started or not. -/
def transcriptionStarted (recState : CallJob) (recJobID : String) :
    Except JobError String →
    P (Except JobError (JobStateClient × String × Option String))
  | .error (.http _ e) => do
      let err := "failed to start transcribing job: " ++ e
      relayStartError env st callID err .recordingEnd recState
      return .error (.http 500 err)
  | .error .nilState => return .error .nilState
  | .ok trJobID => do
      publishJob env st callID recState
      return .ok (getClientStateFromCallJob recState, recJobID, some trJobID)

theorem transcriptionStarted_left (recState : CallJob) (recJobID : String)
    (res : Except JobError String) (turns : Nat → Turn Op Op.Resp Store) :
    let m := (transcriptionStarted env st callID recState recJobID res).play
      (answers choose) turns s
    (∀ j, ¬ Created m.log j) ∧ m.world = s := by
  rcases res with (⟨_, e⟩ | _) | trJobID
  · exact ⟨fun j => by simp [transcriptionStarted, Created, relayStartError,
      Prog.play_lift_bind], rfl⟩
  · exact ⟨fun j => by simp [transcriptionStarted, Created], rfl⟩
  · exact ⟨fun j => by simp [transcriptionStarted, Created, Prog.play_lift_bind], rfl⟩

/-- What `recordingJobStarted` does when it starts the transcription. -/
theorem recordingJobStarted_goesOn {recState : CallJob} {jobID : String}
    (ws : Nat → Window) {s' : Store} (hon : p.transcriptionsEnabled = true)
    (hid : recState.props.jobID = "")
    (hres : answers choose s (.store (.updateCallJob (withJobID recState jobID))) =
      (.ok (), s')) :
    let m := (recordingJobStarted p env st recState callID userID (.ok jobID)).play
      (answers choose) (fun n => (ws n).turn) s
    let m' := (startTranscribingJob p env
        { st with recording := some (withJobID recState jobID) } callID userID
        (env.newJobID .transcribing)).play (answers choose) (fun n => (ws n).turn) s'
    (∀ j, Created m.log j ↔ Created m'.log j) ∧ m.world = m'.world := by
  intro m m'
  have hm : m = (Prog.lift (store (.updateCallJob (withJobID recState jobID))) >>= fun
      | .error e => do
          let err := "failed to update call job: " ++ e
          relayStartError env { st with recording := some (withJobID recState jobID) }
            callID err .recordingEnd (withJobID recState jobID)
          return .error (.http 500 err)
      | .ok _ =>
          startTranscribingJob p env
            { st with recording := some (withJobID recState jobID) }
          callID userID (env.newJobID .transcribing) >>=
          transcriptionStarted env
            { st with recording := some (withJobID recState jobID) } callID
            (withJobID recState jobID) jobID).play (answers choose)
            (fun n => (ws n).turn) s := by
    show Prog.play (recordingJobStarted p env st recState callID userID (.ok jobID)) _ _
      _ = _
    unfold recordingJobStarted
    dsimp only
    rw [if_neg (not_not.2 hid)]
    congr 2
    funext res
    cases res with
    | error e => rfl
    | ok _ =>
        dsimp only
        rw [if_pos hon]
        rfl
  have hsem : ∃ c, m'.sem = answers c := by
    have hplay : m'.sem = answers choose ∨ ∃ n, m'.sem = ((ws n).turn).sem :=
      Prog.play_sem _
    rcases hplay with h | ⟨n, h⟩
    · exact ⟨choose, h⟩
    · exact ⟨(ws n).choose, h⟩
  obtain ⟨c, hsem⟩ := hsem
  obtain ⟨hlog, hworld⟩ := transcriptionStarted_left env
    { st with recording := some (withJobID recState jobID) } callID c m'.world
    (withJobID recState jobID) jobID m'.result m'.turns
  rw [hm, Prog.play_lift_bind, store, Code.run_perform, Code.record_perform, hres]
  rw [Prog.play_bind]
  change (∀ j, Created
    (_ ++ (m'.log ++ Played.log (Prog.play (transcriptionStarted _ _ _ _ _
    m'.result) m'.sem m'.turns m'.world))) j ↔ _) ∧ Played.world (Prog.play
      (transcriptionStarted _ _ _ _ _ m'.result) m'.sem m'.turns m'.world) = _
  rw [hsem]
  refine ⟨fun j => ?_, hworld⟩
  have hfirst :
      ¬ Created [⟨.store (.updateCallJob (withJobID recState jobID)), .ok ()⟩] j := by
    simp [Created]
  rw [created_append, created_append]
  exact (or_iff_right hfirst).trans (or_iff_left (hlog j))

/-- What `startRecordingJob` leaves from the point on where its recording is created,
when it does not come to the transcription and when it does. -/
structure RecordingLeft {α : Type} (ws : Nat → Window) (m : Played Op Op.Resp Store α) :
    Prop where
  stopped : (¬ ∃ st' s', GoesOn p env st callID userID choose (ws 0) st' s') →
    (∀ j, ¬ Created m.log j) ∧
    ∀ id, IsActive m.world.jobs id ↔ IsActive (ws 0).store.jobs id ∧
      id ∉ endedByRecordingRefusal (recordingRan env st callID userID choose)
        ((ws 0).state callID)
  wentOn : ∀ st' s', GoesOn p env st callID userID choose (ws 0) st' s' →
    ∃ m' : Played Op Op.Resp Store (Except JobError String),
      TranscribingLeft p env st' callID userID (env.newJobID .transcribing)
        (ws 0).choose s' (fun n => ws (n + 1)) m' ∧
      (∀ j, Created m.log j ↔ Created m'.log j) ∧ m.world = m'.world

theorem goesOn_unique {v : Window} {st₁ st₂ : CallState} {s₁ s₂ : Store}
    (h₁ : GoesOn p env st callID userID choose v st₁ s₁)
    (h₂ : GoesOn p env st callID userID choose v st₂ s₂) : st₁ = st₂ ∧ s₁ = s₂ := by
  obtain ⟨st₀, recState, jobID, hst, hrec, hran, -, hres, rfl⟩ := h₁.saved
  obtain ⟨st₀', recState', jobID', hst', hrec', hran', -, hres', rfl⟩ := h₂.saved
  obtain rfl : st₀ = st₀' := Option.some.inj (hst.symm.trans hst')
  obtain rfl : recState = recState' := Option.some.inj (hrec.symm.trans hrec')
  obtain rfl : jobID = jobID' := Except.ok.inj (hran.symm.trans hran')
  exact ⟨rfl, congrArg Prod.snd (hres.symm.trans hres')⟩

/-- `startRecordingJob` from the point on where its recording is created. -/
def runRecording : P (Except JobError (JobStateClient × String × Option String)) := do
  publishJob env st callID (newRecording env st userID)
  unlockCall
  let ran ← runJob .recording callID st.call.postID (newRecording env st userID).id
  match ← lockCallReturnState callID with
  | .error _ => return .error .nilState
  | .ok none =>
      return .error (.http 500 "failed to get recording state: no call ongoing")
  | .ok (some state) =>
      match state.recording with
      | none =>
          return .error (.http 500
            "failed to get recording state: no recording ongoing")
      | some recState => recordingJobStarted p env state recState callID userID ran

theorem runRecording_left {ws : Nat → Window}
    (hworks : ∀ e, recordingRan env st callID userID choose = .error e →
      (ws 0).UpdatesWork)
    (htrworks : ∀ st' s' e, GoesOn p env st callID userID choose (ws 0) st' s' →
      transcriptionRan st' callID (env.newJobID .transcribing) (ws 0).choose =
      .error e → (ws 1).UpdatesWork) :
    RecordingLeft p env st callID userID choose ws
      ((runRecording p env st callID userID).play (answers choose)
        (fun n => (ws n).turn) s) := by
  obtain ⟨res, log, hplay, hlog, hres⟩ :=
    play_lockCallReturnState (answers choose) s callID ws
  simp only [runRecording, Prog.liftM_eq, Prog.play_lift_bind, unlockCall,
    Prog.unlock_bind, Prog.ret_bind, Prog.play_unlock, run_publishJob, run_runJob,
    record_publishJob, record_runJob]
  rw [Prog.play_bind, hplay, show (choose (.runJob .recording callID st.call.postID
    (newRecording env st userID).id)).runJob =
      recordingRan env st callID userID choose from rfl]
  -- what comes before the continuation creates nothing
  have hquiet : ∀ (l : List (Sigma Op.Resp)) (j : CallJob),
      Created ([⟨.publish (.callJobState callID
          (getClientStateFromCallJob (newRecording env st userID)))
            (st.audience env callID), ()⟩] ++
        ([⟨.runJob .recording callID st.call.postID (newRecording env st userID).id,
          recordingRan env st callID userID choose⟩] ++ (log ++ l))) j ↔
          Created l j := by
    intro l j
    have hno := not_created (fun e he => (hlog e he).createsNoJob) j
    simp only [Created, List.mem_append, List.mem_singleton] at hno ⊢
    simp [hno]
  have hnil : ∀ j, ¬ Created [] j := fun j => List.not_mem_nil
  have hnone : (ws 0).state callID = none →
      (¬ ∃ st' s', GoesOn p env st callID userID choose (ws 0) st' s') ∧
      endedByRecordingRefusal (recordingRan env st callID userID choose)
        ((ws 0).state callID) = [] := by
    intro hnone
    refine ⟨?_, by rw [hnone]; rfl⟩
    rintro ⟨st', s', h⟩
    obtain ⟨st₀, _, _, hst, _⟩ := h.saved
    rw [hnone] at hst
    cases hst
  rcases hres with rfl | ⟨⟨e, rfl⟩, hstate⟩
  · cases hstate : (ws 0).state callID with
    | none =>
        obtain ⟨hno, hend⟩ := hnone hstate
        refine ⟨fun _ => ⟨fun j hj => hnil j ((hquiet _ j).1 hj), fun id => ?_⟩,
          fun st' s' h => absurd ⟨st', s', h⟩ hno⟩
        rw [hend]
        simp
    | some st₀ =>
        cases hrec : st₀.recording with
        | none =>
            refine ⟨fun _ => ⟨fun j hj => ?_, fun id => ?_⟩, fun st' s' h => ?_⟩
            · dsimp only at hj
              rw [hrec] at hj
              exact hnil j ((hquiet _ j).1 hj)
            · dsimp only
              rw [hrec, hstate]
              cases hran : recordingRan env st callID userID choose <;>
                simp [endedByRecordingRefusal, hrec]
            · obtain ⟨st₁, recState, _, hst, hrec', _⟩ := h.saved
              rw [hstate] at hst
              cases hst
              rw [hrec] at hrec'
              cases hrec'
        | some recState =>
            have hread : ActiveJob (ws 0).store.jobs st₀.call.id .recording recState :=
              Window.readFrom_state hstate .recording recState hrec
            dsimp only
            rw [hrec]
            cases hran : recordingRan env st callID userID choose with
            | error e =>
                obtain ⟨hcreated, hact⟩ :=
                  recordingJobStarted_refused p env st₀ callID userID
                  (ws 0).choose (ws 0).store (fun n => ws (n + 1)) (e := e) hread
                  ⟨(hworks e hran).works, (hworks e hran).valid⟩
                rw [← hran] at hcreated hact ⊢
                refine ⟨fun _ => ⟨fun j hj => hcreated j ((hquiet _ j).1 hj),
                  fun id => ?_⟩, fun st' s' h => ?_⟩
                · rw [hstate]
                  simpa [hran, endedByRecordingRefusal, hrec] using hact id
                · obtain ⟨_, _, jobID, _, _, hok, _⟩ := h.saved
                  rw [hran] at hok
                  cases hok
            | ok jobID =>
                by_cases hgo : p.transcriptionsEnabled = true ∧
                    recState.props.jobID = "" ∧ (answers (ws 0).choose (ws 0).store
                      (.store (.updateCallJob (withJobID recState jobID)))).1 = .ok ()
                · obtain ⟨hon, hid, hok⟩ := hgo
                  obtain ⟨s', hres⟩ : ∃ s', answers (ws 0).choose (ws 0).store
                      (.store (.updateCallJob (withJobID recState jobID))) =
                      (.ok (), s') :=
                    ⟨_, Prod.ext hok rfl⟩
                  have hgoes : GoesOn p env st callID userID choose (ws 0)
                      { st₀ with recording := some (withJobID recState jobID) } s' :=
                    ⟨hon, st₀, recState, jobID, hstate, hrec, hran, hid, hres, rfl⟩
                  obtain ⟨hcreated, hworld⟩ :=
                    recordingJobStarted_goesOn p env st₀ callID userID
                    (ws 0).choose (ws 0).store (fun n => ws (n + 1)) hon hid hres
                  rw [← hran] at hcreated hworld ⊢
                  refine ⟨fun h => absurd ⟨_, _, hgoes⟩ h, fun st' s'' h => ?_⟩
                  obtain ⟨rfl, rfl⟩ :=
                    goesOn_unique p env st callID userID choose hgoes h
                  exact ⟨_, startTranscribingJob_left p env _ callID userID _
                    (ws 0).choose s' (fun n => ws (n + 1))
                    (fun e he => htrworks _ _ e hgoes he),
                    fun j => (hquiet _ j).trans (hcreated j), hworld⟩
                · have hno : ¬ ∃ st' s',
                      GoesOn p env st callID userID choose (ws 0) st' s' := by
                    rintro ⟨st', s', h⟩
                    obtain ⟨st₁, recState', jobID', hst, hrec', hran', hid, hres, _⟩ :=
                      h.saved
                    obtain rfl : st₀ = st₁ := Option.some.inj (hstate.symm.trans hst)
                    obtain rfl : recState = recState' :=
                      Option.some.inj (hrec.symm.trans hrec')
                    obtain rfl : jobID = jobID' := Except.ok.inj (hran.symm.trans hran')
                    exact hgo ⟨h.on, hid, congrArg Prod.fst hres⟩
                  obtain ⟨hcreated, hact⟩ :=
                    recordingJobStarted_done p env st₀ callID userID
                    (ws 0).choose (ws 0).store (fun n => ws (n + 1)) hread hgo
                  rw [← hran] at hcreated hact ⊢
                  refine ⟨fun _ => ⟨fun j hj => hcreated j ((hquiet _ j).1 hj),
                    fun id => ?_⟩, fun st' s' h => absurd ⟨st', s', h⟩ hno⟩
                  rw [hstate]
                  simpa [hran, endedByRecordingRefusal] using hact id
  · obtain ⟨hno, hend⟩ := hnone hstate
    refine ⟨fun _ => ⟨fun j hj => hnil j ((hquiet _ j).1 hj), fun id => ?_⟩,
      fun st' s' h => absurd ⟨st', s', h⟩ hno⟩
    rw [hend]
    simp

/-- A start that created its recording went on from there. -/
theorem startRecordingJob_left {ws : Nat → Window}
    (hcreated :
      Created ((startRecordingJob p env st callID userID).play (answers choose)
      (fun n => (ws n).turn) s).log (newRecording env st userID))
    (hworks : ∀ e, recordingRan env st callID userID choose = .error e →
      (ws 0).UpdatesWork)
    (htrworks : ∀ st' s' e, GoesOn p env st callID userID choose (ws 0) st' s' →
      transcriptionRan st' callID (env.newJobID .transcribing) (ws 0).choose =
      .error e → (ws 1).UpdatesWork) :
    ∃ m : Played Op Op.Resp Store
      (Except JobError (JobStateClient × String × Option String)),
      RecordingLeft p env st callID userID choose ws m ∧
      (∀ j, Created ((startRecordingJob p env st callID userID).play (answers choose)
        (fun n => (ws n).turn) s).log j ↔ j = newRecording env st userID ∨
          Created m.log j) ∧
      ((startRecordingJob p env st callID userID).play (answers choose)
        (fun n => (ws n).turn) s).world = m.world := by
  have hnil : ∀ j, ¬ Created [] j := fun j => List.not_mem_nil
  unfold startRecordingJob at hcreated ⊢
  split
  next hrun =>
    rw [if_pos hrun] at hcreated
    exact absurd hcreated (hnil _)
  next hrun =>
    rw [if_neg hrun] at hcreated
    change Created (Prog.play (Prog.lift (store (.createCallJob
      (newRecording env st userID))) >>= _) _ _ _).log _ at hcreated
    change ∃ m, _ ∧ (∀ j, Created (Prog.play (Prog.lift (store (.createCallJob
      (newRecording env st userID))) >>= _) _ _ _).log j ↔ _) ∧
        Played.world (Prog.play (Prog.lift
        (store (.createCallJob (newRecording env st userID))) >>= _) _ _ _) = _
    rw [Prog.play_lift_bind] at hcreated ⊢
    rcases answers_create choose s (newRecording env st userID) with
      ⟨-, e, hres⟩ | ⟨-, t, hi, hres⟩
    · simp [store, Created, hres] at hcreated
    · refine ⟨_, runRecording_left p env st callID userID choose { s with jobs := t }
        hworks htrworks, fun j => ?_, ?_⟩
      · rw [created_append]
        refine or_congr ?_ ?_
        · simp [store, Created, hres]
        · simp only [store, Code.run_perform, hres]
          rfl
      · simp only [store, Code.run_perform, hres]
        rfl

/-- No row that was created is active. -/
def CleansUp {α : Type} (m : Played Op Op.Resp Store α) : Prop :=
  ∀ j, Created m.log j → ¬ IsActive m.world.jobs j.id

theorem RecordingLeft.cleansUp_iff {α β : Type} {ws : Nat → Window}
    {m : Played Op Op.Resp Store α} {m' : Played Op Op.Resp Store β}
    (h : RecordingLeft p env st callID userID choose ws m)
    (hlog : ∀ j, Created m'.log j ↔ j = newRecording env st userID ∨ Created m.log j)
    (hworld : m'.world = m.world) :
    CleansUp m' ↔ RecordingCleansUp p env st callID userID choose ws := by
  have hsplit : CleansUp m' ↔ (∀ j, Created m.log j → ¬ IsActive m.world.jobs j.id) ∧
      ∀ id ∈ [(newRecording env st userID).id], ¬ IsActive m.world.jobs id := by
    unfold CleansUp
    rw [hworld]
    constructor
    · intro hc
      refine ⟨fun j hj => hc j ((hlog j).2 (.inr hj)), fun id hid => ?_⟩
      rw [List.mem_singleton.1 hid]
      exact hc _ ((hlog _).2 (.inl rfl))
    · rintro ⟨hc, hrec⟩ j hj
      rcases (hlog j).1 hj with rfl | hj
      · exact hrec _ (List.mem_singleton_self _)
      · exact hc j hj
  rw [hsplit]
  by_cases hgo : ∃ st' s', GoesOn p env st callID userID choose (ws 0) st' s'
  · obtain ⟨st', s', hgo⟩ := hgo
    obtain ⟨mt, hleft, hcreated, hmt⟩ := h.wentOn st' s' hgo
    simp only [hmt, hcreated]
    rw [hleft.cleansUp_iff]
    constructor
    · intro hc
      refine ⟨fun hno => absurd ⟨st', s', hgo⟩ hno, fun st'' s'' hgo' => ?_⟩
      obtain ⟨rfl, rfl⟩ := goesOn_unique p env st callID userID choose hgo hgo'
      exact hc
    · exact fun hc => hc.transcribing st' s' hgo
  · obtain ⟨hcreated, hact⟩ := h.stopped hgo
    constructor
    · rintro ⟨-, hrec⟩
      refine ⟨fun _ ha => ?_, fun st' s' h => absurd ⟨st', s', h⟩ hgo⟩
      by_contra hne
      exact hrec _ (List.mem_singleton_self _) ((hact _).2 ⟨ha, hne⟩)
    · intro hc
      refine ⟨fun j hj => absurd hj (hcreated j), fun id hid ha => ?_⟩
      obtain rfl := List.mem_singleton.1 hid
      exact ((hact _).1 ha).2 (hc.recording hgo ((hact _).1 ha).1)

end StartRecording

/-- A start that fails leaves none of its rows active exactly when those that are still
active at its last relock end there because the job service refused the last job it was
asked for: `startRecordingJob` once it has created its recording, and
`startTranscribingJob`.  Writes after a refusal succeed. -/
theorem failedStart_cleansUp_iff (p : Plugin) (env : Env) (st : CallState)
    (callID userID : String) (choose : Op → Choice) (s : Store) (ws : Nat → Window) :
    (∀ e m, m = (startRecordingJob p env st callID userID).play (answers choose)
        (fun n => (ws n).turn) s → m.result = .error e →
      Created m.log (newRecording env st userID) →
      (∀ e, recordingRan env st callID userID choose = .error e → (ws 0).UpdatesWork) →
      (∀ st' s' e, GoesOn p env st callID userID choose (ws 0) st' s' →
        transcriptionRan st' callID (env.newJobID .transcribing) (ws 0).choose =
        .error e → (ws 1).UpdatesWork) →
      (CleansUp m ↔ RecordingCleansUp p env st callID userID choose ws)) ∧
    ∀ trID e m, m = (startTranscribingJob p env st callID userID trID).play
        (answers choose) (fun n => (ws n).turn) s → m.result = .error e →
      (∀ e, transcriptionRan st callID trID choose = .error e → (ws 0).UpdatesWork) →
      (CleansUp m ↔ TranscribingCleansUp p env st callID userID trID choose
        s ws []) := by
  constructor
  · rintro e m rfl _ hcreated hworks htrworks
    obtain ⟨mt, hleft, hlog, hworld⟩ :=
      startRecordingJob_left p env st callID userID choose s hcreated hworks htrworks
    exact hleft.cleansUp_iff p env st callID userID choose hlog hworld
  · rintro trID e m rfl _ hworks
    have hleft :=
      startTranscribingJob_left p env st callID userID trID choose s ws hworks
    rw [← hleft.cleansUp_iff]
    exact (and_iff_left (by simp)).symm

/-! ## Starts on the sample call -/

/-- A job service that refuses jobs of one type. -/
def refusing (type : JobType) : Op → Choice
  | .runJob type' _ _ _ =>
      if type' = type then ⟨false, .error "no capacity"⟩ else .works
  | _ => .works

/-- The recording of a start on the sample call. -/
def sampleRecording : CallJob := newRecording (.sample 20) sampleState "alice"

/-- The store once the recording is created. -/
def storeWithRecording : Store :=
  { sampleStore with jobs := ⟨[sampleRecording], by decide⟩ }

/-- The store once all jobs are created. -/
def storeWithJobs : Store where
  calls := sampleStore.calls
  sessions := sampleStore.sessions
  jobs := ⟨[withJobID sampleRecording "job",
    newTranscription (.sample 20) sampleState "alice" "tr",
    newLiveCaptions (.sample 20) sampleState "alice"], by decide⟩

/-- Windows in which nobody interferes with a start of a recording. -/
def quietWindows (type : JobType) : Nat → Window
  | 0 => ⟨true, storeWithRecording, refusing type⟩
  | _ => ⟨true, storeWithJobs, refusing type⟩

/-- A start of a recording when the job service refuses jobs of the type. -/
def refusedStart (type : JobType) :
    Played Op Op.Resp Store
      (Except JobError (JobStateClient × String × Option String)) :=
  (startRecordingJob .sample (.sample 20) sampleState "chan" "alice").play
    (answers (refusing type)) (fun n => (quietWindows type n).turn) sampleStore

theorem quietWindows_updatesWork (type : JobType) (n : Nat) :
    (quietWindows type n).UpdatesWork := by
  have hvalid : ∀ s : Store, (∀ j ∈ s.jobs.rows, j.isValid = .ok ()) →
      Window.UpdatesWork ⟨true, s, refusing type⟩ := fun s hs => ⟨fun _ => rfl, hs⟩
  cases n with
  | zero => exact hvalid storeWithRecording (by decide)
  | succ n => exact hvalid storeWithJobs (by decide)

/-- A refused recording ends, and so does a transcription that is refused on its own. -/
theorem failedStart_cleansUp_of_refusal : CleansUp (refusedStart .recording) ∧
    CleansUp
      ((startTranscribingJob .sample (.sample 20) sampleState "chan" "alice" "tr").play
      (answers (refusing .transcribing))
      (fun n => (quietWindows .transcribing (n + 1)).turn) sampleStore) := by
  constructor
  · refine ((failedStart_cleansUp_iff .sample (.sample 20) sampleState "chan" "alice"
      (refusing .recording) sampleStore (quietWindows .recording)).1 _ _ rfl rfl
      (List.mem_cons_self ..) (fun _ _ => quietWindows_updatesWork _ _)
      fun _ _ _ _ _ => quietWindows_updatesWork _ _).2
      ⟨fun _ _ => by decide, fun st' s' h => ?_⟩
    obtain ⟨_, _, _, _, _, hran, _⟩ := h.saved
    cases hran
  · refine ((failedStart_cleansUp_iff .sample (.sample 20) sampleState "chan" "alice"
      (refusing .transcribing) sampleStore fun n =>
        quietWindows .transcribing (n + 1)).2 "tr" _ _
      rfl rfl fun _ _ => quietWindows_updatesWork _ _).2
        ⟨fun _ => by simp, fun _ h => ?_,
        fun _ id hid _ => ?_⟩
    · exact h.2 (by decide)
    · rcases hid with hid | rfl | ⟨-, rfl⟩
      · cases hid
      · decide
      · decide

/-- When the transcription is refused, the recording that was started with it stays. -/
theorem failedStart_leaves_recording :
    (∃ e, (refusedStart .transcribing).result = .error e) ∧
    Created (refusedStart .transcribing).log sampleRecording ∧
    (∀ n, (quietWindows .transcribing n).UpdatesWork) ∧
    ¬ CleansUp (refusedStart .transcribing) := by
  have hcreated : Created (refusedStart .transcribing).log sampleRecording :=
    List.mem_cons_self ..
  refine ⟨⟨_, rfl⟩, hcreated, quietWindows_updatesWork _,
    fun h => h sampleRecording hcreated ?_⟩
  unfold IsActive
  decide

end CallsPlugin.Ports
