import CallsPlugin.Verified.Rely
import CallsPlugin.Ports.Requests
import CallsPlugin.Ports.StartOutcome

/-!
# The connection a job names

Once its bot has joined, the row of a job names a connection of that bot.  A join that
takes the job over and the reconnection of the bot put another id there; every other
request writes the jobs it has read with the connection they have, whatever others do
meanwhile.  No use is made of the lock.
-/

namespace CallsPlugin.Ports

open CallsPlugin.Verified
open CallsPlugin.Ports.Public CallsPlugin.Ports.Db

/-- A bot: the job it was started for, all jobs it serves, and the ids its connection
has had. -/
structure Bot where
  jobID : String
  serves : String → Prop
  conns : String → Prop
  serves_jobID : serves jobID

/-- What is known of a copy of a job: if the bot serves it and it runs, it names a
connection of the bot. -/
def Bot.Knows (b : Bot) (j : CallJob) : Prop :=
  b.serves j.id → j.endAt = 0 → b.conns j.props.botConnID

/-- So it is with the jobs of a state. -/
def Bot.KnowsState (b : Bot) (st : CallState) : Prop :=
  ∀ type j, st.job type = some j → b.Knows j

/-- So it is with every row, and the jobs of the bot have rows.  The bot was not started
for captions. -/
structure Bot.Served (b : Bot) (w : Store) : Prop where
  knows : ∀ x ∈ w.jobs, b.Knows x
  row : ∀ id, b.serves id → ∃ x ∈ w.jobs, x.id = id
  type : ∀ x ∈ w.jobs, x.id = b.jobID → x.type ≠ .captioning

/-- The operation writes only jobs in `P`. -/
def Op.WritesJobs (P : CallJob → Prop) : Op → Prop
  | .store (.updateCallJob j) => P j
  | _ => True

theorem Op.WritesJobs.mono {P P' : CallJob → Prop} {o : Op} (hP : ∀ j, P j → P' j)
    (h : o.WritesJobs P) : o.WritesJobs P' := by
  cases o with
  | store o =>
      cases o with
      | updateCallJob j => exact hP j h
      | _ => trivial
  | _ => trivial

theorem Op.LeavesJobs.writesJobs {P : CallJob → Prop} {o : Op} (h : o.LeavesJobs) :
    o.WritesJobs P := by
  cases o with
  | store o =>
      cases o with
      | updateCallJob j => exact h.elim
      | _ => trivial
  | _ => trivial

section Bot

variable {b : Bot}

theorem Bot.Knows.of_not_serves {j : CallJob} (h : ¬ b.serves j.id) : b.Knows j :=
  fun hs => absurd hs h

theorem Bot.Knows.of_ended {j : CallJob} (h : j.endAt ≠ 0) : b.Knows j :=
  fun _ hend => absurd hend h

theorem Bot.KnowsState.withJob {st : CallState} {j : CallJob} (h : b.KnowsState st)
    (type : JobType) (hj : b.Knows j) : b.KnowsState (st.withJob type j) := by
  intro type' j' hj'
  by_cases hne : type' = type
  · subst hne
    rw [withJob_job_self] at hj'
    cases hj'
    exact hj
  · rw [withJob_job_of_ne st j hne] at hj'
    exact h type' j' hj'

/-- A state with the same jobs. -/
theorem Bot.KnowsState.same {st st' : CallState} (h : b.KnowsState st)
    (hsame : ∀ type, st'.job type = st.job type) : b.KnowsState st' :=
  fun type j hj => h type j (hsame type ▸ hj)

/-- A write of a copy of which this is known. -/
theorem Bot.Served.exec {w : Store} {o : Op} (h : b.Served w)
    (ho : o.WritesJobs b.Knows) (ch : Choice) : b.Served (exec ch w o).2 := by
  cases o with
  | store so =>
      rw [exec_store]
      unfold attempt
      split
      · exact h
      cases so with
      | createCallJob j =>
          simp only [StoreOp.exec]
          split
          · exact h
          next t hi =>
            obtain ⟨hnew, -⟩ := Table.insert?_eq_some.1 (insertRow_eq_ok.1 hi).2
            have hmem := fun x => Table.mem_of_insert? (x := x) (insertRow_eq_ok.1 hi).2
            -- the new row is none of the bot's
            have hnot : ¬ b.serves j.id := fun hs => by
              obtain ⟨y, hy, hyid⟩ := h.row j.id hs
              exact hnew y hy hyid
            refine ⟨fun x hx => ?_, fun id hid => ?_, fun x hx hid => ?_⟩
            · rcases (hmem x).1 hx with hx | rfl
              · exact h.knows x hx
              · exact .of_not_serves hnot
            · obtain ⟨x, hx, hxid⟩ := h.row id hid
              exact ⟨x, (hmem x).2 (.inl hx), hxid⟩
            · rcases (hmem x).1 hx with hx | rfl
              · exact h.type x hx hid
              · exact absurd (hid ▸ b.serves_jobID) hnot
      | updateCallJob j =>
          simp only [StoreOp.exec]
          split
          · exact h
          refine ⟨fun x hx => ?_, fun id hid => ?_, fun x hx hid => ?_⟩
          · obtain ⟨r, hr, rfl⟩ := Store.mem_updateCallJob.1 hx
            split
            next hk => exact fun hs => ho (hk ▸ hs)
            · exact h.knows r hr
          · obtain ⟨x, hx, rfl⟩ := h.row id hid
            refine ⟨_, Store.mem_updateCallJob.2 ⟨x, hx, rfl⟩, ?_⟩
            split <;> rfl
          · obtain ⟨r, hr, rfl⟩ := Store.mem_updateCallJob.1 hx
            split at hid
            next hk =>
              rw [if_pos hk]
              exact h.type r hr hid
            next hk =>
              rw [if_neg hk]
              exact h.type r hr hid
      | createCall c | updateCall c | createCallSession r | updateCallSession r =>
          simp only [StoreOp.exec]
          split <;> exact ⟨h.knows, h.row, h.type⟩
      | _ => exact ⟨h.knows, h.row, h.type⟩
  | _ => exact h

/-! ## Bodies -/

/-- Code that writes only copies of which this is known, and returns a state with such
jobs. -/
def Bot.Keeps {α : Type} (b : Bot) (f : α → CallState) (c : Body α) : Prop :=
  c.Only (Op.WritesJobs b.Knows) ∧ c.All fun a => b.KnowsState (f a)

section Keeps

variable {α β : Type} {f : α → CallState} {g : β → CallState}

theorem Bot.Keeps.ret {a : α} (h : b.KnowsState (f a)) :
    b.Keeps f (.ret a) := ⟨trivial, h⟩

theorem Bot.Keeps.op {o : Op} {k : o.Resp → Body α} (ho : o.WritesJobs b.Knows)
    (hk : ∀ r, b.Keeps f (k r)) : b.Keeps f (.op o k) :=
  ⟨⟨ho, fun r => (hk r).1⟩, fun r => (hk r).2⟩

theorem Bot.Keeps.bind {c : Body α} {k : α → Body β} (hc : b.Keeps f c)
    (hk : ∀ a, b.KnowsState (f a) → b.Keeps g (k a)) : b.Keeps g (c >>= k) :=
  ⟨hc.1.bind_all hc.2 fun a ha => (hk a ha).1, hc.2.bind fun a ha => (hk a ha).2⟩

/-- Code whose result has no state. -/
theorem Bot.Keeps.of_only {st : CallState} {c : Body α}
    (h : c.Only (Op.WritesJobs b.Knows))
    (hst : b.KnowsState st) : b.Keeps (fun _ => st) c :=
  ⟨h, Code.all_of_forall (fun _ => hst) c⟩

end Keeps

/-! ### Stopping -/

section Bodies

variable {p : Plugin} {env : Env} {callID : String} {st : CallState}

/-- A job of the state with another start or error is one of which the same is known. -/
theorem Bot.Knows.of_same {j j' : CallJob} (h : b.Knows j) (hid : j'.id = j.id)
    (hend : j'.endAt = j.endAt) (hconn : j'.props.botConnID = j.props.botConnID) :
    b.Knows j' :=
  fun hs he => hconn ▸ h (hid ▸ hs) (hend ▸ he)

theorem publishJob?_keeps (st' : CallState) (job : Option CallJob)
    (hst : b.KnowsState st) :
    b.Keeps (fun _ => st) (publishJob? env st' callID job) := by
  cases job with
  | none => exact .ret hst
  | some job => exact .op trivial fun _ => .ret hst

theorem stopLiveCaptions_keeps (h : b.KnowsState st) :
    b.Keeps Prod.fst (stopLiveCaptions env st) := by
  unfold stopLiveCaptions
  split
  · exact .ret h
  next lc hlc =>
    have hknows : b.Knows { lc with endAt := env.now .captioningEnd } :=
      .of_ended (env.now_pos _).ne'
    refine .op hknows fun res => ?_
    cases res <;> exact .ret (h.withJob .captioning hknows)

/-- Stopping the recording or transcribing job, to any depth. -/
theorem stopJobs_keep (depth : Nat) : ∀ {st : CallState}, b.KnowsState st →
    b.Keeps Prod.fst (stopRecordingJob p env depth st callID) ∧
      b.Keeps Prod.fst (stopTranscribingJob p env depth st callID) := by
  induction depth with
  | zero =>
      intro st h
      rw [stopRecordingJob, stopTranscribingJob]
      exact ⟨.ret h, .ret h⟩
  | succ depth ih =>
      intro st h
      constructor
      · rw [stopRecordingJob]
        split
        · exact .ret h
        next job hjob =>
        split
        · exact .ret h
        have hknows : b.Knows { job with endAt := env.now .recordingEnd } :=
          .of_ended (env.now_pos _).ne'
        have hst := h.withJob .recording hknows
        refine .op hknows fun res => ?_
        cases res with
        | error e => exact .ret hst
        | ok _ =>
            refine .bind (f := id) ?_ fun st' hst' => ?_
            · split
              · exact .bind (ih hst).2 fun res hres => .ret hres
              · exact .ret hst
            · refine .op trivial fun res => ?_
              cases res with
              | error e =>
                  exact .op trivial fun _ => .ret (hst'.withJob .recording
                    (.of_ended (env.now_pos _).ne'))
              | ok _ => exact .op trivial fun _ => .ret hst'
      · rw [stopTranscribingJob]
        split
        · exact .ret h
        next job hjob =>
        split
        · exact .ret h
        have hknows : b.Knows { job with endAt := env.now .transcribingEnd } :=
          .of_ended (env.now_pos _).ne'
        have hst := h.withJob .transcribing hknows
        refine .op hknows fun res => ?_
        cases res with
        | error e => exact .ret hst
        | ok _ =>
            refine .bind (c := stopLiveCaptions env _) (stopLiveCaptions_keeps hst)
              fun res hres => ?_
            obtain ⟨st', res⟩ := res
            cases res with
            | error e => exact .ret hres
            | ok _ =>
                refine .op trivial fun res => ?_
                cases res with
                | error e =>
                    exact .op trivial fun _ => .ret (Bot.KnowsState.withJob hres
                      .transcribing (.of_ended (env.now_pos _).ne'))
                | ok _ =>
                    refine .bind (f := id) ?_ fun st'' hst'' => ?_
                    · split
                      · exact .bind (ih hres).1 fun res hres => .ret hres
                      · exact .ret hres
                    · refine .op trivial fun _ => ?_
                      exact .bind (c := publishJob? env _ callID _)
                        (publishJob?_keeps _ _ hst'') fun _ h => .ret h

/-- The transcription is stopped if it runs. -/
theorem coupledTranscription_keeps (depth : Nat) (h : b.KnowsState st) :
    b.Keeps id (if running st.transcription then do
        let res ← stopTranscribingJob p env depth st callID
        return res.1
      else return st) := by
  split
  · exact .bind (stopJobs_keep depth h).2 fun res hres => .ret hres
  · exact .ret h

/-! ### Leaves -/

/-- A write that the code cannot go on without. -/
theorem write_keeps {α : Type} {f : α → CallState} {wr : Write}
    {k : Except String Unit → Body α}
    (ho : (Op.store wr.op).WritesJobs b.Knows) (hk : ∀ res, b.Keeps f (k res)) :
    b.Keeps f (write wr >>= k) := by
  refine .op ho fun res => ?_
  cases res with
  | error e => exact .op trivial fun _ => hk _
  | ok _ => exact hk _

/-- Code that is no store call and changes at most the call of the state. -/
theorem touched_keeps {c : Body CallState} (h : c.Only Op.Silent ∧ c.All (Touched st))
    (hst : b.KnowsState st) : b.Keeps id c := by
  refine ⟨h.1.mono fun o ho => ?_, h.2.mono ?_⟩
  · cases o with
    | store o => exact ho.elim
    | _ => trivial
  · rintro _ ⟨stats, props, rfl⟩
    exact hst.same fun type => by cases type <;> rfl

/-- A step keeps what is known. -/
def Bot.StepKeeps (b : Bot) (g : Step) : Prop :=
  ∀ st, b.KnowsState st → b.Keeps Prod.fst (g st)

theorem Bot.StepKeeps.andThen {g f : Step} (hg : b.StepKeeps g) (hf : b.StepKeeps f) :
    b.StepKeeps (g.andThen f) := by
  refine fun st hst => .bind (hg st hst) fun res hres => ?_
  obtain ⟨st', res⟩ := res
  cases res with
  | error e => exact .ret hres
  | ok _ => exact hf st' hres

theorem recordingBotLeft_keeps (r : LeaveRequest) :
    b.StepKeeps (recordingBotLeft p env r callID) := by
  intro st hst
  unfold recordingBotLeft
  split
  · exact .ret hst
  next job hjob =>
    have hknows : b.Knows { job with endAt := env.now .recordingEnd } :=
      .of_ended (env.now_pos _).ne'
    have hst' := hst.withJob .recording hknows
    refine write_keeps hknows fun res => ?_
    cases res with
    | error e => exact .ret hst'
    | ok _ =>
        exact .bind (coupledTranscription_keeps stopDepth hst')
          fun _ h => .op trivial fun _ => .ret h

theorem transcribingBotLeft_keeps (r : LeaveRequest) :
    b.StepKeeps (transcribingBotLeft p env r callID) := by
  intro st hst
  unfold transcribingBotLeft
  split
  · exact .ret hst
  next job hjob =>
    have hknows : b.Knows { job with endAt := env.now .transcribingEnd } :=
      .of_ended (env.now_pos _).ne'
    have hst' := hst.withJob .transcribing hknows
    refine write_keeps hknows fun res => ?_
    cases res with
    | error e => exact .ret hst'
    | ok _ =>
        refine .bind (f := id) ?_ fun st'' hst'' => .op trivial fun _ => ?_
        · split
          · exact .bind (stopJobs_keep stopDepth hst').1 fun res hres => .ret hres
          · exact .ret hst'
        · exact .bind (c := publishJob? env _ callID _) (publishJob?_keeps _ _ hst'')
            fun _ h => .ret h

theorem captioningBotLeft_keeps (r : LeaveRequest) :
    b.StepKeeps (captioningBotLeft env r) := by
  intro st hst
  unfold captioningBotLeft
  split
  · exact .ret hst
  next job hjob =>
    have hknows : b.Knows { job with endAt := env.now .captioningEnd } :=
      .of_ended (env.now_pos _).ne'
    refine write_keeps hknows fun res => ?_
    cases res <;> exact .ret (hst.withJob .captioning hknows)

theorem saveLeave_keeps (r : LeaveRequest) :
    b.StepKeeps (saveLeave p env r callID) := by
  intro st hst
  refine .op trivial fun _ => .bind (c := hostLeft p env r callID st)
    (touched_keeps (hostLeft_frame p env r callID st) hst) fun st' hst' => ?_
  refine write_keeps trivial fun res => ?_
  have hcall : b.KnowsState { st' with call := callLeft env st' } :=
    Bot.KnowsState.same hst' fun type => by cases type <;> rfl
  dsimp only
  split
  · exact .op trivial fun _ => .ret hcall
  · exact .ret hcall

theorem sessionLeft_keeps (r : LeaveRequest) (us : CallSession) :
    b.StepKeeps (sessionLeft p env r callID us) := by
  refine fun st hst => write_keeps trivial fun res => ?_
  cases res with
  | error e => exact .ret hst
  | ok _ =>
      have herased :
          b.KnowsState { st with sessions := st.sessions.erase r.originalConnID } :=
        hst.same fun type => by cases type <;> rfl
      refine .bind (touched_keeps (screenLeft_frame env r callID _) herased)
        fun st' hst' => ?_
      have hrest : b.Keeps Prod.fst (stopJobsOfLoneBot p callID st' >>= fun _ =>
          ((recordingBotLeft p env r callID).andThen <|
            (transcribingBotLeft p env r callID).andThen <|
            (captioningBotLeft env r).andThen <| saveLeave p env r callID) st') := by
        refine .bind (f := fun _ => st') (.of_only ?_ hst') fun _ h => ?_
        · refine (stopJobsOfLoneBot_silent p callID st').mono fun o ho => ?_
          cases o with
          | store o => exact ho.elim
          | _ => trivial
        · exact (recordingBotLeft_keeps r).andThen
            ((transcribingBotLeft_keeps r).andThen
            ((captioningBotLeft_keeps r).andThen (saveLeave_keeps r))) st' h
      dsimp only
      split
      · exact .op trivial fun _ => hrest
      · exact hrest

/-- What is known of the state of a call, if there is one. -/
def Bot.KnowsCall (b : Bot) (state : Option CallState) : Prop :=
  ∀ st, state = some st → b.KnowsState st

theorem removeUserSession_keeps (r : LeaveRequest) {state : Option CallState}
    (h : b.KnowsCall state) :
    (removeUserSession p env r callID state).Only (Op.WritesJobs b.Knows) ∧
      (removeUserSession p env r callID state).All fun res => b.KnowsCall res.1 := by
  unfold removeUserSession
  split
  · exact ⟨trivial, h⟩
  next st =>
    split
    · exact ⟨trivial, h⟩
    next us _ =>
      obtain ⟨honly, hall⟩ : b.Keeps Prod.fst (sessionLeft p env r callID us st) :=
        sessionLeft_keeps r us st (h st rfl)
      refine ⟨honly.bind fun _ => trivial,
        Code.all_bind.2 (hall.mono fun res hres => ?_)⟩
      rintro _ ⟨⟩
      exact hres

theorem removeSessionsFromCall_writes (ls : List Leave) : ∀ {state : Option CallState},
    b.KnowsCall state →
    (removeSessionsFromCall p callID ls state).Only (Op.WritesJobs b.Knows) := by
  induction ls with
  | nil => exact fun _ => trivial
  | cons l rest ih =>
      intro state h
      have hleave : (removeUserSession p l.env l.req callID state).Only
          (Op.WritesJobs b.Knows) ∧
          (removeUserSession p l.env l.req callID state).All fun res =>
            b.KnowsCall res.1 :=
        removeUserSession_keeps l.req h
      exact hleave.1.bind_all hleave.2 fun res hres => (ih hres).bind fun _ => trivial

/-! ### The bot's own requests and the time-outs -/

/-- The reconnection of a bot writes the new connection into the jobs with the old
one. -/
theorem botReconnected_writes {connID prevConnID : String} {state : Option CallState}
    (hnext : b.conns prevConnID → b.conns connID) (h : b.KnowsCall state) :
    (botReconnected connID prevConnID state).Only (Op.WritesJobs b.Knows) := by
  have hjob : ∀ type {job : CallJob} {st : CallState}, state = some st →
      (st.job type).filter (fun j => j.props.botConnID = prevConnID) = some job →
      b.Knows (withBotConnID job connID) := by
    intro type job st hst hf
    obtain ⟨hj, hprev⟩ := Option.filter_eq_some_iff.1 hf
    have hknows := h st hst type job hj
    intro hs hend
    exact hnext (of_decide_eq_true hprev ▸ hknows hs hend)
  cases state with
  | none => trivial
  | some st =>
      unfold botReconnected
      dsimp only
      split
      next job hrec =>
        refine ⟨hjob .recording rfl hrec, fun res => ?_⟩
        cases res <;> trivial
      next =>
        split
        · trivial
        next job htr =>
          refine ⟨hjob .transcribing rfl htr, fun res => ?_⟩
          cases res with
          | error e => trivial
          | ok _ =>
              show (captionerReconnected connID prevConnID st.liveCaptions).Only _
              unfold captionerReconnected
              split
              · trivial
              next lc hlc =>
                refine ⟨hjob .captioning rfl hlc, fun res => ?_⟩
                cases res <;> trivial

theorem recJobTimedOut_writes {jobID : String} {state : Option CallState}
    (h : b.KnowsCall state) :
    (recJobTimedOut p env callID jobID state).Only (Op.WritesJobs b.Knows) := by
  cases state with
  | none => trivial
  | some st =>
      unfold recJobTimedOut
      dsimp only
      split
      · trivial
      next job hjob =>
        split
        · trivial
        split
        · trivial
        have hknows : b.Knows { job with
            endAt := env.now .recordingEnd
            props := { job.props with
              err :=
                "failed to start recording job: timed out waiting for bot to join call" } } :=
          .of_ended (env.now_pos _).ne'
        refine ⟨trivial, fun _ => ⟨hknows, fun _ => ?_⟩⟩
        exact (coupledTranscription_keeps stopDepth
          ((h st rfl).withJob .recording hknows)).1.bind fun _ =>
          ⟨trivial, fun _ => trivial⟩

theorem endTimedOutLiveCaptions_keeps {trState : CallJob} {lcState : Option CallJob}
    (h : b.KnowsState st) (htr : b.Knows trState)
    (hlc : ∀ lc, lcState = some lc → b.Knows lc) :
    b.Keeps id (endTimedOutLiveCaptions env st trState lcState) := by
  cases lcState with
  | none => exact .ret h
  | some lc =>
      exact .op htr fun _ => .ret (h.withJob .captioning
        (.of_ended (j := { lc with endAt := env.now .captioningEnd })
          (env.now_pos _).ne'))

theorem stopTimedOutRecording_writes {err : String} (h : b.KnowsState st) :
    (stopTimedOutRecording p env st callID err).Only (Op.WritesJobs b.Knows) := by
  unfold stopTimedOutRecording
  split
  · trivial
  split
  · trivial
  · exact (stopJobs_keep stopDepth h).1.1.bind fun _ => ⟨trivial, fun _ => trivial⟩

/-- The captions of a state, if they are looked at. -/
theorem Bot.KnowsState.captionsIf (h : b.KnowsState st) {c : Prop} [Decidable c]
    (lc : CallJob) (hlc : (if c then st.liveCaptions else none) = some lc) :
    b.Knows lc := by
  split at hlc
  · exact h .captioning lc hlc
  · cases hlc

theorem transcriptionJobTimedOut_writes {jobID : String} {state : Option CallState}
    (h : b.KnowsCall state) :
    (transcriptionJobTimedOut p env callID jobID state).Only
      (Op.WritesJobs b.Knows) := by
  cases state with
  | none => trivial
  | some st =>
      unfold transcriptionJobTimedOut
      dsimp only
      split
      · trivial
      next job hjob =>
        split
        · trivial
        split
        · trivial
        have hknows : b.Knows { job with
            endAt := env.now .transcribingEnd
            props := { job.props with
              err :=
                "failed to start transcriber job: timed out waiting for bot to join call" } } :=
          .of_ended (env.now_pos _).ne'
        have hst := (h st rfl).withJob .transcribing hknows
        refine ⟨trivial, fun _ => ⟨hknows, fun _ => ?_⟩⟩
        have hended : b.Keeps id (endTimedOutLiveCaptions env _ _ _) :=
          endTimedOutLiveCaptions_keeps hst hknows
            ((h st rfl).captionsIf (c := p.liveCaptionsEnabled = true))
        exact hended.1.bind_all hended.2 fun st' hst' =>
          (stopTimedOutRecording_writes hst').bind fun _ => ⟨trivial, fun _ => trivial⟩

theorem jobStatusPosted_writes {status : JobStatus} {jb : CallJob}
    {lcState : Option CallJob} (h : b.KnowsState st) (hjb : b.Knows jb)
    (hlc : ∀ lc, lcState = some lc → b.Knows lc) :
    (jobStatusPosted p env st callID status jb lcState).Only
      (Op.WritesJobs b.Knows) := by
  have hsave : ∀ {st' : CallState} {jb' : CallJob} {lc : Option CallJob}, b.Knows jb' →
      (saveJobStatus env st' callID status.jobType jb' lc).Only
        (Op.WritesJobs b.Knows) := by
    refine fun {st' jb' lc} hjb' => ⟨hjb', fun res => ?_⟩
    cases res with
    | error e => trivial
    | ok _ =>
        refine ⟨trivial, fun _ => ?_⟩
        dsimp only
        split
        · cases lc with
          | none => trivial
          | some lc => exact ⟨trivial, fun _ => trivial⟩
        · trivial
  unfold jobStatusPosted
  split
  · have hended : b.Knows { jb with
        endAt := env.now .jobStart
        props := { jb.props with err := status.error } } :=
          .of_ended (env.now_pos _).ne'
    have hst := h.withJob status.jobType hended
    refine ⟨trivial, fun _ => ?_⟩
    refine Code.Only.bind (p := stopCoupledJob p env _ callID _) ?_
      fun _ => hsave hended
    unfold stopCoupledJob
    split
    · split
      · exact (stopJobs_keep stopDepth hst).2.1.bind fun _ => trivial
      · trivial
    · split
      · exact (stopJobs_keep stopDepth hst).1.1.bind fun _ => trivial
      · trivial
    · trivial
  · split
    · trivial
    · have hstarted : b.Knows { jb with startAt := env.now .jobStart } :=
        hjb.of_same rfl rfl rfl
      refine Code.Only.bind ?_ fun res => ?_
      · cases lcState with
        | none => trivial
        | some lc =>
            refine ⟨(hlc lc rfl).of_same rfl rfl rfl, fun res => ?_⟩
            cases res <;> trivial
      · cases res with
        | error e => trivial
        | ok res => exact hsave hstarted
  · trivial

theorem botPostedJobsStatus_writes {jobID : String} {status : JobStatus}
    {state : Option CallState} (h : b.KnowsCall state) :
    (botPostedJobsStatus p env callID jobID status state).Only
      (Op.WritesJobs b.Knows) := by
  cases state with
  | none => trivial
  | some st =>
      unfold botPostedJobsStatus
      dsimp only
      split
      · trivial
      split
      · trivial
      next jb hjb =>
        split
        · trivial
        split
        · trivial
        exact jobStatusPosted_writes (h st rfl) (h st rfl _ jb hjb)
          (h st rfl).captionsIf

theorem transcribingJobStarted_writes_known {state : Option CallState} {on : Bool}
    {ran : Except String String} (h : b.KnowsCall state) :
    (transcribingJobStarted env state callID on ran).Only (Op.WritesJobs b.Knows) := by
  have hrelay : ∀ {α : Type} (st : CallState) (err : String) (job : CallJob) (a : α),
      (relayStartError env st callID err .transcribingEnd job >>= fun _ =>
        Code.ret a).Only (Op.WritesJobs b.Knows) :=
          fun _ _ _ _ => ⟨trivial, fun _ => trivial⟩
  cases state with
  | none => trivial
  | some st =>
      unfold transcribingJobStarted
      dsimp only
      split
      · trivial
      next job hjob =>
        have hjob' : b.Knows job := h st rfl .transcribing job hjob
        have hlc := (h st rfl).captionsIf (c := on = true)
        cases ran with
        | error jobErr =>
            refine ⟨trivial, fun _ => ⟨.of_ended (env.now_pos _).ne', fun _ => ?_⟩⟩
            refine Code.Only.bind (p := endRefusedLiveCaptions env _ _) ?_ fun _ =>
              hrelay _ _ _ _
            generalize (if on = true then st.liveCaptions else none) = lcState at hlc
            cases lcState with
            | none => trivial
            | some lc => exact ⟨.of_ended (env.now_pos _).ne', fun _ => trivial⟩
        | ok trJobID =>
            dsimp only
            split
            · exact hrelay _ _ _ _
            refine ⟨hjob'.of_same rfl rfl rfl, fun res => ?_⟩
            cases res with
            | error e => exact hrelay _ _ _ _
            | ok _ =>
                refine Code.Only.bind
                  (p := setLiveCaptionsJobID _ trJobID _) ?_ fun res => ?_
                · generalize (if on = true then st.liveCaptions else none) =
                    lcState at hlc
                  cases lcState with
                  | none => trivial
                  | some lc =>
                      refine ⟨(hlc lc rfl).of_same rfl rfl rfl, fun res => ?_⟩
                      cases res <;> trivial
                · cases res with
                  | error e => exact hrelay _ _ _ _
                  | ok _ => exact ⟨trivial, fun _ => trivial⟩

end Bodies

/-! ## Programs -/

/-- A request among others: whatever a store answers in which this is known, it writes
only copies of which the same is known, unless it may take jobs over. -/
@[reducible]
def Bot.rely (b : Bot) (takesOver : Prop) : Rely Op Op.Resp Unit where
  along _ _ := True
  can _ o r _ := ∃ ch w, b.Served w ∧ r = (exec ch w o).1
  good _ o := ¬ takesOver → o.WritesJobs b.Knows
  along_refl _ := trivial
  along_trans _ _ := trivial
  can_along _ := trivial

section Meets

variable {takesOver : Prop} {α β : Type} {p : Plugin} {env : Env}
  {channelID callID : String} {c : Unit}

/-- Code that writes what is known. -/
theorem Bot.meets_of_only {q : P α} (h : q.Only (Op.WritesJobs b.Knows)) :
    q.Meets (b.rely takesOver) (fun _ _ => True) c :=
  Prog.Meets.of_only h (fun _ _ ho _ => ho) c

theorem Bot.meets_of_body {q : Body α} (h : q.Only (Op.WritesJobs b.Knows)) :
    (Prog.lift q).Meets (b.rely takesOver) (fun _ _ => True) c :=
  Bot.meets_of_only (Prog.Only.lift h)

/-- A read, and what comes after it. -/
theorem Bot.meets_read {o : StoreOp} {k : Except String o.Result → P α}
    {Q : α → Unit → Prop} (ho : (Op.store o).LeavesJobs)
    (hk : ∀ res, (∀ a, res = .ok a → ∃ w, b.Served w ∧ (o.exec w).1 = .ok a) →
      (k res).Meets (b.rely takesOver) Q c) :
    (Prog.op (.store o) k).Meets (b.rely takesOver) Q c := by
  refine fun _ _ => ⟨fun _ => ho.writesJobs, fun res _ hcan => ?_⟩
  obtain ⟨ch, w, hw, hres⟩ := hcan
  refine hk res fun a ha => ⟨w, hw, ?_⟩
  have hread : (attempt ch.storeFails w o).1 = .ok a := hres.symm.trans ha
  unfold attempt at hread
  split at hread
  · cases hread
  · exact hread

theorem Bot.Served.activeJob {w : Store} (hw : b.Served w) {type : JobType}
    {j : CallJob} (hj : w.getActiveCallJobs callID type = some j) : b.Knows j :=
  hw.knows j (Store.getActiveCallJobs_eq_some hj).1

theorem getCallStateFromCall_meets (call : Call) :
    (Prog.lift (getCallStateFromCall call)).Meets (b.rely takesOver)
      (fun res _ => ∀ st, res = .ok st → b.KnowsState st) c := by
  refine Bot.meets_read trivial fun res _ => ?_
  cases res with
  | error e => rintro _ - _ ⟨⟩
  | ok sessions =>
      refine Bot.meets_read trivial fun res hres => ?_
      cases res with
      | error e => rintro _ - _ ⟨⟩
      | ok jobs =>
          rintro _ - _ ⟨⟩ type j hj
          obtain ⟨w, hw, hread⟩ := hres jobs rfl
          cases hread
          cases type <;> exact hw.activeJob hj

theorem getCallState_meets :
    (Prog.lift (getCallState channelID)).Meets (b.rely takesOver)
    (fun res _ => ∀ state, res = .ok state → b.KnowsCall state) c := by
  refine Bot.meets_read trivial fun res _ => ?_
  rcases res with e | _ | call
  · rintro _ - _ ⟨⟩
  · rintro _ - _ ⟨⟩ st h
    cases h
  · simp only [Code.bind]
    rw [Prog.lift_bind]
    refine (getCallStateFromCall_meets call).bind fun res _ hres => ?_
    cases res with
    | error e => rintro _ - _ ⟨⟩
    | ok st =>
        rintro _ - _ ⟨⟩ _ ⟨⟩
        exact hres st rfl

theorem lockCallReturnState_meets :
    (lockCallReturnState channelID).Meets (b.rely takesOver)
    (fun res _ => ∀ state, res = .ok state → b.KnowsCall state) c := by
  simp only [lockCallReturnState, lockCall, Prog.lock_bind, Prog.ret_bind]
  intro locked
  cases locked with
  | false => rintro _ - _ ⟨⟩
  | true =>
      refine getCallState_meets.bind fun res _ hres => ?_
      cases res with
      | error e => rintro _ - _ ⟨⟩
      | ok state => exact fun _ _ => hres

theorem withLock_meets {body : Option CallState → P α}
    (h : ∀ state, b.KnowsCall state →
      (body state).Meets (b.rely takesOver) (fun _ _ => True) c) :
    (withLock channelID body).Meets (b.rely takesOver) (fun _ _ => True) c := by
  refine lockCallReturnState_meets.bind fun res _ hres => ?_
  cases res with
  | error e => exact fun _ _ => trivial
  | ok state => exact (h state (hres state rfl)).bind fun _ _ _ => fun _ _ => trivial

theorem underLock_meets {body : Option CallState → Body α}
    (h : ∀ state, b.KnowsCall state → (body state).Only (Op.WritesJobs b.Knows)) :
    (underLock channelID body).Meets (b.rely takesOver) (fun _ _ => True) c :=
  withLock_meets fun state hstate => Bot.meets_of_body (h state hstate)

/-- The result does not matter. -/
theorem Bot.meets_discard {q : P α}
    (h : q.Meets (b.rely takesOver) (fun _ _ => True) c) :
    (q >>= fun _ => Prog.ret PUnit.unit).Meets (b.rely takesOver) (fun _ _ => True) c :=
  h.bind fun _ _ _ _ _ => trivial

/-! ### Starts -/

/-- `startTranscribingJob` from the answer of the job service on. -/
def transcribingAwaited (p : Plugin) (env : Env) (callID : String)
    (ran : Except String String) :
    P (Except JobError String) := do
  match ← lockCallReturnState callID with
  | .error _ => return .error .nilState
  | .ok state => transcribingJobStarted env state callID p.liveCaptionsEnabled ran

/-- `startRecordingJob` from the answer of the job service on. -/
def recordingAwaited (p : Plugin) (env : Env) (callID userID : String)
    (ran : Except String String) :
    P (Except JobError (JobStateClient × String × Option String)) := do
  match ← lockCallReturnState callID with
  | .error _ => return .error .nilState
  | .ok none =>
      return .error (.http 500 "failed to get recording state: no call ongoing")
  | .ok (some state) =>
      match state.recording with
      | none =>
          return .error (.http 500
            "failed to get recording state: no recording ongoing")
      | some recState => recordingJobStarted p env state recState callID userID ran

theorem runTranscription_eq (st : CallState) (userID trID : String) :
    runTranscription p env st callID userID trID = (do
      publishJob env st callID (newTranscription env st userID trID)
      unlockCall
      let ran ← runJob .transcribing callID st.call.postID trID
      transcribingAwaited p env callID ran) := rfl

theorem runRecording_eq (st : CallState) (userID : String) :
    runRecording p env st callID userID = (do
      publishJob env st callID (newRecording env st userID)
      unlockCall
      let ran ← runJob .recording callID st.call.postID (newRecording env st userID).id
      recordingAwaited p env callID userID ran) := rfl

theorem transcribingAwaited_meets (ran : Except String String) :
    (transcribingAwaited p env callID ran).Meets (b.rely takesOver)
      (fun _ _ => True) c := by
  refine lockCallReturnState_meets.bind fun res _ hres => ?_
  cases res with
  | error e => exact fun _ _ => trivial
  | ok state =>
      exact Bot.meets_of_body (transcribingJobStarted_writes_known (hres state rfl))

theorem startTranscribingJob_meets (st : CallState) (userID trID : String) :
    (startTranscribingJob p env st callID userID trID).Meets (b.rely takesOver)
      (fun _ _ => True) c := by
  have hrun : (runTranscription p env st callID userID trID).Meets (b.rely takesOver)
      (fun _ _ => True) c := by
    rw [runTranscription_eq]
    exact fun _ _ => ⟨fun _ => trivial,
        fun _ _ _ _ _ => ⟨fun _ => trivial, fun ran _ _ =>
      transcribingAwaited_meets ran⟩⟩
  unfold startTranscribingJob
  split
  · exact fun _ _ => trivial
  split
  · exact fun _ _ => trivial
  refine fun _ _ => ⟨fun _ => trivial, fun res _ _ => ?_⟩
  cases res with
  | error e => exact fun _ _ => trivial
  | ok _ =>
      have hcapt : (createLiveCaptions p env st userID).Only
          (Op.WritesJobs b.Knows) := by
        unfold createLiveCaptions
        split
        · exact ⟨trivial, fun _ => trivial⟩
        · trivial
      refine (Bot.meets_of_body hcapt).bind fun res _ _ => ?_
      cases res with
      | error e => exact fun _ _ => trivial
      | ok _ => exact hrun

theorem recordingJobStarted_meets {st : CallState} {recState : CallJob}
    (hrec : b.Knows recState) (userID : String) (ran : Except String String) :
    (recordingJobStarted p env st recState callID userID ran).Meets (b.rely takesOver)
      (fun _ _ => True) c := by
  have hsilent : ∀ {γ : Type} (st : CallState) (job : CallJob) (a : γ),
      (Prog.lift (publishJob env st callID job) >>= fun _ => Prog.ret a).Meets
        (b.rely takesOver) (fun _ _ => True) c :=
        fun _ _ _ _ _ => ⟨fun _ => trivial, fun _ _ _ _ _ => trivial⟩
  unfold recordingJobStarted
  cases ran with
  | error e =>
      exact fun _ _ => ⟨fun _ => trivial, fun _ _ _ _ _ =>
        ⟨fun _ => .of_ended (env.now_pos _).ne', fun _ _ _ => hsilent _ _ _⟩⟩
  | ok jobID =>
      dsimp only
      split
      · exact hsilent _ _ _
      refine fun _ _ => ⟨fun _ => hrec.of_same rfl rfl rfl, fun res _ _ => ?_⟩
      cases res with
      | error e => exact hsilent _ _ _
      | ok _ =>
          dsimp only
          split
          · refine (startTranscribingJob_meets _ userID _).bind fun res _ _ => ?_
            match res with
            | .error (.http _ e) => exact hsilent _ _ _
            | .error .nilState => exact fun _ _ => trivial
            | .ok trJobID => exact hsilent _ _ _
          · exact hsilent _ _ _

theorem recordingAwaited_meets (userID : String) (ran : Except String String) :
    (recordingAwaited p env callID userID ran).Meets (b.rely takesOver)
      (fun _ _ => True) c := by
  refine lockCallReturnState_meets.bind fun res _ hres => ?_
  match res, hres with
  | .error e, _ => exact fun _ _ => trivial
  | .ok none, _ => exact fun _ _ => trivial
  | .ok (some st), hres =>
      dsimp only
      split
      · exact fun _ _ => trivial
      next recState hrec =>
        exact recordingJobStarted_meets
          (hres _ rfl st rfl .recording recState hrec) userID ran

theorem startRecordingJob_meets (st : CallState) (userID : String) :
    (startRecordingJob p env st callID userID).Meets (b.rely takesOver)
      (fun _ _ => True) c := by
  have hrun : (runRecording p env st callID userID).Meets (b.rely takesOver)
      (fun _ _ => True) c := by
    rw [runRecording_eq]
    exact fun _ _ => ⟨fun _ => trivial,
        fun _ _ _ _ _ => ⟨fun _ => trivial, fun ran _ _ =>
      recordingAwaited_meets userID ran⟩⟩
  unfold startRecordingJob
  split
  · exact fun _ _ => trivial
  refine fun _ _ => ⟨fun _ => trivial, fun res _ _ => ?_⟩
  cases res with
  | error e => exact fun _ _ => trivial
  | ok _ => exact hrun

theorem handleRecordingAction_meets (recordingsAllowed : Bool) (userID : String)
    (action : RecordingAction) :
    (handleRecordingAction p env recordingsAllowed userID callID action).Meets
      (b.rely takesOver) (fun _ _ => True) c := by
  unfold handleRecordingAction
  split
  · exact fun _ _ => trivial
  split
  · exact fun _ _ => trivial
  refine (withLock_meets fun state hstate => ?_).bind fun res _ _ => ?_
  · cases state with
    | none => exact fun _ _ => trivial
    | some st =>
        dsimp only
        split
        · exact fun _ _ => trivial
        cases action with
        | start =>
            refine (startRecordingJob_meets st userID).bind fun res _ _ => ?_
            cases res <;> exact fun _ _ => trivial
        | stop =>
            refine (Bot.meets_of_body
              (stopJobs_keep stopDepth (hstate st rfl)).1.1).bind
              fun _ _ _ _ _ => trivial
        | other => exact fun _ _ => trivial
  · cases res <;> exact fun _ _ => trivial

end Meets

/-! ## The end of a call -/

/-- The operation writes no job that runs. -/
abbrev Op.EndsJobs : Op → Prop := Op.WritesJobs fun j => j.endAt ≠ 0

theorem endJobs_endsJobs (env : Env) (call : Call) (l : List CallJob) :
    (endJobs env call l).Only Op.EndsJobs := by
  induction l with
  | nil => trivial
  | cons job rest ih =>
      unfold endJobs
      split
      · refine ⟨(env.now_pos _).ne', fun _ => ?_⟩
        dsimp only
        split
        · exact ⟨trivial, fun _ => ih⟩
        · exact ih
      · exact ih

theorem cleanCallState_endsJobs (env : Env) (call : Call) :
    (cleanCallState env call).Only Op.EndsJobs := by
  refine ⟨trivial, fun _ => ⟨trivial, fun _ => ⟨trivial, fun res => ?_⟩⟩⟩
  cases res with
  | error e => exact ⟨trivial, fun _ => trivial⟩
  | ok jobs =>
      exact (endJobs_endsJobs env _ _).bind fun _ => ⟨trivial, fun _ => trivial⟩

theorem cleanUpCalls_endsJobs (p : Plugin) (env : Env) (calls : List Call) :
    (cleanUpCalls p env calls).Only Op.EndsJobs := by
  induction calls with
  | nil => trivial
  | cons call rest ih =>
      have hcall : (cleanUpCall p env call).Only Op.EndsJobs := by
        simp only [cleanUpCall, lockCall, unlockCall, Prog.lock_bind, Prog.ret_bind]
        intro locked
        cases locked with
        | false => trivial
        | true =>
            simp only [if_true]
            split
            · trivial
            · refine (Prog.Only.lift (cleanCallState_endsJobs env call)).bind
                fun res => ?_
              cases res <;> trivial
      refine hcall.bind fun res => ?_
      cases res with
      | error e => trivial
      | ok _ => exact ih

/-- The delayed step of `hostEnd`. -/
theorem forceEnd_endsJobs (env : Env) (id : String) :
    (forceEnd env id).Only Op.EndsJobs := by
  refine ⟨trivial, fun res => ?_⟩
  match res with
  | .error _ => trivial
  | .ok none => trivial
  | .ok (some call) =>
      exact ⟨trivial, fun _ => (cleanCallState_endsJobs env call).bind fun _ => trivial⟩

/-! ## Requests -/

/-- What goes on in a channel when nobody has its lock: requests that have not begun;
starts that wait for the job service, the last with the state and the recording that
`startTranscribingJob` was called with; and what is left of a request, such as a
clean-up or the delayed step of `hostEnd`, which runs without the lock. -/
inductive Work where
  | request (h : Handler)
  | recordingWaits (userID postID recID : String)
  | transcriptionWaits (state : CallState) (recState : CallJob) (recJobID trID : String)
  | rest (c : P Unit)

namespace Work

/-- What is left to do. -/
def code (p : Plugin) (env : Env) (channelID : String) : Work → P Unit
  | request h => h.code p env channelID
  | recordingWaits userID postID recID => do
      let ran ← runJob .recording channelID postID recID
      let _ ← recordingAwaited p env channelID userID ran
      unlockCall
  | transcriptionWaits state recState recJobID trID => do
      let ran ← runJob .transcribing channelID state.call.postID trID
      let res ← transcribingAwaited p env channelID ran
      let _ ← transcriptionStarted env state channelID recState recJobID res
      unlockCall
  | rest c => c

/-- The joins of the work. -/
def joins : Work → List Join
  | request h => h.joins
  | _ => []

/-- Its leaves. -/
def leaves : Work → List Leave
  | request h => h.leaves
  | _ => []

/-- The bot is told that its connection has another id. -/
def reconnects : Work → Prop
  | request (.botReconnect _ _) => True
  | _ => False

/-- The work leaves the bot with the ids in `conns`: a reconnection from one of them
leads to one of them, and there are no joins.  What only reads a call writes no jobs,
and what is left of a request writes none that runs. -/
def Within (b : Bot) : Work → Prop
  | request (.botReconnect connID prevConnID) => b.conns prevConnID → b.conns connID
  | request (.view body) => ∀ state, (body state).Only Op.LeavesJobs
  | request h => h.joins = []
  | rest c => c.Only Op.EndsJobs
  | _ => True

/-- Whatever goes on writes the jobs it has read with the connection they have; of work
in `names` this is not claimed. -/
theorem code_meets {q : Work} {names : Prop} (hq : names ∨ q.Within b) (p : Plugin)
    (env : Env) (channelID : String) (c : Unit) :
    (q.code p env channelID).Meets (b.rely names) (fun _ _ => True) c := by
  rcases hq with hnames | hq
  · exact Prog.Meets.of_only (P := fun _ => True)
      (Prog.only_of_forall (fun _ => trivial) _)
      (fun _ _ _ hnot => absurd hnames hnot) c
  have hleaves : ∀ {α : Type} {body : Option CallState → Body α},
      (∀ state, (body state).Only Op.LeavesJobs) →
      (underLock channelID body).Meets (b.rely names) (fun _ _ => True) c := fun h =>
    underLock_meets fun state _ => (h state).mono fun _ => Op.LeavesJobs.writesJobs
  have hends : ∀ {α : Type} {r : P α}, r.Only Op.EndsJobs →
      r.Meets (b.rely names) (fun _ _ => True) c := fun h =>
    Bot.meets_of_only (h.mono fun _ => Op.WritesJobs.mono fun _ => Bot.Knows.of_ended)
  cases q with
  | recordingWaits userID postID recID =>
      exact fun _ _ => ⟨fun _ => trivial, fun ran _ _ =>
        (recordingAwaited_meets userID ran).bind fun _ _ _ _ _ => trivial⟩
  | transcriptionWaits state recState recJobID trID =>
      refine fun _ _ => ⟨fun _ => trivial, fun ran _ _ =>
        (transcribingAwaited_meets ran).bind fun res _ _ => ?_⟩
      have hlast : (transcriptionStarted env state channelID recState recJobID res).Only
          (Op.WritesJobs b.Knows) := by
        match res with
        | .error (.http _ e) => exact ⟨trivial, fun _ => trivial⟩
        | .error .nilState => exact trivial
        | .ok trJobID => exact ⟨trivial, fun _ => trivial⟩
      exact (Bot.meets_of_only hlast).bind fun _ _ _ _ _ => trivial
  | rest r => exact hends hq
  | request h =>
  cases h with
  | join j => exact absurd hq (List.cons_ne_nil j [])
  | joinBatch js =>
      obtain rfl : js = [] := hq
      exact Bot.meets_discard (underLock_meets fun _ _ => trivial)
  | leave l =>
      exact Bot.meets_discard (underLock_meets fun state hstate =>
        (removeUserSession_keeps l.req hstate).1.bind fun _ => trivial)
  | leaveBatch ls =>
      exact Bot.meets_discard (underLock_meets fun state hstate =>
        removeSessionsFromCall_writes ls hstate)
  | screen us turnOn =>
      refine Bot.meets_discard ?_
      unfold handleClientMessageTypeScreen
      split
      · exact fun _ _ => trivial
      · exact hleaves fun state =>
          screenMessage_leavesJobs env channelID state us turnOn
  | session us msg =>
      exact Bot.meets_discard
        (hleaves fun state => sessionMessage_leavesJobs env channelID state us msg)
  | changeHost requesterID newHostID =>
      exact Bot.meets_discard (hleaves fun state =>
        hostChanged_leavesJobs p env channelID state requesterID newHostID)
  | hostEnd requesterID =>
      refine Bot.meets_discard (hleaves fun state => ?_)
      cases state with
      | none => trivial
      | some st =>
          dsimp only
          split
          · trivial
          · exact ⟨trivial, fun _ => trivial⟩
  | forceEnd callID => exact hends (Prog.Only.lift (forceEnd_endsJobs env callID))
  | dismissNotification userID =>
      exact Bot.meets_discard
        (hleaves fun state => notificationDismissed_leavesJobs state userID)
  | callStateRequest userID connID =>
      refine Bot.meets_discard (hleaves fun state => ?_)
      cases state with
      | none => trivial
      | some st => exact ⟨trivial, fun _ => trivial⟩
  | botReconnect connID prevConnID =>
      exact Bot.meets_discard
        (underLock_meets fun _ hstate => botReconnected_writes hq hstate)
  | recordingAction recordingsAllowed userID action =>
      exact Bot.meets_discard
        (handleRecordingAction_meets recordingsAllowed userID action)
  | recordingTimeout jobID =>
      exact Bot.meets_discard
        (underLock_meets fun _ hstate => recJobTimedOut_writes hstate)
  | transcriptionTimeout jobID =>
      exact Bot.meets_discard
        (underLock_meets fun _ hstate => transcriptionJobTimedOut_writes hstate)
  | jobStatus jobID status =>
      refine Bot.meets_discard ((underLock_meets fun _ hstate =>
        botPostedJobsStatus_writes hstate).bind fun res _ _ => ?_)
      cases res <;> exact fun _ _ => trivial
  | cleanUp =>
      refine Bot.meets_discard fun _ _ => ⟨fun _ => trivial, fun res _ _ => ?_⟩
      cases res with
      | error e => exact fun _ _ => trivial
      | ok calls => exact hends (cleanUpCalls_endsJobs p env _)
  | view body => exact Bot.meets_discard (hleaves hq)

end Work

/-! ## Runs -/

section Runs

variable {T N : Type} [DecidableEq T] [DecidableEq N]

/-- A condition on a step: a request in `names` puts only connections of the bot into
the jobs that the bot serves and that run. -/
def NamesBot (b : Bot) (names : T → Prop) (_ : List (Event T Choice))
    (s : Sys Op Op.Resp Store T N) (t : T) (a : Act Choice) : Prop :=
  ∀ ch j k, a = .op ch → s.code t = .op (.store (.updateCallJob j)) k →
    names t → b.Knows j

/-- In every run, whoever has the lock, the running jobs of the bot name a connection of
the bot. -/
theorem Bot.served_of_runs (b : Bot) (node : T → N) (p : T → Plugin) (env : T → Env)
    (channelID : String) (work : T → Work) (names : T → Prop)
    (hwork : ∀ t, names t ∨ (work t).Within b) (store : Store) (h0 : b.Served store)
    {tr : List (Event T Choice)} {s : Sys Op Op.Resp Store T N}
    (hr : Runs exec node (NamesBot b names)
      (start store fun t => (work t).code (p t) (env t) channelID) tr s) :
      b.Served s.world := by
  have hall : b.Served s.world ∧
      ∀ t, (s.code t).Meets (b.rely (names t)) (fun _ _ => True) () := by
    induction hr with
    | refl => exact ⟨h0, fun t => Work.code_meets (hwork t) (p t) (env t) channelID ()⟩
    | @step tr s s' t a hr hok hs ih =>
        refine ⟨?_, fun t' => Sys.step_meets ih.2 hs (fun ch o k _ _ =>
          ⟨ch, s.world, ih.1, rfl⟩) (fun _ => trivial) t'⟩
        obtain ⟨k, rfl, -, -, -, rfl⟩ | ⟨k, rfl, -, -, -, rfl⟩ | ⟨k, rfl, -, -, rfl⟩ |
          ⟨k, rfl, -, rfl⟩ | ⟨ch, o, k, rfl, hk, rfl⟩ := Sys.step_cases hs
        · exact ih.1
        · exact ih.1
        · exact ih.1
        · unfold Sys.release
          split <;> exact ih.1
        · refine ih.1.exec ?_ ch
          by_cases hnames : names t
          · cases o with
            | store o =>
                cases o with
                | updateCallJob j => exact hok ch j k rfl hk hnames
                | _ => trivial
            | _ => trivial
          · exact (ih.2 t).good hk hnames
  exact hall.1

end Runs

/-! ## The join of the bot -/

/-- Code on its own, whatever the store answers. -/
@[reducible]
def aloneLogic : Logic Op Op.Resp Store Choice where
  sem := exec
  allow _ _ _ _ := True
  pre _ _ := True
  inv _ := True
  lockMayFail := True
  stray := True

/-- The jobs in memory have rows that name the same connections. -/
def JobsAgree (st : CallState) (w : Store) : Prop :=
  ∀ type j, st.job type = some j → ∃ x ∈ w.jobs, x.id = j.id ∧ x.type = type ∧
    x.props.botConnID = j.props.botConnID

/-- What a bot serves that has joined: the jobs that it took over. -/
structure Bot.Joined (b : Bot) (r : JoinRequest) (joined : CallState) : Prop where
  jobID : b.jobID = r.jobID
  conns : b.conns r.connID
  serves : ∀ id, b.serves id ↔
    ∃ type j, joined.job type = some j ∧ j.id = id ∧ j.props.botConnID = r.connID

section Join

variable {p : Plugin} {env : Env} {channelID connID jobID : String} {st : CallState}
  {w w' : Store}

/-- The state is that of the store. -/
theorem jobsAgree_stored {s : Store} (h : storedState s channelID = some st) :
    JobsAgree st s := by
  obtain ⟨call, -, rfl⟩ := Option.map_eq_some_iff.1 h
  intro type j hj
  have hread : s.getActiveCallJobs call.id type = some j := by cases type <;> exact hj
  obtain ⟨hmem, -, -, htype⟩ := Store.getActiveCallJobs_eq_some hread
  exact ⟨j, hmem, rfl, htype, rfl⟩

theorem JobsAgree.same {st' : CallState} (h : JobsAgree st w) (hjobs : w'.jobs = w.jobs)
    (hsame : ∀ type, st'.job type = st.job type) : JobsAgree st' w' := by
  intro type j hj
  rw [hjobs]
  exact h type j (hsame type ▸ hj)

/-- A job is written, in memory and in its row. -/
theorem JobsAgree.withJob {j j' : CallJob} (h : JobsAgree st w) (type : JobType)
    (hj : st.job type = some j) (hid : j'.id = j.id)
    (hjobs : w'.jobs = JobTable.update w.jobs j') :
    JobsAgree (st.withJob type j') w' := by
  obtain ⟨x, hx, hxid, hxtype, -⟩ := h type j hj
  intro type' i hi
  rw [hjobs]
  by_cases hne : type' = type
  · subst hne
    rw [withJob_job_self] at hi
    cases hi
    refine ⟨Store.setJob x j', (Table.mem_modify (Store.setJob_id · j')).2 ⟨x, hx, ?_⟩,
      hxid.trans hid.symm, hxtype, rfl⟩
    rw [if_pos (hxid.trans hid.symm)]
  · rw [withJob_job_of_ne st j' hne] at hi
    obtain ⟨y, hy, hyid, hytype, hyconn⟩ := h type' i hi
    -- a row of another type is another row
    have hother : y.id ≠ j'.id := fun he => by
      obtain rfl := w.jobs.eq_of_key_eq hy hx (he.trans (hid.trans hxid.symm))
      exact hne (hytype.symm.trans hxtype)
    exact ⟨y, (Table.mem_modify_of_ne (Store.setJob_id · j') hother).2 hy, hyid,
      hytype, hyconn⟩

/-- Code that writes no jobs. -/
theorem only_alone {α : Type} {P : α → Prop} {Q : α → Store → Prop} {c : Body α}
    (hc : c.Only Op.LeavesJobs) (hall : c.All P)
    (hQ : ∀ a w', P a → w'.jobs = w.jobs → Q a w') : c.wp aloneLogic Q w := by
  induction c generalizing w with
  | ret a => exact hQ a w hall rfl
  | op o k ih =>
      refine ⟨trivial, fun ch _ => ih _ (hc.2 _) (hall _) fun a w' ha hw' =>
        hQ a w' ha ?_⟩
      exact hw'.trans (hc.1.exec_jobs ch w)

/-- Writing a job that the code cannot go on without. -/
theorem writeJob_alone {α : Type} {Q : α → Store → Prop} {j : CallJob}
    {k : Except String Unit → Body α}
    (hfail : ∀ e w', (k (.error e)).wp aloneLogic Q w')
    (hok : ∀ w', w'.jobs = JobTable.update w.jobs j → (k (.ok ())).wp aloneLogic Q w') :
    (write (jobWrite j) >>= k).wp aloneLogic Q w := by
  refine ⟨trivial, fun ch _ => ?_⟩
  have hcases : (∃ e w', aloneLogic.sem ch w (.store (jobWrite j).op) =
      (.error e, w')) ∨
      aloneLogic.sem ch w (.store (jobWrite j).op) = (.ok (), w.updateCallJob j) := by
    show (∃ e w', attempt ch.storeFails w (.updateCallJob j) = (.error e, w')) ∨
      attempt ch.storeFails w (.updateCallJob j) = (.ok (), w.updateCallJob j)
    unfold attempt
    split
    · exact .inl ⟨_, _, rfl⟩
    · simp only [StoreOp.exec]
      split
      · exact .inl ⟨_, _, rfl⟩
      · exact .inr rfl
  rcases hcases with ⟨e, w', he⟩ | he
  · rw [he]
    exact ⟨trivial, fun _ _ => hfail _ _⟩
  · rw [he]
    exact hok _ rfl

/-- The bot has taken over the recording or transcription that it was started for, and
with a transcription captions that have not started. -/
def HasBot (st : CallState) (connID jobID : String) : Prop :=
  ∃ type ≠ .captioning, ∃ j, st.job type = some j ∧ j.id = jobID ∧
    j.props.botConnID = connID ∧
    (type = .transcribing → ∀ lc, st.job .captioning = some lc → lc.startAt = 0 →
      lc.props.botConnID = connID)

theorem botJoinsLiveCaptions_alone (h : JobsAgree st w) :
    (botJoinsLiveCaptions st connID).wp aloneLogic (fun res w' => ∀ st', res = .ok st' →
      JobsAgree st' w' ∧ (∀ type ≠ .captioning, st'.job type = st.job type) ∧
        ∀ lc, st'.job .captioning = some lc → lc.startAt = 0 →
          lc.props.botConnID = connID) w := by
  unfold botJoinsLiveCaptions
  split
  next hnone =>
    rintro _ ⟨⟩
    exact ⟨h, fun _ _ => rfl, fun lc hlc => absurd (hlc.symm.trans hnone) (by simp)⟩
  next lc hlc =>
    split
    next hstart =>
      rintro _ ⟨⟩
      refine ⟨h, fun _ _ => rfl, fun lc' hlc' hstart' => ?_⟩
      obtain rfl := Option.some.inj (hlc.symm.trans hlc')
      exact absurd hstart' hstart
    refine writeJob_alone (fun e w' => ?_) fun w' hw' => ?_
    · rintro _ ⟨⟩
    · rintro _ ⟨⟩
      refine ⟨h.withJob .captioning hlc rfl hw',
        fun type hne => withJob_job_of_ne st _ hne, ?_⟩
      rintro _ ⟨⟩ -
      rfl

/-- The bot joins for its job. -/
theorem botJoins_alone (h : JobsAgree st w) :
    (botJoins st connID jobID).wp aloneLogic (fun res w' => ∀ st', res = .ok st' →
      JobsAgree st' w' ∧ HasBot st' connID jobID) w := by
  unfold botJoins
  split
  · rintro _ ⟨⟩
  split
  next job hjob =>
    obtain ⟨hrec, hawaits⟩ := Option.filter_eq_some_iff.1 hjob
    have hid : job.id = jobID := (of_decide_eq_true hawaits).1
    refine writeJob_alone (fun e w' => ?_) fun w' hw' => ?_
    · rintro _ ⟨⟩
    · rintro _ ⟨⟩
      exact ⟨h.withJob .recording hrec rfl hw', .recording, by simp, _, rfl,
        hid, rfl, by simp⟩
  · split
    next job hjob =>
      obtain ⟨htr, hawaits⟩ := Option.filter_eq_some_iff.1 hjob
      have hid : job.id = jobID := (of_decide_eq_true hawaits).1
      refine Code.wp_bind.2
        (Code.wp_mono (botJoinsLiveCaptions_alone h) fun res w₁ hres => ?_)
      cases res with
      | error e => rintro _ ⟨⟩
      | ok st₁ =>
          obtain ⟨h₁, hsame, hcaptions⟩ := hres st₁ rfl
          have htr₁ : st₁.job .transcribing = some job :=
            (hsame .transcribing (by simp)).trans htr
          refine writeJob_alone (fun e w' => ?_) fun w' hw' => ?_
          · rintro _ ⟨⟩
          · rintro _ ⟨⟩
            exact ⟨h₁.withJob .transcribing htr₁ rfl hw', .transcribing, by simp, _,
              rfl, hid, rfl, fun _ => hcaptions⟩
    · rintro _ ⟨⟩

theorem write_leavesJobs {wr : Write} (h : (Op.store wr.op).LeavesJobs) :
    (write wr).Only Op.LeavesJobs := by
  refine ⟨h, fun res => ?_⟩
  cases res with
  | error e => exact ⟨trivial, fun _ => trivial⟩
  | ok _ => trivial

/-- Saving the join writes no jobs. -/
theorem saveJoin_leavesJobs (st : CallState) (oldHostID userID : String) :
    (saveJoin env st oldHostID userID connID channelID).Only Op.LeavesJobs := by
  have hcall : (Op.store (callWrite st).op).LeavesJobs := by
    unfold callWrite
    split <;> exact trivial
  refine (write_leavesJobs hcall).bind fun res => ?_
  cases res with
  | error e => trivial
  | ok _ =>
      refine Code.Only.bind (p := write (sessionWrite _))
        (write_leavesJobs trivial) fun res => ?_
      cases res with
      | error e => trivial
      | ok _ =>
          refine Code.Only.bind (p := announceHost env oldHostID st channelID) ?_
            fun _ => trivial
          unfold announceHost
          split
          · exact ⟨trivial, fun _ => trivial⟩
          · trivial

theorem saveJoin_all (st : CallState) (oldHostID userID : String) :
    (saveJoin env st oldHostID userID connID channelID).All
      fun res => ∀ st', res = .ok st' → st' = st := by
  refine Code.all_bind.2 (Code.all_of_forall (fun res => ?_) _)
  cases res with
  | error e => rintro _ ⟨⟩
  | ok _ =>
      refine Code.all_bind.2 (Code.all_of_forall (fun res => ?_) _)
      cases res with
      | error e => rintro _ ⟨⟩
      | ok _ =>
          refine Code.all_bind.2 (Code.all_of_forall (fun _ => ?_) _)
          rintro _ ⟨⟩
          rfl

/-- Where the bot joins, the jobs in memory have rows that name the same connections,
and one of them names the bot's. -/
theorem addUserSession_alone {state : Option CallState} {r : JoinRequest}
    (hbot : r.userID = p.botID) (h : ∀ st, state = some st → JobsAgree st w) :
    (addUserSession p env state r channelID).wp aloneLogic (fun res w' => ∀ joined,
      res = (some joined, .ok ()) → JobsAgree joined w' ∧
        HasBot joined r.connID r.jobID) w := by
  have htry : (tryAddUserSession p env state r channelID).wp aloneLogic (fun res w' =>
      ∀ joined, res = .ok joined → JobsAgree joined w' ∧
          HasBot joined r.connID r.jobID) w := by
    unfold tryAddUserSession
    split
    · dsimp only
      split
      · refine ⟨trivial, fun _ _ => ?_⟩
        rintro _ ⟨⟩
      · rintro _ ⟨⟩
    next st hcall =>
      have hst : JobsAgree st w := by
        rcases callToJoin_eq_ok hcall with hstate | ⟨-, host, rfl⟩
        · exact h st hstate
        · intro type j hj
          cases type <;> cases hj
      split
      · rintro _ ⟨⟩
      rw [if_pos hbot]
      refine Code.wp_bind.2 (Code.wp_mono (botJoins_alone hst) fun res w₁ hres => ?_)
      cases res with
      | error e => rintro _ ⟨⟩
      | ok st₁ =>
          obtain ⟨h₁, type, htype, j, hj, hid, hconn, hcaptions⟩ := hres st₁ rfl
          have hsame : ∀ type, (admitted p env st₁ r.userID r.connID).job type =
              st₁.job type :=
            fun type => by cases type <;> rfl
          refine only_alone (saveJoin_leavesJobs _ _ _) (saveJoin_all _ _ _)
            fun res w' hall hw' => ?_
          intro joined hjoined
          obtain rfl := hall joined hjoined
          refine ⟨h₁.same hw' hsame, type, htype, j, (hsame type).trans hj, hid, hconn,
            fun ht => ?_⟩
          exact hsame .captioning ▸ hcaptions ht
  refine Code.wp_bind.2 (Code.wp_mono htry fun res w' hres => ?_)
  cases res with
  | error e => rintro _ ⟨⟩
  | ok st =>
      rintro _ ⟨⟩
      exact hres st rfl

end Join

/-- **The join of the bot**: the rows of the jobs that it has taken over name its
connection, captions that have not started among them. -/
theorem Bot.Joined.served {p : Plugin} {env : Env} {channelID : String}
    {state : Option CallState} {r : JoinRequest} {joined : CallState} {w w' : Store}
    (hj : b.Joined r joined) (hbot : r.userID = p.botID)
    (h : ∀ st, state = some st → JobsAgree st w)
    (hy : (addUserSession p env state r channelID).Yields exec w
      (some joined, .ok ()) w') :
    b.Served w' ∧ ∀ tr lc, joined.job .transcribing = some tr → tr.id = r.jobID →
      joined.job .captioning = some lc → lc.startAt = 0 → b.serves lc.id := by
  obtain ⟨hagrees, type, htype, i, hi, hid, -, hcaptions⟩ :=
    Code.wp_yields (L := aloneLogic) (fun _ _ _ => trivial)
      (addUserSession_alone hbot h) hy joined rfl
  refine ⟨⟨fun x hx hs _ => ?_, fun id hs => ?_, fun x hx hxid => ?_⟩,
    fun tr lc htr htrid hlc hstart =>
      (hj.serves lc.id).2 ⟨.captioning, lc, hlc, rfl, ?_⟩⟩
  · obtain ⟨type', j, hj', hjid, hconn⟩ := (hj.serves x.id).1 hs
    obtain ⟨y, hy', hyid, -, hyconn⟩ := hagrees type' j hj'
    obtain rfl := w'.jobs.eq_of_key_eq hy' hx (hyid.trans hjid)
    rw [hyconn, hconn]
    exact hj.conns
  · obtain ⟨type', j, hj', hjid, -⟩ := (hj.serves id).1 hs
    obtain ⟨y, hy', hyid, -⟩ := hagrees type' j hj'
    exact ⟨y, hy', hyid.trans hjid⟩
  · obtain ⟨y, hy', hyid, hytype, -⟩ := hagrees type i hi
    have hkey : y.id = x.id := hyid.trans (hid.trans (hj.jobID.symm.trans hxid.symm))
    obtain rfl := w'.jobs.eq_of_key_eq hy' hx hkey
    rw [hytype]
    exact htype
  · -- the job of the bot is the transcription
    obtain ⟨x, hx, hxid, hxtype, -⟩ := hagrees type i hi
    obtain ⟨y, hy', hyid, hytype, -⟩ := hagrees .transcribing tr htr
    have hkey : x.id = y.id := hxid.trans (hid.trans (htrid.symm.trans hyid.symm))
    obtain rfl := w'.jobs.eq_of_key_eq hx hy' hkey
    exact hcaptions (hxtype.symm.trans hytype) lc hlc hstart

end Bot

end CallsPlugin.Ports
