import CallsPlugin.Ports.JobCoupling
import CallsPlugin.Ports.StartOutcome

/-!
# Whose answer a job carries

`RunJob` is called with the lock released, and its answer is stored afterwards in the
job that is then active.  `writes` pairs each write of a job in the record of a start
with the request to the job service that came last before it.  The answer goes into the
record of its request exactly when that is what the start finds on taking the lock
again.
-/

namespace CallsPlugin.Ports

open CallsPlugin.Verified
open CallsPlugin.Ports.Public CallsPlugin.Ports.Db

/-! ## Writes and the requests before them -/

/-- A request to run a job, with its answer. -/
structure JobRun where
  type : JobType
  id : String
  answer : Except String String

/-- The last request of a record, `last` if it has none. -/
def lastRun : Option JobRun → List (Sigma Op.Resp) → Option JobRun
  | last, [] => last
  | _, ⟨.runJob type _ _ id, answer⟩ :: rest => lastRun (some ⟨type, id, answer⟩) rest
  | last, _ :: rest => lastRun last rest

/-- The jobs a record writes, each with the last request before. -/
def writes : Option JobRun → List (Sigma Op.Resp) → List (Option JobRun × CallJob)
  | _, [] => []
  | _, ⟨.runJob type _ _ id, answer⟩ :: rest => writes (some ⟨type, id, answer⟩) rest
  | last, ⟨.store (.updateCallJob j), _⟩ :: rest => (last, j) :: writes last rest
  | last, _ :: rest => writes last rest

/-- The operation makes no request and writes only jobs in `P`. -/
def Op.WritesOnly (P : CallJob → Prop) : Op → Prop
  | .store (.updateCallJob j) => P j
  | .runJob _ _ _ _ => False
  | _ => True

section Writes

variable {last : Option JobRun} {l l' : List (Sigma Op.Resp)} {P : CallJob → Prop}

@[simp] theorem writes_nil : writes last [] = [] := rfl

theorem lastRun_of_writesOnly (h : ∀ e ∈ l, e.1.WritesOnly P) :
    lastRun last l = last := by
  induction l with
  | nil => rfl
  | cons e l ih =>
      have hl := ih fun e he => h e (List.mem_cons_of_mem _ he)
      have he := h e (List.mem_cons_self ..)
      obtain ⟨o, r⟩ := e
      cases o with
      | runJob => exact he.elim
      | _ => exact hl

theorem writes_append :
    writes last (l ++ l') = writes last l ++ writes (lastRun last l) l' := by
  induction l generalizing last with
  | nil => rfl
  | cons e l ih =>
      obtain ⟨o, r⟩ := e
      cases o with
      | store o =>
          cases o with
          | updateCallJob j => exact congrArg _ ih
          | _ => exact ih
      | _ => exact ih

theorem mem_writes_of_writesOnly (h : ∀ e ∈ l, e.1.WritesOnly P) :
    ∀ x ∈ writes last l, x.1 = last ∧ P x.2 := by
  induction l with
  | nil => exact fun x hx => absurd hx List.not_mem_nil
  | cons e l ih =>
      have hl := ih fun e he => h e (List.mem_cons_of_mem _ he)
      have he := h e (List.mem_cons_self ..)
      obtain ⟨o, r⟩ := e
      cases o with
      | store o =>
          cases o with
          | updateCallJob j =>
              intro x hx
              rcases List.mem_cons.1 hx with rfl | hx
              · exact ⟨rfl, he⟩
              · exact hl x hx
          | _ => exact hl
      | runJob => exact he.elim
      | _ => exact hl

end Writes

/-- Every write of the record is as `Q` wants it, `last` being the last request
before. -/
def WritesAre (Q : Option JobRun → CallJob → Prop) (last : Option JobRun)
    (l : List (Sigma Op.Resp)) : Prop := ∀ x ∈ writes last l, Q x.1 x.2

/-- The operation makes no request and writes no job. -/
abbrev Op.WritesNoJob : Op → Prop := Op.WritesOnly fun _ => False

section WritesAre

variable {Q : Option JobRun → CallJob → Prop} {last : Option JobRun}
  {l l' : List (Sigma Op.Resp)}

@[simp] theorem writesAre_nil : WritesAre Q last [] :=
  fun _ h => absurd h List.not_mem_nil

theorem writesAre_of_nil (h : writes last l = []) : WritesAre Q last l :=
  fun _ hx => absurd (h ▸ hx) List.not_mem_nil

theorem writes_eq_nil (h : ∀ e ∈ l, e.1.WritesNoJob) : writes last l = [] :=
  List.eq_nil_iff_forall_not_mem.2 fun x hx => (mem_writes_of_writesOnly h x hx).2

/-- Operations that make no request and write no job, and then the rest. -/
theorem writesAre_append (h : ∀ e ∈ l, e.1.WritesNoJob) :
    WritesAre Q last (l ++ l') ↔ WritesAre Q last l' := by
  unfold WritesAre
  rw [writes_append, writes_eq_nil h, lastRun_of_writesOnly h, List.nil_append]

theorem writesAre_cons {e : Sigma Op.Resp} (h : e.1.WritesNoJob) :
    WritesAre Q last (e :: l) ↔ WritesAre Q last l :=
  writesAre_append (l := [e]) fun _ he => List.mem_singleton.1 he ▸ h

theorem writesAre_runJob {type : JobType} {callID postID jobID : String}
    {answer : Except String String} :
    WritesAre Q last (⟨.runJob type callID postID jobID, answer⟩ :: l) ↔
      WritesAre Q (some ⟨type, jobID, answer⟩) l := Iff.rfl

theorem writesAre_updateCallJob {j : CallJob} {res : Except String Unit} :
    WritesAre Q last (⟨.store (.updateCallJob j), res⟩ :: l) ↔
    Q last j ∧ WritesAre Q last l :=
  List.forall_mem_cons

/-- What comes after and writes nothing. -/
theorem writesAre_append_quiet (h : ∀ last, writes last l' = []) :
    WritesAre Q last (l ++ l') ↔ WritesAre Q last l := by
  unfold WritesAre
  rw [writes_append, h, List.append_nil]

/-- Code that makes no request and writes no job. -/
theorem writesAre_of_only {α : Type} {c : Body α}
    {sem : Store → (o : Op) → o.Resp × Store}
    {w : Store} (h : c.Only Op.WritesNoJob) : WritesAre Q last (c.record sem w) := by
  intro x hx
  rw [writes_eq_nil fun e he => h.record e he] at hx
  exact absurd hx List.not_mem_nil

/-- Code that is followed by such code. -/
theorem writesAre_bind {α β : Type} {c : Body α} {f : α → Body β}
    {sem : Store → (o : Op) → o.Resp × Store} {w : Store}
    (hf : ∀ a, (f a).Only Op.WritesNoJob) :
    WritesAre Q last ((c >>= f).record sem w) ↔ WritesAre Q last (c.record sem w) := by
  rw [Code.record_bind]
  exact writesAre_append_quiet fun _ => writes_eq_nil fun e he => (hf _).record e he

/-- Code that writes a job, and goes on with the answer of the store. -/
theorem writesAre_write_bind {α : Type} {j : CallJob} {f : Except String Unit → Body α}
    {sem : Store → (o : Op) → o.Resp × Store} {w : Store} :
    WritesAre Q last ((store (.updateCallJob j) >>= f).record sem w) ↔
      Q last j ∧ ∀ res, (sem w (.store (.updateCallJob j))).1 = res →
        WritesAre Q last ((f res).record sem
          (sem w (.store (.updateCallJob j))).2) := by
  refine writesAre_updateCallJob.trans (and_congr_right fun _ => ?_)
  rw [forall_eq']
  rfl

/-- A program that begins with such code. -/
theorem writesAre_lift_bind {α β : Type} {c : Body α} {f : α → P β}
    {sem : Store → (o : Op) → o.Resp × Store} {turns : Nat → Turn Op Op.Resp Store}
    {w : Store} (hc : c.Only Op.WritesNoJob) :
    WritesAre Q last ((Prog.lift c >>= f).play sem turns w).log ↔
      WritesAre Q last ((f (c.run sem w).1).play sem turns (c.run sem w).2).log := by
  rw [Prog.play_lift_bind]
  exact writesAre_append fun e he => hc.record e he

end WritesAre

theorem Op.Reads.writesOnly {P : CallJob → Prop} {o : Op} (h : o.Reads) :
    o.WritesOnly P := by
  cases o with
  | store o =>
      cases o with
      | updateCallJob j => cases h
      | _ => trivial
  | _ => exact h.elim

/-! ## The writes of a start -/

/-- A write that follows the request `r` carries its answer. -/
def JobRun.Carried (r : JobRun) (j : CallJob) : Prop :=
  match r.answer with
  | .ok jobID => j.props.jobID = jobID
  | .error e => j.endAt ≠ 0 ∧ (j.props.err = e ∨ j.type = .captioning)

/-- It goes into the record of the request or, for a transcription, into `shared`
captions. -/
def JobRun.Into (shared : String → Prop) (r : JobRun) (j : CallJob) : Prop :=
  j.id = r.id ∨ r.type = .transcribing ∧ j.type = .captioning ∧ shared j.id

/-- A write of a start follows a request and carries its answer. -/
def Answered : Option JobRun → CallJob → Prop
  | none, _ => False
  | some r, j => r.Carried j

/-- It goes where it should. -/
def GoesInto (shared : String → Prop) : Option JobRun → CallJob → Prop
  | none, _ => False
  | some r, j => r.Into shared j

/-- The answer is written into a job that is found: a refusal always is, the id of a job
if there is none yet. -/
def Stored (ran : Except String String) (j : CallJob) : Prop :=
  ∀ jobID, ran = .ok jobID → j.props.jobID = ""

section Finds

variable (p : Plugin) (env : Env) (st : CallState) (callID userID trID : String)
  (choose : Op → Choice) (s : Store) (ws : Nat → Window) (shared : String → Prop)

/-- The transcription that is written on taking the lock again is the one that the start
has created, and the captions that are written are `shared`. -/
structure FindsOwnTranscription : Prop where
  transcription : ¬ NotCreated env st userID trID choose s →
    ¬ CaptionsRefused p env st userID trID choose s →
    ∀ st' tr, (ws 0).state callID = some st' → st'.transcription = some tr →
      Stored (transcriptionRan st callID trID choose) tr → tr.id = trID
  liveCaptions : ¬ NotCreated env st userID trID choose s →
    ¬ CaptionsRefused p env st userID trID choose s →
    ∀ st' tr lc, (ws 0).state callID = some st' → st'.transcription = some tr →
      Stored (transcriptionRan st callID trID choose) tr →
      captionsIf p.liveCaptionsEnabled st' = some lc →
      (∀ jobID, transcriptionRan st callID trID choose = .ok jobID →
        (answers (ws 0).choose (ws 0).store
          (.store (.updateCallJob (withJobID tr jobID)))).1 =
          .ok ()) →
      lc.id = trID ∨ shared lc.id

/-- The recording that is written on taking the lock again is the one that the start has
created, and so are the transcription and the captions that follow. -/
structure FindsOwn : Prop where
  recording : running st.recording = false →
    ¬ Refused choose s (newRecording env st userID) →
    ∀ st' j, (ws 0).state callID = some st' → st'.recording = some j →
      Stored (recordingRan env st callID userID choose) j →
      j.id = (newRecording env st userID).id
  transcription : running st.recording = false →
    ¬ Refused choose s (newRecording env st userID) →
    ∀ st' s', GoesOn p env st callID userID choose (ws 0) st' s' →
      FindsOwnTranscription p env st' callID userID (env.newJobID .transcribing)
        (ws 0).choose s' (fun n => ws (n + 1)) shared

end Finds

section Start

variable {p : Plugin} {env : Env} {callID userID : String} {shared : String → Prop}
  {Q : Option JobRun → CallJob → Prop} {last : Option JobRun}

/-- A program that takes the lock again, and then goes on with the state it reads. -/
theorem lockCallReturnState_writes {α : Type} {sem : Store → (o : Op) → o.Resp × Store}
    {s : Store} {ws : Nat → Window} {f : Except String (Option CallState) → P α}
    (herr : ∀ e, ∃ a, f (.error e) = .ret a) (hnone : ∃ a, f (.ok none) = .ret a) :
    WritesAre Q last ((lockCallReturnState callID >>= f).play sem (fun n => (ws n).turn)
      s).log ↔
      ∀ st, (ws 0).state callID = some st → WritesAre Q last ((f (.ok (some st))).play
        (answers (ws 0).choose) (fun n => (ws (n + 1)).turn) (ws 0).store).log := by
  obtain ⟨res, log, hplay, hlog, hres⟩ := play_lockCallReturnState sem s callID ws
  rw [Prog.play_bind, hplay]
  refine (writesAre_append fun e he => (hlog e he).writesOnly).trans ?_
  rcases hres with rfl | ⟨⟨e, rfl⟩, hstate⟩
  · cases hstate : (ws 0).state callID with
    | none =>
        obtain ⟨a, ha⟩ := hnone
        dsimp only
        rw [ha]
        simp
    | some st => simp
  · obtain ⟨a, ha⟩ := herr e
    dsimp only
    rw [ha]
    simp [hstate]

/-- A job with the answer to the request for it. -/
def answered (env : Env) (site : Site) (ran : Except String String) (j : CallJob) :
    CallJob :=
  match ran with
  | .ok jobID => withJobID j jobID
  | .error e => { j with endAt := env.now site, props := { j.props with err := e } }

/-- Captions with the answer to the request for their transcription. -/
def answeredCaptions (env : Env) (ran : Except String String) (lc : CallJob) :
    CallJob :=
  match ran with
  | .ok jobID => withJobID lc jobID
  | .error _ => { lc with endAt := env.now .captioningEnd }

theorem stored_error (e : String) (j : CallJob) : Stored (.error e) j :=
  fun _ h => by cases h

theorem stored_ok {jobID : String} {j : CallJob} :
    Stored (.ok jobID) j ↔ j.props.jobID = "" :=
  ⟨fun h => h jobID rfl, fun h _ _ => h⟩

theorem setLiveCaptionsJobID_writes {st : CallState} {trJobID : String}
    {lcState : Option CallJob} {sem : Store → (o : Op) → o.Resp × Store} {w : Store} :
    WritesAre Q last ((setLiveCaptionsJobID st trJobID lcState).record sem w) ↔
      ∀ lc, lcState = some lc → Q last (withJobID lc trJobID) := by
  cases lcState with
  | none => simp [setLiveCaptionsJobID]
  | some lc =>
      simp only [Option.some.injEq, forall_eq']
      refine writesAre_write_bind.trans (and_iff_left fun res _ => ?_)
      cases res <;> exact writesAre_nil

/-- What a start of a transcription writes after its request. -/
theorem transcribingJobStarted_writes {choose : Op → Choice} {s : Store}
    {st : CallState} {liveCaptionsOn : Bool} {ran : Except String String} :
    WritesAre Q last
        ((transcribingJobStarted env (some st) callID liveCaptionsOn ran).record
        (answers choose) s) ↔
      ∀ tr, st.transcription = some tr → Stored ran tr →
        Q last (answered env .transcribingEnd ran tr) ∧
        ∀ lc, captionsIf liveCaptionsOn st = some lc →
          (∀ jobID, ran = .ok jobID →
            (answers choose s (.store (.updateCallJob (withJobID tr jobID)))).1 =
              .ok ()) →
          Q last (answeredCaptions env ran lc) := by
  have hquiet : ∀ {α : Type} (st : CallState) (err : String) (job : CallJob) (a : α),
      (relayStartError env st callID err .transcribingEnd job >>= fun _ =>
        Code.ret a).Only
        Op.WritesNoJob := fun _ _ _ _ => ⟨trivial, fun _ => trivial⟩
  unfold transcribingJobStarted
  dsimp only
  rw [show (if liveCaptionsOn = true then st.liveCaptions else none) =
    captionsIf liveCaptionsOn st from rfl]
  cases htr : st.transcription with
  | none => simp
  | some tr =>
      cases ran with
      | error jobErr =>
          simp only [stored_error, reduceCtorEq, false_implies, implies_true,
            true_implies, Option.some.injEq, forall_eq']
          have hreach : (Op.reach (.runJobFailed .transcribing st.call.id
              (captionsIf liveCaptionsOn st).isSome)).WritesNoJob := trivial
          refine (writesAre_cons hreach).trans (writesAre_updateCallJob.trans ?_)
          refine and_congr_right fun _ =>
            (writesAre_bind fun _ => hquiet _ _ _ _).trans ?_
          cases captionsIf liveCaptionsOn st with
          | none => simp [endRefusedLiveCaptions]
          | some lc =>
              simp only [Option.some.injEq, forall_eq']
              exact writesAre_updateCallJob.trans (and_iff_left writesAre_nil)
      | ok trJobID =>
          simp only [stored_ok, Except.ok.injEq, forall_eq', Option.some.injEq]
          split
          next hjob =>
            exact iff_of_true (writesAre_of_only (hquiet _ _ _ _))
              fun h => absurd h hjob
          next hjob =>
            rw [imp_iff_right (not_not.1 hjob)]
            refine writesAre_write_bind.trans (and_congr_right fun _ => ?_)
            have hsaved :
                ∀ {f : Except String CallState → Body (Except JobError String)} {st' w},
                (∀ e, (f (.error e)).Only Op.WritesNoJob) →
                (∀ state, (f (.ok state)).Only Op.WritesNoJob) →
                (WritesAre Q last ((setLiveCaptionsJobID st' trJobID
                    (captionsIf liveCaptionsOn st) >>= f).record (answers choose) w) ↔
                  ∀ lc, captionsIf liveCaptionsOn st = some lc →
                    Q last (withJobID lc trJobID)) := by
              intro f st' w herr hok
              refine (writesAre_bind fun res => ?_).trans setLiveCaptionsJobID_writes
              cases res with
              | error e => exact herr e
              | ok state => exact hok state
            have hpublish : ∀ st' job, (publishJob env st' callID job >>= fun _ =>
                Code.ret (Except.ok trJobID : Except JobError String)).Only
                  Op.WritesNoJob :=
              fun _ _ => ⟨trivial, fun _ => trivial⟩
            constructor
            · intro h lc hlc hok
              exact (hsaved (fun _ => hquiet _ _ _ _) fun _ => hpublish _ _).1
                (h (.ok ()) hok) lc hlc
            · intro h res hres
              cases res with
              | error e => exact writesAre_of_only (hquiet _ _ _ _)
              | ok _ =>
                  exact (hsaved (fun _ => hquiet _ _ _ _) fun _ => hpublish _ _).2
                    fun lc hlc => h lc hlc hres

/-- What `Q` has to say of the writes that follow the request to run a transcription. -/
def TranscriptionWritten (Q : Option JobRun → CallJob → Prop) (p : Plugin) (env : Env)
    (st : CallState) (callID trID : String) (choose : Op → Choice)
    (ws : Nat → Window) : Prop :=
  ∀ st' tr, (ws 0).state callID = some st' → st'.transcription = some tr →
    Stored (transcriptionRan st callID trID choose) tr →
    Q (some ⟨.transcribing, trID, transcriptionRan st callID trID choose⟩)
      (answered env .transcribingEnd (transcriptionRan st callID trID choose) tr) ∧
    ∀ lc, captionsIf p.liveCaptionsEnabled st' = some lc →
      (∀ jobID, transcriptionRan st callID trID choose = .ok jobID →
        (answers (ws 0).choose (ws 0).store
          (.store (.updateCallJob (withJobID tr jobID)))).1 =
          .ok ()) →
      Q (some ⟨.transcribing, trID, transcriptionRan st callID trID choose⟩)
        (answeredCaptions env (transcriptionRan st callID trID choose) lc)

/-- The part of a start of a transcription from where its rows are created. -/
theorem runTranscription_writes {st : CallState} {choose : Op → Choice} {s : Store}
    {trID : String} {ws : Nat → Window} :
    WritesAre Q last ((runTranscription p env st callID userID trID).play
        (answers choose) (fun n => (ws n).turn) s).log ↔
      TranscriptionWritten Q p env st callID trID choose ws := by
  simp only [runTranscription, Prog.liftM_eq, Prog.play_lift_bind, unlockCall,
    Prog.unlock_bind, Prog.ret_bind, Prog.play_unlock, run_publishJob, run_runJob,
    record_publishJob, record_runJob]
  refine (writesAre_cons (by exact trivial)).trans (writesAre_runJob.trans ?_)
  refine Iff.trans (lockCallReturnState_writes (fun e => ⟨_, rfl⟩) ⟨_, rfl⟩) ?_
  refine forall_congr' fun st' => ?_
  rw [Prog.play_lift, transcribingJobStarted_writes]
  exact ⟨fun h tr hst => h hst tr, fun h hst tr => h tr hst⟩

/-- A start of a transcription writes nothing before it has created its rows. -/
theorem startTranscribingJob_writes {st : CallState} {choose : Op → Choice} {s : Store}
    {trID : String} {ws : Nat → Window} :
    WritesAre Q last ((startTranscribingJob p env st callID userID trID).play
        (answers choose) (fun n => (ws n).turn) s).log ↔
      (¬ NotCreated env st userID trID choose s →
        ¬ CaptionsRefused p env st userID trID choose s →
        TranscriptionWritten Q p env st callID trID choose ws) := by
  unfold startTranscribingJob
  split
  next hrun => exact iff_of_true writesAre_nil fun h => absurd (.inl hrun) h
  next hrun =>
    split
    next hid => exact iff_of_true writesAre_nil fun h => absurd (.inr (.inl hid)) h
    next hid =>
      change WritesAre Q last (Prog.play (Prog.lift (store (.createCallJob
        (newTranscription env st userID trID))) >>= _) _ _ _).log ↔ _
      rw [writesAre_lift_bind
        (c := store (.createCallJob (newTranscription env st userID trID)))
        ⟨trivial, fun _ => trivial⟩]
      rcases answers_create choose s (newTranscription env st userID trID) with
        ⟨href, e, hres⟩ | ⟨href, t, -, hres⟩
      · simp only [store, Code.run_perform, hres]
        exact iff_of_true writesAre_nil fun h => absurd (.inr (.inr href)) h
      · simp only [store, Code.run_perform, hres]
        have hnot : ¬ NotCreated env st userID trID choose s := by
          rintro (h | h | h)
          · exact hrun h
          · exact hid h
          · exact href h
        rw [imp_iff_right hnot, CaptionsRefused, hres]
        by_cases hon : p.liveCaptionsEnabled = true
        · have hrun : (createLiveCaptions p env st userID).run (answers choose)
              { s with jobs := t } = answers choose { s with jobs := t }
                (.store (.createCallJob (newLiveCaptions env st userID))) := by
            rw [createLiveCaptions, if_pos hon]
            rfl
          have hquiet : (createLiveCaptions p env st userID).Only Op.WritesNoJob := by
            rw [createLiveCaptions, if_pos hon]
            exact ⟨trivial, fun _ => trivial⟩
          rw [Prog.liftM_eq, writesAre_lift_bind hquiet, hrun]
          rcases answers_create choose { s with jobs := t }
              (newLiveCaptions env st userID) with
            ⟨hlcref, e, hlcres⟩ | ⟨hlcref, t', -, hlcres⟩
          · rw [hlcres]
            exact iff_of_true writesAre_nil fun h => absurd ⟨hon, hlcref⟩ h
          · rw [hlcres]
            exact runTranscription_writes.trans
              (imp_iff_right fun h : _ ∧ _ => hlcref h.2).symm
        · rw [createLiveCaptions, if_neg hon, Prog.liftM_eq]
          exact runTranscription_writes.trans
            (imp_iff_right fun h : _ ∧ _ => hon h.1).symm

/-- What `Q` has to say of the writes that follow the request to run a recording. -/
structure RecordingWritten (Q : Option JobRun → CallJob → Prop) (p : Plugin) (env : Env)
    (st : CallState) (callID userID : String) (choose : Op → Choice)
    (ws : Nat → Window) :
    Prop where
  recording : ∀ st' j, (ws 0).state callID = some st' → st'.recording = some j →
    Stored (recordingRan env st callID userID choose) j →
    Q (some ⟨.recording, (newRecording env st userID).id,
        recordingRan env st callID userID choose⟩)
      (answered env .recordingEnd (recordingRan env st callID userID choose) j)
  transcription : ∀ st' s', GoesOn p env st callID userID choose (ws 0) st' s' →
    ¬ NotCreated env st' userID (env.newJobID .transcribing) (ws 0).choose s' →
    ¬ CaptionsRefused p env st' userID (env.newJobID .transcribing) (ws 0).choose s' →
    TranscriptionWritten Q p env st' callID (env.newJobID .transcribing) (ws 0).choose
      (fun n => ws (n + 1))

/-- The end of a start of a recording writes nothing. -/
theorem bind_transcriptionStarted_writes (st : CallState) (recState : CallJob)
    (recJobID : String) {m : P (Except JobError String)}
    {sem : Store → (o : Op) → o.Resp × Store}
    {turns : Nat → Turn Op Op.Resp Store} {w : Store} :
    WritesAre Q last ((m >>= transcriptionStarted env st callID recState recJobID).play
      sem turns w).log ↔ WritesAre Q last (m.play sem turns w).log := by
  rw [Prog.play_bind]
  refine writesAre_append_quiet fun _ => ?_
  rcases (m.play sem turns w).result with (⟨_, e⟩ | _) | trJobID <;> rfl

/-- What a start of a recording writes after its request. -/
theorem recordingJobStarted_writes {choose : Op → Choice} {s : Store} {st : CallState}
    {recState : CallJob} {ran : Except String String} {ws : Nat → Window} :
    WritesAre Q last ((recordingJobStarted p env st recState callID userID ran).play
        (answers choose) (fun n => (ws n).turn) s).log ↔
      (Stored ran recState → Q last (answered env .recordingEnd ran recState)) ∧
      ∀ jobID s', ran = .ok jobID → recState.props.jobID = "" →
        p.transcriptionsEnabled = true →
        answers choose s (.store (.updateCallJob (withJobID recState jobID))) =
        (.ok (), s') → WritesAre Q last ((startTranscribingJob p env
          { st with recording := some (withJobID recState jobID) } callID userID
          (env.newJobID .transcribing)).play (answers choose)
            (fun n => (ws n).turn) s').log := by
  cases ran with
  | error jobErr =>
      simp only [stored_error, reduceCtorEq, false_implies, implies_true, true_implies,
        and_true]
      have hreach :
          (Op.reach (.runJobFailed .recording st.call.id false)).WritesNoJob := trivial
      refine (writesAre_cons hreach).trans
        (writesAre_updateCallJob.trans (and_iff_left ?_))
      exact writesAre_of_nil rfl
  | ok jobID =>
      rw [stored_ok]
      unfold recordingJobStarted
      dsimp only
      split
      next hid =>
        exact iff_of_true (writesAre_of_nil rfl) ⟨fun h => absurd h hid,
          fun _ _ _ h => absurd h hid⟩
      next hid =>
        rw [imp_iff_right (not_not.1 hid), Prog.liftM_eq, Prog.play_lift_bind]
        refine writesAre_updateCallJob.trans (and_congr_right fun _ => ?_)
        rcases hres : answers choose s
            (.store (.updateCallJob (withJobID recState jobID))) with
          ⟨res, s'⟩
        have hres' := hres
        rw [withJobID] at hres'
        simp only [store, Code.run_perform, hres']
        cases res with
        | error e =>
            refine iff_of_true (writesAre_of_nil rfl) fun jobID' s'' hok _ _ h => ?_
            cases hok
            rw [hres] at h
            cases h
        | ok _ =>
            dsimp only
            split
            next hon =>
              refine (bind_transcriptionStarted_writes
                { st with recording := some (withJobID recState jobID) }
                (withJobID recState jobID) jobID).trans ?_
              constructor
              · intro h jobID' s'' hok _ _ hwrite
                cases hok
                rw [hres] at hwrite
                cases hwrite
                exact h
              · exact fun h => h jobID s' rfl (not_not.1 hid) hon hres
            next hon =>
              exact iff_of_true (writesAre_of_nil rfl) fun _ _ _ _ h => absurd h hon

/-- The part of a start of a recording from where its row is created. -/
theorem runRecording_writes {st : CallState} {choose : Op → Choice} {s : Store}
    {ws : Nat → Window} :
    WritesAre Q last ((runRecording p env st callID userID).play (answers choose)
        (fun n => (ws n).turn) s).log ↔
      RecordingWritten Q p env st callID userID choose ws := by
  simp only [runRecording, Prog.liftM_eq, Prog.play_lift_bind, unlockCall,
    Prog.unlock_bind, Prog.ret_bind, Prog.play_unlock, run_publishJob, run_runJob,
    record_publishJob, record_runJob]
  refine (writesAre_cons (by exact trivial)).trans (writesAre_runJob.trans ?_)
  refine Iff.trans (lockCallReturnState_writes (fun e => ⟨_, rfl⟩) ⟨_, rfl⟩) ?_
  constructor
  · intro h
    refine ⟨fun st' j hst hrec hstored => ?_, fun st' s' hgo => ?_⟩
    · have hj := h st' hst
      dsimp only at hj
      rw [hrec] at hj
      exact (recordingJobStarted_writes.1 hj).1 hstored
    · obtain ⟨st₀, recState, jobID, hst, hrec, hran, hid, hres, rfl⟩ := hgo.saved
      have hj := h st₀ hst
      dsimp only at hj
      rw [hrec] at hj
      exact startTranscribingJob_writes.1
        ((recordingJobStarted_writes.1 hj).2 jobID s' hran hid hgo.on hres)
  · intro h st' hst
    dsimp only
    cases hrec : st'.recording with
    | none => exact writesAre_of_nil rfl
    | some recState =>
        refine recordingJobStarted_writes.2 ⟨h.recording st' recState hst hrec,
          fun jobID s' hran hid hon hres => startTranscribingJob_writes.2 ?_⟩
        exact h.transcription _ s' ⟨hon, st', recState, jobID, hst, hrec, hran,
          hid, hres, rfl⟩

/-- A start of a recording writes nothing before it has created its row. -/
theorem startRecordingJob_writes {st : CallState} {choose : Op → Choice} {s : Store}
    {ws : Nat → Window} :
    WritesAre Q last ((startRecordingJob p env st callID userID).play (answers choose)
        (fun n => (ws n).turn) s).log ↔
      (running st.recording = false → ¬ Refused choose s (newRecording env st userID) →
        RecordingWritten Q p env st callID userID choose ws) := by
  unfold startRecordingJob
  split
  next hrun => exact iff_of_true writesAre_nil fun h => by simp [hrun] at h
  next hrun =>
    rw [imp_iff_right (Bool.eq_false_iff.2 hrun)]
    change WritesAre Q last (Prog.play (Prog.lift (store (.createCallJob
      (newRecording env st userID))) >>= _) _ _ _).log ↔ _
    rw [writesAre_lift_bind (c := store (.createCallJob (newRecording env st userID)))
      ⟨trivial, fun _ => trivial⟩]
    rcases answers_create choose s (newRecording env st userID) with
      ⟨href, e, hres⟩ | ⟨href, t, -, hres⟩
    · simp only [store, Code.run_perform, hres]
      exact iff_of_true writesAre_nil fun h => absurd href h
    · simp only [store, Code.run_perform, hres]
      rw [imp_iff_right href]
      exact runRecording_writes

end Start

/-! ## Where the answers go -/

section Answers

variable {env : Env} {shared : String → Prop} {type : JobType} {id : String}
  {ran : Except String String} {j : CallJob}

theorem answered_carried {site : Site} :
    (JobRun.mk type id ran).Carried (answered env site ran j) := by
  cases ran with
  | ok jobID => rfl
  | error e => exact ⟨(env.now_pos _).ne', .inl rfl⟩

theorem answeredCaptions_carried (h : j.type = .captioning) :
    (JobRun.mk type id ran).Carried (answeredCaptions env ran j) := by
  cases ran with
  | ok jobID => rfl
  | error e => exact ⟨(env.now_pos _).ne', .inr h⟩

@[simp] theorem answered_id {site : Site} : (answered env site ran j).id = j.id := by
  cases ran <;> rfl

@[simp] theorem answered_type {site : Site} :
    (answered env site ran j).type = j.type := by
  cases ran <;> rfl

@[simp] theorem answeredCaptions_id : (answeredCaptions env ran j).id = j.id := by
  cases ran <;> rfl

@[simp] theorem answeredCaptions_type : (answeredCaptions env ran j).type = j.type := by
  cases ran <;> rfl

end Answers

section WhereTo

variable {p : Plugin} {env : Env} {st : CallState} {callID userID trID : String}
  {choose : Op → Choice} {s : Store} {ws : Nat → Window} {shared : String → Prop}

theorem transcriptionWritten_answered :
    TranscriptionWritten Answered p env st callID trID choose ws := by
  intro st' tr hst htr hstored
  refine ⟨answered_carried, fun lc hlc _ => answeredCaptions_carried ?_⟩
  exact (Window.readFrom_state hst .captioning lc (captionsIf_eq_some hlc)).type

theorem recordingWritten_answered :
    RecordingWritten Answered p env st callID userID choose ws where
  recording _ _ _ _ _ := answered_carried
  transcription _ _ _ _ _ := transcriptionWritten_answered

/-- A transcription that is written is found with this type. -/
theorem goesInto_transcription {ran : Except String String} {st' : CallState}
    {tr : CallJob} (hst : (ws 0).state callID = some st')
    (htr : st'.transcription = some tr) :
    GoesInto shared (some ⟨.transcribing, trID, ran⟩)
      (answered env .transcribingEnd ran tr) ↔
      tr.id = trID := by
  have htype : tr.type = .transcribing :=
    (Window.readFrom_state hst .transcribing tr htr).type
  simp [GoesInto, JobRun.Into, htype]

theorem goesInto_liveCaptions {ran : Except String String} {st' : CallState}
    {lc : CallJob} (hst : (ws 0).state callID = some st')
    (hlc : captionsIf p.liveCaptionsEnabled st' = some lc) :
    GoesInto shared (some ⟨.transcribing, trID, ran⟩) (answeredCaptions env ran lc) ↔
      lc.id = trID ∨ shared lc.id := by
  have htype : lc.type = .captioning :=
    (Window.readFrom_state hst .captioning lc (captionsIf_eq_some hlc)).type
  simp [GoesInto, JobRun.Into, htype]

theorem goesInto_recording {id : String} {ran : Except String String} {j : CallJob}
    {site : Site} : GoesInto shared (some ⟨.recording, id, ran⟩)
      (answered env site ran j) ↔ j.id = id := by
  simp [GoesInto, JobRun.Into]

theorem transcriptionWritten_goesInto :
    (¬ NotCreated env st userID trID choose s →
      ¬ CaptionsRefused p env st userID trID choose s →
      TranscriptionWritten (GoesInto shared) p env st callID trID choose ws) ↔
    FindsOwnTranscription p env st callID userID trID choose s ws shared := by
  constructor
  · intro h
    refine ⟨fun hn hc st' tr hst htr hstored => ?_,
      fun hn hc st' tr lc hst htr hstored hlc hok => ?_⟩
    · exact (goesInto_transcription hst htr).1 (h hn hc st' tr hst htr hstored).1
    · exact (goesInto_liveCaptions hst hlc).1
        ((h hn hc st' tr hst htr hstored).2 lc hlc hok)
  · intro h hn hc st' tr hst htr hstored
    refine ⟨(goesInto_transcription hst htr).2
      (h.transcription hn hc st' tr hst htr hstored),
      fun lc hlc hok => ?_⟩
    exact (goesInto_liveCaptions hst hlc).2
      (h.liveCaptions hn hc st' tr lc hst htr hstored hlc hok)

theorem recordingWritten_goesInto :
    (running st.recording = false → ¬ Refused choose s (newRecording env st userID) →
      RecordingWritten (GoesInto shared) p env st callID userID choose ws) ↔
    FindsOwn p env st callID userID choose s ws shared := by
  constructor
  · intro h
    refine ⟨fun hr hc st' j hst hj hstored => ?_, fun hr hc st' s' hgo => ?_⟩
    · exact goesInto_recording.1 ((h hr hc).recording st' j hst hj hstored)
    · exact transcriptionWritten_goesInto.1 ((h hr hc).transcription st' s' hgo)
  · intro h hr hc
    refine ⟨fun st' j hst hj hstored => ?_, fun st' s' hgo => ?_⟩
    · exact goesInto_recording.2 (h.recording hr hc st' j hst hj hstored)
    · exact transcriptionWritten_goesInto.2 (h.transcription hr hc st' s' hgo)

end WhereTo

/-- Every write of a start follows a request and carries its answer, and it goes into
the record of that request exactly when that is the record found on taking the lock
again. -/
theorem startRecordingJob_writes_iff (p : Plugin) (env : Env) (st : CallState)
    (callID userID : String) (choose : Op → Choice) (s : Store) (ws : Nat → Window)
    (shared : String → Prop) :
    let log := ((startRecordingJob p env st callID userID).play (answers choose)
      (fun n => (ws n).turn) s).log
    WritesAre Answered none log ∧ (WritesAre (GoesInto shared) none log ↔
      FindsOwn p env st callID userID choose s ws shared) :=
  ⟨startRecordingJob_writes.2 fun _ _ => recordingWritten_answered,
    startRecordingJob_writes.trans recordingWritten_goesInto⟩

/-! ### A recording that is stopped and started again

Request 0 starts a recording and waits for the job service; request 1 stops the
recording, and request 2 starts another one. -/

/-- The requests of the run. -/
def restartRequests : Fin 3 → Handler
  | 1 => .recordingAction true "alice" .stop
  | _ => .recordingAction true "alice" .start

/-- What they read: the second recording has an id of its own. -/
def restartEnv : Fin 3 → Env
  | 2 => { Env.sample 22 with newJobID := fun _ => "rec2" }
  | _ => .sample 20

/-- The next thing the code does is to have the job service run the recording `id`. -/
def awaitsRecording (id : String) : P PUnit → Bool
  | .op (.runJob .recording _ _ id') _ => decide (id' = id)
  | _ => false

/-- The writes of request 0 when the others have left `s`. -/
def restartWrites (s : Store) : List (Option JobRun × CallJob) :=
  writes none
    ((startRecordingJob Plugin.sample (.sample 20) sampleState "chan" "alice").play
    (answers (refusing .recording))
    (fun _ => (⟨true, s, fun _ => .works⟩ : Window).turn) sampleStore).log

/-- The job service refuses the first recording, and the refusal goes into the
second. -/
theorem startRecordingJob_into_restarted : ∃ (tr : List (Event (Fin 3) Choice))
    (s : Sys Op Op.Resp Store (Fin 3) Unit),
    Runs exec (fun _ => ()) (fun _ _ _ _ => True)
      (requests (fun _ => Plugin.sample) restartEnv "chan" sampleStore restartRequests)
      tr s ∧
    s.owner = none ∧ awaitsRecording "rec" (s.code 0) = true ∧
    ∃ x ∈ restartWrites s.world, x.2.id = "rec2" ∧ x.2.props.err = "no capacity" ∧
      ∀ shared, ¬ GoesInto shared x.1 x.2 := by
  have hsched : ((requests (fun _ => Plugin.sample) restartEnv "chan" sampleStore
      restartRequests).sched exec (fun _ => ()) (fun _ _ _ _ => true) []
      (inTurn 0 5 Choice.works ++ inTurn 1 6 Choice.works ++
        inTurn 2 5 Choice.works)).map
      (fun r => (r.2.owner, awaitsRecording "rec" (r.2.code 0),
        (restartWrites r.2.world).any fun x => x.2.id = "rec2" ∧
          x.2.props.err = "no capacity" ∧
          x.1.all fun r => r.type = .recording ∧ r.id = "rec")) =
          some (none, true, true) := by
    decide +kernel
  obtain ⟨tr, s, hr, hf⟩ := Runs.exists_of_sched (fun _ _ _ _ _ => trivial) hsched
  simp only [Prod.mk.injEq, List.any_eq_true, decide_eq_true_eq] at hf
  obtain ⟨howner, hcode, x, hx, hid, herr, hrun⟩ := hf
  refine ⟨tr, s, hr, howner, hcode, x, hx, hid, herr, fun shared => ?_⟩
  rcases x with ⟨_ | r, j⟩
  · exact id
  · obtain ⟨htype, hr⟩ : r.type = .recording ∧ r.id = "rec" := by simpa using hrun
    rintro (h | ⟨h, -⟩)
    · rw [h, hr] at hid
      exact absurd hid (by decide)
    · rw [htype] at h
      cases h

end CallsPlugin.Ports
