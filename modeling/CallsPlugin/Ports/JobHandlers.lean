import CallsPlugin.Ports.JobStops
import CallsPlugin.Ports.Handlers
import CallsPlugin.Ports.Frames

/-!
# The job handlers keep the coupling

One lemma per handler: started under the lock on a coupled table and the state read
from it, it leaves a coupled table, provided it passes none of the branches
`StaysCoupled` excludes.
-/

namespace CallsPlugin.Ports

open CallsPlugin.Verified
open CallsPlugin.Ports.Public CallsPlugin.Ports.Db

/-! ## Reading the state -/

/-- Either no call is ongoing, or the jobs in memory are the active ones. -/
def FreshState (t : JobTable) : Option CallState → Prop
  | none => True
  | some st => Fresh t st

section Read

variable {t : JobTable} {channelID : String}

theorem getCallState_job_wp {Q : Except String (Option CallState) → JobTable → Prop}
    (hc : Coupled t) (herr : ∀ e, Q (.error e) t)
    (hQ : ∀ state, FreshState t state → Q (.ok state) t) :
    (getCallState channelID).wp jobLogic Q t := by
  refine read_wp rfl fun res w hw hres => ?_
  rcases hres with ⟨e, rfl⟩ | rfl
  · exact herr _
  dsimp only [StoreOp.exec]
  cases w.getActiveCallByChannelID channelID with
  | none => exact hQ none trivial
  | some call =>
      refine Code.wp_bind.2 (read_wp rfl fun res w hw hres => ?_)
      rcases hres with ⟨e, rfl⟩ | rfl
      · exact herr _
      refine read_wp rfl fun res w hw hres => ?_
      rcases hres with ⟨e, rfl⟩ | rfl
      · exact herr _
      subst hw
      exact hQ (some _) hc.fresh

/-- Taking the lock and reading the state. -/
theorem lockCallReturnState_job_wp {α : Type}
    {k : Except String (Option CallState) → P α}
    {Q : Bool → α → JobTable → Prop}
    (herr : ∀ e t, wp jobLogic false (k (.error e)) Q t)
    (hok : ∀ state t, Coupled t → FreshState t state →
      wp jobLogic true (k (.ok state)) Q t) :
    wp jobLogic false (lockCallReturnState channelID >>= k) Q t := by
  simp only [lockCallReturnState, lockCall, unlockCall, Prog.lock_bind, Prog.ret_bind,
    wp_lock]
  refine ⟨fun t hc => ?_, fun _ t => by simpa using herr _ t⟩
  simp only [if_true, Prog.liftM_eq, Prog.bind_assoc]
  refine wp_bind.2 (wp_lift.2
    (getCallState_job_wp hc (fun e => ?_) fun state hst => ?_))
  · simpa using ⟨hc, herr _⟩
  · simpa using hok state t hc hst

/-- A handler that keeps the coupling, or loses the lock on the way. -/
theorem withLock_job_wp {α : Type} {body : Option CallState → P α}
    (hbody : ∀ t state, Coupled t → FreshState t state →
      wp jobLogic true (body state) (fun h _ t' => h = true → Coupled t') t) :
    wp jobLogic false (withLock channelID body) (fun h _ _ => h = false) t := by
  refine lockCallReturnState_job_wp (fun e t => by simp) fun state t hc hst => ?_
  refine wp_bind.2 (wp_mono (hbody t state hc hst) fun h a t' hc' => ?_)
  cases h
  · simp [unlockCall]
  · simpa [unlockCall] using hc' rfl

/-- A handler that keeps the coupling and the lock. -/
theorem underLock_job_wp {α : Type} {body : Option CallState → Body α}
    (hbody : ∀ t state, Coupled t → FreshState t state →
      (body state).wp jobLogic (fun _ t' => Coupled t') t) :
    wp jobLogic false (underLock channelID body) (fun h _ _ => h = false) t :=
  withLock_job_wp fun t state hc hst =>
    wp_lift.2 (Code.wp_mono (hbody t state hc hst) fun _ _ hc' _ => hc')

/-- Code that does not call the store, with what is known of its result. -/
theorem silent_all_job_wp {α : Type} {c : Body α} {A : α → Prop}
    {Q : α → JobTable → Prop} (h : c.Only Op.Silent) (hA : c.All A)
    (hQ : ∀ a, A a → Q a t) : c.wp jobLogic Q t := by
  induction c with
  | ret a => exact hQ a hA
  | op o k ih =>
      exact jobOp_wp fun c w hw _ _ => by
        rw [h.1.exec, hw]
        exact ih _ (h.2 _) (hA _)

/-- Code that does not call the store. -/
theorem silent_job_wp {α : Type} {c : Body α} {Q : α → JobTable → Prop}
    (h : c.Only Op.Silent) (hQ : ∀ a, Q a t) : c.wp jobLogic Q t :=
  silent_all_job_wp h (Code.all_of_forall (Q := fun _ => True) (fun _ => trivial) c)
    fun a _ => hQ a

end Read

/-! ## Start time-outs -/

theorem recJobTimedOut_wp {p : Plugin} {env : Env} {callID jobID : String}
    {t : JobTable} {state : Option CallState} (hc : Coupled t)
    (hst : FreshState t state) :
    (recJobTimedOut p env callID jobID state).wp jobLogic
      (fun _ t' => Coupled t') t := by
  cases state with
  | none => exact hc
  | some st =>
      have hf : Fresh t st := hst
      unfold recJobTimedOut
      dsimp only
      split
      · exact hc
      next recState hrec =>
        split
        · exact hc
        split
        · exact hc
        refine reach_wp fun _ => updateJob_wp ?_
        obtain ⟨hstop, -⟩ := hf.mirrors.endJob .recording
          { recState with
            endAt := env.now .recordingEnd
            props := { recState.props with
              err :=
                "failed to start recording job: timed out waiting for bot to join call" } }
          hrec ⟨rfl, rfl, rfl⟩ (env.now_pos _).ne'
        refine Code.wp_bind.2 (Code.wp_mono (coupledTranscription_wp 1 hstop.mirrors
          (running_of_ended (env.now_pos _).ne')) fun st' t' hres => ?_)
        obtain ⟨hstop', -, hboth, -⟩ := hres
        exact quiet_wp (fun _ _ => rfl) fun _ =>
          hc.stopAll (hf.settled _) (hstop.trans hstop').ends hboth

theorem stopTimedOutRecording_wp {p : Plugin} {env : Env} {callID err : String}
    {t : JobTable} {st : CallState} (h : StateMirrors t st) :
    (stopTimedOutRecording p env st callID err).wp jobLogic
      (fun _ t' => Ends st.call.id t t') t := by
  unfold stopTimedOutRecording
  split
  · exact .refl _ t
  split
  · exact .refl _ t
  · exact Code.wp_bind.2 (Code.wp_mono (stopRecordingJob_wp 0 h) fun res t' hres =>
      quiet_wp (fun _ _ => rfl) fun _ => hres.1.ends)

theorem transcriptionJobTimedOut_wp {p : Plugin} {env : Env} {callID jobID : String}
    {t : JobTable} {state : Option CallState} (hc : Coupled t)
    (hst : FreshState t state) :
    (transcriptionJobTimedOut p env callID jobID state).wp jobLogic
      (fun _ t' => Coupled t') t := by
  cases state with
  | none => exact hc
  | some st =>
      have hf : Fresh t st := hst
      unfold transcriptionJobTimedOut
      dsimp only
      split
      · exact hc
      next trState htr =>
        split
        · exact hc
        split
        · exact hc
        refine reach_wp fun hlc => ?_
        have hnolc : (if p.liveCaptionsEnabled then st.liveCaptions else none) =
            none := by
          cases hlc' : st.liveCaptions with
          | none => exact ite_self _
          | some lc => exact absurd ((hf .captioning lc).1 hlc') (hlc lc)
        refine updateJob_wp ?_
        obtain ⟨hstop, hnone⟩ := hf.mirrors.endJob .transcribing
          { trState with
            endAt := env.now .transcribingEnd
            props := { trState.props with
              err :=
                "failed to start transcriber job: timed out waiting for bot to join call" } }
          htr ⟨rfl, rfl, rfl⟩ (env.now_pos _).ne'
        rw [hnolc]
        refine Code.wp_bind.2
          (Code.wp_bind.2 (Code.wp_mono (stopTimedOutRecording_wp hstop.mirrors)
          fun st' t' he => quiet_wp (fun _ _ => rfl) fun _ => ?_))
        exact hc.ends (hstop.ends.trans he) (fun _ => he.noneActive hnone)
          fun _ => (hstop.ends.trans he).noneActive hlc

/-! ## Bot status posts -/

/-- Storing the status, once the effect of the write on the table is known. -/
theorem saveJobStatus_wp {env : Env} {st : CallState} {callID : String} {type : JobType}
    {jb : CallJob} {lcState : Option CallJob} {t : JobTable} {Q : JobTable → Prop}
    (hQ : Q (t.update jb)) :
    (saveJobStatus env st callID type jb lcState).wp jobLogic (fun _ => Q) t := by
  refine updateJob_wp (quiet_wp (fun _ _ => rfl) fun _ => ?_)
  dsimp only
  split
  · exact Code.wp_bind.2 (silent_job_wp (publishJob?_silent ..) fun _ => hQ)
  · exact hQ

theorem isSome_of_running {m : Option CallJob} (h : running m = true) :
    m.isSome = true := by
  cases m with
  | none => cases h
  | some j => rfl

/-- The job of a failed bot ends, and its coupled job with it; captions are left to the
transcription. -/
theorem jobFailed_wp {p : Plugin} {env : Env} {callID : String} {t : JobTable}
    {st : CallState} {type : JobType} {jb jb' : CallJob} {lcState : Option CallJob}
    (hc : Coupled t) (hf : Fresh t st) (hjb : st.job type = some jb)
    (hs : SameJob jb jb') (hend : jb'.endAt ≠ 0) (htype : type ≠ .captioning)
    (hlc : type = .transcribing → NoneActive t st.call.id .captioning) :
    (stopCoupledJob p env (st.withJob type jb') callID type >>= fun st' =>
      saveJobStatus env st' callID type jb' lcState).wp jobLogic
          (fun _ t' => Coupled t') t := by
  have hmark := hf.mirrors.mark type hjb hs hend
  have hrun := running_of_ended hend
  cases type with
  | captioning => exact absurd rfl htype
  | recording =>
      have hstop :
          (stopCoupledJob p env (st.withJob .recording jb') callID .recording).wp
          jobLogic (fun st' t' => Stopped t t' (st.withJob .recording jb') st' ∧
            st'.recording = some jb' ∧ (running st.transcription = true →
              NoneActive t' st.call.id .transcribing ∧
                NoneActive t' st.call.id .captioning)) t := by
        rw [stopCoupledJob]
        split
        · exact Code.wp_bind.2 (stopTranscribingJob_wp 1 hmark hrun)
        next hnone =>
          exact ⟨.refl hmark, rfl, fun hrun' => absurd (isSome_of_running hrun') hnone⟩
      refine Code.wp_bind.2 (Code.wp_mono hstop fun st' t' hres => saveJobStatus_wp ?_)
      obtain ⟨hst', hrec, hboth⟩ := hres
      obtain ⟨hwrite, -⟩ := hst'.mirrors.write_ended .recording hrec hend
      have he : Ends st.call.id t (t'.update jb') :=
        hst'.ends.trans (hst'.call ▸ hwrite.ends)
      have he' : Ends st.call.id t' (t'.update jb') := hst'.call ▸ hwrite.ends
      exact hc.stopAll (hf.settled _) he fun hrun' =>
        ⟨he'.noneActive (hboth hrun').1, he'.noneActive (hboth hrun').2⟩
  | transcribing =>
      have hstop :
          (stopCoupledJob p env (st.withJob .transcribing jb') callID .transcribing).wp
          jobLogic (fun st' t' => Stopped t t' (st.withJob .transcribing jb') st' ∧
            st'.transcription = some jb') t := by
        rw [stopCoupledJob]
        split
        · exact Code.wp_bind.2
              (Code.wp_mono (stopRecordingJob_wp 0 hmark) fun res t' hres =>
            ⟨hres.1, hres.2.2 hrun⟩)
        · exact ⟨.refl hmark, rfl⟩
      refine Code.wp_bind.2 (Code.wp_mono hstop fun st' t' hres => saveJobStatus_wp ?_)
      obtain ⟨hst', htr⟩ := hres
      obtain ⟨hwrite, hnone⟩ := hst'.mirrors.write_ended .transcribing htr hend
      have he : Ends st.call.id t (t'.update jb') :=
        hst'.ends.trans (hst'.call ▸ hwrite.ends)
      have hnone : NoneActive (t'.update jb') st.call.id .transcribing :=
        hst'.call ▸ hnone
      exact hc.ends he (fun _ => hnone) fun _ => he.noneActive (hlc rfl)

/-- What captions and transcription have in common while the handler of a call starts
them. -/
def ServedUnlessStarting (callID c : String) (lc tr : CallJob) : Prop :=
  lc.props.botConnID = tr.props.botConnID ∧
    (c ≠ callID → tr.startAt = 0 → lc.startAt = 0)

/-- The start of the transcription, after that of the captions. -/
theorem transcriptionStarted_coupled {t : JobTable} {callID : String} {jb : CallJob}
    {now : Int} (h : CoupledBy (ServedUnlessStarting callID) t)
    (hm : Mirrors t callID .transcribing (some jb)) (hjb : jb.endAt = 0)
    (hnow : now ≠ 0) :
    Coupled (t.update { jb with startAt := now }) :=
  h.update_transcribing hm hjb rfl hjb
    (fun _ _ hs => ⟨hs.1, fun hstart => absurd hstart hnow⟩)
    fun _ _ _ hc hs => ⟨hs.1, hs.2 hc⟩

/-- The job of a bot that posted its start. -/
theorem jobStarted_wp {env : Env} {callID : String} {t : JobTable} {st : CallState}
    {type : JobType} {jb : CallJob} {lcState : Option CallJob} (hc : Coupled t)
    (hf : Fresh t st) (hjb : st.job type = some jb) (htype : type ≠ .captioning)
    (hlc : ∀ lc, lcState = some lc → type = .transcribing ∧ st.liveCaptions = some lc) :
    (startLiveCaptions env (st.withJob type { jb with startAt := env.now .jobStart })
      lcState >>= fun res => match res with
        | .error e => return (500, e)
        | .ok (st', lcState) => saveJobStatus env st' callID type
            { jb with startAt := env.now .jobStart } lcState).wp
      jobLogic (fun _ t' => Coupled t') t := by
  have hm := hf.mirrors type
  have hend := ((hf type jb).1 hjb).endAt
  rw [hjb] at hm
  cases lcState with
  | none =>
      refine saveJobStatus_wp ?_
      cases type with
      | captioning => exact absurd rfl htype
      | recording => exact hc.update_recording hm hend rfl hend
      | transcribing =>
          exact hc.update_transcribing hm hend rfl hend
            (fun _ _ hs => ⟨hs.1, fun hstart => absurd hstart (env.now_pos _).ne'⟩)
            fun _ _ _ _ hs => hs
  | some lc =>
      obtain ⟨rfl, hlcs⟩ := hlc lc rfl
      have hlcm := hf.mirrors .captioning
      have hlcend := ((hf .captioning lc).1 hlcs).endAt
      rw [CallState.job, hlcs] at hlcm
      refine Code.wp_bind.2 (updateJob_wp (saveJobStatus_wp ?_))
      exact transcriptionStarted_coupled (hc.update_captioning hlcm hlcend rfl hlcend
        (fun _ _ hs => ⟨hs.1, fun hne => absurd rfl hne⟩) fun _ _ _ _ hs =>
          ⟨hs.1, fun _ => hs.2⟩)
        (hlcm.update_other hm (by simp) rfl) hend (env.now_pos _).ne'

/-- A status post. -/
theorem botPostedJobsStatus_wp {p : Plugin} {env : Env} {callID jobID : String}
    {status : JobStatus} {t : JobTable} {state : Option CallState} (hc : Coupled t)
    (hst : FreshState t state) :
    (botPostedJobsStatus p env callID jobID status state).wp jobLogic
      (fun _ t' => Coupled t') t := by
  cases state with
  | none => exact hc
  | some st =>
      have hf : Fresh t st := hst
      unfold botPostedJobsStatus
      dsimp only
      split
      · exact hc
      next htype =>
        split
        · exact hc
        next jb hjb =>
          split
          · exact hc
          split
          · exact hc
          unfold jobStatusPosted
          split
          · refine reach_wp fun hreach => ?_
            refine jobFailed_wp hc hf hjb ⟨rfl, rfl, rfl⟩ (env.now_pos _).ne'
              htype fun htr => ?_
            rwa [htr] at hreach
          · split
            · exact hc
            · refine jobStarted_wp hc hf hjb htype fun lc hlc => ?_
              split at hlc
              next hon => exact ⟨hon.1, hlc⟩
              next => cases hlc
          · exact hc

end CallsPlugin.Ports
