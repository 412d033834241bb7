import CallsPlugin.Ports.JobHandlers

/-!
# Starting jobs keeps the coupling

`startRecordingJob` and `startTranscribingJob` give up the lock while the job
service runs the job, and go on with the state they read when they have it again.
The coupling holds at both points where the lock is free.
-/

namespace CallsPlugin.Ports

open CallsPlugin.Verified
open CallsPlugin.Ports.Public CallsPlugin.Ports.Db

/-! ## Code that gives up the lock -/

section Rules

variable {α β : Type} {t : JobTable} {Q : Bool → β → JobTable → Prop}

/-- Code under the lock, and what follows. -/
theorem lift_job_wp {c : Body α} {k : α → P β}
    (h : c.wp jobLogic (fun a t' => wp jobLogic true (k a) Q t') t) :
    wp jobLogic true (Prog.lift c >>= k) Q t :=
  wp_bind.2 (wp_lift.2 h)

/-- Giving up the lock to call the job service. -/
theorem unlock_runJob_wp {type : JobType} {callID postID jobID : String}
    {k : Except String String → P β} (hc : Coupled t)
    (hk : ∀ ran t', wp jobLogic false (k ran) Q t') :
    wp jobLogic true (unlockCall >>= fun _ =>
      Prog.lift (runJob type callID postID jobID) >>= k) Q t :=
  ⟨hc, fun _ _ _ _ _ hall => ⟨.inl hall.1, fun t' => hk _ t'⟩⟩

end Rules

/-- Code that does not call the store, whether the lock is still held or not. -/
theorem silent_held_wp {α β : Type} {c : Body α} {b : β} {h : Bool} {t : JobTable}
    (hs : c.Only Op.Silent) (hc : h = true → Coupled t) :
    wp jobLogic h (Prog.lift c >>= fun _ => Prog.ret b) (fun h _ t' => h = true →
      Coupled t') t := by
  induction c generalizing t with
  | ret a => simpa using hc
  | op o k ih =>
      have hsame : ∀ cw t', cw.2.jobs = t' →
          (viewSem exec Store.jobs cw t' o).2 = t' := by
        rintro cw _ rfl
        exact congrArg Store.jobs (hs.1.exec cw.1 cw.2)
      cases h with
      | true =>
          refine ⟨trivial, fun cw hall => ih _ (hs.2 _) fun _ => ?_⟩
          rw [hsame cw t hall.1]
          exact hc rfl
      | false =>
          exact fun _ cw t' _ hall =>
            ⟨.inl (hsame cw t' hall.1), fun t'' => ih _ (hs.2 _) (by simp)⟩

/-! ## Transcribing -/

section Transcribing

variable {p : Plugin} {env : Env} {callID userID : String} {t : JobTable}
  {st : CallState}

/-- The captions end when the job service refused the transcription. -/
theorem endRefusedLiveCaptions_wp {lcState : Option CallJob} (h : StateMirrors t st)
    (hlc : ∀ lc, lcState = some lc → st.liveCaptions = some lc) :
    (endRefusedLiveCaptions env st lcState).wp jobLogic (fun _ t' =>
      Ends st.call.id t t' ∧
          (lcState.isSome = true → NoneActive t' st.call.id .captioning)) t := by
  cases lcState with
  | none => exact ⟨.refl _ t, by simp⟩
  | some lc =>
      refine updateJob_wp ?_
      obtain ⟨hst, hnone⟩ :=
        h.endJob .captioning { lc with endAt := env.now .captioningEnd }
        (hlc lc rfl) ⟨rfl, rfl, rfl⟩ (env.now_pos _).ne'
      exact ⟨hst.ends, fun _ => hnone⟩

/-- The captions take the id of the job. -/
theorem setLiveCaptionsJobID_wp {trJobID : String} {lcState : Option CallJob}
    (hc : Coupled t) (hf : Fresh t st)
    (hlc : ∀ lc, lcState = some lc → st.liveCaptions = some lc) :
    (setLiveCaptionsJobID st trJobID lcState).wp jobLogic
      (fun res t' => Coupled t' ∧ ∃ st', res = .ok st') t := by
  cases lcState with
  | none => exact ⟨hc, st, rfl⟩
  | some lc =>
      have hjob : st.job .captioning = some lc := hlc lc rfl
      have hend := ((hf .captioning lc).1 hjob).endAt
      have hm := hf.mirrors .captioning
      rw [hjob] at hm
      exact updateJob_wp ⟨hc.update_captioning hm hend rfl hend (fun _ _ hs => hs)
        fun _ _ _ _ hs => hs, _, rfl⟩

theorem transcribingJobStarted_wp {state : Option CallState} {liveCaptionsOn : Bool}
    {ran : Except String String} (hc : Coupled t) (hst : FreshState t state) :
    (transcribingJobStarted env state callID liveCaptionsOn ran).wp jobLogic
      (fun _ t' => Coupled t') t := by
  cases state with
  | none => exact hc
  | some st =>
      have hf : Fresh t st := hst
      unfold transcribingJobStarted
      dsimp only
      have hlcs : ∀ lc, (if liveCaptionsOn = true then st.liveCaptions else none) =
          some lc → st.liveCaptions = some lc := by
        intro lc hlc
        split at hlc
        · exact hlc
        · cases hlc
      split
      · exact hc
      next trState htr =>
        have htr : st.job .transcribing = some trState := htr
        have hend := ((hf .transcribing trState).1 htr).endAt
        cases ran with
        | error jobErr =>
            refine reach_wp fun hreach => updateJob_wp ?_
            obtain ⟨hst, hnone⟩ := hf.mirrors.endJob .transcribing
              { trState with
                endAt := env.now .transcribingEnd
                props := { trState.props with err := jobErr } }
              htr ⟨rfl, rfl, rfl⟩ (env.now_pos _).ne'
            refine Code.wp_bind.2
              (Code.wp_mono (endRefusedLiveCaptions_wp hst.mirrors hlcs)
              fun st' t' hres => quiet_wp (fun _ _ => rfl) fun _ => ?_)
            obtain ⟨he, hlc⟩ := hres
            refine hc.ends (hst.ends.trans he)
              (fun _ => he.noneActive hnone) fun _ => ?_
            cases hsome :
                (if liveCaptionsOn = true then st.liveCaptions else none).isSome with
            | true => exact hlc hsome
            | false =>
                rw [hsome] at hreach
                exact (hst.ends.trans he).noneActive hreach
        | ok trJobID =>
            dsimp only
            split
            · exact quiet_wp (fun _ _ => rfl) fun _ => hc
            · refine updateJob_wp ?_
              have hm := hf.mirrors .transcribing
              rw [htr] at hm
              have hset : Store.setJob trState
                  { trState with props := { trState.props with jobID := trJobID } } =
                      _ := rfl
              have hc' := hc.update_transcribing hm hend hset hend (fun _ _ hs => hs)
                fun _ _ _ _ hs => hs
              have hf' := hf.update hc htr hset hend
              refine Code.wp_bind.2 (Code.wp_mono (setLiveCaptionsJobID_wp hc' hf' hlcs)
                fun res t' hres => ?_)
              obtain ⟨hc'', st', rfl⟩ := hres
              exact quiet_wp (fun _ _ => rfl) fun _ => hc''

/-- The captions are created after the transcription they belong to. -/
theorem createLiveCaptions_wp {tr : CallJob} (hc : Coupled t)
    (htr : ActiveJob t st.call.id .transcribing tr) (hbot : tr.props.botConnID = "")
    (hnone : NoneActive t st.call.id .captioning) :
    (createLiveCaptions p env st userID).wp jobLogic
      (fun res t' => Coupled t' ∧ res = .ok ()) t := by
  unfold createLiveCaptions
  split
  · exact createJob_wp fun t' hi => ⟨hc.insert hi rfl hnone (by rintro ⟨⟩)
      fun _ => ⟨tr, htr, hbot.symm, fun _ => rfl⟩, rfl⟩
  · exact ⟨hc, rfl⟩

theorem startTranscribingJob_wp {trID : String} (hc : Coupled t) (hf : Fresh t st)
    {r : CallJob} (hrec : ActiveJob t st.call.id .recording r) :
    wp jobLogic true (startTranscribingJob p env st callID userID trID)
      (fun h _ t' => h = true → Coupled t') t := by
  unfold startTranscribingJob
  split
  · exact fun _ => hc
  next hrun =>
    split
    · exact fun _ => hc
    have hnotr : NoneActive t st.call.id .transcribing :=
      (hf.settled _).noneActive (Bool.eq_false_iff.2 hrun)
    refine lift_job_wp (createJob_wp fun t' hi => ?_)
    have hc' : Coupled t' := hc.insert hi rfl hnotr (fun _ => ⟨r, hrec⟩) (by rintro ⟨⟩)
    have htr := (activeJob_insert hi rfl).2 (.inr ⟨rfl, rfl, rfl⟩)
    have hnolc : NoneActive t' st.call.id .captioning := fun y hy => by
      rcases (activeJob_insert hi rfl).1 hy with hy | ⟨-, -, ht⟩
      · exact hc.noneActive_captioning hnotr y hy
      · cases ht
    refine lift_job_wp (Code.wp_mono (createLiveCaptions_wp hc' htr rfl hnolc)
      fun res t'' hres => ?_)
    obtain ⟨hc'', rfl⟩ := hres
    refine lift_job_wp (quiet_wp (fun _ _ => rfl) fun _ => ?_)
    refine unlock_runJob_wp hc'' fun ran _ => ?_
    refine lockCallReturnState_job_wp (fun e t => by simp) fun state t hc hst => ?_
    exact wp_lift.2 (Code.wp_mono (transcribingJobStarted_wp hc hst) fun _ _ hc _ => hc)

end Transcribing

/-! ## Recording -/

section Recording

variable {p : Plugin} {env : Env} {callID userID : String} {t : JobTable}
  {st : CallState}

theorem recordingJobStarted_wp {recState : CallJob} {ran : Except String String}
    (hc : Coupled t) (hf : Fresh t st) (hrec : st.job .recording = some recState) :
    wp jobLogic true (recordingJobStarted p env st recState callID userID ran)
      (fun h _ t' => h = true → Coupled t') t := by
  have hact := (hf .recording recState).1 hrec
  have hm := hf.mirrors .recording
  rw [hrec] at hm
  cases ran with
  | error jobErr =>
      refine lift_job_wp (reach_wp fun hreach => lift_job_wp (updateJob_wp ?_))
      obtain ⟨hst, hnone⟩ := hf.mirrors.endJob .recording
        { recState with
          endAt := env.now .recordingEnd
          props := { recState.props with err := jobErr } }
        hrec ⟨rfl, rfl, rfl⟩ (env.now_pos _).ne'
      have hc' := hc.ends hst.ends (fun _ => hst.ends.noneActive hreach)
        fun _ => hst.ends.noneActive (hc.noneActive_captioning hreach)
      exact lift_job_wp (quiet_wp (fun _ _ => rfl) fun _ _ => hc')
  | ok recJobID =>
      unfold recordingJobStarted
      dsimp only
      split
      · exact lift_job_wp (quiet_wp (fun _ _ => rfl) fun _ _ => hc)
      · have hset : Store.setJob recState
            { recState with props := { recState.props with jobID := recJobID } } = _ :=
                rfl
        have hc' := hc.update_recording hm hact.endAt hset hact.endAt
        have hf' := hf.update hc hrec hset hact.endAt
        refine lift_job_wp (updateJob_wp ?_)
        split
        · have hact' := (hf' .recording _).1 (withJob_job_self st .recording _)
          refine wp_bind.2 (wp_mono (startTranscribingJob_wp hc' hf' hact')
            fun h res t' hc' => ?_)
          match res with
          | .error (.http _ e) => exact silent_held_wp ⟨trivial, fun _ => trivial⟩ hc'
          | .error .nilState => simpa using hc'
          | .ok trJobID => exact silent_held_wp ⟨trivial, fun _ => trivial⟩ hc'
        · exact lift_job_wp (quiet_wp (fun _ _ => rfl) fun _ _ => hc')

theorem startRecordingJob_wp (hc : Coupled t) (hf : Fresh t st) :
    wp jobLogic true (startRecordingJob p env st callID userID)
      (fun h _ t' => h = true → Coupled t') t := by
  unfold startRecordingJob
  split
  · exact fun _ => hc
  next hrun =>
    refine lift_job_wp (createJob_wp fun t' hi => ?_)
    have hc' : Coupled t' := hc.insert hi rfl
      ((hf.settled .recording).noneActive (Bool.eq_false_iff.2 hrun)) (by rintro ⟨⟩)
      (by rintro ⟨⟩)
    refine lift_job_wp (quiet_wp (fun _ _ => rfl) fun _ => ?_)
    refine unlock_runJob_wp hc' fun ran _ => ?_
    refine lockCallReturnState_job_wp (fun e t => by simp) fun state t hc hst => ?_
    cases state with
    | none => exact fun _ => hc
    | some st =>
        dsimp only
        split
        · exact fun _ => hc
        next recState hrec => exact recordingJobStarted_wp hc hst hrec

end Recording

/-- Starting or stopping a recording on request. -/
theorem handleRecordingAction_wp {p : Plugin} {env : Env} {recordingsAllowed : Bool}
    {userID callID : String} {action : RecordingAction} {t : JobTable} :
    wp jobLogic false (handleRecordingAction p env recordingsAllowed userID callID
      action) (fun h _ _ => h = false) t := by
  unfold handleRecordingAction
  split
  · rfl
  split
  · rfl
  refine wp_bind.2 (wp_mono (withLock_job_wp fun t state hc hst => ?_)
    fun h res _ hh => ?_)
  · cases state with
    | none => exact fun _ => hc
    | some st =>
        dsimp only
        split
        · exact fun _ => hc
        cases action with
        | start =>
            refine wp_bind.2 (wp_mono (startRecordingJob_wp hc hst)
              fun h res t' hc' => ?_)
            cases res <;> simpa using hc'
        | stop =>
            have hf : Fresh t st := hst
            refine lift_job_wp (Code.wp_mono (stopRecordingJob_wp 0 hf.mirrors)
              fun res t' hres => ?_)
            refine fun _ => hc.stopAll (hf.settled _) hres.1.ends fun htr => ?_
            cases hrun : running st.recording with
            | true => exact (hres.2.1 hrun).2 htr
            | false =>
                have hn :=
                  hc.noneActive_transcribing ((hf.settled .recording).noneActive hrun)
                exact ⟨hres.1.ends.noneActive hn,
                  hres.1.ends.noneActive (hc.noneActive_captioning hn)⟩
        | other => exact fun _ => hc
  · cases res <;> simpa using hh

end CallsPlugin.Ports
