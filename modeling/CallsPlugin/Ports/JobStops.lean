import CallsPlugin.Verified.Monitor
import CallsPlugin.Ports.JobTable

/-!
# Stopping jobs

The proof rules for handlers as far as they concern the table of jobs, and what
`stopRecordingJob` and `stopTranscribingJob` do to it.
-/

namespace CallsPlugin.Ports

open CallsPlugin.Verified
open CallsPlugin.Ports.Public CallsPlugin.Ports.Db

/-- A store call succeeds. -/
def Succeeds (w : Store) : Op → Prop
  | .store o => ∃ a, (o.exec w).1 = .ok a
  | _ => True

/-- A store call that writes succeeds; a read may fail. -/
def WriteSucceeds (c : Choice) (w : Store) : Op → Prop
  | .store o => o.isWrite = true → c.storeFails = false ∧ Succeeds w (.store o)
  | _ => True

/-- No other active job needs the one that the row of `j` is. -/
def Unneeded (t : JobTable) (j : CallJob) : Prop :=
  ∀ x ∈ t, x.id = j.id → x.endAt = 0 →
    (x.type = .transcribing → NoneActive t x.callID .captioning) ∧
    (x.type = .recording → NoneActive t x.callID .transcribing)

/-- The operation is not about to break the coupling of the jobs: no branch is
taken that ends a job and forgets one coupled to it, and outside the lock a job is
written only while nobody has it and no other job needs the one that ends. -/
def StaysCoupled (h : Holder) (t : JobTable) : Op → Prop
  | .reach (.startTimedOut .transcribing callID) => NoneActive t callID .captioning
  | .reach (.jobFailed .transcribing callID) => NoneActive t callID .captioning
  | .reach (.runJobFailed .recording callID _) => NoneActive t callID .transcribing
  | .reach (.runJobFailed .transcribing callID false) => NoneActive t callID .captioning
  | .store (.updateCallJob j) => h ≠ .self → h = .nobody ∧ Unneeded t j
  | _ => True

/-- The rules of the job handlers.  Only the table of jobs is seen; calls and sessions
may change at any moment. -/
@[reducible]
def jobLogic : Logic Op Op.Resp JobTable (Choice × Store) where
  sem := viewSem exec Store.jobs
  allow h cw t o :=
    cw.2.jobs = t ∧ WriteSucceeds cw.1 cw.2 o ∧ StaysCoupled h t o
  pre _ _ := True
  inv := Coupled
  lockMayFail := True
  stray := True

section Rules

variable {α : Type} {t : JobTable} {Q : α → JobTable → Prop}

/-- An operation under the lock. -/
theorem jobOp_wp {o : Op} {k : o.Resp → Body α}
    (hk : ∀ c w, w.jobs = t → WriteSucceeds c w o → StaysCoupled .self t o →
      (k (exec c w o).1).wp jobLogic Q (exec c w o).2.jobs) :
      (Code.op o k).wp jobLogic Q t :=
  ⟨trivial, fun cw h => hk cw.1 cw.2 h.1 h.2.1 h.2.2⟩

/-- An operation that leaves the store alone. -/
theorem quiet_wp {o : Op} {k : o.Resp → Body α} (ho : ∀ c w, (exec c w o).2 = w)
    (hk : ∀ r, (k r).wp jobLogic Q t) : (Code.perform o >>= k).wp jobLogic Q t :=
  jobOp_wp fun c w hw _ _ => by
    rw [ho, hw]
    exact hk _

/-- A `Point` that is passed. -/
theorem reach_wp {pt : Point} {k : Unit → Body α}
    (hk : StaysCoupled .self t (.reach pt) → (k ()).wp jobLogic Q t) :
    (reach pt >>= k).wp jobLogic Q t :=
  jobOp_wp fun _ w hw _ hp => by
    rw [exec_reach, hw]
    exact hk hp

/-- A read of the store. -/
theorem read_wp {o : StoreOp} {k : Except String o.Result → Body α}
    (ho : o.isWrite = false)
      (hk : ∀ r w, w.jobs = t → ((∃ e, r = .error e) ∨ r = (o.exec w).1) →
      (k r).wp jobLogic Q t) : (store o >>= k).wp jobLogic Q t :=
  jobOp_wp fun c w hw _ _ => by
    rw [exec_store, attempt_read ho, hw]
    refine hk _ w hw ?_
    cases c.storeFails with
    | true => exact .inl ⟨_, rfl⟩
    | false => exact .inr rfl

/-- A write that does not concern jobs. -/
theorem callOp_wp {o : StoreOp} {k : Except String o.Result → Body α}
    (hwrite : o.isWrite = true) (ho : ∀ w, (o.exec w).2.jobs = w.jobs)
    (hk : ∀ a, (k (.ok a)).wp jobLogic Q t) :
    (store o >>= k).wp jobLogic Q t :=
  jobOp_wp fun c w hw hworks _ => by
    obtain ⟨hc, a, ha⟩ := hworks hwrite
    rw [exec_store, hc, attempt_false, ha, ho, hw]
    exact hk a

theorem exec_updateCallJob_ok {w : Store} {j : CallJob}
    (h : Succeeds w (.store (.updateCallJob j))) :
    (StoreOp.updateCallJob j).exec w = (.ok (), w.updateCallJob j) := by
  obtain ⟨a, ha⟩ := h
  simp only [StoreOp.exec] at ha ⊢
  split at ha
  · cases ha
  · rfl

theorem exec_createCallJob_ok {w : Store} {j : CallJob}
    (h : Succeeds w (.store (.createCallJob j))) : ∃ t', w.jobs.insert? j = some t' ∧
      (StoreOp.createCallJob j).exec w = (.ok (), { w with jobs := t' }) := by
  obtain ⟨a, ha⟩ := h
  simp only [StoreOp.exec, insertRow] at ha ⊢
  cases hv : j.isValid with
  | error e => simp [hv] at ha
  | ok _ =>
      cases hi : w.jobs.insert? j with
      | none => simp [hv, hi] at ha
      | some t' => exact ⟨t', rfl, rfl⟩

/-- Writing a job. -/
theorem updateJob_wp {j : CallJob} {k : Except String Unit → Body α}
    (hk : (k (.ok ())).wp jobLogic Q (t.update j)) :
    (store (.updateCallJob j) >>= k).wp jobLogic Q t :=
  jobOp_wp fun c w hw hworks _ => by
    obtain ⟨hc, hs⟩ := hworks rfl
    rw [exec_store, hc, attempt_false, exec_updateCallJob_ok hs]
    subst hw
    exact hk

/-- Inserting a job. -/
theorem createJob_wp {j : CallJob} {k : Except String Unit → Body α}
    (hk : ∀ t', t.insert? j = some t' → (k (.ok ())).wp jobLogic Q t') :
    (store (.createCallJob j) >>= k).wp jobLogic Q t :=
  jobOp_wp fun c w hw hworks _ => by
    obtain ⟨hc, hs⟩ := hworks rfl
    obtain ⟨t', hi, he⟩ := exec_createCallJob_ok hs
    rw [exec_store, hc, attempt_false, he]
    subst hw
    exact hk t' hi

/-- A write that an operation cannot go on without, of a call or a session. -/
theorem writeCall_wp {wr : Write} {k : Except String Unit → Body α}
    (hwrite : wr.op.isWrite = true) (ho : ∀ w, (wr.op.exec w).2.jobs = w.jobs)
    (hk : (k (.ok ())).wp jobLogic Q t) :
    (write wr >>= k).wp jobLogic Q t := by
  unfold write
  exact Code.wp_bind.2 (callOp_wp hwrite ho fun _ => hk)

/-- Writing a job that an operation cannot go on without. -/
theorem writeJob_wp {j : CallJob} {k : Except String Unit → Body α}
    (hk : (k (.ok ())).wp jobLogic Q (t.update j)) :
    (write (jobWrite j) >>= k).wp jobLogic Q t := by
  unfold write
  exact Code.wp_bind.2 (updateJob_wp hk)

end Rules

/-- Stopping the captions that come with a transcription. -/
theorem stopLiveCaptions_wp {env : Env} {t : JobTable} {st : CallState}
    (h : StateMirrors t st) :
    (stopLiveCaptions env st).wp jobLogic (fun res t' =>
      res.2 = .ok () ∧ res.1.recording = st.recording ∧
        res.1.transcription = st.transcription ∧
      Stopped t t' st res.1 ∧ NoneActive t' st.call.id .captioning) t := by
  unfold stopLiveCaptions
  split
  next hlc =>
    have hm := h .captioning
    rw [CallState.job, hlc] at hm
    exact ⟨rfl, rfl, rfl, .refl h, hm.noneActive⟩
  next lcState hlc =>
    refine updateJob_wp ?_
    obtain ⟨hst, hnone⟩ := h.endJob .captioning
      { lcState with endAt := env.now .captioningEnd } hlc ⟨rfl, rfl, rfl⟩
          (env.now_pos _).ne'
    exact ⟨rfl, rfl, rfl, hst, hnone⟩

/-- What stopping the transcription does, when no recording runs in memory. -/
theorem stopTranscribingJob_wp {p : Plugin} {env : Env} {callID : String} {t : JobTable}
    {st : CallState} (depth : Nat) (h : StateMirrors t st)
    (hrec : running st.recording = false) :
    (stopTranscribingJob p env (depth + 1) st callID).wp jobLogic (fun res t' =>
      Stopped t t' st res.1 ∧ res.1.recording = st.recording ∧
        (running st.transcription = true →
          NoneActive t' st.call.id .transcribing ∧
            NoneActive t' st.call.id .captioning)) t := by
  rw [stopTranscribingJob]
  split
  next htr => exact ⟨.refl h, rfl, by simp [htr, running]⟩
  next trState htr =>
    split
    next hend => exact ⟨.refl h, rfl, by simp [htr, running, hend]⟩
    next =>
      refine updateJob_wp ?_
      obtain ⟨hst, hnone⟩ := h.endJob .transcribing
        { trState with endAt := env.now .transcribingEnd } htr ⟨rfl, rfl, rfl⟩
            (env.now_pos _).ne'
      refine Code.wp_bind.2
        (Code.wp_mono (stopLiveCaptions_wp hst.mirrors) fun res t' hres => ?_)
      obtain ⟨st', res⟩ := res
      obtain ⟨rfl, hrec', htr', hst', hnone'⟩ := hres
      have hboth : NoneActive t' st.call.id .transcribing ∧
          NoneActive t' st.call.id .captioning :=
        ⟨hst'.ends.noneActive hnone, hnone'⟩
      refine quiet_wp (fun _ _ => rfl) fun res => ?_
      cases res with
      | error e =>
          refine quiet_wp (fun _ _ => rfl) fun _ => ?_
          exact ⟨(hst.trans hst').trans (hst'.mirrors.remark .transcribing _ htr'
            (env.now_pos _).ne' ⟨rfl, rfl, rfl⟩ (env.now_pos _).ne'), hrec',
              fun _ => hboth⟩
      | ok _ =>
          have hrec'' : running st'.recording = false := by
            rw [hrec']
            exact hrec
          refine Code.wp_bind.2 ?_
          rw [hrec'']
          refine quiet_wp (fun _ _ => rfl) fun _ => ?_
          have hdone : Stopped t t' st st' ∧ st'.recording = st.recording ∧
              (running st.transcription = true →
                NoneActive t' st.call.id .transcribing ∧
                  NoneActive t' st.call.id .captioning) :=
            ⟨hst.trans hst', hrec', fun _ => hboth⟩
          cases hlc : st'.liveCaptions with
          | none => exact hdone
          | some lc => exact quiet_wp (fun _ _ => rfl) fun _ => hdone

/-- Stopping the transcription, if it runs, of a state whose recording has ended. -/
theorem coupledTranscription_wp {p : Plugin} {env : Env} {callID : String}
    {t : JobTable} {st : CallState} (depth : Nat) (h : StateMirrors t st)
    (hrec : running st.recording = false) :
    (if running st.transcription then do
        let res ← stopTranscribingJob p env (depth + 1) st callID
        return res.1
      else return st).wp jobLogic (fun st' t' =>
      Stopped t t' st st' ∧ st'.recording = st.recording ∧
        (running st.transcription = true →
          NoneActive t' st.call.id .transcribing ∧
            NoneActive t' st.call.id .captioning) ∧
        (running st.transcription = false → st'.transcription = st.transcription))
          t := by
  split
  next hrun =>
    refine Code.wp_bind.2
      (Code.wp_mono (stopTranscribingJob_wp depth h hrec) fun res t' hres => ?_)
    exact ⟨hres.1, hres.2.1, hres.2.2,
      fun hrun' => absurd (hrun'.symm.trans hrun) (by simp)⟩
  next hrun => exact ⟨.refl h, rfl, fun hrun' => absurd hrun' hrun, fun _ => rfl⟩

/-- What stopping the recording does. -/
theorem stopRecordingJob_wp {p : Plugin} {env : Env} {callID : String} {t : JobTable}
    {st : CallState} (depth : Nat) (h : StateMirrors t st) :
    (stopRecordingJob p env (depth + 2) st callID).wp jobLogic (fun res t' =>
      Stopped t t' st res.1 ∧ (running st.recording = true →
        NoneActive t' st.call.id .recording ∧ (running st.transcription = true →
          NoneActive t' st.call.id .transcribing ∧
            NoneActive t' st.call.id .captioning)) ∧
      (running st.transcription = false → res.1.transcription = st.transcription))
          t := by
  rw [stopRecordingJob]
  split
  next hrec => exact ⟨.refl h, by simp [hrec, running], fun _ => rfl⟩
  next recState hrec =>
    split
    next hend => exact ⟨.refl h, by simp [hrec, running, hend], fun _ => rfl⟩
    next =>
      refine updateJob_wp ?_
      obtain ⟨hst, hnone⟩ := h.endJob .recording
        { recState with endAt := env.now .recordingEnd } hrec ⟨rfl, rfl, rfl⟩
            (env.now_pos _).ne'
      refine Code.wp_bind.2 (Code.wp_mono (coupledTranscription_wp depth hst.mirrors
        (running_of_ended (env.now_pos _).ne')) fun st' t' hres => ?_)
      obtain ⟨hst', hrec', hboth, hkeep⟩ := hres
      have hdone : running st.recording = true → NoneActive t' st.call.id .recording ∧
          (running st.transcription = true →
            NoneActive t' st.call.id .transcribing ∧
              NoneActive t' st.call.id .captioning) :=
        fun _ => ⟨hst'.ends.noneActive hnone, hboth⟩
      refine quiet_wp (fun _ _ => rfl) fun res => ?_
      cases res with
      | error e =>
          refine quiet_wp (fun _ _ => rfl) fun _ => ?_
          exact ⟨(hst.trans hst').trans (hst'.mirrors.remark .recording _ hrec'
            (env.now_pos _).ne' ⟨rfl, rfl, rfl⟩ (env.now_pos _).ne'), hdone, hkeep⟩
      | ok _ => exact quiet_wp (fun _ _ => rfl) fun _ => ⟨hst.trans hst', hdone, hkeep⟩

end CallsPlugin.Ports
