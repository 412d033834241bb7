import CallsPlugin.Verified.Records
import CallsPlugin.Ports.Frames

/-!
# Stopping coupled jobs

`stopRecordingJob` and `stopTranscribingJob` call each other.  Each marks its own job as
ended before it calls the other, so the recursion is at most two deep, each job is
stopped once at most, and what was active is stored as ended when nothing fails.
-/

namespace CallsPlugin.Ports

open CallsPlugin.Verified
open CallsPlugin.Ports.Public CallsPlugin.Ports.Db

section Depth

variable {p : Plugin} {env : Env} {callID : String} {st : CallState}

theorem running_ended (j : CallJob) (site : Site) :
    running (some { j with endAt := env.now site }) = false :=
  decide_eq_false (env.now_pos site).ne'

/-- The captions are stopped without a word about the other jobs. -/
theorem stopLiveCaptions_all : (stopLiveCaptions env st).All fun res =>
    res.1.recording = st.recording ∧ res.1.transcription = st.transcription := by
  unfold stopLiveCaptions
  cases st.liveCaptions with
  | none => exact ⟨rfl, rfl⟩
  | some lcState =>
      intro res
      cases res with
      | error e => exact ⟨rfl, rfl⟩
      | ok _ => exact ⟨rfl, rfl⟩

/-- Once the recording has ended, `stopTranscribingJob` does not call
`stopRecordingJob`. -/
theorem stopTranscribingJob_last (n : Nat) (hrec : running st.recording = false) :
    stopTranscribingJob p env (n + 1) st callID =
    stopTranscribingJob p env 1 st callID := by
  rw [stopTranscribingJob, stopTranscribingJob]
  cases htr : st.transcription with
  | none => rfl
  | some trState =>
      dsimp only
      split
      · rfl
      · refine congrArg (Code.op _) (funext fun res => ?_)
        cases res with
        | error e => rfl
        | ok _ =>
            refine stopLiveCaptions_all.bind_congr fun res hres => ?_
            obtain ⟨st', res⟩ := res
            have hrec' : running st'.recording = false := by
              rw [hres.1]
              exact hrec
            cases res with
            | error e => rfl
            | ok _ =>
                refine congrArg (Code.op _) (funext fun res => ?_)
                cases res with
                | error e => rfl
                | ok _ =>
                    rw [hrec']
                    rfl

/-- Once the transcription has ended, `stopRecordingJob` does not call
`stopTranscribingJob`. -/
theorem stopRecordingJob_last (n : Nat) (htr : running st.transcription = false) :
    stopRecordingJob p env (n + 1) st callID = stopRecordingJob p env 1 st callID := by
  rw [stopRecordingJob, stopRecordingJob]
  cases st.recording with
  | none => rfl
  | some recState =>
      dsimp only
      rw [htr]
      rfl

/-- Two calls are deep enough for `stopRecordingJob`. -/
theorem stopRecordingJob_depth (n : Nat) (st : CallState) :
    stopRecordingJob p env (n + stopDepth) st callID =
    stopRecordingJob p env stopDepth st callID := by
  show stopRecordingJob p env (n + 1 + 1) st callID =
    stopRecordingJob p env (1 + 1) st callID
  rw [stopRecordingJob, stopRecordingJob]
  cases st.recording with
  | none => rfl
  | some recState =>
      dsimp only
      rw [stopTranscribingJob_last n (running_ended recState .recordingEnd)]

/-- Two calls are deep enough for `stopTranscribingJob`. -/
theorem stopTranscribingJob_depth (n : Nat) (st : CallState) :
    stopTranscribingJob p env (n + stopDepth) st callID =
      stopTranscribingJob p env stopDepth st callID := by
  show stopTranscribingJob p env (n + 1 + 1) st callID =
    stopTranscribingJob p env (1 + 1) st callID
  rw [stopTranscribingJob, stopTranscribingJob]
  cases htr : st.transcription with
  | none => rfl
  | some trState =>
      dsimp only
      split
      · rfl
      · refine congrArg (Code.op _) (funext fun res => ?_)
        cases res with
        | error e => rfl
        | ok _ =>
            refine stopLiveCaptions_all.bind_congr fun res hres => ?_
            obtain ⟨st', res⟩ := res
            have htr' : running st'.transcription = false := by
              rw [hres.2]
              exact running_ended trState .transcribingEnd
            cases res with
            | error e => rfl
            | ok _ =>
                dsimp only
                rw [stopRecordingJob_last n htr']

end Depth

/-! ## How often jobs are stopped -/

/-- The job an operation stops. -/
def stopMark : Op → Option String
  | .stopJob _ jobID _ _ => some jobID
  | _ => none

/-- The id of a job, if there is one. -/
def jobID? (job : Option CallJob) : Multiset String := (job.map CallJob.id).toList

/-- One stop for each job that has a bot. -/
def oneStopEach (st : CallState) : Multiset String :=
  jobID? st.recording + jobID? st.transcription

section Quota

variable {p : Plugin} {env : Env} {callID : String} {st : CallState}

theorem publishJob_within (job : CallJob) (m : Multiset String) :
    (publishJob env st callID job).Within stopMark m :=
  Code.within_op_of_none rfl fun _ => trivial

theorem publishJob?_within (job : Option CallJob) (m : Multiset String) :
    (publishJob? env st callID job).Within stopMark m := by
  cases job with
  | none => trivial
  | some job => exact publishJob_within job m

theorem publish_within {α : Type} {job : CallJob} {k : Unit → Body α}
    {m : Multiset String} (hk : ∀ r, (k r).Within stopMark m) :
    (publishJob env st callID job >>= k).Within stopMark m :=
  Code.within_op_of_none rfl hk

theorem stopLiveCaptions_within : (stopLiveCaptions env st).Within stopMark 0 := by
  unfold stopLiveCaptions
  cases st.liveCaptions with
  | none => trivial
  | some lcState =>
      refine Code.within_op_of_none rfl fun res => ?_
      cases res <;> trivial

/-- A job that is stopped if it runs. -/
theorem coupled_within {α : Type} {run : Bool} {c : Body (CallState × α)}
    {m : Multiset String} (h : run = true → c.Within stopMark m) : (if run then do
        let res ← c
        return res.1
      else return st).Within stopMark m := by
  split
  next hrun =>
    rw [← Multiset.add_zero m]
    exact (h hrun).bind (Code.all_of_forall (Q := fun _ => True) (fun _ => trivial) _)
      fun _ _ => trivial
  · trivial

/-- The end of `stopTranscribingJob`. -/
theorem stopTranscribingJob_within (n : Nat) {m : Multiset String}
    (hrec : ∀ st' : CallState, st'.recording = st.recording →
      running st'.recording = true →
      running st'.transcription = false →
        (stopRecordingJob p env n st' callID).Within stopMark m) :
    (stopTranscribingJob p env (n + 1) st callID).Within stopMark
      (jobID? st.transcription + m) := by
  rw [stopTranscribingJob]
  cases htr : st.transcription with
  | none => trivial
  | some trState =>
      dsimp only
      split
      · trivial
      refine Code.within_op_of_none rfl fun res => ?_
      cases res with
      | error e => trivial
      | ok _ =>
          rw [← Multiset.zero_add (jobID? _ + m)]
          refine stopLiveCaptions_within.bind stopLiveCaptions_all fun res hres => ?_
          obtain ⟨st', res⟩ := res
          cases res with
          | error e => trivial
          | ok _ =>
              have hquota : jobID? (some trState) + m = trState.id ::ₘ m := rfl
              rw [hquota]
              refine Code.within_op_of_some rfl fun res => ?_
              cases res with
              | error e => exact publish_within fun _ => trivial
              | ok _ =>
                  have htr' : running st'.transcription = false := by
                    rw [hres.2]
                    exact running_ended trState .transcribingEnd
                  rw [← Multiset.add_zero m]
                  refine (coupled_within fun hrun => hrec st' hres.1 hrun htr').bind
                    (Code.all_of_forall (Q := fun _ => True) (fun _ => trivial) _)
                    fun st'' _ => ?_
                  refine publish_within fun _ => ?_
                  rw [← Multiset.add_zero 0]
                  exact (publishJob?_within _ 0).bind
                    (Code.all_of_forall (Q := fun _ => True) (fun _ => trivial) _)
                    fun _ _ => trivial

/-- The end of `stopRecordingJob`. -/
theorem stopRecordingJob_within (n : Nat) {m : Multiset String}
    (htr : ∀ st' : CallState, st'.transcription = st.transcription →
      running st'.recording = false →
      running st'.transcription = true →
        (stopTranscribingJob p env n st' callID).Within stopMark m) :
    (stopRecordingJob p env (n + 1) st callID).Within stopMark
      (jobID? st.recording + m) := by
  rw [stopRecordingJob]
  cases hrec : st.recording with
  | none => trivial
  | some recState =>
      dsimp only
      split
      · trivial
      refine Code.within_op_of_none rfl fun res => ?_
      cases res with
      | error e => trivial
      | ok _ =>
          rw [Multiset.add_comm]
          have hended :
              running (some { recState with endAt := env.now .recordingEnd }) = false :=
            running_ended recState .recordingEnd
          refine (coupled_within fun hrun =>
            htr { st with recording := some _ } rfl hended hrun).bind
            (Code.all_of_forall (Q := fun _ => True) (fun _ => trivial) _)
            fun st' _ => ?_
          have hquota : jobID? (some recState) = recState.id ::ₘ 0 := rfl
          rw [hquota]
          refine Code.within_op_of_some rfl fun res => ?_
          cases res with
          | error e => exact publish_within fun _ => trivial
          | ok _ => exact publish_within fun _ => trivial

/-- Each job is stopped once at most. -/
theorem stopRecordingJob_once (st : CallState) :
    (stopRecordingJob p env stopDepth st callID).Within stopMark (oneStopEach st) := by
  refine stopRecordingJob_within 1 fun st' htr hrec _ => ?_
  have hlast : (stopTranscribingJob p env 1 st' callID).Within stopMark
      (jobID? st'.transcription + 0) :=
    stopTranscribingJob_within 0 fun st'' hst'' hrun _ => by
      rw [hst'', hrec] at hrun
      cases hrun
  rwa [Multiset.add_zero, htr] at hlast

theorem stopTranscribingJob_once (st : CallState) :
    (stopTranscribingJob p env stopDepth st callID).Within stopMark
      (oneStopEach st) := by
  rw [oneStopEach, Multiset.add_comm]
  refine stopTranscribingJob_within 1 fun st' hrec _ htr => ?_
  have hlast : (stopRecordingJob p env 1 st' callID).Within stopMark
      (jobID? st'.recording + 0) :=
    stopRecordingJob_within 0 fun st'' hst'' _ hrun => by
      rw [hst'', htr] at hrun
      cases hrun
  rwa [Multiset.add_zero, hrec] at hlast

end Quota

/-! ## What is stored -/

/-- The answers of the environment, which may keep a state of its own: a store call
takes effect or fails without one, and nothing else touches the store. -/
def Answers {X : Type} (sem : Store × X → (o : Op) → o.Resp × (Store × X)) : Prop :=
  (∀ w o, ((sem w (.store o)).1, (sem w (.store o)).2.1) = o.exec w.1 ∨
    (∃ e, (sem w (.store o)).1 = .error e) ∧ (sem w (.store o)).2.1 = w.1) ∧
  ∀ w o, (∀ so, o ≠ .store so) → (sem w o).2.1 = w.1

/-- Store calls and stops that went through. -/
def Went : (o : Op) → o.Resp → Prop
  | .store _, r => ∃ a, r = .ok a
  | .stopJob _ _ _ _, r => r = .ok ()
  | _, _ => True

/-- The job is stored as ended. -/
def Ended (s : Store) (jobID : String) : Prop :=
  ∀ j ∈ s.jobs, j.id = jobID → j.endAt ≠ 0

/-- What has ended stays so. -/
def KeepsEnded (s s' : Store) : Prop := ∀ jobID, Ended s jobID → Ended s' jobID

theorem KeepsEnded.refl (s : Store) : KeepsEnded s s := fun _ h => h

theorem KeepsEnded.trans {s s' s'' : Store} (h : KeepsEnded s s')
    (h' : KeepsEnded s' s'') :
    KeepsEnded s s'' := fun jobID hend => h' jobID (h jobID hend)

/-- Storing the end of a job. -/
theorem ended_updateCallJob {s : Store} {j : CallJob} (hj : j.endAt ≠ 0) :
    Ended (s.updateCallJob j) j.id ∧ KeepsEnded s (s.updateCallJob j) := by
  constructor
  · intro x hx hid
    obtain ⟨r, -, rfl⟩ := Store.mem_updateCallJob.1 hx
    split at hid
    next hk =>
      rw [if_pos hk]
      exact hj
    next hk => exact absurd hid hk
  · intro jobID hend x hx hid
    obtain ⟨r, hr, rfl⟩ := Store.mem_updateCallJob.1 hx
    split
    next hk => exact hj
    next hk =>
      rw [if_neg hk] at hid
      exact hend r hr hid

section Stored

variable {X : Type} {sem : Store × X → (o : Op) → o.Resp × (Store × X)} {p : Plugin}
  {env : Env} {callID : String} {st : CallState} {w : Store × X} {α : Type}

/-- Storing a job. -/
theorem updateCallJob_went (hsem : Answers sem) {j : CallJob}
    {k : Except String Unit → Body α} {Q : α → Store × X → Prop}
    (hk : ∀ x, (k (.ok ())).wp (Code.answering sem Went) Q (w.1.updateCallJob j, x)) :
    (store (.updateCallJob j) >>= k).wp (Code.answering sem Went) Q w := by
  refine ⟨trivial, fun _ hwent => ?_⟩
  obtain ⟨a, ha⟩ : ∃ a, (sem w (.store (.updateCallJob j))).1 = .ok a := hwent
  show (k (sem w (.store (.updateCallJob j))).1).wp _ Q
    (sem w (.store (.updateCallJob j))).2
  rcases hsem.1 w (.updateCallJob j) with hexec | ⟨⟨e, he⟩, -⟩
  · obtain ⟨hres, hstore⟩ := Prod.ext_iff.1 hexec
    have hstored : (sem w (.store (.updateCallJob j))).2.1 = w.1.updateCallJob j := by
      have hok : ((StoreOp.updateCallJob j).exec w.1).1 = .ok a := hres.symm.trans ha
      refine hstore.trans ?_
      simp only [StoreOp.exec] at hok ⊢
      split at hok
      · cases hok
      · rfl
    rw [ha]
    have hworld : (sem w (.store (.updateCallJob j))).2 =
        (w.1.updateCallJob j, (sem w (.store (.updateCallJob j))).2.2) :=
      Prod.ext hstored rfl
    rw [hworld]
    exact hk _
  · exact absurd (he.symm.trans ha) (by simp)

/-- Stopping a job. -/
theorem stopJob_went (hsem : Answers sem) {channelID jobID botUserID botConnID : String}
    {k : Except String Unit → Body α} {Q : α → Store × X → Prop}
    (hk : ∀ x, (k (.ok ())).wp (Code.answering sem Went) Q (w.1, x)) :
    (stopJob channelID jobID botUserID botConnID >>= k).wp
      (Code.answering sem Went) Q w := by
  refine ⟨trivial, fun _ hwent => ?_⟩
  have ha : (sem w (.stopJob channelID jobID botUserID botConnID)).1 = .ok () := hwent
  have hsame :=
    hsem.2 w (.stopJob channelID jobID botUserID botConnID) fun _ h => nomatch h
  show (k (sem w (.stopJob channelID jobID botUserID botConnID)).1).wp _ Q
    (sem w (.stopJob channelID jobID botUserID botConnID)).2
  have hworld : (sem w (.stopJob channelID jobID botUserID botConnID)).2 =
      (w.1, (sem w (.stopJob channelID jobID botUserID botConnID)).2.2) :=
    Prod.ext hsame rfl
  rw [ha, hworld]
  exact hk _

theorem publishJob_went (hsem : Answers sem) {job : CallJob} {k : Unit → Body α}
    {Q : α → Store × X → Prop}
    (hk : ∀ x, (k ()).wp (Code.answering sem Went) Q (w.1, x)) :
    (publishJob env st callID job >>= k).wp (Code.answering sem Went) Q w := by
  refine ⟨trivial, fun _ _ => ?_⟩
  let ev : Op := .publish (.callJobState callID (getClientStateFromCallJob job))
    (st.audience env callID)
  have hsame : (sem w ev).2.1 = w.1 := hsem.2 w ev fun _ h => nomatch h
  have hworld : (sem w ev).2 = (w.1, (sem w ev).2.2) := Prod.ext hsame rfl
  show (k (sem w ev).1).wp _ Q (sem w ev).2
  rw [hworld]
  exact hk _

/-- The job, if there is one that is active, is stored as ended. -/
def EndsJob (s : Store) (job : Option CallJob) : Prop :=
  ∀ j, job = some j → j.endAt = 0 → Ended s j.id

/-- The captions are stored as ended. -/
theorem stopLiveCaptions_went (hsem : Answers sem) :
    (stopLiveCaptions env st).wp (Code.answering sem Went)
      (fun res w' => res.2 = .ok () ∧
      (res.1.recording = st.recording ∧ res.1.transcription = st.transcription) ∧
      KeepsEnded w.1 w'.1 ∧ EndsJob w'.1 st.liveCaptions) w := by
  unfold stopLiveCaptions
  cases hlc : st.liveCaptions with
  | none => exact ⟨rfl, ⟨rfl, rfl⟩, .refl w.1, fun _ h => nomatch h⟩
  | some lcState =>
      refine updateCallJob_went hsem fun x => ⟨rfl, ⟨rfl, rfl⟩, ?_⟩
      obtain ⟨hended, hkeeps⟩ := ended_updateCallJob (s := w.1)
        (j := { lcState with endAt := env.now .captioningEnd }) (env.now_pos _).ne'
      refine ⟨hkeeps, fun j hj _ => ?_⟩
      obtain rfl := Option.some.inj hj
      exact hended

theorem EndsJob.mono {s s' : Store} {job : Option CallJob} (h : EndsJob s job)
    (hkeeps : KeepsEnded s s') : EndsJob s' job :=
    fun j hj hactive => hkeeps j.id (h j hj hactive)

theorem endsJob_of_not_running {job : Option CallJob} (s : Store)
    (h : running job = false) :
    EndsJob s job := by
  rintro j rfl hactive
  have hrun : running (some j) = true := decide_eq_true hactive
  rw [hrun] at h
  cases h

/-- Every active job of the state is stored as ended. -/
def EndsJobs (s : Store) (st : CallState) : Prop :=
  EndsJob s st.recording ∧ EndsJob s st.transcription ∧ EndsJob s st.liveCaptions

/-- A job that is stopped if it runs. -/
theorem coupled_went {run : Bool} {c : Body (CallState × α)} {P : Store → Prop}
    (hskip : run = false → P w.1)
    (h : run = true → c.wp (Code.answering sem Went) (fun _ w' => P w'.1) w) :
    (if run then do
        let res ← c
        return res.1
      else return st).wp (Code.answering sem Went) (fun _ w' => P w'.1) w := by
  split
  next hrun => exact Code.wp_bind.2 (h hrun)
  next hrun => exact hskip (Bool.eq_false_iff.2 hrun)

/-- What `stopTranscribingJob` stores, given what `stopRecordingJob` stores inside
it. -/
theorem stopTranscribingJob_went (hsem : Answers sem) (n : Nat)
    (hrec : ∀ (st' : CallState) (w : Store × X), st'.recording = st.recording →
      running st'.recording = true → running st'.transcription = false →
      (stopRecordingJob p env n st' callID).wp (Code.answering sem Went)
        (fun _ w' => KeepsEnded w.1 w'.1 ∧ EndsJob w'.1 st'.recording) w)
    (htr : running st.transcription = true) :
    (stopTranscribingJob p env (n + 1) st callID).wp
      (Code.answering sem Went) (fun _ w' =>
      KeepsEnded w.1 w'.1 ∧ EndsJobs w'.1 st) w := by
  rw [stopTranscribingJob]
  unfold EndsJobs
  cases htrState : st.transcription with
  | none =>
      rw [htrState] at htr
      cases htr
  | some trState =>
      dsimp only
      have hactive : trState.endAt = 0 := by
        rw [htrState] at htr
        exact of_decide_eq_true htr
      rw [if_neg (not_not.2 hactive)]
      refine updateCallJob_went hsem fun x => ?_
      obtain ⟨hended, hkeeps⟩ := ended_updateCallJob (s := w.1)
        (j := { trState with endAt := env.now .transcribingEnd }) (env.now_pos _).ne'
      refine Code.wp_bind.2
        (Code.wp_mono (stopLiveCaptions_went hsem) fun res w₁ hres => ?_)
      obtain ⟨st', res⟩ := res
      obtain ⟨rfl, ⟨hrec', htr'⟩, hkeeps₁, hlc⟩ := hres
      refine stopJob_went hsem fun x₁ => ?_
      have hrunning : running st'.transcription = false := by
        rw [htr']
        exact running_ended trState .transcribingEnd
      refine Code.wp_bind.2 (Code.wp_mono (coupled_went
        (P := fun s => KeepsEnded w₁.1 s ∧ EndsJob s st'.recording)
        (fun hrun => ⟨.refl _, endsJob_of_not_running _ hrun⟩)
        fun hrun => hrec st' (w₁.1, x₁) hrec' hrun hrunning) fun st'' w₂ hw₂ => ?_)
      obtain ⟨hkeeps₂, hrecEnded⟩ := hw₂
      have htrEnded : EndsJob w₂.1 (some trState) := by
        intro j hj _
        obtain rfl := Option.some.inj hj
        exact hkeeps₂ _ (hkeeps₁ _ hended)
      have hdone : KeepsEnded w.1 w₂.1 ∧ EndsJob w₂.1 st.recording ∧
          EndsJob w₂.1 (some trState) ∧
          EndsJob w₂.1 st.liveCaptions :=
        ⟨(hkeeps.trans hkeeps₁).trans hkeeps₂, hrec' ▸ hrecEnded, htrEnded,
          hlc.mono hkeeps₂⟩
      refine publishJob_went hsem fun x₂ => ?_
      cases st''.liveCaptions with
      | none => exact hdone
      | some lc => exact publishJob_went hsem fun x₃ => hdone

/-- What `stopRecordingJob` stores, given what `stopTranscribingJob` stores inside
it. -/
theorem stopRecordingJob_went (hsem : Answers sem) (n : Nat)
    (htr : ∀ (st' : CallState) (w : Store × X), st'.transcription = st.transcription →
      st'.liveCaptions = st.liveCaptions → running st'.recording = false →
      running st'.transcription = true →
      (stopTranscribingJob p env n st' callID).wp (Code.answering sem Went)
        (fun _ w' => KeepsEnded w.1 w'.1 ∧ EndsJobs w'.1 st') w)
    (hrec : running st.recording = true) :
    (stopRecordingJob p env (n + 1) st callID).wp (Code.answering sem Went) (fun _ w' =>
      KeepsEnded w.1 w'.1 ∧ EndsJob w'.1 st.recording ∧ EndsJob w'.1 st.transcription ∧
        ((running st.liveCaptions = true → running st.transcription = true) →
          EndsJob w'.1 st.liveCaptions)) w := by
  rw [stopRecordingJob]
  cases hrecState : st.recording with
  | none =>
      rw [hrecState] at hrec
      cases hrec
  | some recState =>
      dsimp only
      have hactive : recState.endAt = 0 := by
        rw [hrecState] at hrec
        exact of_decide_eq_true hrec
      rw [if_neg (not_not.2 hactive)]
      refine updateCallJob_went hsem fun x => ?_
      obtain ⟨hended, hkeeps⟩ := ended_updateCallJob (s := w.1)
        (j := { recState with endAt := env.now .recordingEnd }) (env.now_pos _).ne'
      have hrunning : running (some { recState with endAt := env.now .recordingEnd }) =
          false :=
        running_ended recState .recordingEnd
      refine Code.wp_bind.2 (Code.wp_mono (coupled_went
        (P := fun s => KeepsEnded
          (w.1.updateCallJob { recState with endAt := env.now .recordingEnd }) s ∧
          EndsJob s st.transcription ∧ ((running st.liveCaptions = true →
            running st.transcription = true) → EndsJob s st.liveCaptions))
        (fun hrun => ⟨.refl _, endsJob_of_not_running _ hrun, fun hlc =>
          endsJob_of_not_running _ (Bool.eq_false_iff.2 fun hcaptions => ?_)⟩)
        fun hrun => Code.wp_mono (htr { st with recording := some _ }
          (w.1.updateCallJob { recState with endAt := env.now .recordingEnd }, x) rfl
            rfl hrunning hrun)
          fun _ w' hw' => ⟨hw'.1, hw'.2.2.1, fun _ => hw'.2.2.2⟩) fun st' w₁ hw₁ => ?_)
      · -- captions run with a transcription only
        rw [hlc hcaptions] at hrun
        cases hrun
      obtain ⟨hkeeps₁, htrEnded, hlcEnded⟩ := hw₁
      refine stopJob_went hsem fun x₁ => publishJob_went hsem fun x₂ =>
        ⟨hkeeps.trans hkeeps₁, fun j hj _ => ?_, htrEnded, hlcEnded⟩
      obtain rfl := Option.some.inj hj
      exact hkeeps₁ _ hended

end Stored

/-! ## The coupled stops -/

section Coupled

variable {X : Type} {sem : Store × X → (o : Op) → o.Resp × (Store × X)} {p : Plugin}
  {env : Env} {callID : String} {st : CallState} {w : Store × X}

/-- `stopRecordingJob` stores the end of what is active, when nothing fails. -/
theorem stopRecordingJob_ends (hsem : Answers sem)
    (hlc : running st.liveCaptions = true → running st.transcription = true)
    (hrec : running st.recording = true) :
    (stopRecordingJob p env stopDepth st callID).wp (Code.answering sem Went)
      (fun _ w' => EndsJobs w'.1 st) w := by
  refine Code.wp_mono (stopRecordingJob_went hsem 1 (fun st' w _ _ hended hrun => ?_)
    hrec) fun _ _ hw => ⟨hw.2.1, hw.2.2.1, hw.2.2.2 hlc⟩
  refine stopTranscribingJob_went hsem 0 (fun st'' _ hst'' hrun' _ => ?_) hrun
  rw [hst'', hended] at hrun'
  cases hrun'

/-- `stopTranscribingJob` does so too. -/
theorem stopTranscribingJob_ends (hsem : Answers sem)
    (htr : running st.transcription = true) :
    (stopTranscribingJob p env stopDepth st callID).wp (Code.answering sem Went)
      (fun _ w' => EndsJobs w'.1 st) w := by
  refine Code.wp_mono (stopTranscribingJob_went hsem 1 (fun st' w _ hrun hended => ?_)
    htr) fun _ _ hw => hw.2
  refine Code.wp_mono (stopRecordingJob_went hsem 0 (fun st'' _ hst'' _ _ hrun' => ?_)
    hrun) fun _ _ hw => ⟨hw.1, hw.2.1⟩
  rw [hst'', hended] at hrun'
  cases hrun'

end Coupled

/-- For every state of the call and however the store and the job service answer: the
calls of the two functions of each other are at most two deep, each job is stopped once
at most, and if everything goes through, every job that was active is stored as ended,
provided captions were active with a transcription only. -/
theorem coupledStops (p : Plugin) (env : Env) (callID : String) (st : CallState) :
    (∀ n, stopRecordingJob p env (n + stopDepth) st callID =
        stopRecordingJob p env stopDepth st callID ∧
      stopTranscribingJob p env (n + stopDepth) st callID =
        stopTranscribingJob p env stopDepth st callID) ∧
    (∀ (W : Type) (sem : W → (o : Op) → o.Resp × W) (w : W),
      Code.marks stopMark ((stopRecordingJob p env stopDepth st callID).record sem w) ≤
        oneStopEach st ∧
      Code.marks stopMark ((stopTranscribingJob p env stopDepth st callID).record sem
        w) ≤ oneStopEach st) ∧
    ∀ (X : Type) (sem : Store × X → (o : Op) → o.Resp × (Store × X)) (w : Store × X),
      Answers sem → (running st.liveCaptions = true → running st.transcription = true) →
      (running st.recording = true →
        (∀ e ∈ (stopRecordingJob p env stopDepth st callID).record sem w,
          Went e.1 e.2) →
        EndsJobs ((stopRecordingJob p env stopDepth st callID).run sem w).2.1 st) ∧
      (running st.transcription = true →
        (∀ e ∈ (stopTranscribingJob p env stopDepth st callID).record sem w,
          Went e.1 e.2) →
        EndsJobs ((stopTranscribingJob p env stopDepth st callID).run sem w).2.1
          st) := by
  refine ⟨fun n => ⟨stopRecordingJob_depth n st, stopTranscribingJob_depth n st⟩,
    fun W sem w => ⟨(stopRecordingJob_once st).record sem w,
      (stopTranscribingJob_once st).record sem w⟩,
    fun X sem w hsem hlc => ⟨fun hrec hwent => ?_, fun htr hwent => ?_⟩⟩
  · exact Code.wp_of_record (stopRecordingJob_ends hsem hlc hrec) hwent
  · exact Code.wp_of_record (stopTranscribingJob_ends hsem htr) hwent

/-! ## An instance -/

/-- A database and a job service that work. -/
def working (w : Store × Unit) (o : Op) : o.Resp × (Store × Unit) :=
  ((exec .works w.1 o).1, (exec .works w.1 o).2, ())

theorem working_answers : Answers working := by
  refine ⟨fun w o => .inl rfl, fun w o ho => ?_⟩
  cases o with
  | store so => exact absurd rfl (ho so)
  | _ => rfl

instance (o : Op) (r : o.Resp) : Decidable (Went o r) :=
  match o, r with
  | .store _, .ok a => .isTrue ⟨a, rfl⟩
  | .store _, .error _ => .isFalse fun h => nomatch h
  | .stopJob _ _ _ _, .ok () => .isTrue rfl
  | .stopJob _ _ _ _, .error _ => .isFalse fun h => nomatch h
  | .runJob _ _ _ _, _ => .isTrue trivial
  | .updateCallPostEnded _ _, _ => .isTrue trivial
  | .publish _ _, _ => .isTrue trivial
  | .sendEphemeralPost _ _ _, _ => .isTrue trivial
  | .reach _, _ => .isTrue trivial

/-- A job of the sample call, started at 12. -/
def sampleJob (id : String) (type : JobType) : CallJob :=
  ⟨id, "call", type, "alice", 11, 12, 0, ⟨"", "s9", ""⟩⟩

/-- The sample call with all three jobs. -/
def busyState : CallState :=
  { sampleState with
    recording := some (sampleJob "rec" .recording)
    transcription := some (sampleJob "tr" .transcribing)
    liveCaptions := some (sampleJob "lc" .captioning) }

/-- Its store. -/
def busyStore : Store :=
  { sampleStore with
    jobs :=
      ⟨[sampleJob "rec" .recording, sampleJob "tr" .transcribing,
        sampleJob "lc" .captioning],
      by decide⟩ }

/-- All three jobs of a call are stored as ended. -/
theorem coupledStops_of_busy :
    Answers working ∧ (running busyState.liveCaptions = true →
      running busyState.transcription = true) ∧
    running busyState.recording = true ∧
    (∀ e ∈ (stopRecordingJob .sample (.sample 20) stopDepth busyState
      "chan").record working (busyStore, ()), Went e.1 e.2) ∧
    EndsJobs ((stopRecordingJob .sample (.sample 20) stopDepth busyState "chan").run
      working (busyStore, ())).2.1 busyState := by
  have hwent : ∀ e ∈ (stopRecordingJob .sample (.sample 20) stopDepth busyState
      "chan").record working (busyStore, ()), Went e.1 e.2 := by
    decide
  exact ⟨working_answers, fun _ => rfl, rfl, hwent,
    ((coupledStops .sample (.sample 20) "chan"
    busyState).2.2 Unit working (busyStore, ()) working_answers fun _ =>
      rfl).1 rfl hwent⟩

end CallsPlugin.Ports
