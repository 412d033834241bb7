import CallsPlugin.Ports.Announced
import CallsPlugin.Ports.JobSessions
import CallsPlugin.Ports.JoinsOneByOne

/-!
# What a leave writes

A leave deletes the session, ends the jobs whose bot has left with what is coupled to
them (`leftTypes`, in the order in which they are written) and writes the call.  These
writes are a function of the state in memory (`leaveOps`).  The state that is left in
memory is one too, but for the errors that are noted on jobs that have ended
(`SameLive`).
-/

namespace CallsPlugin.Ports

open CallsPlugin.Verified
open CallsPlugin.Ports.Public CallsPlugin.Ports.Db

/-! ## Code with a fixed sequence of writes -/

/-- On its own the code makes these writes and comes to a result in `Q`, unless a write
fails. -/
def Writes {α : Type} (ops : List StoreOp) (Q : α → Prop) (c : Body α) : Prop :=
  ∀ w, ∃ a, Q a ∧ soloBody c w = (storeAfterAll ops w).map fun w' => (a, w')

section Writes

variable {α β : Type} {ops ops' : List StoreOp} {Q : α → Prop} {R : β → Prop}
  {w : Store}

/-- Writing a job. -/
theorem soloBody_updateCallJob {j : CallJob} {k : Except String Unit → Body α} :
    soloBody (store (.updateCallJob j) >>= k) w =
      (storeAfter (.updateCallJob j) w).bind (soloBody (k (.ok ()))) := by
  unfold storeAfter
  rw [soloBody_store]
  cases ((StoreOp.updateCallJob j).exec w).1 <;> rfl

theorem Writes.ret {a : α} (h : Q a) : Writes [] Q (.ret a) := fun _ => ⟨a, h, rfl⟩

theorem Writes.mono {c : Body α} {Q' : α → Prop} (h : Writes ops Q c)
    (hQ : ∀ a, Q a → Q' a) :
    Writes ops Q' c := fun w =>
  let ⟨a, ha, hc⟩ := h w
  ⟨a, hQ a ha, hc⟩

theorem Writes.bind {c : Body β} {k : β → Body α} (hc : Writes ops R c)
    (hk : ∀ b, R b → Writes ops' Q (k b)) : Writes (ops ++ ops') Q (c >>= k) := by
  intro w
  obtain ⟨b, hb, hcw⟩ := hc w
  rw [soloBody_bind, hcw, storeAfterAll_append]
  cases storeAfterAll ops w with
  | none =>
      obtain ⟨a, ha, -⟩ := hk b hb w
      exact ⟨a, ha, rfl⟩
  | some w' => exact hk b hb w'

/-- Code that only returns a value after other code. -/
theorem Writes.bind_ret {c : Body β} {f : β → α}
    (hc : Writes ops (fun b => Q (f b)) c) :
    Writes ops Q (c >>= fun b => Code.ret (f b)) := by
  have h : Writes (ops ++ []) Q _ :=
    hc.bind (k := fun b => Code.ret (f b)) fun _ hb => .ret hb
  rwa [List.append_nil] at h

theorem Writes.silent {c : Body β} {k : β → Body α} (hc : c.Only Op.Silent)
    (hR : c.All R) (hk : ∀ b, R b → Writes ops Q (k b)) : Writes ops Q (c >>= k) := by
  intro w
  obtain ⟨b, hb, hcw⟩ := soloBody_silent hc hR w
  rw [soloBody_bind, hcw]
  exact hk b hb w

/-- One operation that does not call the store. -/
theorem Writes.perform {o : Op} {k : o.Resp → Body α} (ho : o.Silent)
    (hk : ∀ r, Writes ops Q (k r)) : Writes ops Q (Code.perform o >>= k) :=
  .silent (R := fun _ => True) ⟨ho, fun _ => trivial⟩ (fun _ => trivial) fun r _ => hk r

theorem Writes.write {wr : Write} {k : Except String Unit → Body α}
    (hk : Writes ops Q (k (.ok ()))) : Writes (wr.op :: ops) Q (write wr >>= k) := by
  intro w
  rw [soloBody_write, storeAfterAll_cons]
  cases storeAfter wr.op w with
  | none =>
      obtain ⟨a, ha, -⟩ := hk w
      exact ⟨a, ha, rfl⟩
  | some w' => exact hk w'

theorem Writes.updateCallJob {j : CallJob} {k : Except String Unit → Body α}
    (hk : Writes ops Q (k (.ok ()))) :
    Writes (.updateCallJob j :: ops) Q (store (.updateCallJob j) >>= k) := by
  intro w
  rw [soloBody_updateCallJob, storeAfterAll_cons]
  cases storeAfter (.updateCallJob j) w with
  | none =>
      obtain ⟨a, ha, -⟩ := hk w
      exact ⟨a, ha, rfl⟩
  | some w' => exact hk w'

end Writes

/-! ## Ending jobs -/

/-- Where the end of a job is read off the clock. -/
def endSite : JobType → Site
  | .recording => .recordingEnd
  | .transcribing => .transcribingEnd
  | .captioning => .captioningEnd

/-- The job, ended now. -/
def endedNow (env : Env) (type : JobType) (job : CallJob) : CallJob :=
  { job with endAt := env.now (endSite type) }

@[simp] theorem endedNow_endedNow (env : Env) (type : JobType) (job : CallJob) :
    endedNow env type (endedNow env type job) = endedNow env type job := rfl

theorem endedNow_endAt (env : Env) (type : JobType) (job : CallJob) :
    (endedNow env type job).endAt ≠ 0 := (env.now_pos _).ne'

/-- The state with the jobs of these types ended. -/
def CallState.ending (env : Env) (types : List JobType) (st : CallState) :
    CallState where
  call := st.call
  sessions := st.sessions
  recording :=
    if .recording ∈ types then st.recording.map (endedNow env .recording)
    else st.recording
  transcription :=
    if .transcribing ∈ types then st.transcription.map (endedNow env .transcribing)
    else st.transcription
  liveCaptions :=
    if .captioning ∈ types then st.liveCaptions.map (endedNow env .captioning)
    else st.liveCaptions

/-- The writes that end the jobs of these types. -/
def endOps (env : Env) (types : List JobType) (st : CallState) : List StoreOp :=
  types.filterMap fun type => (st.job type).map fun job =>
    .updateCallJob (endedNow env type job)

/-- Two states of a call that differ at most in jobs that have ended. -/
structure SameLive (st st' : CallState) : Prop where
  call : st'.call = st.call
  sessions : st'.sessions = st.sessions
  captions : st'.liveCaptions = st.liveCaptions
  job : ∀ type, st'.job type = st.job type ∨ ∃ j j', st.job type = some j ∧
    st'.job type = some j' ∧ SameJob j j' ∧ j.endAt ≠ 0 ∧ j'.endAt ≠ 0

section Ending

variable {env : Env} {types types' : List JobType} {type : JobType}
  {st st' st'' : CallState}

theorem CallState.ext_job (hcall : st.call = st'.call)
    (hsessions : st.sessions = st'.sessions)
    (hjob : ∀ type, st.job type = st'.job type) : st = st' := by
  obtain ⟨call, sessions, recording, transcription, liveCaptions⟩ := st
  obtain ⟨call', sessions', recording', transcription', liveCaptions'⟩ := st'
  rw [CallState.mk.injEq]
  exact ⟨hcall, hsessions, hjob .recording, hjob .transcribing, hjob .captioning⟩

@[simp] theorem ending_call : (st.ending env types).call = st.call := rfl

@[simp] theorem ending_sessions : (st.ending env types).sessions = st.sessions := rfl

theorem ending_job (type : JobType) : (st.ending env types).job type =
    if type ∈ types then (st.job type).map (endedNow env type) else st.job type := by
  cases type <;> rfl

theorem ending_nil : st.ending env [] = st :=
  CallState.ext_job rfl rfl fun type => by rw [ending_job, if_neg List.not_mem_nil]

theorem ending_append :
    st.ending env (types ++ types') = (st.ending env types).ending env types' := by
  refine CallState.ext_job rfl rfl fun type => ?_
  rw [ending_job, ending_job, ending_job]
  by_cases h : type ∈ types <;> by_cases h' : type ∈ types' <;>
    simp [h, h', Option.map_map, Function.comp_def]

/-- Ending one job. -/
theorem ending_singleton {j : CallJob} (hj : st.job type = some j) :
    st.ending env [type] = st.withJob type (endedNow env type j) := by
  have hcall := withJob_call st type (endedNow env type j)
  refine CallState.ext_job hcall.symm (by cases type <;> rfl) fun type' => ?_
  rw [ending_job]
  by_cases h : type' = type
  · subst h
    rw [if_pos (List.mem_singleton_self _), hj, withJob_job_self]
    rfl
  · rw [if_neg fun hm => h (List.mem_singleton.1 hm), withJob_job_of_ne _ _ h]

theorem ending_of_none (h : st.job type = none) : st.ending env [type] = st := by
  refine CallState.ext_job rfl rfl fun type' => ?_
  rw [ending_job]
  split
  next hm => rw [List.mem_singleton.1 hm, h, Option.map_none]
  · rfl

theorem endOps_append : endOps env (types ++ types') st =
    endOps env types st ++ endOps env types' st := List.filterMap_append

theorem endOps_singleton {j : CallJob} (hj : st.job type = some j) :
    endOps env [type] st = [.updateCallJob (endedNow env type j)] := by
  simp [endOps, hj]

/-- What has been ended is written the same way. -/
theorem endOps_ending :
    endOps env types (st.ending env types') = endOps env types st := by
  refine List.filterMap_congr fun type _ => ?_
  rw [ending_job]
  split
  · rw [Option.map_map]
    rfl
  · rfl

/-- One job and then those of other types. -/
theorem endOps_cons {j : CallJob} (hj : st.job type = some j) :
    endOps env (type :: types) st =
    .updateCallJob (endedNow env type j) ::
      endOps env types (st.withJob type (endedNow env type j)) := by
  rw [← ending_singleton hj, endOps_ending]
  have hfirst : endOps env ([type] ++ types) st = _ := endOps_append
  exact hfirst.trans (congrArg (· ++ _) (endOps_singleton hj))

theorem ending_cons {j : CallJob} (hj : st.job type = some j) :
    st.ending env (type :: types) =
    (st.withJob type (endedNow env type j)).ending env types := by
  rw [← ending_singleton hj, ← ending_append]
  rfl

theorem SameLive.refl (st : CallState) : SameLive st st :=
  ⟨rfl, rfl, rfl, fun _ => .inl rfl⟩

theorem SameLive.trans (h : SameLive st st') (h' : SameLive st' st'') :
    SameLive st st'' where
  call := h'.call.trans h.call
  sessions := h'.sessions.trans h.sessions
  captions := h'.captions.trans h.captions
  job type := by
    rcases h'.job type with heq | ⟨j', j'', hj', hj'', hs', hend', hend''⟩
    · rw [heq]
      exact h.job type
    · rcases h.job type with heq | ⟨j, i', hj, hi', hs, hend, -⟩
      · exact .inr ⟨j', j'', heq ▸ hj', hj'', hs', hend', hend''⟩
      · obtain rfl := Option.some.inj (hj'.symm.trans hi')
        exact .inr ⟨j, j'', hj, hj'', ⟨hs'.1.trans hs.1, hs'.2.1.trans hs.2.1,
          hs'.2.2.trans hs.2.2⟩, hend, hend''⟩

/-- Noting an error on a job that has ended. -/
theorem SameLive.withJob (type : JobType) {j j' : CallJob} (htype : type ≠ .captioning)
    (hj : st.job type = some j) (hs : SameJob j j') (hend : j.endAt ≠ 0)
    (hend' : j'.endAt ≠ 0) :
    SameLive st (st.withJob type j') where
  call := withJob_call ..
  sessions := by cases type <;> rfl
  captions := by
    show (st.withJob type j').job .captioning = st.job .captioning
    exact withJob_job_of_ne st j' (Ne.symm htype)
  job type' := by
    by_cases h : type' = type
    · subst h
      exact .inr ⟨j, j', hj, withJob_job_self .., hs, hend, hend'⟩
    · exact .inl (withJob_job_of_ne st j' h)

/-- A job that runs in one state is the same in the other. -/
theorem SameLive.job_of_running (h : SameLive st st')
    (hrun : running (st.job type) = true) :
    st'.job type = st.job type := by
  rcases h.job type with heq | ⟨j, j', hj, -, -, hend, -⟩
  · exact heq
  · rw [hj, running_of_ended hend] at hrun
    cases hrun

/-- The same bots are found on a connection. -/
theorem SameLive.filter_leftBy (h : SameLive st st') (type : JobType)
    (connID : String) :
    (st'.job type).filter (leftBy connID) = (st.job type).filter (leftBy connID) := by
  have hnone : ∀ j : CallJob, j.endAt ≠ 0 → (some j).filter (leftBy connID) = none :=
      fun j hend =>
    Option.filter_eq_none_iff.2 fun i hi hleft => by
      cases hi
      exact hend (leftBy_iff.1 hleft).1
  rcases h.job type with heq | ⟨j, j', hj, hj', -, hend, hend'⟩
  · rw [heq]
  · rw [hj, hj', hnone j hend, hnone j' hend']

theorem SameLive.running_job (h : SameLive st st') (type : JobType) :
    running (st'.job type) = running (st.job type) := by
  rcases h.job type with heq | ⟨j, j', hj, hj', -, hend, hend'⟩
  · rw [heq]
  · rw [hj, hj', running_of_ended hend, running_of_ended hend']

/-- Ending jobs of states that differ at most in jobs that have ended. -/
theorem SameLive.ending (h : SameLive st st') :
    SameLive (st.ending env types) (st'.ending env types) where
  call := h.call
  sessions := h.sessions
  captions := by
    show ite _ (st'.liveCaptions.map _) st'.liveCaptions = _
    rw [h.captions]
    rfl
  job type := by
    rw [ending_job, ending_job]
    rcases h.job type with heq | ⟨j, j', hj, hj', hs, hend, hend'⟩
    · rw [heq]
      exact .inl rfl
    · rw [hj, hj']
      split
      · exact .inr ⟨_, _, rfl, rfl, hs, endedNow_endAt env type j,
          endedNow_endAt env type j'⟩
      · exact .inr ⟨j, j', rfl, rfl, hs, hend, hend'⟩

end Ending

/-! ## Stopping jobs -/

section Stopping

variable {p : Plugin} {env : Env} {channelID : String} {st : CallState}

theorem stopLiveCaptions_writes : Writes (endOps env [.captioning] st)
    (fun res => res.2 = .ok () ∧ res.1 = st.ending env [.captioning])
    (stopLiveCaptions env st) := by
  unfold stopLiveCaptions
  split
  next hlc =>
    have hlc : st.job .captioning = none := hlc
    rw [ending_of_none hlc]
    simp only [endOps, List.filterMap_cons, hlc, Option.map_none, List.filterMap_nil]
    exact .ret ⟨rfl, rfl⟩
  next lc hlc =>
    have hlc : st.job .captioning = some lc := hlc
    rw [ending_singleton hlc, endOps_singleton hlc]
    exact .updateCallJob (.ret ⟨rfl, rfl⟩)

/-- Stopping the transcription that runs, with no recording to stop. -/
theorem stopTranscribingJob_writes {tr : CallJob} (depth : Nat)
    (htr : st.job .transcribing = some tr) (hend : tr.endAt = 0)
    (hrec : running st.recording = false) :
    Writes (endOps env [.transcribing, .captioning] st)
      (fun res => SameLive (st.ending env [.transcribing, .captioning]) res.1)
      (stopTranscribingJob p env (depth + 1) st channelID) := by
  have htr' : st.transcription = some tr := htr
  rw [stopTranscribingJob, endOps_cons htr, ending_cons htr, htr']
  dsimp only
  rw [if_neg (not_not.2 hend)]
  refine .updateCallJob ?_
  rw [← List.append_nil (endOps env [.captioning] _)]
  refine .bind stopLiveCaptions_writes ?_
  rintro ⟨st₁, -⟩ ⟨rfl, rfl⟩
  refine .perform trivial fun res => ?_
  cases res with
  | error e =>
      exact .perform trivial fun _ => .ret (.withJob .transcribing (by simp) rfl
        ⟨rfl, rfl, rfl⟩ (endedNow_endAt env .transcribing tr)
          (endedNow_endAt env .transcribing tr))
  | ok _ =>
      have hrec' : ¬ running ((st.withJob .transcribing
          (endedNow env .transcribing tr)).ending env [.captioning]).recording = true :=
        fun hrun => Bool.false_ne_true (hrec.symm.trans hrun)
      dsimp only
      rw [if_neg hrec']
      refine .perform trivial fun _ => ?_
      exact .silent (publishJob?_silent ..) (Code.all_of_forall (fun _ => trivial) _)
        fun _ (_ : True) => .ret (.refl _)

/-- Stopping the recording that runs, with no transcription to stop. -/
theorem stopRecordingJob_writes {rec : CallJob} (depth : Nat)
    (hrec : st.job .recording = some rec) (hend : rec.endAt = 0)
    (htr : running st.transcription = false) :
    Writes (endOps env [.recording] st)
      (fun res => SameLive (st.ending env [.recording]) res.1)
      (stopRecordingJob p env (depth + 1) st channelID) := by
  have hrec' : st.recording = some rec := hrec
  rw [stopRecordingJob, endOps_singleton hrec, ending_singleton hrec, hrec']
  dsimp only
  rw [if_neg (not_not.2 hend)]
  refine .updateCallJob ?_
  dsimp only
  rw [if_neg (by rw [htr]; simp)]
  refine .perform trivial fun res => ?_
  cases res with
  | error e =>
      exact .perform trivial fun _ => .ret (.withJob .recording (by simp) rfl
        ⟨rfl, rfl, rfl⟩ (endedNow_endAt env .recording rec)
          (endedNow_endAt env .recording rec))
  | ok _ => exact .perform trivial fun _ => .ret (.refl _)

end Stopping

/-! ## The jobs of a bot that leaves -/

/-- The job runs and its bot sat on the connection. -/
def leftOn (connID : String) (job : Option CallJob) : Bool :=
  (job.filter (leftBy connID)).isSome

theorem running_eq_true {job : Option CallJob} :
    running job = true ↔ ∃ j, job = some j ∧ j.endAt = 0 := by
  cases job <;> simp [running]

/-- What ends with the recording whose bot has left. -/
def recordingLeft (r : LeaveRequest) (st : CallState) : List JobType :=
  if leftOn r.originalConnID st.recording then
    .recording :: (if running st.transcription then [.transcribing,
      .captioning] else [])
  else []

/-- What ends with the transcription whose bot has left. -/
def transcribingLeft (r : LeaveRequest) (st : CallState) : List JobType :=
  if leftOn r.originalConnID st.transcription then
    .transcribing :: (if running st.recording then [.recording] else [])
  else []

/-- The captions whose bot has left. -/
def captionsLeft (r : LeaveRequest) (st : CallState) : List JobType :=
  if leftOn r.connID st.liveCaptions then [.captioning] else []

/-- The types of the jobs that a leave ends, in the order in which they are written. 
The captions of a transcription that ends with a recording are ended again if they have
ended before. -/
def leftTypes (r : LeaveRequest) (st : CallState) : List JobType :=
  if leftOn r.originalConnID st.recording then
    .recording :: (if running st.transcription then [.transcribing, .captioning]
      else captionsLeft r st)
  else if leftOn r.originalConnID st.transcription then
    .transcribing :: ((if running st.recording then [.recording] else []) ++
      captionsLeft r st)
  else captionsLeft r st

section BotLeft

variable {p : Plugin} {env : Env} {r : LeaveRequest} {channelID connID : String}
  {st st' : CallState} {type : JobType} {types : List JobType} {job : Option CallJob}

theorem leftOn_running (h : leftOn connID job = true) : running job = true := by
  obtain ⟨j, hj⟩ := Option.isSome_iff_exists.1 h
  obtain ⟨rfl, hleft⟩ := Option.filter_eq_some_iff.1 hj
  simp [running, (leftBy_iff.1 hleft).1]

theorem leftOn_of_not_running (h : running job = false) : leftOn connID job = false :=
  Bool.eq_false_iff.2 fun hleft =>
    Bool.false_ne_true (h.symm.trans (leftOn_running hleft))

theorem running_endedNow : running (job.map (endedNow env type)) = false := by
  cases job with
  | none => rfl
  | some j => exact running_of_ended (endedNow_endAt env type j)

theorem captionsLeft_ending : captionsLeft r (st.ending env types) =
    if .captioning ∈ types then [] else captionsLeft r st := by
  unfold captionsLeft CallState.ending
  dsimp only
  split
  · rw [leftOn_of_not_running running_endedNow]
    rfl
  · rfl

theorem leftTypes_eq (env : Env) : leftTypes r st = recordingLeft r st ++
    (transcribingLeft r (st.ending env (recordingLeft r st)) ++
      captionsLeft r ((st.ending env (recordingLeft r st)).ending env
        (transcribingLeft r (st.ending env (recordingLeft r st))))) := by
  have hcap : ∀ types, captionsLeft r (st.ending env types) =
      if JobType.captioning ∈ types then [] else captionsLeft r st :=
    fun _ => captionsLeft_ending
  by_cases hrec : leftOn r.originalConnID st.recording = true
  · by_cases htr : running st.transcription = true
    · have htypes : recordingLeft r st = [.recording, .transcribing, .captioning] := by
        rw [recordingLeft, if_pos hrec, if_pos htr]
      -- the transcription has ended with the recording
      have hnone : transcribingLeft r (st.ending env (recordingLeft r st)) = [] := by
        rw [htypes, transcribingLeft]
        exact if_neg (by simp [CallState.ending,
          leftOn_of_not_running running_endedNow])
      rw [hnone, ending_nil, hcap, htypes, leftTypes, if_pos hrec, if_pos htr]
      simp
    · have htypes : recordingLeft r st = [.recording] := by
        rw [recordingLeft, if_pos hrec, if_neg htr]
      have hnone : transcribingLeft r (st.ending env (recordingLeft r st)) = [] := by
        rw [htypes, transcribingLeft]
        exact if_neg (by simp [CallState.ending,
          leftOn_of_not_running (Bool.not_eq_true _ ▸ htr)])
      rw [hnone, ending_nil, hcap, htypes, leftTypes, if_pos hrec, if_neg htr]
      simp
  · have htypes : recordingLeft r st = [] := if_neg hrec
    rw [htypes, ending_nil, hcap, List.nil_append, leftTypes, if_neg hrec,
      transcribingLeft]
    by_cases htr : leftOn r.originalConnID st.transcription = true
    · rw [if_pos htr, if_pos htr]
      split <;> simp
    · rw [if_neg htr, if_neg htr]
      simp

/-- What a step of a leave writes and leaves in memory. -/
def EndsTypes (env : Env) (types : CallState → List JobType) (g : Step) : Prop :=
  ∀ st, Writes (endOps env (types st) st)
    (fun res => res.2 = .ok () ∧ SameLive (st.ending env (types st)) res.1) (g st)

theorem recordingBotLeft_ends :
    EndsTypes env (recordingLeft r) (recordingBotLeft p env r channelID) := by
  intro st
  unfold recordingBotLeft
  cases hleft : st.recording.filter (leftBy r.originalConnID) with
  | none =>
      have htypes : recordingLeft r st = [] := if_neg (by simp [leftOn, hleft])
      rw [htypes, ending_nil]
      exact .ret ⟨rfl, .refl st⟩
  | some rec =>
      have hrec : st.job .recording = some rec := (Option.filter_eq_some_iff.1 hleft).1
      have hleft : leftOn r.originalConnID st.recording = true := by
        simp [leftOn, hleft]
      dsimp only
      rw [recordingLeft, if_pos hleft, endOps_cons hrec, ending_cons hrec]
      refine .write ?_
      dsimp only
      by_cases hrun : running st.transcription = true
      · obtain ⟨tr, htr, hend⟩ := running_eq_true.1 hrun
        rw [if_pos hrun, if_pos hrun, ← List.append_nil (endOps ..)]
        refine .bind (.bind_ret (stopTranscribingJob_writes 1 htr hend ?_))
          fun st' hst' => ?_
        · exact running_of_ended (endedNow_endAt env .recording rec)
        · exact .perform trivial fun _ => .ret ⟨rfl, hst'⟩
      · rw [if_neg hrun, if_neg hrun, ending_nil]
        exact .perform trivial fun _ => .ret ⟨rfl, .refl _⟩

theorem transcribingBotLeft_ends :
    EndsTypes env (transcribingLeft r) (transcribingBotLeft p env r channelID) := by
  intro st
  unfold transcribingBotLeft
  cases hleft : st.transcription.filter (leftBy r.originalConnID) with
  | none =>
      have htypes : transcribingLeft r st = [] := if_neg (by simp [leftOn, hleft])
      rw [htypes, ending_nil]
      exact .ret ⟨rfl, .refl st⟩
  | some tr =>
      have htr : st.job .transcribing = some tr := (Option.filter_eq_some_iff.1 hleft).1
      have hleft : leftOn r.originalConnID st.transcription = true := by
        simp [leftOn, hleft]
      dsimp only
      rw [transcribingLeft, if_pos hleft, endOps_cons htr, ending_cons htr]
      refine .write ?_
      have hpub : ∀ {st₁ st' : CallState}, SameLive st₁ st' →
          Writes [] (fun res => res.2 = .ok () ∧ SameLive st₁ res.1)
            (publishJob env st' channelID (endedNow env .transcribing tr) >>= fun _ =>
              publishJob? env st' channelID st'.liveCaptions >>= fun _ =>
                pure ((st', .ok ()) : CallState × Except String Unit)) := fun hst' =>
        .perform trivial fun _ => .silent (publishJob?_silent ..)
          (Code.all_of_forall (fun _ => trivial) _) fun _ (_ : True) => .ret ⟨rfl, hst'⟩
      dsimp only
      by_cases hrun : running st.recording = true
      · obtain ⟨rec, hrec, hend⟩ := running_eq_true.1 hrun
        rw [if_pos hrun, if_pos hrun, ← List.append_nil (endOps ..)]
        refine .bind (.bind_ret (stopRecordingJob_writes 1 hrec hend ?_))
          fun st' hst' => ?_
        · exact running_of_ended (endedNow_endAt env .transcribing tr)
        · exact hpub hst'
      · rw [if_neg hrun, if_neg hrun, ending_nil]
        exact hpub (.refl _)

theorem captioningBotLeft_ends :
    EndsTypes env (captionsLeft r) (captioningBotLeft env r) := by
  intro st
  unfold captioningBotLeft
  cases hleft : st.liveCaptions.filter (leftBy r.connID) with
  | none =>
      have htypes : captionsLeft r st = [] := if_neg (by simp [leftOn, hleft])
      rw [htypes, ending_nil]
      exact .ret ⟨rfl, .refl st⟩
  | some lc =>
      have hlc : st.job .captioning = some lc := (Option.filter_eq_some_iff.1 hleft).1
      rw [captionsLeft, if_pos (by simp [leftOn, hleft]), endOps_cons hlc,
        ending_cons hlc, ending_nil]
      exact .write (.ret ⟨rfl, .refl _⟩)

theorem SameLive.endOps_eq (h : SameLive st st')
    (hrun : ∀ type ∈ types, running (st.job type) = true) :
    endOps env types st' = endOps env types st :=
  List.filterMap_congr fun type htype => by rw [h.job_of_running (hrun type htype)]

theorem transcribingLeft_running :
    ∀ type ∈ transcribingLeft r st, running (st.job type) = true := by
  intro type htype
  unfold transcribingLeft at htype
  split at htype
  next hleft =>
    rcases List.mem_cons.1 htype with rfl | htype
    · exact leftOn_running hleft
    · split at htype
      next hrun => rwa [List.mem_singleton.1 htype]
      next => cases htype
  next => cases htype

theorem captionsLeft_running :
    ∀ type ∈ captionsLeft r st, running (st.job type) = true := by
  intro type htype
  unfold captionsLeft at htype
  split at htype
  next hleft =>
    rw [List.mem_singleton.1 htype]
    exact leftOn_running hleft
  next => cases htype

/-- The same jobs end with a leave. -/
theorem SameLive.transcribingLeft_eq (h : SameLive st st') :
    transcribingLeft r st' = transcribingLeft r st := by
  have hleft : leftOn r.originalConnID st'.transcription =
      leftOn r.originalConnID st.transcription :=
    congrArg Option.isSome (h.filter_leftBy .transcribing r.originalConnID)
  have hrun : running st'.recording = running st.recording := h.running_job .recording
  rw [transcribingLeft, hleft, hrun]
  rfl

theorem SameLive.captionsLeft_eq (h : SameLive st st') :
    captionsLeft r st' = captionsLeft r st := by
  rw [captionsLeft, h.captions]
  rfl

/-- A step that ends jobs which run in a state that differs only in jobs that have
ended. -/
theorem EndsTypes.sameLive {kinds : CallState → List JobType} {g : Step}
    (h : EndsTypes env kinds g) (hsame : SameLive st st')
    (hkinds : kinds st' = kinds st)
    (hrun : ∀ type ∈ kinds st, running (st.job type) = true) :
    Writes (endOps env (kinds st) st)
      (fun res => res.2 = .ok () ∧ SameLive (st.ending env (kinds st)) res.1)
      (g st') := by
  have hst' := h st'
  rw [hkinds, hsame.endOps_eq hrun] at hst'
  exact hst'.mono fun res hres => ⟨hres.1, hsame.ending.trans hres.2⟩

/-- A step and the next. -/
theorem Writes.andThen {ops ops' : List StoreOp} {g f : Step} {R : CallState → Prop}
    {Q : CallState × Except String Unit → Prop}
    (hg : Writes ops (fun res => res.2 = .ok () ∧ R res.1) (g st))
    (hf : ∀ st', R st' → Writes ops' Q (f st')) :
    Writes (ops ++ ops') Q (g.andThen f st) := by
  refine Writes.bind hg fun res hres => ?_
  obtain ⟨st', res⟩ := res
  obtain ⟨rfl, hR⟩ := hres
  exact hf st' hR

/-- The jobs that end with a leave, before the call is written. -/
theorem botsLeft_writes {ops : List StoreOp} {f : Step}
    {Q : CallState × Except String Unit → Prop}
    (hf : ∀ st', SameLive (st.ending env (leftTypes r st)) st' → Writes ops Q (f st')) :
    Writes (endOps env (leftTypes r st) st ++ ops) Q
      (((recordingBotLeft p env r channelID).andThen <|
        (transcribingBotLeft p env r channelID).andThen <|
        (captioningBotLeft env r).andThen f) st) := by
  rw [leftTypes_eq env] at hf ⊢
  generalize hst₁ : st.ending env (recordingLeft r st) = st₁ at hf
  generalize hst₂ : st₁.ending env (transcribingLeft r st₁) = st₂ at hf
  have hops : endOps env (captionsLeft r st₂) st₂ =
      endOps env (captionsLeft r st₂) st := by
    rw [← hst₂, endOps_ending, ← hst₁, endOps_ending]
  have hops' : endOps env (transcribingLeft r st₁) st₁ =
      endOps env (transcribingLeft r st₁) st := by
    rw [← hst₁, endOps_ending]
  rw [endOps_append, endOps_append, List.append_assoc, List.append_assoc, ← hops,
    ← hops']
  refine .andThen (recordingBotLeft_ends st) fun a ha => ?_
  rw [hst₁] at ha
  refine .andThen (transcribingBotLeft_ends.sameLive ha ha.transcribingLeft_eq
    transcribingLeft_running) fun b hb => ?_
  rw [hst₂] at hb
  refine .andThen (captioningBotLeft_ends.sameLive hb hb.captionsLeft_eq
    captionsLeft_running) fun c hc => ?_
  refine hf c ?_
  rwa [ending_append, ending_append, hst₁, hst₂]

end BotLeft

/-! ## Leaves -/

/-- The writes of a leave whose session is found. -/
def leaveOps (p : Plugin) (env : Env) (st : CallState) (r : LeaveRequest) :
    List StoreOp :=
  .deleteCallSession r.originalConnID :: (endOps env (leftTypes r st) st ++
    [.updateCall (left p env r (withoutSession env r st)).call])

section Leave

variable {p : Plugin} {env : Env} {r : LeaveRequest} {channelID : String}
  {st st' : CallState}

theorem saveLeave_writes : Writes [.updateCall (left p env r st).call]
    (fun res => res.2 = .ok () ∧ res.1 = left p env r st)
    (saveLeave p env r channelID st) := by
  refine .perform trivial fun _ => ?_
  refine .silent (hostLeft_frame ..).1 (hostLeft_all ..) fun st' hst' => ?_
  subst hst'
  refine Writes.write ?_
  dsimp only
  split
  · exact .perform trivial fun _ => .ret ⟨rfl, rfl⟩
  · exact .ret ⟨rfl, rfl⟩

/-- A leave whose session is found. -/
theorem removeUserSession_writes {us : CallSession}
    (hus : st.sessions.find? r.originalConnID = some us) : Writes (leaveOps p env st r)
      (fun res => res.2 = .ok () ∧ ∃ st', SameLive
        ((withoutSession env r st).ending env (leftTypes r st)) st' ∧
          res.1 = some (left p env r st'))
      (removeUserSession p env r channelID (some st)) := by
  unfold removeUserSession
  dsimp only
  rw [hus]
  refine .bind_ret (.write ?_)
  refine .silent (screenLeft_frame ..).1 (screenLeft_all ..) fun st₁ hst₁ => ?_
  subst hst₁
  have hrest : Writes (endOps env (leftTypes r st) st ++
      [.updateCall (left p env r (withoutSession env r st)).call])
      (fun res => res.2 = .ok () ∧ ∃ st', SameLive
        ((withoutSession env r st).ending env (leftTypes r st)) st' ∧
          some res.1 = some (left p env r st'))
      (stopJobsOfLoneBot p channelID (withoutSession env r st) >>= fun _ =>
        ((recordingBotLeft p env r channelID).andThen <|
          (transcribingBotLeft p env r channelID).andThen <|
          (captioningBotLeft env r).andThen <| saveLeave p env r channelID)
          (withoutSession env r st)) := by
    refine .silent (stopJobsOfLoneBot_silent ..)
      (Code.all_of_forall (fun _ => trivial) _) fun _ (_ : True) => ?_
    refine botsLeft_writes fun st' hst' => ?_
    have hsame : SameCall (withoutSession env r st) st' := ⟨hst'.call, hst'.sessions⟩
    have hcall : (left p env r st').call =
        (left p env r (withoutSession env r st)).call :=
      (left_congr hsame).1
    rw [← hcall]
    exact saveLeave_writes.mono fun res hres =>
      ⟨hres.1, st', hst', congrArg some hres.2⟩
  dsimp only
  split
  · exact .perform trivial fun _ => hrest
  · exact hrest

/-- A leave whose session is not found. -/
theorem removeUserSession_refused {state : Option CallState} {w : Store}
    (h : ∀ st, state = some st → st.sessions.find? r.originalConnID = none) :
    ∃ e, soloBody (removeUserSession p env r channelID state) w =
    some ((state, .error e), w) := by
  unfold removeUserSession
  cases state with
  | none => exact ⟨_, rfl⟩
  | some st =>
      dsimp only
      rw [h st rfl]
      exact ⟨_, rfl⟩

end Leave

end CallsPlugin.Ports
