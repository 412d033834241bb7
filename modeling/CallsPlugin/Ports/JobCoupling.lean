import CallsPlugin.Ports.JobSessions
import CallsPlugin.Ports.JobStarts

/-!
# The jobs of a call stay coupled

What the end of a call does to its jobs, and the runs: as long as no step takes one
of the branches that end a job and forget one coupled to it, the jobs of every call
are coupled whenever the lock is free.
-/

namespace CallsPlugin.Ports

open CallsPlugin.Verified
open CallsPlugin.Ports.Public CallsPlugin.Ports.Db

/-! ## The end of a call -/

section CallEnd

variable {env : Env} {call : Call} {t : JobTable}

/-- Exactly the jobs of the list have ended. -/
theorem endJobs_wp (l : List CallJob) : ∀ {t : JobTable},
    (endJobs env call l).wp jobLogic (fun _ t' => ∀ {c type y}, ActiveJob t' c type y ↔
      ActiveJob t c type y ∧ ∀ j ∈ l, j.endAt = 0 → y.id ≠ j.id) t := by
  induction l with
  | nil => exact fun {c type y} => by simp
  | cons job rest ih =>
      intro t
      unfold endJobs
      split
      next hjob =>
        refine updateJob_wp ?_
        have hrest : (endJobs env call rest).wp jobLogic (fun _ t' => ∀ {c type y},
            ActiveJob t' c type y ↔ ActiveJob t c type y ∧
              ∀ j ∈ job :: rest, j.endAt = 0 → y.id ≠ j.id)
            (t.update { job with endAt := env.now .callEnd }) := by
          refine Code.wp_mono ih fun _ t' ht' => fun {c type y} => ?_
          rw [ht', activeJob_update_ended (env.now_pos _).ne', List.forall_mem_cons,
            and_assoc]
          exact ⟨fun h => ⟨h.1, fun _ => h.2.1, h.2.2⟩,
            fun h => ⟨h.1, h.2.1 hjob, h.2.2⟩⟩
        dsimp only
        split
        · exact quiet_wp (fun _ _ => rfl) fun _ => hrest
        · exact hrest
      next hjob =>
        refine Code.wp_mono ih fun _ t' ht' => fun {c type y} => ?_
        rw [ht', List.forall_mem_cons]
        exact ⟨fun h => ⟨h.1, fun he => absurd he hjob, h.2⟩, fun h => ⟨h.1, h.2.2⟩⟩

/-- Ending a call under the lock ends its jobs. -/
theorem cleanCallState_job_wp (hc : Coupled t) :
    (cleanCallState env call).wp jobLogic (fun _ t' => Coupled t') t := by
  unfold cleanCallState
  refine quiet_wp (fun _ _ => rfl) fun _ => ?_
  generalize (if call.endAt = 0 then setCallEnded env call else call) = call
  refine callOp_wp rfl (fun _ => rfl) fun _ => read_wp rfl fun res w hw hres => ?_
  rcases hres with ⟨e, rfl⟩ | rfl
  · exact callOp_wp rfl (updateCall_jobs call) fun _ => hc
  subst hw
  show (endJobs env call
    (env.iterJobs ([JobType.recording, .transcribing, .captioning].filterMap
    (w.getActiveCallJobs call.id))) >>= fun _ => store (.updateCall call) >>= .ret).wp
      jobLogic (fun _ t' => Coupled t') w.jobs
  refine Code.wp_bind.2 (Code.wp_mono (endJobs_wp _) fun _ t' ht' =>
    callOp_wp rfl (updateCall_jobs call) fun _ => ?_)
  -- the list has the active jobs of the call and no others
  have hmem : ∀ j, j ∈ env.iterJobs
      ([JobType.recording, .transcribing, .captioning].filterMap
      (w.getActiveCallJobs call.id)) ↔ ∃ type, ActiveJob w.jobs call.id type j := by
    intro j
    rw [(env.iterJobs_perm _).mem_iff, List.mem_filterMap]
    constructor
    · rintro ⟨type, -, hj⟩
      exact ⟨type, hc.getActiveCallJobs.1 hj⟩
    · rintro ⟨type, hj⟩
      exact ⟨type, by cases type <;> simp, hc.getActiveCallJobs.2 hj⟩
  have hends : Ends call.id w.jobs t' := by
    refine ⟨fun hy => (ht'.1 hy).1,
      fun {c type y} hne hy => ht'.2 ⟨hy, fun j hj _ hid => hne ?_⟩⟩
    obtain ⟨type', hj⟩ := (hmem j).1 hj
    rw [← hy.callID, w.jobs.eq_of_key_eq hy.mem hj.mem hid, hj.callID]
  have hnone : ∀ type, NoneActive t' call.id type := fun type y hy =>
    (ht'.1 hy).2 y ((hmem y).2 ⟨type, (ht'.1 hy).1⟩) hy.endAt rfl
  exact hc.ends hends (fun _ => hnone _) fun _ => hnone _

theorem cleanUpCall_job_wp {p : Plugin} :
    wp jobLogic false (cleanUpCall p env call) (fun h _ _ => h = false) t := by
  simp only [cleanUpCall, lockCall, unlockCall, Prog.lock_bind, Prog.ret_bind, wp_lock]
  refine ⟨fun t hc => ?_, fun _ t => by simp⟩
  simp only [if_true]
  split
  · simpa using hc
  · refine lift_job_wp (Code.wp_mono (cleanCallState_job_wp hc) fun res t' hc' => ?_)
    cases res <;> simpa using hc'

theorem cleanUpCalls_job_wp {p : Plugin} (calls : List Call) : ∀ {t : JobTable},
    wp jobLogic false (cleanUpCalls p env calls) (fun h _ _ => h = false) t := by
  induction calls with
  | nil => exact rfl
  | cons call rest ih =>
      refine wp_bind.2 (wp_mono cleanUpCall_job_wp fun h res t' hh => ?_)
      subst hh
      cases res with
      | error e => rfl
      | ok _ => exact ih

/-! ## Code without the lock -/

/-- The operation creates no job and writes none that runs. -/
def Op.OnlyEnds : Op → Prop
  | .store (.createCallJob _) => False
  | .store (.updateCallJob j) => j.endAt ≠ 0
  | _ => True

/-- Ending a job that no other needs keeps the coupling. -/
theorem CoupledBy.end_unneeded {serve : String → CallJob → CallJob → Prop} {j : CallJob}
    (hc : CoupledBy serve t) (hend : j.endAt ≠ 0) (h : Unneeded t j) :
    CoupledBy serve (t.update j) := by
  have hact : ∀ {c type y}, ActiveJob (t.update j) c type y ↔ ActiveJob t c type y ∧
      y.id ≠ j.id :=
    activeJob_update_ended hend
  by_cases hx : ∃ x ∈ t, x.id = j.id ∧ x.endAt = 0
  · obtain ⟨x, hx, hid, hxe⟩ := hx
    obtain ⟨htr, hrec⟩ := h x hx hid hxe
    have hkeep : ∀ {c type y}, ActiveJob t c type y → ¬ (c = x.callID ∧ type = x.type) →
        ActiveJob (t.update j) c type y := by
      refine fun {c type y} hy hne => hact.2 ⟨hy, fun hk => hne ?_⟩
      rw [← hy.callID, ← hy.type, t.eq_of_key_eq hy.mem hx (hk.trans hid.symm)]
      exact ⟨rfl, rfl⟩
    have hends : Ends x.callID t (t.update j) :=
      ⟨fun hy => (hact.1 hy).1, fun hc hy => hkeep hy fun e => hc e.1⟩
    refine hc.ends hends (fun hn => ?_) fun hn => ?_
    · by_cases ht : x.type = .recording
      · exact hends.noneActive (hrec ht)
      · exact hends.noneActive (hc.noneActive_transcribing fun y hy =>
          hn y (hkeep hy fun e => ht e.2.symm))
    · by_cases ht : x.type = .transcribing
      · exact hends.noneActive (htr ht)
      · exact hends.noneActive (hc.noneActive_captioning fun y hy =>
          hn y (hkeep hy fun e => ht e.2.symm))
  · -- no active row is written
    have hkeep : ∀ {c type y}, ActiveJob t c type y → ActiveJob (t.update j) c type y :=
        fun hy =>
      hact.2 ⟨hy, fun hk => hx ⟨_, hy.mem, hk, hy.endAt⟩⟩
    have hends : Ends j.callID t (t.update j) :=
      ⟨fun hy => (hact.1 hy).1, fun _ hy => hkeep hy⟩
    exact hc.ends hends (fun hn => hends.noneActive
        (hc.noneActive_transcribing fun y hy => hn y (hkeep hy)))
      fun hn => hends.noneActive (hc.noneActive_captioning fun y hy => hn y (hkeep hy))

/-- The operation writes no jobs. -/
def Op.LeavesJobs : Op → Prop
  | .store (.createCallJob _) => False
  | .store (.updateCallJob _) => False
  | _ => True

theorem Op.LeavesJobs.exec_jobs {o : Op} (ho : o.LeavesJobs) (c : Choice) (w : Store) :
    (exec c w o).2.jobs = w.jobs := by
  cases o with
  | store o =>
      rw [exec_store, attempt]
      split
      · rfl
      cases o with
      | createCallJob j => exact ho.elim
      | updateCallJob j => exact ho.elim
      | createCall c | updateCall c | createCallSession r | updateCallSession r =>
          simp only [StoreOp.exec]
          split <;> rfl
      | _ => rfl
  | _ => rfl

theorem Op.OnlyEnds.cases {o : Op} (h : o.OnlyEnds) :
    o.LeavesJobs ∨ ∃ j, o = .store (.updateCallJob j) ∧ j.endAt ≠ 0 := by
  cases o with
  | store o =>
      cases o with
      | createCallJob j => exact h.elim
      | updateCallJob j => exact .inr ⟨j, rfl, h⟩
      | _ => exact .inl trivial
  | _ => exact .inl trivial

/-- Code under the lock that writes no jobs. -/
theorem leavesJobs_wp {α : Type} {c : Body α} (h : c.Only Op.LeavesJobs)
    (hc : Coupled t) :
    c.wp jobLogic (fun _ t' => Coupled t') t := by
  induction c with
  | ret a => exact hc
  | op o k ih =>
      refine jobOp_wp fun c w hw _ _ => ?_
      rw [h.1.exec_jobs, hw]
      exact ih _ (h.2 _)

/-- Code without the lock that does no more to jobs than to end them. -/
theorem onlyEnds_wp {α : Type} {c : Body α} (h : c.Only Op.OnlyEnds) :
    ∀ {t : JobTable}, wp jobLogic false (Prog.lift c) (fun h _ _ => h = false) t := by
  induction c with
  | ret a => exact rfl
  | op o k ih =>
      refine fun {t} hd cw t' hne hall => ⟨?_, fun t'' => ih _ (h.2 _)⟩
      obtain ⟨rfl, hworks, hstay⟩ := hall
      rcases h.1.cases with hleave | ⟨j, rfl, hend⟩
      · exact .inl (hleave.exec_jobs _ _)
      · obtain ⟨rfl, hun⟩ := hstay hne
        refine .inr ⟨rfl, fun hc => ?_⟩
        show Coupled (exec cw.1 cw.2 (.store (.updateCallJob j))).2.jobs
        obtain ⟨hf, hs⟩ := hworks rfl
        rw [exec_store, hf, attempt_false, exec_updateCallJob_ok hs]
        exact CoupledBy.end_unneeded hc hend hun

theorem endJobs_onlyEnds (env : Env) (call : Call) (l : List CallJob) :
    (endJobs env call l).Only Op.OnlyEnds := by
  induction l with
  | nil => trivial
  | cons job rest ih =>
      unfold endJobs
      split
      · refine ⟨(env.now_pos _).ne', fun _ => ?_⟩
        dsimp only
        split
        · exact ⟨trivial, fun _ => ih⟩
        · exact ih
      · exact ih

theorem cleanCallState_onlyEnds (env : Env) (call : Call) :
    (cleanCallState env call).Only Op.OnlyEnds := by
  refine ⟨trivial, fun _ => ⟨trivial, fun _ => ⟨trivial, fun res => ?_⟩⟩⟩
  cases res with
  | error _ => exact ⟨trivial, fun _ => trivial⟩
  | ok jobs =>
      exact Code.Only.bind (f := fun _ => store (.updateCall _))
        (endJobs_onlyEnds _ _ _) fun _ => ⟨trivial, fun _ => trivial⟩

theorem forceEnd_onlyEnds (env : Env) (callID : String) :
    (forceEnd env callID).Only Op.OnlyEnds := by
  refine ⟨trivial, fun res => ?_⟩
  match res with
  | .error _ => trivial
  | .ok none => trivial
  | .ok (some call) =>
      refine ⟨trivial, fun _ => ?_⟩
      exact Code.Only.bind (f := fun _ => .ret ()) (cleanCallState_onlyEnds env call)
        fun _ => trivial

end CallEnd

/-! ## Requests that write no jobs -/

section LeavesJobs

variable (p : Plugin) (env : Env) (channelID : String) (state : Option CallState)

theorem updateCallOf_leavesJobs (st : CallState) :
    (updateCallOf st).Only Op.LeavesJobs := by
  refine ⟨trivial, fun res => ?_⟩
  cases res <;> trivial

/-- Storing the call and publishing what has changed. -/
theorem updateAndPublish_leavesJobs (st : CallState) (ev : WsEvent)
    (b : WebSocketBroadcast) :
    (updateCallOf st >>= fun res => match res with
      | .error e => (return .error e : Body (Except String Unit))
      | .ok _ => do
          publish ev b
          return .ok ()).Only Op.LeavesJobs := by
  refine (updateCallOf_leavesJobs st).bind fun res => ?_
  cases res with
  | error _ => trivial
  | ok _ => exact ⟨trivial, fun _ => trivial⟩

theorem screenMessage_leavesJobs (us : UserSession) (turnOn : Bool) :
    (screenMessage env us channelID turnOn state).Only Op.LeavesJobs := by
  cases state with
  | none => trivial
  | some st =>
      unfold screenMessage
      dsimp only
      split
      · trivial
      split
      · trivial
      · refine (updateCallOf_leavesJobs _).bind fun res => ?_
        cases res with
        | error _ => trivial
        | ok _ => exact tellScreen_only trivial fun _ _ => trivial

theorem sessionMessage_leavesJobs (us : UserSession) (msg : SessionMessage) :
    (sessionMessage env us channelID msg state).Only Op.LeavesJobs := by
  cases state with
  | none => trivial
  | some st =>
      unfold sessionMessage
      dsimp only
      split
      · trivial
      · refine ⟨trivial, fun res => ?_⟩
        cases res with
        | error _ => trivial
        | ok _ => exact ⟨trivial, fun _ => trivial⟩

theorem hostChanged_leavesJobs (requesterID newHostID : String) :
    (hostChanged p env requesterID channelID newHostID state).Only Op.LeavesJobs := by
  cases state with
  | none => trivial
  | some st =>
      unfold hostChanged
      dsimp only
      split
      · trivial
      split
      · trivial
      split
      · split
        · exact updateCallOf_leavesJobs _
        · trivial
      split
      · trivial
      · exact updateAndPublish_leavesJobs _ _ _

theorem notificationDismissed_leavesJobs (userID : String) :
    (notificationDismissed userID state).Only Op.LeavesJobs := by
  cases state with
  | none => trivial
  | some st =>
      refine (updateCallOf_leavesJobs _).bind fun res => ?_
      cases res with
      | error _ => trivial
      | ok _ => exact ⟨trivial, fun _ => trivial⟩

end LeavesJobs

/-! ## Runs -/

/-- The requests of a run without reconnections: every session leaves on the connection
it joined with. -/
def Handler.WithoutReconnect : Handler → Prop
  | .leave l => l.req.connID = l.req.originalConnID
  | .leaveBatch ls => ∀ l ∈ ls, l.req.connID = l.req.originalConnID
  | .botReconnect _ _ => False
  | .view _ => False
  | _ => True

/-- Every such request keeps the coupling. -/
theorem withoutReconnect_wp {h : Handler} (hh : h.WithoutReconnect) (p : Plugin)
    (env : Env) (channelID : String) (t : JobTable) :
    wp jobLogic false (h.code p env channelID) (fun h _ _ => h = false) t := by
  have hdrop : ∀ {α : Type} {c : P α}, wp jobLogic false c (fun h _ _ => h = false) t →
      wp jobLogic false (c >>= fun _ => Prog.ret ()) (fun h _ _ => h = false) t :=
    fun hc =>
    wp_bind.2 (wp_mono hc fun _ _ _ hq => wp_ret.2 hq)
  cases h with
  | join j =>
      exact hdrop (underLock_job_wp fun t state hc hst => Code.wp_bind.2 (Code.wp_mono
        (addSessionToCall_job_wp ⟨hc, fun st h => .inl (by subst h; exact hst)⟩)
          fun _ _ h => h.1))
  | joinBatch js =>
      exact hdrop (underLock_job_wp fun t state hc hst =>
        addSessionsToCall_job_wp js ⟨hc, fun st h => .inl (by subst h; exact hst)⟩)
  | leave l =>
      exact hdrop (underLock_job_wp fun t state hc hst => Code.wp_bind.2 (Code.wp_mono
        (removeUserSession_job_wp hh
          ⟨hc, fun st h => Fresh.tracks (by subst h; exact hst)⟩)
        fun _ _ h => h.1))
  | leaveBatch ls =>
      exact hdrop (underLock_job_wp fun t state hc hst =>
        removeSessionsFromCall_job_wp ls hh
        ⟨hc, fun st h => Fresh.tracks (by subst h; exact hst)⟩)
  | screen us turnOn =>
      refine hdrop ?_
      unfold handleClientMessageTypeScreen
      split
      · rfl
      · exact underLock_job_wp fun _ state hc _ =>
          leavesJobs_wp (screenMessage_leavesJobs env channelID state us turnOn) hc
  | session us msg =>
      exact hdrop (underLock_job_wp fun _ state hc _ =>
        leavesJobs_wp (sessionMessage_leavesJobs env channelID state us msg) hc)
  | changeHost requesterID newHostID =>
      exact hdrop (underLock_job_wp fun _ state hc _ =>
        leavesJobs_wp (hostChanged_leavesJobs p env channelID state requesterID
          newHostID) hc)
  | hostEnd requesterID =>
      refine hdrop (underLock_job_wp fun _ state hc _ => ?_)
      cases state with
      | none => exact hc
      | some st =>
          dsimp only
          split
          · exact hc
          · exact quiet_wp (fun _ _ => rfl) fun _ => hc
  | forceEnd callID => exact onlyEnds_wp (forceEnd_onlyEnds env callID)
  | dismissNotification userID =>
      exact hdrop (underLock_job_wp fun _ state hc _ =>
        leavesJobs_wp (notificationDismissed_leavesJobs state userID) hc)
  | callStateRequest userID connID =>
      refine hdrop (underLock_job_wp fun _ state hc _ => ?_)
      cases state with
      | none => exact hc
      | some st => exact quiet_wp (fun _ _ => rfl) fun _ => hc
  | botReconnect connID prevConnID => exact hh.elim
  | recordingAction recordingsAllowed userID action =>
      exact hdrop handleRecordingAction_wp
  | recordingTimeout jobID =>
      exact hdrop (underLock_job_wp fun _ _ hc hst => recJobTimedOut_wp hc hst)
  | transcriptionTimeout jobID =>
      exact hdrop (underLock_job_wp fun _ _ hc hst =>
        transcriptionJobTimedOut_wp hc hst)
  | jobStatus jobID status =>
      refine hdrop (wp_bind.2 (wp_mono
        (underLock_job_wp fun _ _ hc hst => botPostedJobsStatus_wp hc hst)
          fun h res _ hh => ?_))
      cases res <;> simpa using hh
  | cleanUp =>
      refine hdrop (fun _ cw _ _ hall => ⟨.inl ?_, fun _ => ?_⟩)
      · have hsame : (exec cw.1 cw.2 (.store .getAllActiveCalls)).2.jobs = cw.2.jobs :=
          Op.LeavesJobs.exec_jobs (o := .store .getAllActiveCalls) trivial _ _
        exact hsame.trans hall.1
      · show wp jobLogic false
            (match (exec cw.1 cw.2 (.store .getAllActiveCalls)).1 with
          | .error e => (return .error ("failed to get all active calls: " ++ e) : P _)
          | .ok calls => cleanUpCalls p env (calls.filter fun call => call.channelID =
              channelID)) _ _
        cases (exec cw.1 cw.2 (.store .getAllActiveCalls)).1 with
        | error e => rfl
        | ok calls => exact cleanUpCalls_job_wp _
  | view body => exact hh.elim

section Runs

variable {T N : Type} [DecidableEq T] [DecidableEq N]

/-- No write fails, no step ends a job and forgets one coupled to it, and nobody
releases a lock that another holds. -/
def KeepsCoupled (node : T → N) (_ : List (Event T Choice))
    (s : Sys Op Op.Resp Store T N) (t : T) (a : Act Choice) : Prop :=
  (∀ c o k, a = .op c → s.code t = .op o k →
    WriteSucceeds c s.world o ∧ StaysCoupled (s.holder t) s.world.jobs o) ∧
  (a = .unlock → s.owner = some t ∨ s.inner (node t) = none)

/-- In every run of requests without reconnections whose steps all stay off the branches
that forget a job: whenever the lock is free, a call has at most one active job of
each type, captions only with a transcription, and a transcription only with a
recording. -/
theorem coupled_of_runs (node : T → N) (p : T → Plugin) (env : T → Env)
    (channelID : String) (store : Store) (h : T → Handler)
    (hh : ∀ t, (h t).WithoutReconnect) (h0 : Coupled store.jobs)
    {tr : List (Event T Choice)} {s : Sys Op Op.Resp Store T N}
    (hr : Runs exec node (KeepsCoupled node) (requests p env channelID store h) tr s)
    (hfree : s.owner = none) (callID : String) :
    (∀ type j j', ActiveJob s.world.jobs callID type j →
      ActiveJob s.world.jobs callID type j' →
      j = j') ∧
    (∀ lc, ActiveJob s.world.jobs callID .captioning lc →
      ∃ tr, ActiveJob s.world.jobs callID .transcribing tr) ∧
    ∀ tr, ActiveJob s.world.jobs callID .transcribing tr →
      ∃ r, ActiveJob s.world.jobs callID .recording r := by
  obtain ⟨tr', hv⟩ := hr.view Store.jobs
  have hu : ((requests p env channelID store h : Sys Op Op.Resp Store T N).view
      Store.jobs).Unlocked := ⟨fun _ => rfl, rfl, fun _ => rfl⟩
  have hok := hv.monitor (L := jobLogic) (m := fun _ => jobLogic.terms)
      (Sys.OkFor.start hu h0 fun t w =>
      withoutReconnect_wp (hh t) (p t) (env t) channelID w)
    (fun _ v t c o k hok hk => ?_) (fun _ _ _ _ => trivial) (fun _ _ v t hok => ?_)
  · have hc : Coupled s.world.jobs := hok.free hfree
    exact ⟨fun type j j' => hc.unique, fun lc hlc => (hc.captions hlc).imp fun _ h =>
      h.1, fun tr htr => hc.transcription htr⟩
  · obtain ⟨_, s, a, rfl, ha, hok⟩ := hok
    cases a with
    | op c' =>
        cases ha
        exact ⟨rfl, hok.1 c' o k rfl hk⟩
    | _ => cases ha
  · obtain ⟨_, s, a, rfl, ha, hok⟩ := hok
    cases a with
    | unlock => exact hok.2 rfl
    | _ => cases ha

end Runs

/-! ## Instances -/

/-- A job of the sample call whose bot has not joined. -/
def startingJob (id : String) (type : JobType) : CallJob :=
  ⟨id, "call", type, "alice", 10, 0, 0, ⟨"job", "", ""⟩⟩

/-- The sample call with a recording, a transcription and captions that are starting. -/
def startingStore : Store where
  calls := sampleStore.calls
  sessions := sampleStore.sessions
  jobs := ⟨[startingJob "rec" .recording, startingJob "tr" .transcribing,
    startingJob "lc" .captioning], by decide⟩

theorem startingStore_active {c : String} {type : JobType} {j : CallJob} :
    ActiveJob startingStore.jobs c type j ↔ c = "call" ∧ match type with
      | .recording => j = startingJob "rec" .recording
      | .transcribing => j = startingJob "tr" .transcribing
      | .captioning => j = startingJob "lc" .captioning := by
  constructor
  · rintro ⟨hj, rfl, rfl, -⟩
    rcases List.mem_cons.1 hj with rfl | hj
    · exact ⟨rfl, rfl⟩
    rcases List.mem_cons.1 hj with rfl | hj
    · exact ⟨rfl, rfl⟩
    obtain rfl := List.mem_singleton.1 hj
    exact ⟨rfl, rfl⟩
  · rintro ⟨rfl, hj⟩
    cases type <;> subst hj <;>
      exact ⟨by simp [startingStore, Table.mem_def], rfl, rfl, rfl⟩

theorem startingStore_coupled : Coupled startingStore.jobs where
  unique {c type j j'} hj hj' := by
    have hj := (startingStore_active.1 hj).2
    have hj' := (startingStore_active.1 hj').2
    cases type <;> exact hj.trans hj'.symm
  captions hlc := by
    obtain ⟨rfl, rfl⟩ := startingStore_active.1 hlc
    exact ⟨_, startingStore_active.2 ⟨rfl, rfl⟩, rfl, fun _ => rfl⟩
  transcription htr := by
    obtain ⟨rfl, -⟩ := startingStore_active.1 htr
    exact ⟨_, startingStore_active.2 ⟨rfl, rfl⟩⟩

/-- A check that every store call of a step succeeds. -/
def checkStoreWorks {T : Type} (_ : List (Event T Choice))
    (s : Sys Op Op.Resp Store T Unit) (t : T) (a : Act Choice) : Bool :=
  match a, s.code t with
  | .op c, .op (.store o) _ => !c.storeFails && (o.exec s.world).1.isOk
  | .op c, .op _ _ => !c.storeFails
  | _, _ => true

/-- Every store call of the step succeeds. -/
def StoreWorks {T N : Type} (_ : List (Event T Choice)) (s : Sys Op Op.Resp Store T N)
    (t : T) (a : Act Choice) : Prop :=
  ∀ c o k, a = .op c → s.code t = .op o k → c.storeFails = false ∧ Succeeds s.world o

theorem storeWorks_of_check {T : Type} (tr : List (Event T Choice))
    (s : Sys Op Op.Resp Store T Unit) (t : T) (a : Act Choice)
    (h : checkStoreWorks tr s t a = true) : StoreWorks tr s t a := by
  rintro c o k rfl hk
  cases o with
  | store o =>
      simp only [checkStoreWorks, hk, Bool.and_eq_true, Bool.not_eq_true'] at h
      refine ⟨h.1, ?_⟩
      cases hres : (o.exec s.world).1 with
      | error e => simp [hres, Except.isOk, Except.toBool] at h
      | ok a => exact ⟨a, hres⟩
  | _ =>
      simp only [checkStoreWorks, hk, Bool.not_eq_true'] at h
      exact ⟨h, trivial⟩

/-- A check that the only thread keeps the coupling: it holds the lock when it writes a
job or releases, and passes no `Point` but that of a recording's time-out. -/
def checkKeepsCoupled (tr : List (Event Unit Choice))
    (s : Sys Op Op.Resp Store Unit Unit) (t : Unit) (a : Act Choice) : Bool :=
  checkStoreWorks tr s t a &&
  match a, s.code t with
  | .op _, .op (.store (.updateCallJob _)) _ => s.owner = some t
  | .op _, .op (.reach (.startTimedOut .recording _)) _ => true
  | .op _, .op (.reach _) _ => false
  | .unlock, _ => s.owner = some t
  | _, _ => true

theorem keepsCoupled_of_check (tr : List (Event Unit Choice))
    (s : Sys Op Op.Resp Store Unit Unit)
    (t : Unit) (a : Act Choice) (h : checkKeepsCoupled tr s t a = true) :
    KeepsCoupled id tr s t a := by
  obtain ⟨hworks, h⟩ := Bool.and_eq_true_iff.1 h
  refine ⟨fun c o k ha hk => ?_, fun ha => ?_⟩
  · obtain ⟨hf, hs⟩ := storeWorks_of_check tr s t a hworks c o k ha hk
    refine ⟨?_, ?_⟩
    · cases o with
      | store o => exact fun _ => ⟨hf, hs⟩
      | _ => trivial
    subst ha
    rw [hk] at h
    match o with
    | .store (.updateCallJob j) =>
        exact fun hne => absurd (if_pos (of_decide_eq_true h)) hne
    | .reach (.startTimedOut .recording _) => trivial
    | .store (.getCall _) | .store (.getActiveCallByChannelID _)
    | .store .getAllActiveCalls
    | .store (.getCallSessions _) | .store (.getCallSessionsCount _)
    | .store (.getActiveCallJobs _) | .store (.createCall _) | .store (.updateCall _)
    | .store (.createCallSession _) | .store (.updateCallSession _)
    | .store (.deleteCallSession _) | .store (.deleteCallsSessions _) | .store
        (.createCallJob _)
    | .runJob _ _ _ _ | .stopJob _ _ _ _ | .updateCallPostEnded _ _ | .publish _ _
    | .sendEphemeralPost _ _ _ => trivial
  · subst ha
    exact .inl (of_decide_eq_true h)

/-- The recording bot of the sample call does not join in time. -/
theorem coupled_of_recordingTimeout : ∃ (tr : List (Event Unit Choice))
    (s : Sys Op Op.Resp Store Unit Unit),
    Runs exec id (KeepsCoupled id)
      (requests (fun _ => .sample) (fun _ => .sample 20) "chan"
      startingStore fun _ => .recordingTimeout "job") tr s ∧ s.owner = none ∧
    (s.world.jobs.rows.map CallJob.endAt = [20, 20, 20]) ∧
    ∀ lc, ActiveJob s.world.jobs "call" .captioning lc →
      ∃ tr, ActiveJob s.world.jobs "call" .transcribing tr := by
  have hsched : ((requests (fun _ => .sample) (fun _ => .sample 20) "chan" startingStore
      fun _ : Unit => .recordingTimeout "job").sched exec id checkKeepsCoupled []
      (inTurn () 11 Choice.works)).map
        (fun r => (r.2.owner, r.2.world.jobs.rows.map CallJob.endAt)) =
        some (none, [20, 20, 20]) := by
    decide
  obtain ⟨tr, s, hr, hf⟩ := Runs.exists_of_sched keepsCoupled_of_check hsched
  obtain ⟨hfree, hends⟩ := Prod.mk.inj hf
  exact ⟨tr, s, hr, hfree, hends, (coupled_of_runs id _ _ "chan" startingStore
    (fun _ => .recordingTimeout "job") (fun _ => trivial) startingStore_coupled hr
      hfree "call").2.1⟩

/-- The transcribing bot does not join in time: the transcribing job is written as ended
twice, and the captioning job stays active. -/
theorem uncoupled_of_transcriptionTimeout : Coupled startingStore.jobs ∧
    ∃ (tr : List (Event Unit Choice)) (s : Sys Op Op.Resp Store Unit Unit),
      Runs exec id StoreWorks (requests (fun _ => .sample) (fun _ => .sample 20) "chan"
        startingStore fun _ => .transcriptionTimeout "job") tr s ∧ s.owner = none ∧
      (∃ lc, ActiveJob s.world.jobs "call" .captioning lc) ∧
      ¬ ∃ tr, ActiveJob s.world.jobs "call" .transcribing tr := by
  have hsched : ((requests (fun _ => .sample) (fun _ => .sample 20) "chan" startingStore
      fun _ : Unit => .transcriptionTimeout "job").sched exec id checkStoreWorks []
      (inTurn () 11 Choice.works)).map
      (fun r => (r.2.owner, r.2.world.jobs.rows.map fun j =>
          (j.callID, j.type, j.endAt))) =
        some (none, [("call", .recording, 20), ("call", .transcribing, 20),
          ("call", .captioning, 0)]) := by
    decide
  obtain ⟨tr, s, hr, hf⟩ := Runs.exists_of_sched storeWorks_of_check hsched
  obtain ⟨hfree, hrows⟩ := Prod.mk.inj hf
  refine ⟨startingStore_coupled, tr, s, hr, hfree, ?_, ?_⟩
  · have hlc : ("call", JobType.captioning, (0 : Int)) ∈ s.world.jobs.rows.map
        fun j => (j.callID, j.type, j.endAt) := by
      rw [hrows]
      simp
    obtain ⟨lc, hlc, he⟩ := List.mem_map.1 hlc
    simp only [Prod.mk.injEq] at he
    exact ⟨lc, hlc, he.1, he.2.1, he.2.2⟩
  · rintro ⟨j, hj⟩
    have hmem : (j.callID, j.type, j.endAt) ∈ s.world.jobs.rows.map
        fun j => (j.callID, j.type, j.endAt) := List.mem_map.2 ⟨j, hj.mem, rfl⟩
    rw [hrows, hj.type, hj.endAt] at hmem
    simp at hmem

end CallsPlugin.Ports
