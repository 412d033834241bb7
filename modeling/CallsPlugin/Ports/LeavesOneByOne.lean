import CallsPlugin.Ports.Convergence
import CallsPlugin.Ports.LeaveWrites

/-!
# Leaves in a batch and one by one

The state that a batch of leaves passes on in memory keeps the jobs that have ended,
which a state read from the store does not have.  The only write that depends on them is
that of captions which end a second time, and it changes nothing but the time of their
end (`Store.untimed`).  A batch of leaves therefore does what the leaves do one after
another, up to these times.
-/

namespace CallsPlugin.Ports

open CallsPlugin.Verified
open CallsPlugin.Ports.Public CallsPlugin.Ports.Db

/-! ## Stores up to the ends of captions -/

/-- The job with all times of an end made one, if it is one of captions. -/
def untimedJob (j : CallJob) : CallJob :=
  { j with endAt := if j.type = .captioning ∧ j.endAt ≠ 0 then 1 else j.endAt }

/-- The table with all times of an end of captions made one. -/
def JobTable.untimed (t : JobTable) : JobTable :=
  ⟨t.rows.map untimedJob, by
    rw [List.map_map]
    exact t.nodup⟩

/-- The store with all times of an end of captions made one. -/
def untimed (w : Store) : Store := { w with jobs := JobTable.untimed w.jobs }

section Untimed

variable {w w' : Store} {j : CallJob}

theorem untimedJob_of_running (h : j.endAt = 0) : untimedJob j = j := by
  unfold untimedJob
  rw [if_neg fun hend => hend.2 h]

@[simp] theorem untimedJob_endAt : (untimedJob j).endAt = 0 ↔ j.endAt = 0 := by
  unfold untimedJob
  dsimp only
  split <;> simp_all

@[simp] theorem untimedJob_untimedJob : untimedJob (untimedJob j) = untimedJob j := by
  unfold untimedJob
  dsimp only
  split <;> simp

theorem JobTable.untimed_untimed (t : JobTable) :
    JobTable.untimed (JobTable.untimed t) = JobTable.untimed t :=
  Table.ext (by
    show (t.rows.map untimedJob).map untimedJob = t.rows.map untimedJob
    rw [List.map_map]
    exact List.map_congr_left fun j _ => untimedJob_untimedJob)

/-- Jobs that have not ended are read as before. -/
theorem untimed_getActiveCallJobs (callID : String) (type : JobType) :
    (untimed w).getActiveCallJobs callID type = w.getActiveCallJobs callID type := by
  have hselect : (JobTable.untimed w.jobs).select
      (fun j => j.callID = callID ∧ j.endAt = 0) =
      w.jobs.select fun j => j.callID = callID ∧ j.endAt = 0 := by
    show (w.jobs.rows.map untimedJob).filter _ = w.jobs.rows.filter _
    rw [List.filter_map]
    have hsame : ∀ j ∈ w.jobs.rows.filter
        ((fun j : CallJob => decide (j.callID = callID ∧ j.endAt = 0)) ∘ untimedJob),
        untimedJob j = id j := fun j hj => by
      have hend := (of_decide_eq_true (List.mem_filter.1 hj).2).2
      exact untimedJob_of_running (untimedJob_endAt.1 hend)
    rw [List.map_congr_left hsame, List.map_id]
    refine List.filter_congr fun j _ => ?_
    exact decide_eq_decide.2 (and_congr Iff.rfl untimedJob_endAt)
  unfold Store.getActiveCallJobs
  exact congrArg (fun rows : List CallJob => (rows.insertionSort jobByStartAt).find? _)
    hselect

theorem untimed_storedState (channelID : String) :
    storedState (untimed w) channelID = storedState w channelID := by
  unfold storedState stateOfCall
  simp only [untimed_getActiveCallJobs]
  rfl

/-- Writing a job up to the times at which captions have ended. -/
theorem JobTable.untimed_update (t : JobTable) (j : CallJob) :
    JobTable.untimed ((JobTable.untimed t).update j) =
    JobTable.untimed (t.update j) := by
  refine Table.ext ?_
  show ((t.rows.map untimedJob).map _).map untimedJob = (t.rows.map _).map untimedJob
  rw [List.map_map, List.map_map, List.map_map]
  refine List.map_congr_left fun r _ => ?_
  have hid : (untimedJob r).id = r.id := rfl
  dsimp only [Function.comp]
  rw [hid]
  split
  · rfl
  · exact untimedJob_untimedJob

/-- The writes of a leave. -/
def OfLeave : StoreOp → Prop
  | .deleteCallSession _ | .updateCallJob _ | .updateCall _ => True
  | _ => False

theorem untimed_storeAfter {o : StoreOp} (ho : OfLeave o) :
    (storeAfter o (untimed w)).map untimed = (storeAfter o w).map untimed := by
  have hjobs := JobTable.untimed_untimed w.jobs
  cases o with
  | deleteCallSession id =>
      have hdelete : untimed ((untimed w).deleteCallSession id) =
          untimed (w.deleteCallSession id) :=
        congrArg (Store.mk w.calls (w.sessions.erase id)) hjobs
      exact congrArg some hdelete
  | updateCallJob j =>
      unfold storeAfter
      simp only [StoreOp.exec]
      cases j.isValid with
      | error e => rfl
      | ok _ =>
          exact congrArg (fun t => some (Store.mk w.calls w.sessions t))
            (JobTable.untimed_update w.jobs j)
  | updateCall c =>
      have hupdate : untimed ((untimed w).updateCall c) = untimed (w.updateCall c) :=
        congrArg (Store.mk (w.updateCall c).calls w.sessions) hjobs
      unfold storeAfter
      simp only [StoreOp.exec]
      cases c.isValid with
      | error e => rfl
      | ok _ => exact congrArg some hupdate
  | _ => exact ho.elim

/-- The writes of a leave on stores that differ at most in the ends of captions. -/
theorem storeAfterAll_untimed {ops : List StoreOp} (hops : ∀ o ∈ ops, OfLeave o)
    (h : untimed w = untimed w') :
    (storeAfterAll ops w).map untimed = (storeAfterAll ops w').map untimed := by
  induction ops generalizing w w' with
  | nil => exact congrArg some h
  | cons o ops ih =>
      obtain ⟨ho, hops⟩ := List.forall_mem_cons.1 hops
      have hone : (storeAfter o w).map untimed = (storeAfter o w').map untimed := by
        rw [← untimed_storeAfter ho, h, untimed_storeAfter ho]
      rw [storeAfterAll_cons, storeAfterAll_cons]
      cases hw : storeAfter o w with
      | none =>
          rw [hw, Option.map_none, eq_comm, Option.map_eq_none_iff] at hone
          rw [hone]
      | some v =>
          rw [hw, Option.map_some] at hone
          obtain ⟨v', hw', hv⟩ := Option.map_eq_some_iff.1 hone.symm
          rw [hw']
          exact ih hops hv.symm

end Untimed

/-! ## Ending a job again -/

/-- The job is one of captions, and ending it changes nothing but the time of its
end. -/
structure EndedAgain (t : JobTable) (j : CallJob) : Prop where
  valid : j.isValid = .ok ()
  captions : ∀ r ∈ t, r.id = j.id → r.type = .captioning
  same : ∀ j', j'.id = j.id → j'.startAt = j.startAt → j'.props = j.props →
    j'.endAt ≠ 0 → JobTable.untimed (t.update j') = JobTable.untimed t

/-- Captions that have ended in memory have been written. -/
def CaptionsEnded (t : JobTable) (st : CallState) : Prop :=
  ∀ lc, st.liveCaptions = some lc → lc.endAt ≠ 0 → EndedAgain t lc

section EndedAgain

variable {t : JobTable} {i j : CallJob}

theorem JobTable.update_comm (h : i.id ≠ j.id) :
    (t.update i).update j = (t.update j).update i := by
  refine Table.ext ?_
  show (t.rows.map _).map _ = (t.rows.map _).map _
  rw [List.map_map, List.map_map]
  refine List.map_congr_left fun r _ => ?_
  dsimp only [Function.comp]
  by_cases hi : r.id = i.id
  · simp [hi, h, Store.setJob_id]
  · by_cases hj : r.id = j.id
    · simp [hj, h.symm, Store.setJob_id]
    · simp [hi, hj]

/-- Writing a job leaves the types of jobs. -/
theorem captions_update (h : ∀ r ∈ t, r.id = j.id → r.type = .captioning) :
    ∀ r ∈ t.update i, r.id = j.id → r.type = .captioning := by
  intro r hr hid
  obtain ⟨x, hx, rfl⟩ := (Table.mem_modify (Store.setJob_id · i)).1 hr
  have hxid : x.id = j.id := by
    split at hid <;> exact hid
  have htype := h x hx hxid
  split <;> exact htype

/-- Captions that have just been ended. -/
theorem EndedAgain.of_update (hv : j.isValid = .ok ()) (hend : j.endAt ≠ 0)
    (hcaptions : ∀ r ∈ t, r.id = j.id → r.type = .captioning) :
    EndedAgain (t.update j) j := by
  refine ⟨hv, captions_update hcaptions, fun j' hid hstart hprops hend' => Table.ext ?_⟩
  show ((t.rows.map _).map _).map untimedJob = (t.rows.map _).map untimedJob
  rw [List.map_map, List.map_map, List.map_map]
  refine List.map_congr_left fun r hmem => ?_
  dsimp only [Function.comp]
  by_cases hr : r.id = j.id
  · have htype : r.type = .captioning := hcaptions r hmem hr
    have hends : untimedJob (Store.setJob (Store.setJob r j) j') =
        untimedJob (Store.setJob r j) := by
      simp [untimedJob, Store.setJob, hend, hend', hstart, hprops, htype]
    simpa [hr, hid, Store.setJob_id] using hends
  · simp [hr, hid]

/-- Writing another job. -/
theorem EndedAgain.update_of_ne (h : EndedAgain t j) (hne : i.id ≠ j.id) :
    EndedAgain (t.update i) j := by
  refine ⟨h.valid, captions_update h.captions, fun j' hid hstart hprops hend => ?_⟩
  rw [JobTable.update_comm fun he => hne (he.trans hid), ← JobTable.untimed_update,
    h.same j' hid hstart hprops hend, JobTable.untimed_update]

end EndedAgain

/-! ## The state without the jobs that have ended -/

/-- The jobs that a state read from the store has. -/
def CallState.live (st : CallState) : CallState :=
  { st with
    recording := st.recording.filter fun j => j.endAt = 0
    transcription := st.transcription.filter fun j => j.endAt = 0
    liveCaptions := st.liveCaptions.filter fun j => j.endAt = 0 }

section Live

variable {env : Env} {r : LeaveRequest} {channelID : String} {st : CallState}
  {w w' : Store} {types : List JobType} {type : JobType}

theorem live_job (type : JobType) :
    st.live.job type = (st.job type).filter fun j => j.endAt = 0 := by
  cases type <;> rfl

theorem leftOn_live (connID : String) (job : Option CallJob) :
    leftOn connID (job.filter fun j => j.endAt = 0) = leftOn connID job := by
  unfold leftOn
  cases job with
  | none => rfl
  | some j => by_cases h : j.endAt = 0 <;> simp [Option.filter, leftBy, h]

theorem running_live (job : Option CallJob) :
    running (job.filter fun j => j.endAt = 0) = running job := by
  unfold running
  cases job with
  | none => rfl
  | some j => by_cases h : j.endAt = 0 <;> simp [Option.filter, h]

/-- The same jobs end with a leave. -/
theorem leftTypes_live : leftTypes r st.live = leftTypes r st := by
  unfold leftTypes captionsLeft CallState.live
  simp only [leftOn_live, running_live]

/-- The jobs that end with a leave run, but for captions that end again. -/
theorem leftTypes_running :
    ∀ type ∈ leftTypes r st, running (st.job type) = true ∨ type = .captioning := by
  intro type htype
  have hcaptions : type ∈ captionsLeft r st → running (st.job type) = true :=
    captionsLeft_running type
  unfold leftTypes at htype
  split at htype
  next hrec =>
    rcases List.mem_cons.1 htype with rfl | htype
    · exact .inl (leftOn_running hrec)
    · split at htype
      next htr =>
        rcases List.mem_cons.1 htype with rfl | htype
        · exact .inl htr
        · exact .inr (List.mem_singleton.1 htype)
      next => exact .inl (hcaptions htype)
  next =>
    split at htype
    next htr =>
      rcases List.mem_cons.1 htype with rfl | htype
      · exact .inl (leftOn_running htr)
      rcases List.mem_append.1 htype with htype | htype
      · split at htype
        next hrun =>
          rw [List.mem_singleton.1 htype]
          exact .inl hrun
        next => cases htype
      · exact .inl (hcaptions htype)
    next => exact .inl (hcaptions htype)

/-- What is active is the job in memory that runs. -/
theorem Tracks.getActiveCallJobs (h : Tracks w.jobs st) (type : JobType) :
    w.getActiveCallJobs st.call.id type = st.live.job type := by
  rw [live_job]
  cases hget : w.getActiveCallJobs st.call.id type with
  | some x =>
      obtain ⟨hmem, hcall, hend, htype⟩ := Store.getActiveCallJobs_eq_some hget
      rw [h.settled type x ⟨hmem, hcall, htype, hend⟩]
      simp [Option.filter, hend]
  | none =>
      refine (Option.filter_eq_none_iff.2 fun j hj hend => ?_).symm
      have hact : ActiveJob w.jobs st.call.id type j := by
        have hm := h.mirrors type
        rw [hj] at hm
        exact hm.active (of_decide_eq_true hend)
      exact Store.getActiveCallJobs_eq_none.1 hget j hact.mem hact.callID
        hact.endAt hact.type

/-- The jobs of a state have different ids. -/
theorem StateMirrors.id_ne {t : JobTable} (h : StateMirrors t st) {type' : JobType}
    {i j : CallJob} (hne : type ≠ type') (hi : st.job type = some i)
    (hj : st.job type' = some j) : i.id ≠ j.id := by
  obtain ⟨-, -, x, hx, hxid, -, hxt, -⟩ := (h type).row i hi
  obtain ⟨-, -, y, hy, hyid, -, hyt, -⟩ := (h type').row j hj
  intro hid
  have hsame := t.eq_of_key_eq hx hy (hxid.trans (hid.trans hyid.symm))
  exact hne (hxt.symm.trans ((congrArg CallJob.type hsame).trans hyt))

/-- Ending jobs, in the store and in memory. -/
theorem endOps_stored : ∀ (types : List JobType) (st : CallState) (w : Store),
    StateMirrors w.jobs st → CaptionsEnded w.jobs st →
      storeAfterAll (endOps env types st) w = some w' →
        w'.calls = w.calls ∧ w'.sessions = w.sessions ∧
          Stopped w.jobs w'.jobs st (st.ending env types) ∧
            CaptionsEnded w'.jobs (st.ending env types)
  | [], st, w, hm, hc, hw => by
      cases hw
      rw [ending_nil]
      exact ⟨rfl, rfl, .refl hm, hc⟩
  | type :: types, st, w, hm, hc, hw => by
      cases hj : st.job type with
      | none =>
          have hops : endOps env (type :: types) st = endOps env types st := by
            simp [endOps, hj]
          have hstate : st.ending env ([type] ++ types) = st.ending env types := by
            rw [ending_append, ending_of_none hj]
          rw [hops] at hw
          show w'.calls = w.calls ∧ w'.sessions = w.sessions ∧
            Stopped w.jobs w'.jobs st (st.ending env ([type] ++ types)) ∧
              CaptionsEnded w'.jobs (st.ending env ([type] ++ types))
          rw [hstate]
          exact endOps_stored types st w hm hc hw
      | some j =>
          rw [endOps_cons hj, storeAfterAll_cons] at hw
          rw [ending_cons hj]
          obtain ⟨w₁, hw₁, hw⟩ := Option.bind_eq_some_iff.1 hw
          obtain ⟨hv, rfl⟩ := storeAfter_updateCallJob.1 hw₁
          have hend := endedNow_endAt env type j
          obtain ⟨hst, -⟩ :=
            hm.endJob type (endedNow env type j) hj ⟨rfl, rfl, rfl⟩ hend
          have hc' : CaptionsEnded (JobTable.update w.jobs (endedNow env type j))
              (st.withJob type (endedNow env type j)) := by
            intro lc hlc hlcend
            have hlc : (st.withJob type (endedNow env type j)).job .captioning =
                some lc := hlc
            by_cases htype : JobType.captioning = type
            · subst htype
              rw [withJob_job_self] at hlc
              cases hlc
              refine .of_update hv hend fun r hr hid => ?_
              obtain ⟨-, -, x, hx, hxid, -, hxtype, -⟩ := (hm .captioning).row j hj
              rw [Table.eq_of_key_eq _ hr hx (hid.trans hxid.symm), hxtype]
            · rw [withJob_job_of_ne _ _ htype] at hlc
              have hne : j.id ≠ lc.id := hm.id_ne (Ne.symm htype) hj hlc
              exact (hc lc hlc hlcend).update_of_ne hne
          obtain ⟨hcalls, hsessions, hst', hc''⟩ :=
            endOps_stored types _ (w.updateCallJob (endedNow env type j))
              hst.mirrors hc' hw
          exact ⟨hcalls, hsessions, hst.trans hst', hc''⟩

theorem endOps_ofLeave : ∀ o ∈ endOps env types st, OfLeave o := by
  intro o ho
  obtain ⟨type, -, htype⟩ := List.mem_filterMap.1 ho
  obtain ⟨j, -, rfl⟩ := Option.map_eq_some_iff.1 htype
  trivial

/-- Without the jobs that have ended the same is stored, up to the times at which
captions have ended. -/
theorem endOps_live {types : List JobType}
    (hrun : ∀ type ∈ types, running (st.job type) = true ∨ type = .captioning)
    (hids : ∀ type j lc, type ≠ .captioning → st.job type = some j →
      st.liveCaptions = some lc → j.id ≠ lc.id) (hc : CaptionsEnded w.jobs st) :
    (storeAfterAll (endOps env types st) w).map untimed =
      (storeAfterAll (endOps env types st.live) w).map untimed := by
  induction types generalizing w with
  | nil => rfl
  | cons type types ih =>
      obtain ⟨hrunning, hrest⟩ := List.forall_mem_cons.1 hrun
      cases hj : st.job type with
      | none =>
          have hlive : st.live.job type = none := by
            rw [live_job, hj, Option.filter_none]
          have hops : endOps env (type :: types) st = endOps env types st := by
            simp [endOps, hj]
          have hops' : endOps env (type :: types) st.live =
              endOps env types st.live := by
            simp [endOps, hlive]
          rw [hops, hops']
          exact ih hrest hc
      | some j =>
          have hops : endOps env (type :: types) st =
              .updateCallJob (endedNow env type j) :: endOps env types st := by
            simp [endOps, hj]
          rw [hops, storeAfterAll_cons]
          by_cases hend : j.endAt = 0
          · have hlive : st.live.job type = some j := by
              rw [live_job, hj]
              simp [Option.filter, hend]
            have hops' : endOps env (type :: types) st.live =
                .updateCallJob (endedNow env type j) :: endOps env types st.live := by
              simp [endOps, hlive]
            rw [hops', storeAfterAll_cons]
            cases hw : storeAfter (.updateCallJob (endedNow env type j)) w with
            | none => rfl
            | some w₁ =>
                obtain ⟨-, rfl⟩ := storeAfter_updateCallJob.1 hw
                refine ih hrest fun lc hlc hlcend => ?_
                by_cases htype : type = .captioning
                · -- the captions in memory run
                  subst htype
                  cases hlc.symm.trans hj
                  exact absurd hend hlcend
                · have hne : j.id ≠ lc.id := hids type j lc htype hj hlc
                  exact (hc lc hlc hlcend).update_of_ne hne
          · -- captions that have ended are written only where they are still in memory
            obtain rfl : type = .captioning := hrunning.resolve_left fun h => by
              rw [hj, running_of_ended hend] at h
              cases h
            have hlive : st.live.job .captioning = none := by
              rw [live_job, hj]
              simp [Option.filter, hend]
            have hops' : endOps env (.captioning :: types) st.live =
                endOps env types st.live := by
              simp [endOps, hlive]
            have hagain := hc j hj hend
            have hsame : untimed (w.updateCallJob (endedNow env .captioning j)) =
                untimed w :=
              congrArg (Store.mk w.calls w.sessions)
                (hagain.same (endedNow env .captioning j)
                rfl rfl rfl (endedNow_endAt env .captioning j))
            have hw : storeAfter (.updateCallJob (endedNow env .captioning j)) w =
                some (w.updateCallJob (endedNow env .captioning j)) :=
              storeAfter_updateCallJob.2 ⟨hagain.valid, rfl⟩
            rw [hops', hw]
            refine (ih hrest fun lc hlc _ => ?_).trans
              (storeAfterAll_untimed (fun o ho => ?_) hsame)
            · cases hlc.symm.trans hj
              have hended : EndedAgain
                  (JobTable.update w.jobs (endedNow env .captioning j))
                  (endedNow env .captioning j) :=
                .of_update hagain.valid (endedNow_endAt env .captioning j)
                  hagain.captions
              exact ⟨hagain.valid, hended.captions, hended.same⟩
            · exact endOps_ofLeave o ho

end Live

/-! ## The state after a leave -/

/-- What a batch of leaves knows of the store between two leaves: the state it has in
memory is the stored one, but for jobs that have ended, until the call has ended. -/
structure LeaveState (channelID : String) (st : CallState) (w : Store) : Prop where
  tracks : Tracks w.jobs st
  captions : CaptionsEnded w.jobs st
  named : st.Named
  times : st.joinTimes.Nodup
  only : ∀ c ∈ w.calls, c.channelID = channelID → Active c → c.id = st.call.id
  read : storedState w channelID = some st.live ∨
    st.sessions.rows = [] ∧ storedState w channelID = none

section Step

variable {p : Plugin} {env : Env} {r : LeaveRequest} {channelID : String}
  {st st' : CallState} {w w' : Store}

theorem SameLive.tracks {t : JobTable} (h : SameLive st st') (ht : Tracks t st) :
    Tracks t st' where
  mirrors type := by
    rw [h.call]
    have hm := ht.mirrors type
    rcases h.job type with heq | ⟨j, j', hj, hj', hs, -, hend⟩
    · rwa [heq]
    · rw [hj] at hm
      rw [hj']
      exact hm.mark hs hend
  settled type x hx := by
    rw [h.call] at hx
    have hmem := ht.settled type x hx
    rcases h.job type with heq | ⟨j, j', hj, -, -, hend, -⟩
    · rwa [heq]
    · rw [hj] at hmem
      cases hmem
      exact absurd hx.endAt hend

/-- A leave changes columns that are written. -/
theorem left_setCall :
    Store.setCall st.call (left p env r (withoutSession env r st)).call =
    (left p env r (withoutSession env r st)).call := by
  unfold left callLeft hostLeftCall withoutSession screenLeftCall
  dsimp only
  repeat' split
  all_goals rfl

theorem left_endAt (h : st.sessions.rows = []) :
    (left p env r st).call.endAt = env.now .callEnd :=
  congrArg Call.endAt (if_pos h)

/-- A call with other sessions goes on. -/
theorem left_active (h : (withoutSession env r st).sessions.rows ≠ [])
    (hact : Active st.call) :
    Active (left p env r (withoutSession env r st)).call := by
  rw [left_of_sessions h]
  unfold hostLeftCall withoutSession screenLeftCall
  dsimp only
  repeat' split
  all_goals exact hact

theorem left_sameJobs : SameJobs st (left p env r st) :=
  ⟨left_id r, fun type => by cases type <;> rfl⟩

theorem withoutSession_sameJobs : SameJobs st (withoutSession env r st) :=
  ⟨(screenLeftCall_same env r st.call).1, fun type => by cases type <;> rfl⟩

theorem LeaveState.after (h : LeaveState channelID st w) {us : CallSession}
    (hus : st.sessions.find? r.originalConnID = some us)
    (hw : storeAfterAll (leaveOps p env st r) w = some w')
    (hst' : SameLive ((withoutSession env r st).ending env (leftTypes r st)) st') :
    LeaveState channelID (left p env r st') w' := by
  -- the writes one after another
  rw [leaveOps, storeAfterAll_cons] at hw
  obtain ⟨w₁, hw₁, hw⟩ := Option.bind_eq_some_iff.1 hw
  cases hw₁
  rw [storeAfterAll_append] at hw
  obtain ⟨w₂, hw₂, hw⟩ := Option.bind_eq_some_iff.1 hw
  rw [storeAfterAll_cons] at hw
  obtain ⟨w₃, hw₃, hw⟩ := Option.bind_eq_some_iff.1 hw
  cases hw
  obtain ⟨-, rfl⟩ := storeAfter_updateCall.1 hw₃
  have hwithout : SameJobs st (withoutSession env r st) := withoutSession_sameJobs
  obtain ⟨hcalls, hsessions, hstopped, hcaptions⟩ := endOps_stored (leftTypes r st)
    (withoutSession env r st) (w.deleteCallSession r.originalConnID)
    (hwithout.tracks h.tracks).mirrors h.captions hw₂
  have htracks : Tracks w₂.jobs (left p env r st') :=
    left_sameJobs.tracks (hst'.tracks ((hwithout.tracks h.tracks).stopped hstopped))
  have hleft : SameCall (left p env r (withoutSession env r st)) (left p env r st') :=
    left_congr ⟨hst'.call, hst'.sessions⟩
  have hcall : (left p env r st').call =
      (left p env r (withoutSession env r st)).call :=
    hleft.1
  have hsess : (left p env r st').sessions = st.sessions.erase r.originalConnID :=
    hleft.2
  have hid : (left p env r st').call.id = st.call.id :=
    (congrArg Call.id hcall).trans ((left_id r).trans hwithout.id)
  -- the row that is written, and the others
  have hrows :
      ∀ x ∈ (w₂.updateCall (left p env r (withoutSession env r st)).call).calls,
      x.id ≠ st.call.id ∧ x ∈ w.calls ∨
        x.id = st.call.id ∧ x.endAt = (left p env r st').call.endAt := by
    intro x hx
    obtain ⟨y, hy, rfl⟩ := Store.mem_updateCall.1 hx
    rw [← hcall, hid]
    split
    next heq => exact .inr ⟨heq, rfl⟩
    next hne => exact .inl ⟨hne, hcalls ▸ hy⟩
  have hstored : storedState w channelID = some st.live := by
    rcases h.read with hread | ⟨hnil, -⟩
    · exact hread
    · have hmem := (Table.find?_eq_some.1 hus).1
      rw [Table.mem_def, hnil] at hmem
      cases hmem
  obtain ⟨hactive, hstsessions, -⟩ := storedState_eq_some.1 hstored
  have hstsessions : w.getCallSessions st.call.id = st.sessions := hstsessions
  refine ⟨htracks, fun lc hlc hend => ?_, fun x hx => ?_, ?_,
    fun x hx hchannel hact => ?_, ?_⟩
  · have hlc : st'.liveCaptions = some lc := hlc
    rw [hst'.captions] at hlc
    exact hcaptions lc hlc hend
  · rw [hsess] at hx
    exact h.named x (Table.mem_erase.1 hx).1
  · unfold CallState.joinTimes
    rw [hsess]
    exact h.times.sublist (List.filter_sublist.map _)
  · rw [hid]
    rcases hrows x hx with ⟨-, hx⟩ | ⟨hxid, -⟩
    · exact h.only x hx hchannel hact
    · exact hxid
  · by_cases hnil : (left p env r st').sessions.rows = []
    · refine .inr ⟨hnil, storedState_eq_none.2 (Store.getActiveCallByChannelID_eq_none.2
        fun x hx hchannel hact => ?_)⟩
      rcases hrows x hx with ⟨hne, hx⟩ | ⟨-, hend⟩
      · exact hne (h.only x hx hchannel hact)
      · have hended : (left p env r st').call.endAt = env.now .callEnd :=
          left_endAt hnil
        rw [hact.1, hended] at hend
        exact (env.now_pos _).ne hend
    · refine .inl (storedState_eq_some.2 ⟨?_, ?_, fun type => ?_⟩)
      · have hset : Store.setCall st.call (left p env r st').call =
            (left p env r st').call := by
          rw [hcall]
          exact left_setCall
        have hact : Active (left p env r st').call := by
          rw [hcall]
          refine left_active ?_ (storedState_active hstored).2.2
          rwa [hsess] at hnil
        rw [← hcall]
        refine getActiveCall_updateCall ?_ hset hact
        unfold Store.getActiveCallByChannelID
        rw [hcalls]
        exact hactive
      · show (w₂.getCallSessions (left p env r st').call.id) =
          (left p env r st').sessions
        rw [hid, hsess, Store.getCallSessions, hsessions, ← hstsessions]
        exact getCallSessions_delete _
      · exact htracks.getActiveCallJobs type

end Step

/-! ## The same leave on the stored state -/

section Orders

variable {p : Plugin} {env env' : Env} {r : LeaveRequest} {channelID : String}
  {st : CallState} {w w' : Store}

/-- The call that a leave writes does not depend on the order of the map. -/
theorem Env.SameReadings.left (h : env.SameReadings env') (hnamed : st.Named)
    (htimes : st.joinTimes.Nodup) :
      (left p env' r (withoutSession env' r st.live)).call =
      (left p env r (withoutSession env r st)).call := by
  have hscreen : screenLeftCall env' r st.call = screenLeftCall env r st.call := by
    unfold screenLeftCall
    rw [h.now]
  have htimes' : (withoutSession env r st).joinTimes.Nodup :=
    List.Nodup.sublist (List.filter_sublist.map _) htimes
  have hhost : (withoutSession env r st).getHostID env' p.botID =
      (withoutSession env r st).getHostID env p.botID :=
    getHostID_orders (fun x hx => hnamed x (Table.mem_erase.1 hx).1) htimes' env' env
  have hcall : hostLeftCall p env' r (withoutSession env r st) =
      hostLeftCall p env r (withoutSession env r st) := by
    unfold hostLeftCall
    rw [hhost]
  have hlive : SameCall (withoutSession env r st) (withoutSession env' r st.live) :=
    ⟨hscreen, rfl⟩
  rw [(left_congr hlive).1]
  unfold Ports.left callLeft setCallEnded
  dsimp only
  rw [hcall, h.now]

/-- A leave writes the same on the state read from a store that differs only in the
times at which captions have ended. -/
theorem LeaveState.leaveOps (h : LeaveState channelID st w)
    (hsame : env.SameReadings env') (hw : untimed w = untimed w') :
    (storeAfterAll (leaveOps p env st r) w).map untimed =
      (storeAfterAll (leaveOps p env' st.live r) w').map untimed := by
  have hops : Ports.leaveOps p env' st.live r = .deleteCallSession r.originalConnID ::
      (endOps env (leftTypes r st) st.live ++
        [.updateCall (Ports.left p env r (withoutSession env r st)).call]) := by
    have hended : endedNow env' = endedNow env := by
      unfold endedNow
      rw [hsame.now]
    rw [Ports.leaveOps, leftTypes_live, hsame.left h.named h.times, endOps, hended]
    rfl
  have hleave : ∀ o ∈ Ports.leaveOps p env' st.live r, OfLeave o := by
    intro o ho
    rw [hops, List.mem_cons, List.mem_append, List.mem_singleton] at ho
    rcases ho with rfl | ho | rfl
    · trivial
    · exact endOps_ofLeave o ho
    · trivial
  refine Eq.trans ?_ (storeAfterAll_untimed hleave hw)
  rw [hops, Ports.leaveOps, storeAfterAll_cons, storeAfterAll_cons]
  have hends : (storeAfterAll (endOps env (leftTypes r st) st)
      (w.deleteCallSession r.originalConnID)).map untimed =
      (storeAfterAll (endOps env (leftTypes r st) st.live)
        (w.deleteCallSession r.originalConnID)).map untimed :=
    endOps_live leftTypes_running
      (fun type j lc htype hj hlc => h.tracks.mirrors.id_ne htype hj hlc) h.captions
  show (storeAfterAll _ (w.deleteCallSession r.originalConnID)).map untimed =
    (storeAfterAll _ (w.deleteCallSession r.originalConnID)).map untimed
  rw [storeAfterAll_append, storeAfterAll_append]
  generalize storeAfterAll (endOps env (leftTypes r st) st)
    (w.deleteCallSession r.originalConnID) = res at hends
  generalize storeAfterAll (endOps env (leftTypes r st) st.live)
    (w.deleteCallSession r.originalConnID) = res' at hends
  cases res with
  | none =>
      rw [Option.map_none, eq_comm, Option.map_eq_none_iff] at hends
      rw [hends]
  | some w₁ =>
      obtain ⟨w₁', rfl, hw₁⟩ := Option.map_eq_some_iff.1 hends.symm
      refine storeAfterAll_untimed (fun o ho => ?_) hw₁.symm
      rw [List.mem_singleton.1 ho]
      trivial

end Orders

/-! ## A batch of leaves -/

/-- The same request, with the same readings. -/
def Leave.SameReadings (l l' : Leave) : Prop :=
  l'.req = l.req ∧ l.env.SameReadings l'.env

/-- What leaves need of the store they start from: at most one call is active in the
channel, with at most one active job of each type, and its sessions are named and joined
at different times. -/
structure LeavesApart (channelID : String) (w : Store) : Prop where
  oneCall : ∀ c ∈ w.calls, ∀ c' ∈ w.calls, c.channelID = channelID →
    c'.channelID = channelID → Active c → Active c' → c = c'
  oneJob : ∀ st, storedState w channelID = some st → ∀ type j j',
    ActiveJob w.jobs st.call.id type j → ActiveJob w.jobs st.call.id type j' → j = j'
  named : ∀ st, storedState w channelID = some st → st.Named
  times : ∀ st, storedState w channelID = some st → st.joinTimes.Nodup

/-- What is compared of leaves: which requests were refused, and the store up to the
times at which captions have ended. -/
def refusedAndStored (r : List (Except String Unit) × Store) : List Bool × Store :=
  (r.1.map Except.isOk, untimed r.2)

section Batch

variable {p : Plugin} {channelID : String} {state : Option CallState} {l : Leave}
  {ls ls' : List Leave} {w w' : Store}

/-- The state that the first leave of a batch finds. -/
theorem LeavesApart.leaveState (h : LeavesApart channelID w) {st : CallState}
    (hread : storedState w channelID = some st) : LeaveState channelID st w := by
  obtain ⟨-, -, hjobs⟩ := storedState_eq_some.1 hread
  have hfresh : Fresh w.jobs st := by
    intro type x
    rw [← hjobs type]
    constructor
    · intro hx
      obtain ⟨hmem, hcall, hend, htype⟩ := Store.getActiveCallJobs_eq_some hx
      exact ⟨hmem, hcall, htype, hend⟩
    · intro hx
      cases hget : w.getActiveCallJobs st.call.id type with
      | none =>
          exact absurd hx.type
            (Store.getActiveCallJobs_eq_none.1 hget x hx.mem hx.callID hx.endAt)
      | some y =>
          obtain ⟨hmem, hcall, hend, htype⟩ := Store.getActiveCallJobs_eq_some hget
          exact congrArg some (h.oneJob st hread type y x ⟨hmem, hcall, htype, hend⟩ hx)
  have hlive : st.live = st := CallState.ext_job rfl rfl fun type => by
    rw [live_job]
    cases hj : st.job type with
    | none => rfl
    | some j =>
        exact Option.filter_eq_some_iff.2
          ⟨rfl, decide_eq_true ((hfresh type j).1 hj).endAt⟩
  have hactive := storedState_active hread
  refine ⟨hfresh.tracks, fun lc hlc hend => ?_, h.named st hread, h.times st hread,
    fun c hc hchannel hact => ?_, .inl (hlive.symm ▸ hread)⟩
  · exact absurd ((hfresh .captioning lc).1 hlc).endAt hend
  · exact congrArg Call.id
      (h.oneCall c hc _ hactive.1 hchannel hactive.2.1 hact hactive.2.2)

/-- A session that a batch does not find is not found in the store either. -/
theorem LeaveState.refused {st : CallState} {r : LeaveRequest}
    (h : LeaveState channelID st w) (hus : st.sessions.find? r.originalConnID = none) :
    ∀ st', storedState w channelID = some st' →
    st'.sessions.find? r.originalConnID = none := by
  intro st' hst'
  rcases h.read with hread | ⟨-, hread⟩
  · cases hst'.symm.trans hread
    exact hus
  · cases hst'.symm.trans hread

/-- The state in memory of a batch of leaves, with the store. -/
def LeavesInStep (channelID : String) (state : Option CallState) (w : Store) : Prop :=
  (state = none → storedState w channelID = none) ∧
    ∀ st, state = some st → LeaveState channelID st w

/-- The items of a batch of leaves end as they would one by one. -/
theorem removeSessionsFromCall_oneByOne
    (hsame : List.Forall₂ Leave.SameReadings ls ls') :
    ∀ (state : Option CallState) (w w' : Store), LeavesInStep channelID state w →
      untimed w = untimed w' → ∃ res' : Option (List (Except String Unit) × Store),
        soloHandler (oneByOne (removeSession p channelID) ls') w' =
          res'.map (fun r => (r.1.map .ok, r.2)) ∧
        (soloBody (removeSessionsFromCall p channelID ls state) w).map
          refusedAndStored =
          res'.map refusedAndStored := by
  induction hsame with
  | nil =>
      exact fun _ w w' _ hw => ⟨some ([], w'), rfl, congrArg (fun v => some ([], v)) hw⟩
  | @cons l l' ls ls' hl _ ih =>
      intro state w w' hstep hw
      obtain ⟨hreq, henv⟩ := hl
      have hbody : ∀ i : Leave, removeSession p channelID i =
          underLock channelID fun state => do
          let res ← removeUserSession p i.env i.req channelID state
          return res.2 := fun _ => rfl
      -- the others, from what the first leave leaves
      have hrest : ∀ (state' : Option CallState) (res res' : Except String Unit)
          (v v' : Store),
          LeavesInStep channelID state' v → untimed v = untimed v' →
          res.isOk = res'.isOk → ∃ res₂ : Option (List (Except String Unit) × Store),
            (soloHandler (oneByOne (removeSession p channelID) ls') v').map
              (fun r => (.ok res' :: r.1, r.2)) =
              res₂.map (fun r => (r.1.map .ok, r.2)) ∧
            (soloBody (removeSessionsFromCall p channelID ls state' >>= fun outcomes =>
              pure (res :: outcomes)) v).map refusedAndStored =
                  res₂.map refusedAndStored := by
        intro state' res res' v v' hstep' hv hres
        obtain ⟨res₂, hone, hbatch⟩ := ih state' v v' hstep' hv
        refine ⟨res₂.map fun r => (res' :: r.1, r.2), ?_, ?_⟩
        · rw [hone, Option.map_map, Option.map_map]
          rfl
        · rw [soloBody_bind]
          cases hone₁ : soloBody (removeSessionsFromCall p channelID ls state') v with
          | none =>
              rw [hone₁, Option.map_none, eq_comm, Option.map_eq_none_iff] at hbatch
              rw [hbatch]
              rfl
          | some r =>
              rw [hone₁, Option.map_some] at hbatch
              obtain ⟨r₂, rfl, hview⟩ := Option.map_eq_some_iff.1 hbatch.symm
              obtain ⟨houtcomes, hstore⟩ := Prod.mk.inj hview
              show some (res.isOk :: r.1.map Except.isOk, untimed r.2) =
                some (res'.isOk :: r₂.1.map Except.isOk, untimed r₂.2)
              rw [hres, houtcomes, hstore]
      rw [soloHandler_oneByOne_cons hbody, soloBody_bind, hreq]
      unfold removeSessionsFromCall
      rw [soloBody_bind]
      have hread : storedState w' channelID = storedState w channelID := by
        rw [← untimed_storedState, ← hw, untimed_storedState]
      by_cases hfind : ∃ st us, state = some st ∧
          st.sessions.find? l.req.originalConnID = some us
      · obtain ⟨st, us, rfl, hus⟩ := hfind
        have hst := hstep.2 st rfl
        have hlive : storedState w' channelID = some st.live := by
          rw [hread]
          rcases hst.read with hstored | ⟨hnil, -⟩
          · exact hstored
          · have hmem := (Table.find?_eq_some.1 hus).1
            rw [Table.mem_def, hnil] at hmem
            cases hmem
        have hops := hst.leaveOps (p := p) (r := l.req) henv hw
        obtain ⟨⟨state', res⟩, ⟨rfl, st', hst', rfl⟩, hbatch⟩ :=
          @removeUserSession_writes p l.env l.req channelID st us hus w
        obtain ⟨⟨state'', res'⟩, ⟨rfl, -⟩, hone⟩ :=
          @removeUserSession_writes p l'.env l.req channelID st.live us hus w'
        rw [hlive, hbatch, hone]
        cases hv : storeAfterAll (Ports.leaveOps p l.env st l.req) w with
        | none =>
            rw [hv, Option.map_none, eq_comm, Option.map_eq_none_iff] at hops
            rw [hops]
            exact ⟨none, rfl, rfl⟩
        | some v =>
            rw [hv, Option.map_some] at hops
            obtain ⟨v', hv', hsame⟩ := Option.map_eq_some_iff.1 hops.symm
            rw [hv']
            refine hrest (some (left p l.env l.req st')) (.ok ()) (.ok ()) v v'
              ⟨fun h => (by cases h), fun st₁ hst₁ => ?_⟩ hsame.symm rfl
            cases hst₁
            exact hst.after hus hv hst'
      · have hnone : ∀ st, state = some st →
            st.sessions.find? l.req.originalConnID = none :=
          fun st hst => Option.eq_none_iff_forall_ne_some.2 fun us hus =>
            hfind ⟨st, us, hst, hus⟩
        have hnone' : ∀ st, storedState w' channelID = some st →
            st.sessions.find? l.req.originalConnID = none := by
          rw [hread]
          cases hstate : state with
          | none =>
              intro st hst
              cases hst.symm.trans (hstep.1 hstate)
          | some st => exact (hstep.2 st hstate).refused (hnone st hstate)
        obtain ⟨e, hbatch⟩ :=
          @removeUserSession_refused p l.env l.req channelID state w hnone
        obtain ⟨e', hone⟩ :=
          @removeUserSession_refused p l'.env l.req channelID _ w' hnone'
        rw [hbatch, hone]
        exact hrest state (.error e) (.error e') w w' hstep hw rfl

/-- **Leaves in a batch**: the outcomes and the store are those of the leaves one by
one, up to the times at which captions have ended and the texts of refusals. -/
theorem leaveBatch_oneByOne (hsame : List.Forall₂ Leave.SameReadings ls ls')
    (hapart : LeavesApart channelID w) :
    EndAlike refusedAndStored (leaveBatch p channelID ls)
      (oneByOne (removeSession p channelID) ls') w := by
  have hstep : LeavesInStep channelID (storedState w channelID) w :=
    ⟨id, fun st hst => hapart.leaveState hst⟩
  obtain ⟨res', hone, hbatch⟩ :=
    removeSessionsFromCall_oneByOne (p := p) hsame _ w w hstep rfl
  exact ⟨_, res', soloHandler_underLock w, hone, hbatch⟩

end Batch

/-- Bob leaves, and then alice does. -/
def twoLeaves : List Leave :=
  [⟨⟨"bob", "s2", "s2"⟩, .sample 40⟩, ⟨⟨"alice", "s1", "s1"⟩, .sample 50⟩]

theorem sharedStore_leavesApart : LeavesApart "chan" sharedStore where
  oneCall c hc c' hc' _ _ _ _ :=
    (List.mem_singleton.1 hc).trans (List.mem_singleton.1 hc').symm
  oneJob st _ type j _ hj _ := absurd hj.mem (Table.not_mem_empty j)
  named st hst := by
    have hstored : storedState sharedStore "chan" = some sharedState := by decide
    cases hstored.symm.trans hst
    unfold CallState.Named
    decide
  times st hst := by
    have hstored : storedState sharedStore "chan" = some sharedState := by decide
    cases hstored.symm.trans hst
    decide

theorem leaveBatch_oneByOne_two : List.Forall₂ Leave.SameReadings twoLeaves twoLeaves ∧
    EndAlike refusedAndStored (leaveBatch .sample "chan" twoLeaves)
      (oneByOne (removeSession .sample "chan") twoLeaves) sharedStore := by
  have hsame : List.Forall₂ Leave.SameReadings twoLeaves twoLeaves :=
    .cons ⟨rfl, rfl, rfl, rfl, rfl⟩ (.cons ⟨rfl, rfl, rfl, rfl, rfl⟩ .nil)
  exact ⟨hsame, leaveBatch_oneByOne hsame sharedStore_leavesApart⟩

end CallsPlugin.Ports
