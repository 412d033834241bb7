import CallsPlugin.Ports.JobTable

/-!
# What is read back after a write

The state that is read for a channel is the first of its active calls, the sessions of
that call and the first active job of each type.  A write that leaves the columns alone
by which the rows are chosen and ordered changes the row that is read, and nothing else
of what is read.
-/

namespace CallsPlugin.Ports

open CallsPlugin.Verified
open CallsPlugin.Ports.Public CallsPlugin.Ports.Db

/-! ## Tables -/

section Tables

variable {ρ κ : Type} {key : ρ → κ} [DecidableEq κ] {t t' : Table key}

/-- An update that does not change which rows are selected. -/
theorem Table.select_modify {k : κ} {f : ρ → ρ} {hf : ∀ r, key (f r) = key r}
    {p : ρ → Bool} (hp : ∀ r ∈ t, key r = k → p (f r) = p r) :
    (t.modify k f hf).select p = (t.select p).map fun r => if key r =
    k then f r else r := by
  show (t.rows.map fun r => if key r = k then f r else r).filter p =
    (t.rows.filter p).map _
  rw [List.filter_map]
  refine congrArg _ (List.filter_congr fun r hr => ?_)
  show p (if key r = k then f r else r) = p r
  split
  next hk => exact hp r hr hk
  · rfl

theorem Table.select_insert {r : ρ} {p : ρ → Bool} (hi : t.insert? r = some t') :
    t'.select p = t.select p ++ if p r then [r] else [] := by
  rw [Table.select, (Table.insert?_eq_some.1 hi).2, List.filter_append,
    List.filter_singleton]
  cases p r <;> rfl

theorem Table.erase_filter (p : ρ → Bool) (k : κ) :
    (t.erase k).filter p = (t.filter p).erase k :=
  Table.ext (List.filter_comm ..)

end Tables

/-! ## Calls -/

section Store

variable {s : Store} {channelID callID : String} {c c' : Call}

/-- The active call of the channel with other props, post or stats is read as it was
written. -/
theorem getActiveCall_updateCall (h : s.getActiveCallByChannelID channelID = some c)
    (hset : Store.setCall c c' = c') (hact : Active c') :
    (s.updateCall c').getActiveCallByChannelID channelID = some c' := by
  obtain ⟨hmem, hchannel, hactive⟩ := Store.getActiveCallByChannelID_eq_some h
  have hid : c'.id = c.id := (congrArg Call.id hset).symm
  -- the only row under the id is that of the call
  have hrow : ∀ r ∈ s.calls, r.id = c'.id → Store.setCall r c' = c' ∧ r = c :=
      fun r hr hk => by
    obtain rfl := s.calls.eq_of_key_eq hr hmem (hk.trans hid)
    exact ⟨hset, rfl⟩
  have hchan : c'.channelID = channelID :=
    (congrArg Call.channelID hset).symm.trans hchannel
  unfold Store.getActiveCallByChannelID at h ⊢
  rw [Store.updateCall, Table.select_modify (fun r hr hk => ?_)]
  · rw [← List.map_insertionSort (r := byStartAt), List.head?_map, h]
    · exact congrArg some ((if_pos hid.symm).trans hset)
    · intro a ha b hb
      have hsame : ∀ r ∈ s.calls,
          (if r.id = c'.id then Store.setCall r c' else r).startAt =
          r.startAt ∧ (if r.id = c'.id then Store.setCall r c' else r).id = r.id :=
        fun r _ => by
        split <;> exact ⟨rfl, rfl⟩
      obtain ⟨ha₁, ha₂⟩ := hsame a (Table.mem_select.1 ha).1
      obtain ⟨hb₁, hb₂⟩ := hsame b (Table.mem_select.1 hb).1
      unfold byStartAt
      rw [ha₁, ha₂, hb₁, hb₂]
  · obtain ⟨hr, rfl⟩ := hrow r hr hk
    rw [hr]
    exact decide_eq_decide.2 ⟨fun _ => ⟨hchannel, hactive⟩, fun _ => ⟨hchan, hact⟩⟩

/-- The first call of a channel. -/
theorem getActiveCall_createCall {t : Table Call.id}
    (h : s.getActiveCallByChannelID channelID = none) (hi : s.calls.insert? c = some t)
    (hchannel : c.channelID = channelID) (hact : Active c) :
    ({ s with calls := t } : Store).getActiveCallByChannelID channelID = some c := by
  have hnone : s.calls.select (fun r => r.channelID = channelID ∧ Active r) = [] := by
    refine List.filter_eq_nil_iff.2 fun r hr hp => ?_
    obtain ⟨hc, ha⟩ := of_decide_eq_true hp
    exact Store.getActiveCallByChannelID_eq_none.1 h r hr hc ha
  unfold Store.getActiveCallByChannelID
  rw [Table.select_insert hi, hnone, if_pos (decide_eq_true ⟨hchannel, hact⟩)]
  rfl

/-! ## Sessions -/

theorem getCallSessions_insert {t : Table CallSession.id} {r : CallSession}
    (hi : s.sessions.insert? r = some t) (hr : r.callID = callID) :
    (({ s with sessions := t } : Store).getCallSessions callID).rows =
      (s.getCallSessions callID).rows ++ [r] := by
  show t.select _ = s.sessions.select _ ++ [r]
  rw [Table.select_insert hi, if_pos (decide_eq_true hr)]

theorem getCallSessions_delete (id : String) :
    (s.deleteCallSession id).getCallSessions callID =
    (s.getCallSessions callID).erase id :=
  Table.erase_filter ..

/-! ## Jobs -/

/-- The job that is read with another connection is read as it was written, and so are
the jobs of the other types. -/
theorem getActiveCallJobs_updateCallJob {type : JobType} {j j' : CallJob}
    (h : s.getActiveCallJobs callID type = some j) (hset : Store.setJob j j' = j')
    (hend : j'.endAt = 0) (hstart : j'.startAt = j.startAt) (type' : JobType) :
    (s.updateCallJob j').getActiveCallJobs callID type' =
      if type' = type then some j' else s.getActiveCallJobs callID type' := by
  obtain ⟨hmem, hcall, hactive, htype⟩ := Store.getActiveCallJobs_eq_some h
  have hid : j'.id = j.id := (congrArg CallJob.id hset).symm
  have hrow : ∀ r ∈ s.jobs, r.id = j'.id → r = j := fun r hr hk =>
    s.jobs.eq_of_key_eq hr hmem (hk.trans hid)
  have hread : (s.updateCallJob j').getActiveCallJobs callID type' =
      (s.getActiveCallJobs callID type').map fun r =>
        if r.id = j'.id then Store.setJob r j' else r := by
    unfold Store.getActiveCallJobs
    rw [Store.updateCallJob, Table.select_modify (fun r hr hk => ?_)]
    · rw [← List.map_insertionSort (r := jobByStartAt), List.find?_map]
      · congr 2
        funext r
        have htype : (if r.id = j'.id then Store.setJob r j' else r).type = r.type := by
          split <;> rfl
        exact congrArg (fun type => decide (type = type')) htype
      · intro a ha b hb
        have hsame : ∀ r ∈ s.jobs,
            (if r.id = j'.id then Store.setJob r j' else r).startAt =
            r.startAt ∧ (if r.id = j'.id then Store.setJob r j' else r).id = r.id :=
          fun r hr => by
          split
          next hk =>
            exact ⟨hstart.trans (congrArg CallJob.startAt (hrow r hr hk)).symm, rfl⟩
          · exact ⟨rfl, rfl⟩
        obtain ⟨ha₁, ha₂⟩ := hsame a (Table.mem_select.1 ha).1
        obtain ⟨hb₁, hb₂⟩ := hsame b (Table.mem_select.1 hb).1
        unfold jobByStartAt
        rw [ha₁, ha₂, hb₁, hb₂]
    · obtain rfl := hrow r hr hk
      exact decide_eq_decide.2 ⟨fun h => ⟨h.1, hactive⟩, fun h => ⟨h.1, hend⟩⟩
  rw [hread]
  split
  next heq =>
    rw [heq, h]
    exact congrArg some ((if_pos hid.symm).trans hset)
  next hne =>
    cases hother : s.getActiveCallJobs callID type' with
    | none => rfl
    | some i =>
        obtain ⟨himem, -, -, hitype⟩ := Store.getActiveCallJobs_eq_some hother
        refine congrArg some (if_neg fun hk => hne ?_)
        rw [← hitype, hrow i himem hk, htype]

/-! ## States -/

variable {st : CallState}

/-- What it takes to read a state. -/
theorem storedState_eq_some : storedState s channelID = some st ↔
    s.getActiveCallByChannelID channelID = some st.call ∧
      s.getCallSessions st.call.id = st.sessions ∧
        ∀ type, s.getActiveCallJobs st.call.id type = st.job type := by
  unfold storedState
  constructor
  · intro h
    obtain ⟨call, hcall, rfl⟩ := Option.map_eq_some_iff.1 h
    exact ⟨hcall, rfl, fun type => by cases type <;> rfl⟩
  · rintro ⟨hcall, hsessions, hjobs⟩
    obtain ⟨call, sessions, recording, transcription, liveCaptions⟩ := st
    rw [hcall, Option.map_some, stateOfCall]
    exact congrArg some (by
      rw [CallState.mk.injEq]
      exact ⟨rfl, hsessions, hjobs .recording, hjobs .transcribing, hjobs .captioning⟩)

theorem storedState_eq_none :
    storedState s channelID = none ↔ s.getActiveCallByChannelID channelID = none :=
  Option.map_eq_none_iff

/-- The state once its call was written. -/
theorem storedState_updateCall (h : storedState s channelID = some st)
    (hset : Store.setCall st.call c = c) (hact : Active c) :
    storedState (s.updateCall c) channelID = some { st with call := c } := by
  obtain ⟨hcall, hsessions, hjobs⟩ := storedState_eq_some.1 h
  have hid : c.id = st.call.id := (congrArg Call.id hset).symm
  refine storedState_eq_some.2 ⟨getActiveCall_updateCall hcall hset hact, ?_,
    fun type => ?_⟩
  · rw [← hsessions, ← hid]
    rfl
  · have hjob : ({ st with call := c } : CallState).job type = st.job type := by
      cases type <;> rfl
    rw [hjob, ← hjobs, ← hid]
    rfl

/-- The state once a session of its call was added. -/
theorem storedState_createSession {t : Table CallSession.id} {r : CallSession}
    (h : storedState s channelID = some st) (hi : s.sessions.insert? r = some t)
    (hr : r.callID = st.call.id) {t' : Table CallSession.id}
    (hrows : t'.rows = st.sessions.rows ++ [r]) :
    storedState { s with sessions := t } channelID =
    some { st with sessions := t' } := by
  obtain ⟨hcall, hsessions, hjobs⟩ := storedState_eq_some.1 h
  refine storedState_eq_some.2 ⟨hcall, Table.ext ?_, fun type => ?_⟩
  · rw [getCallSessions_insert hi hr, hsessions, hrows]
  · have hjob : ({ st with sessions := t' } : CallState).job type = st.job type := by
      cases type <;> rfl
    rw [hjob, ← hjobs]
    rfl

/-- The state once a running job of its call was written. -/
theorem storedState_updateCallJob (h : storedState s channelID = some st)
    {type : JobType} {j j' : CallJob} (hj : st.job type = some j)
    (hset : Store.setJob j j' = j')
    (hend : j'.endAt = 0) (hstart : j'.startAt = j.startAt) :
    storedState (s.updateCallJob j') channelID = some (st.withJob type j') := by
  obtain ⟨hcall, hsessions, hjobs⟩ := storedState_eq_some.1 h
  have hkeep : (st.withJob type j').call = st.call ∧
      (st.withJob type j').sessions = st.sessions := by
    cases type <;> exact ⟨rfl, rfl⟩
  refine storedState_eq_some.2 ⟨?_, ?_, fun type' => ?_⟩
  · rw [hkeep.1]
    exact hcall
  · rw [hkeep.1, hkeep.2]
    exact hsessions
  · rw [hkeep.1,
      getActiveCallJobs_updateCallJob ((hjobs type).trans hj) hset hend hstart]
    split
    next heq =>
      rw [heq, withJob_job_self]
    next hne =>
      rw [withJob_job_of_ne st j' hne]
      exact hjobs type'

end Store

end CallsPlugin.Ports
