import CallsPlugin.Ports.SessionRules
import CallsPlugin.Ports.JobCoupling

/-!
# The requests on a call

Every request on a call but those on jobs: what it may do to the rows, and one rule for
all of them (`CallRule`).  An invariant of the rows is kept by each request if the few
bodies that write keep it.
-/

namespace CallsPlugin.Ports

open CallsPlugin.Verified
open CallsPlugin.Ports.Public CallsPlugin.Ports.Db

/-- The requests but those on jobs. -/
def Handler.OnCall : Handler → Prop
  | .recordingAction _ _ _ | .recordingTimeout _ | .transcriptionTimeout _
  | .jobStatus _ _ => False
  | .view _ => False
  | _ => True

/-- The joins of a request. -/
def Handler.joins : Handler → List Join
  | .join j => [j]
  | .joinBatch js => js
  | _ => []

/-- The leaves of a request. -/
def Handler.leaves : Handler → List Leave
  | .leave l => [l]
  | .leaveBatch ls => ls
  | _ => []

/-! ## What an operation does to a call -/

/-- An operation leaves the calls, adds one or updates one. -/
theorem exec_calls (ch : Choice) (s : Store) (o : Op) :
    (exec ch s o).2.calls = s.calls ∨
    (∃ x, o = .store (.createCall x) ∧ s.calls.insert? x = some (exec ch s o).2.calls) ∨
    ∃ x, o = .store (.updateCall x) ∧
    (exec ch s o).2.calls = (s.updateCall x).calls := by
  cases o with
  | store so =>
      rw [exec_store]
      unfold attempt
      split
      · exact .inl rfl
      cases so with
      | createCall x =>
          simp only [StoreOp.exec]
          split
          · exact .inl rfl
          next hi => exact .inr (.inl ⟨x, rfl, (insertRow_eq_ok.1 hi).2⟩)
      | updateCall x =>
          simp only [StoreOp.exec]
          split
          · exact .inl rfl
          · exact .inr (.inr ⟨x, rfl, rfl⟩)
      | createCallSession x =>
          simp only [StoreOp.exec]
          split <;> exact .inl rfl
      | updateCallSession x =>
          simp only [StoreOp.exec]
          split <;> exact .inl rfl
      | createCallJob x =>
          simp only [StoreOp.exec]
          split <;> exact .inl rfl
      | updateCallJob x =>
          simp only [StoreOp.exec]
          split <;> exact .inl rfl
      | _ => exact .inl rfl
  | _ => exact .inl rfl

section Calls

variable {ch : Choice} {s : Store} {o : Op} {c c' : Call}

/-- An operation leaves a call row alone, unless it updates it. -/
theorem exec_call_eq (hc : c ∈ s.calls) (hc' : c' ∈ (exec ch s o).2.calls)
    (hid : c'.id = c.id) :
    c' = c ∨ ∃ x, o = .store (.updateCall x) ∧ x.id = c.id ∧
    c' = Store.setCall c x := by
  rcases exec_calls ch s o with hsame | ⟨x, rfl, hi⟩ | ⟨x, rfl, hset⟩
  · rw [hsame] at hc'
    exact .inl (s.calls.eq_of_key_eq hc' hc hid)
  · rcases (Table.mem_of_insert? hi).1 hc' with hc' | rfl
    · exact .inl (s.calls.eq_of_key_eq hc' hc hid)
    · exact absurd hid.symm ((Table.insert?_eq_some.1 hi).1 c hc)
  · rw [hset] at hc'
    obtain ⟨r, hr, rfl⟩ := Store.mem_updateCall.1 hc'
    by_cases hk : r.id = x.id
    · rw [if_pos hk] at hid ⊢
      obtain rfl : r = c := s.calls.eq_of_key_eq hr hc hid
      exact .inr ⟨x, rfl, hk.symm, rfl⟩
    · rw [if_neg hk] at hid ⊢
      exact .inl (s.calls.eq_of_key_eq hr hc hid)

/-- A call row that an operation adds is the one it creates. -/
theorem exec_call_new (hc' : c' ∈ (exec ch s o).2.calls)
    (hnew : ∀ c ∈ s.calls, c.id ≠ c'.id) :
    o = .store (.createCall c') := by
  rcases exec_calls ch s o with hsame | ⟨x, rfl, hi⟩ | ⟨x, rfl, hset⟩
  · rw [hsame] at hc'
    exact absurd rfl (hnew c' hc')
  · rcases (Table.mem_of_insert? hi).1 hc' with hc' | rfl
    · exact absurd rfl (hnew c' hc')
    · rfl
  · rw [hset] at hc'
    obtain ⟨r, hr, rfl⟩ := Store.mem_updateCall.1 hc'
    exact absurd (by split <;> rfl) (hnew r hr)

/-- No operation removes a call row. -/
theorem exec_call_kept (hc : c ∈ s.calls) (ch : Choice) (o : Op) :
    ∃ c' ∈ (exec ch s o).2.calls, c'.id = c.id := by
  rcases exec_calls ch s o with hsame | ⟨x, -, hi⟩ | ⟨x, -, hset⟩
  · exact ⟨c, hsame ▸ hc, rfl⟩
  · exact ⟨c, (Table.mem_of_insert? hi).2 (.inl hc), rfl⟩
  · refine ⟨_, hset ▸ Store.mem_updateCall.2 ⟨c, hc, rfl⟩, ?_⟩
    split <;> rfl

end Calls

/-! ## The reconnection of a bot -/

/-- The reconnection of a bot writes jobs. -/
theorem botReconnected_jobsOnly (connID prevConnID : String)
    (state : Option CallState) :
    (botReconnected connID prevConnID state).Only Op.JobsOnly := by
  cases state with
  | none => trivial
  | some st =>
      unfold botReconnected
      dsimp only
      split
      · refine ⟨trivial, fun res => ?_⟩
        cases res <;> trivial
      split
      · trivial
      · refine ⟨trivial, fun res => ?_⟩
        cases res with
        | error e => trivial
        | ok _ =>
            show (captionerReconnected connID prevConnID st.liveCaptions).Only
              Op.JobsOnly
            unfold captionerReconnected
            split
            · trivial
            · refine ⟨trivial, fun res => ?_⟩
              cases res <;> trivial

/-! ## The end of a call -/

/-- The operation ends a call, or a part of it. -/
def Op.EndsCall : Op → Prop
  | .store (.updateCall c) => c.endAt ≠ 0
  | .store (.deleteCallsSessions _) => True
  | .store (.updateCallJob _) => True
  | .store o => o.isWrite = false
  | .reach _ => False
  | _ => True

/-- The writes that end a call. -/
theorem Op.EndsCall.write_cases {so : StoreOp} (h : (Op.store so).EndsCall)
    (hw : so.isWrite = true) :
    (∃ c, so = .updateCall c ∧ c.endAt ≠ 0) ∨ (∃ id, so = .deleteCallsSessions id) ∨
      ∃ j, so = .updateCallJob j := by
  cases so with
  | updateCall c => exact .inl ⟨c, rfl, h⟩
  | deleteCallsSessions id => exact .inr (.inl ⟨id, rfl⟩)
  | updateCallJob j => exact .inr (.inr ⟨j, rfl⟩)
  | _ =>
      have hread : StoreOp.isWrite _ = false := h
      exact absurd (hread.symm.trans hw) Bool.false_ne_true

theorem endJobs_jobsOnly (env : Env) (call : Call) (l : List CallJob) :
    (endJobs env call l).Only Op.JobsOnly := by
  induction l with
  | nil => trivial
  | cons job rest ih =>
      unfold endJobs
      split
      · refine ⟨trivial, fun _ => ?_⟩
        dsimp only
        split
        · exact ⟨trivial, fun _ => ih⟩
        · exact ih
      · exact ih

theorem Op.JobsOnly.endsCall {o : Op} (h : o.JobsOnly) : o.EndsCall := by
  cases o with
  | store o => cases o <;> trivial
  | reach p => exact h.elim
  | _ => trivial

/-- The row `cleanCallState` writes. -/
theorem cleanCall_ended (env : Env) (call : Call) :
    (if call.endAt = 0 then setCallEnded env call else call).endAt ≠ 0 := by
  split
  · exact (env.now_pos _).ne'
  next h => exact h

theorem cleanCallState_endsCall (env : Env) (call : Call) :
    (cleanCallState env call).Only Op.EndsCall := by
  refine ⟨trivial, fun _ => ⟨trivial, fun _ => ⟨rfl, fun res => ?_⟩⟩⟩
  cases res with
  | error _ => exact ⟨cleanCall_ended env call, fun _ => trivial⟩
  | ok jobs =>
      refine Code.Only.bind (f := fun _ => store (.updateCall _)) ?_
        fun _ => ⟨cleanCall_ended env call, fun _ => trivial⟩
      exact (endJobs_jobsOnly env _ _).mono fun _ => Op.JobsOnly.endsCall

theorem forceEnd_endsCall (env : Env) (callID : String) :
    (forceEnd env callID).Only Op.EndsCall := by
  refine ⟨rfl, fun res => ?_⟩
  match res with
  | .error _ => trivial
  | .ok none => trivial
  | .ok (some call) =>
      refine ⟨rfl, fun _ => ?_⟩
      exact Code.Only.bind (f := fun _ => .ret ()) (cleanCallState_endsCall env call)
        fun _ => trivial

/-! ## Rules -/

section Rules

variable {allow : Holder → Choice → Store → Op → Prop} {pre : Store → Op → Prop}
  {inv : Store → Prop} {p : Plugin} {env : Env} {channelID : String} {h : Handler}

/-- Code that writes jobs only keeps what such writes keep. -/
theorem jobsOnly_rule {α : Type} {c : Body α} {I : Store → Prop} {w : Store}
    (hquiet : Lenient pre) (hc : c.Only Op.JobsOnly)
    (hjobs : ∀ ch w (o : Op), o.JobsOnly → I w → I (exec ch w o).2)
    (hw : I w) : c.wp (callRules allow pre inv True) (fun _ w' => I w') w :=
  Code.wp_mono (hc.wp (I := I) (Q := fun _ => True)
    (Code.all_of_forall (fun _ => trivial) c)
    (fun w o ho _ => hquiet w o ho.not_writesCall)
    (fun ch w o ho hw _ => hjobs ch w o ho hw) hw) fun _ _ hw => hw.2

/-- What is left of a clean-up once the row to write is known: `M` holds up to its
write. -/
theorem endedCall_rule {call : Call} {M : Store → Prop}
    {Q : Except String Unit → Store → Prop} {w : Store} (hquiet : Lenient pre)
    (hjobs : ∀ ch w (o : Op), o.JobsOnly → M w → M (exec ch w o).2) (hM : M w)
    (hdeleted : M (w.deleteCallsSessions call.id))
    (hsave : ∀ w', M w' →
      (store (.updateCall call)).wp (callRules allow pre inv True) Q w') :
    (do
      let _ ← store (.deleteCallsSessions call.id)
      match ← store (.getActiveCallJobs call.id) with
      | .error _ => pure ()
      | .ok jobs =>
          endJobs env call (env.iterJobs
            ([JobType.recording, JobType.transcribing,
              JobType.captioning].filterMap jobs))
      store (.updateCall call) : Body (Except String Unit)).wp
      (callRules allow pre inv True) Q w := by
  have hend : ∀ w', M w' →
      (do
        match ← store (.getActiveCallJobs call.id) with
        | .error _ => pure ()
        | .ok jobs =>
            endJobs env call (env.iterJobs
              ([JobType.recording, JobType.transcribing,
                JobType.captioning].filterMap jobs))
        store (.updateCall call) : Body (Except String Unit)).wp
        (callRules allow pre inv True) Q w' := by
    intro w' hw'
    refine Code.wp_bind.2 (store_rule (hquiet _ _ id) (fun _ _ _ _ => hsave w' hw')
      fun jobs _ => ?_)
    exact Code.wp_bind.2
      (Code.wp_mono (jobsOnly_rule hquiet (endJobs_jobsOnly env _ _) hjobs hw')
      fun _ w'' hw'' => hsave w'' hw'')
  refine Code.wp_bind.2 (store_rule (hquiet _ _ id) (fun _ _ _ _ => ?_) fun _ _ => ?_)
  · exact hend w hM
  · exact hend _ hdeleted

/-- Cleaning a call: `M` holds up to the write of its end. -/
theorem cleanCallState_rule {call : Call} {M : Store → Prop}
    {Q : Except String Unit → Store → Prop} {w : Store} (hquiet : Lenient pre)
    (hjobs : ∀ ch w (o : Op), o.JobsOnly → M w → M (exec ch w o).2) (hM : M w)
    (hdeleted : M (w.deleteCallsSessions call.id))
    (hsave : ∀ call' : Call, call'.id = call.id → call'.endAt ≠ 0 →
      call'.stats = call.stats → ∀ w', M w' →
        (store (.updateCall call')).wp (callRules allow pre inv True) Q w') :
    (cleanCallState env call).wp (callRules allow pre inv True) Q w := by
  have hcall : (if call.endAt = 0 then setCallEnded env call else call).id = call.id ∧
      (if call.endAt = 0 then setCallEnded env call else call).stats = call.stats := by
    split <;> exact ⟨rfl, rfl⟩
  refine Code.wp_bind.2 ⟨hquiet _ _ id, fun _ _ => endedCall_rule hquiet hjobs hM ?_
    (hsave _ hcall.1 (cleanCall_ended env call) hcall.2)⟩
  rw [hcall.1]
  exact hdeleted

/-- Storing a call, and telling the clients. -/
theorem storeCall_rule {α : Type} {st : CallState} {c : Except String Unit → Body α}
    {w : Store} (hquiet : Lenient pre) (hw : inv w)
    (hpre : pre w (.store (.updateCall st.call)))
    (hsave : st.call.isValid = .ok () → inv (w.updateCall st.call))
    (hnext : ∀ res, (c res).Only Op.Silent) :
    (updateCallOf st >>= c).wp (callRules allow pre inv True)
      (fun _ w' => inv w') w := by
  have hdone : ∀ res w', inv w' →
      (c res).wp (callRules allow pre inv True) (fun _ w'' => inv w'') w' :=
    fun res w' hw' =>
    silent_rule hquiet (hnext res) (R := fun _ => True)
      (Code.all_of_forall (fun _ => trivial) _) fun _ _ => hw'
  refine Code.wp_bind.2
    (Code.wp_bind.2 (store_rule hpre (fun _ e _ _ => hdone _ w hw) fun a ha => ?_))
  simp only [StoreOp.exec] at ha ⊢
  split at ha
  · cases ha
  next hv => exact hdone _ _ (hsave hv)

/-- The two calls differ at most in the screen and its time, in the host and in who
dismissed the notification. -/
structure Adjusted (c c' : Call) : Prop where
  id : c'.id = c.id
  endAt : c'.endAt = c.endAt
  postID : c'.postID = c.postID
  participants : c'.participants = c.participants
  props : c'.props.participants = c.props.participants

/-- The two calls differ at most in the host and in who dismissed the notification. -/
structure Rehosted (c c' : Call) : Prop extends Adjusted c c' where
  sharer : c'.props.screenSharingSessionID = c.props.screenSharingSessionID
  start : c'.props.screenStartAt = c.props.screenStartAt
  duration : c'.stats.screenDuration = c.stats.screenDuration

/-- A call that differs so may be stored. -/
def Adjustable (R : Call → Call → Prop) (pre : Store → Op → Prop) (inv : Store → Prop)
    (w : Store) (c : Call) : Prop :=
  ∀ c', R c c' → pre w (.store (.updateCall c')) ∧
    (c'.isValid = .ok () → inv (w.updateCall c'))

theorem Adjustable.mono {R R' : Call → Call → Prop} {w : Store} {c : Call}
    (h : Adjustable R pre inv w c) (hR : ∀ c', R' c c' → R c c') :
    Adjustable R' pre inv w c :=
  fun c' hc' => h c' (hR c' hc')

section Adjusted

variable {w : Store} {state : Option CallState}

theorem Adjustable.storeCall {α : Type} {c : Call} {st : CallState}
    {k : Except String Unit → Body α} {R : Call → Call → Prop}
    (h : Adjustable R pre inv w c) (hquiet : Lenient pre) (hw : inv w)
    (hadj : R c st.call) (hnext : ∀ res, (k res).Only Op.Silent) :
    (updateCallOf st >>= k).wp (callRules allow pre inv True) (fun _ w' => inv w') w :=
  storeCall_rule hquiet hw (h _ hadj).1 (h _ hadj).2 hnext

/-- A message to start or stop sharing. -/
theorem screenMessage_keeps {us : UserSession} {turnOn : Bool} (hquiet : Lenient pre)
    (hw : inv w) (hst : ∀ st, state = some st → Adjustable Adjusted pre inv w st.call) :
    (screenMessage env us channelID turnOn state).wp (callRules allow pre inv True)
      (fun _ w' => inv w') w := by
  cases state with
  | none => exact hw
  | some st =>
      unfold screenMessage
      dsimp only
      split
      · exact hw
      split
      · exact hw
      · refine (hst st rfl).storeCall hquiet hw ?_ fun res => ?_
        · dsimp only
          split
          · exact ⟨rfl, rfl, rfl, rfl, rfl⟩
          · unfold unshareScreen
            split <;> exact ⟨rfl, rfl, rfl, rfl, rfl⟩
        · cases res with
          | error e => trivial
          | ok _ => exact tellScreen_only rfl fun _ _ => trivial

/-- A message that changes a session row. -/
theorem sessionMessage_keeps {us : UserSession} {msg : SessionMessage}
    (hquiet : Lenient pre) (hw : inv w) (hsession : ∀ r, inv (w.updateCallSession r)) :
    (sessionMessage env us channelID msg state).wp (callRules allow pre inv True)
      (fun _ w' => inv w') w := by
  cases state with
  | none => exact hw
  | some st =>
      unfold sessionMessage
      dsimp only
      split
      · exact hw
      · refine Code.wp_bind.2
          (store_rule (hquiet _ _ id) (fun _ e _ _ => hw) fun a ha => ?_)
        simp only [StoreOp.exec] at ha ⊢
        split at ha
        · cases ha
        · exact silent_rule (c := publish _ _ >>= fun _ =>
            (pure (.ok ()) : Body (Except String Unit)))
            hquiet ⟨trivial, fun _ => trivial⟩ (R := fun _ => True)
            (Code.all_of_forall (fun _ => trivial) _) fun _ _ => hsession _

/-- The choice of a host. -/
theorem hostChanged_keeps {requesterID newHostID : String} (hquiet : Lenient pre)
    (hw : inv w) (hst : ∀ st, state = some st → Adjustable Rehosted pre inv w st.call) :
    (hostChanged p env requesterID channelID newHostID state).wp
      (callRules allow pre inv True) (fun _ w' => inv w') w := by
  cases state with
  | none => exact hw
  | some st =>
      unfold hostChanged
      dsimp only
      split
      · exact hw
      split
      · exact hw
      split
      · split
        · rw [← Code.bind_ret (updateCallOf _)]
          exact (hst st rfl).storeCall hquiet hw ⟨⟨rfl, rfl, rfl, rfl, rfl⟩, rfl, rfl,
            rfl⟩ fun _ => trivial
        · exact hw
      split
      · exact hw
      · refine (hst st rfl).storeCall hquiet hw ⟨⟨rfl, rfl, rfl, rfl, rfl⟩, rfl, rfl,
          rfl⟩ fun res => ?_
        cases res with
        | error e => trivial
        | ok _ => exact ⟨trivial, fun _ => trivial⟩

/-- Dismissing the notification. -/
theorem notificationDismissed_keeps {userID : String} (hquiet : Lenient pre)
    (hw : inv w) (hst : ∀ st, state = some st → Adjustable Rehosted pre inv w st.call) :
    (notificationDismissed userID state).wp (callRules allow pre inv True)
      (fun _ w' => inv w') w := by
  cases state with
  | none => exact hw
  | some st =>
      refine (hst st rfl).storeCall hquiet hw ⟨⟨rfl, rfl, rfl, rfl, rfl⟩, rfl, rfl, rfl⟩
        fun res => ?_
      cases res with
      | error e => trivial
      | ok _ => exact ⟨trivial, fun _ => trivial⟩

end Adjusted

/-- What makes a request keep `inv`: each body that writes does. -/
structure CallRule (allow : Holder → Choice → Store → Op → Prop)
    (pre : Store → Op → Prop) (inv : Store → Prop) (p : Plugin) (env : Env)
    (channelID : String) (h : Handler) : Prop where
  quiet : Lenient pre
  jobs : ∀ ch w (o : Op), o.JobsOnly → inv w → inv (exec ch w o).2
  joins : ∀ w, inv w →
    (addSessionsToCall p channelID h.joins (storedState w channelID)).wp
    (callRules allow pre inv True) (fun _ w' => inv w') w
  leaves : ∀ w, inv w →
    (removeSessionsFromCall p channelID h.leaves (storedState w channelID)).wp
    (callRules allow pre inv True) (fun _ w' => inv w') w
  screen : ∀ us turnOn, h = .screen us turnOn → ∀ w, inv w →
    (screenMessage env us channelID turnOn (storedState w channelID)).wp
      (callRules allow pre inv True) (fun _ w' => inv w') w
  session : ∀ us msg, h = .session us msg → ∀ w, inv w →
    (sessionMessage env us channelID msg (storedState w channelID)).wp
      (callRules allow pre inv True) (fun _ w' => inv w') w
  changeHost : ∀ requesterID newHostID, h = .changeHost requesterID newHostID →
    ∀ w, inv w →
    (hostChanged p env requesterID channelID newHostID (storedState w channelID)).wp
      (callRules allow pre inv True) (fun _ w' => inv w') w
  dismiss : ∀ userID, h = .dismissNotification userID → ∀ w, inv w →
    (notificationDismissed userID (storedState w channelID)).wp
      (callRules allow pre inv True) (fun _ w' => inv w') w
  cleanUp : h = .cleanUp → ∀ call w, inv w → (cleanCallState env call).wp
    (callRules allow pre inv True) (fun _ w' => inv w') w
  forceEnd : ∀ callID, h = .forceEnd callID → ∀ holder ch w (o : Op), o.EndsCall →
    holder ≠ .self → allow holder ch w o → (exec ch w o).2 = w ∨
      holder = .nobody ∧ (inv w → inv (exec ch w o).2)

/-- The clean-up of one call, which takes the lock. -/
theorem CallRule.cleanUpCall (hrule : CallRule allow pre inv p env channelID h)
    (hh : h = .cleanUp) {call : Call} {w : Store} :
      wp (callRules allow pre inv True) false (cleanUpCall p env call)
      (fun h _ _ => h = false) w := by
  simp only [Ports.cleanUpCall, lockCall, unlockCall, Prog.lock_bind, Prog.ret_bind,
    wp_lock]
  refine ⟨fun w hok => ?_, fun _ w => by simp⟩
  simp only [if_true]
  split
  · simpa using hok
  · refine wp_bind.2 (wp_lift.2
      (Code.wp_mono (hrule.cleanUp hh call w hok) fun res w' hok' => ?_))
    cases res <;> simpa using hok'

theorem CallRule.cleanUpCalls (hrule : CallRule allow pre inv p env channelID h)
    (hh : h = .cleanUp) (calls : List Call) :
      ∀ {w : Store}, wp (callRules allow pre inv True) false
      (cleanUpCalls p env calls) (fun h _ _ => h = false) w := by
  induction calls with
  | nil => exact rfl
  | cons call rest ih =>
      refine wp_bind.2 (wp_mono (hrule.cleanUpCall hh) fun h res w' hh => ?_)
      subst hh
      cases res with
      | error e => rfl
      | ok _ => exact ih

/-- Every request on a call meets its precondition. -/
theorem CallRule.code (hrule : CallRule allow pre inv p env channelID h)
    (hh : h.OnCall) (w : Store) :
    wp (callRules allow pre inv True) false (h.code p env channelID)
      (fun h _ _ => h = false) w := by
  have hquiet := hrule.quiet
  cases h with
  | join j =>
      refine discard_rule (underLock_rule hquiet fun w hw => ?_)
      exact Code.wp_bind.2
        (Code.wp_mono (Code.wp_bind.1 (hrule.joins w hw)) fun _ _ hw' => hw')
  | joinBatch js => exact discard_rule (underLock_rule hquiet hrule.joins)
  | leave l =>
      refine discard_rule (underLock_rule hquiet fun w hw => ?_)
      exact Code.wp_bind.2
        (Code.wp_mono (Code.wp_bind.1 (hrule.leaves w hw)) fun _ _ hw' => hw')
  | leaveBatch ls => exact discard_rule (underLock_rule hquiet hrule.leaves)
  | screen us turnOn =>
      refine discard_rule ?_
      unfold handleClientMessageTypeScreen
      split
      · rfl
      · exact underLock_rule hquiet (hrule.screen us turnOn rfl)
  | session us msg =>
      exact discard_rule (underLock_rule hquiet (hrule.session us msg rfl))
  | changeHost requesterID newHostID =>
      exact discard_rule (underLock_rule hquiet
        (hrule.changeHost requesterID newHostID rfl))
  | hostEnd requesterID =>
      refine discard_rule (underLock_rule hquiet fun w hw => ?_)
      cases storedState w channelID with
      | none => exact hw
      | some st =>
          dsimp only
          split
          · exact hw
          · exact Code.wp_bind.2 ⟨hquiet _ _ id, fun _ _ => hw⟩
  | forceEnd callID =>
      exact (forceEnd_endsCall env callID).wp_free
        (fun holder ch w o ho hne hallow =>
          hrule.forceEnd callID rfl holder ch w o ho hne hallow)
        fun _ _ => rfl
  | dismissNotification userID =>
      exact discard_rule (underLock_rule hquiet (hrule.dismiss userID rfl))
  | callStateRequest userID connID =>
      refine discard_rule (underLock_rule hquiet fun w hw => ?_)
      cases storedState w channelID with
      | none => exact hw
      | some st => exact Code.wp_bind.2 ⟨hquiet _ _ id, fun _ _ => hw⟩
  | botReconnect connID prevConnID =>
      exact discard_rule (underLock_rule hquiet fun w hw =>
        jobsOnly_rule hquiet (botReconnected_jobsOnly _ _ _) hrule.jobs hw)
  | cleanUp =>
      refine discard_rule fun _ ch w' _ _ => ⟨.inl ?_, fun _ => ?_⟩
      · exact attempt_read (o := .getAllActiveCalls) rfl ch.storeFails w'
      · show wp _ false (match (exec ch w' (.store .getAllActiveCalls)).1 with
          | .error e => (return .error ("failed to get all active calls: " ++ e) : P _)
          | .ok calls => Ports.cleanUpCalls p env (calls.filter fun call =>
              call.channelID = channelID)) _ _
        cases (exec ch w' (.store .getAllActiveCalls)).1 with
        | error e => rfl
        | ok calls => exact hrule.cleanUpCalls rfl _
  | _ => exact hh.elim

end Rules

end CallsPlugin.Ports
