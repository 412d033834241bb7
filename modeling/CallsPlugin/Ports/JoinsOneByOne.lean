import CallsPlugin.Verified.Solo
import CallsPlugin.Ports.HostOrder
import CallsPlugin.Ports.SessionRules
import CallsPlugin.Ports.StoredState

/-!
# Joins in a batch and one by one

After each join the state that a batch passes on in memory is the one that would be read
from the store (`storedState_of_join`).  A batch of joins therefore does what the joins
do one after another, each on the state it reads under the lock.
-/

namespace CallsPlugin.Ports

open CallsPlugin.Verified
open CallsPlugin.Ports.Public CallsPlugin.Ports.Db

/-! ## Handlers on their own -/

/-- A store call has failed. -/
def Op.failed : (o : Op) → o.Resp → Bool
  | .store _, .error _ => true
  | _, _ => false

/-- What a body does on its own, unless a store call fails. -/
def soloBody {α : Type} (c : Body α) (w : Store) : Option (α × Store) :=
  c.solo (exec .works) Op.failed w

/-- What a handler does on its own, unless a store call fails. -/
def soloHandler {α : Type} (c : P α) (w : Store) : Option (α × Store) :=
  c.solo (exec .works) Op.failed w

/-- The store after a call that succeeds. -/
def storeAfter (o : StoreOp) (w : Store) : Option Store :=
  match (o.exec w).1 with
  | .error _ => none
  | .ok _ => some (o.exec w).2

/-- The store after calls that all succeed. -/
def storeAfterAll (ops : List StoreOp) (w : Store) : Option Store :=
  ops.foldlM (fun w o => storeAfter o w) w

section Solo

variable {α β : Type} {w : Store}

theorem storeAfterAll_append (ops ops' : List StoreOp) (w : Store) :
    storeAfterAll (ops ++ ops') w = (storeAfterAll ops w).bind (storeAfterAll ops') :=
  List.foldlM_append

theorem storeAfterAll_cons (o : StoreOp) (ops : List StoreOp) (w : Store) :
    storeAfterAll (o :: ops) w = (storeAfter o w).bind (storeAfterAll ops) :=
  List.foldlM_cons

@[simp] theorem soloBody_ret (a : α) (w : Store) :
    soloBody (.ret a) w = some (a, w) := rfl

theorem soloBody_bind (c : Body α) (k : α → Body β) (w : Store) :
    soloBody (c >>= k) w = (soloBody c w).bind fun r => soloBody (k r.1) r.2 :=
  Code.solo_bind ..

theorem soloBody_store {o : StoreOp} {k : Except String o.Result → Body α} :
    soloBody (store o >>= k) w = match (o.exec w).1 with
      | .error _ => none
      | .ok a => soloBody (k (.ok a)) (o.exec w).2 := by
  unfold soloBody store
  rw [Code.perform_bind, Code.solo_op, exec_store, works_storeFails, attempt_false]
  cases (o.exec w).1 <;> rfl

/-- A write. -/
theorem soloBody_write {wr : Write} {k : Except String Unit → Body α} :
    soloBody (write wr >>= k) w =
    (storeAfter wr.op w).bind (soloBody (k (.ok ()))) := by
  unfold write storeAfter
  rw [Code.bind_assoc, soloBody_store]
  cases (wr.op.exec w).1 <;> rfl

/-- Writing a call whose failure is only logged. -/
theorem soloBody_updateCall {c : Call} {k : Except String Unit → Body α} :
    soloBody (store (.updateCall c) >>= k) w =
      (storeAfter (.updateCall c) w).bind (soloBody (k (.ok ()))) := by
  unfold storeAfter
  rw [soloBody_store]
  cases ((StoreOp.updateCall c).exec w).1 <;> rfl

theorem soloBody_writeAll (ws : List Write) (w : Store) : soloBody (writeAll ws) w =
    (storeAfterAll (ws.map Write.op) w).map fun w' => (.ok (), w') := by
  induction ws generalizing w with
  | nil => rfl
  | cons wr ws ih =>
      rw [writeAll, soloBody_write, List.map_cons, storeAfterAll_cons, Option.map_bind]
      exact congrArg _ (funext ih)

/-- Code that does not call the store. -/
theorem soloBody_silent {c : Body α} {Q : α → Prop} (hc : c.Only Op.Silent)
    (hQ : c.All Q) (w : Store) : ∃ a, Q a ∧ soloBody c w = some (a, w) := by
  refine hc.solo hQ (fun w o ho => ⟨?_, ho.exec _ _⟩) w
  cases o with
  | store o => exact ho.elim
  | _ => rfl

/-- Such code before other code. -/
theorem soloBody_silent_bind {c : Body α} {k : α → Body β} {a : α}
    (hc : c.Only Op.Silent) (hQ : c.All (· = a)) (w : Store) :
    soloBody (c >>= k) w = soloBody (k a) w := by
  obtain ⟨a', ha', h⟩ := soloBody_silent hc hQ w
  rw [soloBody_bind, h, ha']
  rfl

theorem soloBody_silent_unit {c : Body Unit} {k : Unit → Body β} (hc : c.Only Op.Silent)
    (w : Store) : soloBody (c >>= k) w = soloBody (k ()) w :=
  soloBody_silent_bind hc (Code.all_of_forall (fun _ => rfl) c) w

/-- On a working store `getCallState` reads the stored state. -/
theorem soloBody_getCallState (channelID : String) (w : Store) :
    soloBody (getCallState channelID) w = some (.ok (storedState w channelID), w) := by
  unfold getCallState storedState
  rw [soloBody_store]
  dsimp only [StoreOp.exec]
  cases w.getActiveCallByChannelID channelID <;> rfl

/-- The state is read under the lock. -/
theorem soloHandler_underLock {channelID : String}
    {body : Option CallState → Body α} (w : Store) :
    soloHandler (underLock channelID body) w =
      (soloBody (body (storedState w channelID)) w).map fun r => (.ok r.1, r.2) := by
  have hread : Code.solo (exec .works) Op.failed (getCallState channelID) w = _ :=
    soloBody_getCallState channelID w
  simp only [soloHandler, underLock, withLock, lockCallReturnState, lockCall,
    unlockCall, Prog.lock_bind, Prog.unlock_bind, Prog.ret_bind, Prog.pure_eq,
    Prog.liftM_eq, Prog.bind_assoc, Prog.solo_lock, Prog.solo_unlock, Prog.solo_ret,
    Prog.solo_bind, Prog.solo_lift, if_true, hread, Option.bind_some]
  unfold soloBody
  cases Code.solo (exec .works) Op.failed (body (storedState w channelID)) w <;> rfl

end Solo

/-! ## A join on its own -/

/-- The writes of a join before it is announced. -/
def joinOps (p : Plugin) (env : Env) (st : CallState) (jobs : List CallJob)
    (r : JoinRequest) :
    List StoreOp :=
  (joinWrites p env st jobs r).map Write.op

/-- The post of a new call, where it was created. -/
def startedPostOf (env : Env) : String × String :=
  match env.startedPost with
  | .error _ => ("", "")
  | .ok ids => ids

/-- The first session of a call has the post of the call stored. -/
def posted (env : Env) (st : CallState) : CallState :=
  if st.sessions.rows.length = 1
  then withPost st (startedPostOf env).1 (startedPostOf env).2
  else st

/-- The write of the post. -/
def postOps (env : Env) (st : CallState) : List StoreOp :=
  if st.sessions.rows.length = 1 then [.updateCall (posted env st).call] else []

section Join

variable {p : Plugin} {env : Env} {channelID : String} {r : JoinRequest}
  {state : Option CallState} {st : CallState} {jobs : List CallJob} {w w' : Store}

theorem soloBody_addUserSession
    (h : joinChecks p env state r channelID = .ok (st, jobs)) :
    soloBody (addUserSession p env state r channelID) w =
      (storeAfterAll (joinOps p env st jobs r) w).map fun w' =>
        ((some (joined p env st r), .ok ()), w') := by
  unfold addUserSession
  rw [tryAddUserSession_eq, h]
  dsimp only
  rw [Code.bind_assoc, soloBody_bind, soloBody_writeAll, Option.bind_map, joinOps]
  cases storeAfterAll ((joinWrites p env st jobs r).map Write.op) w with
  | none => rfl
  | some w' =>
      show soloBody ((announceHost env _ (joined p env st r) channelID >>= fun _ =>
        Code.ret (Except.ok (joined p env st r))) >>= _) w' = _
      rw [Code.bind_assoc, soloBody_silent_unit (announceHost_silent ..)]
      rfl

theorem soloBody_callStarted {userID : String} (hlen : st.sessions.rows.length = 1) :
    soloBody (callStarted p env st userID channelID) w =
      (storeAfterAll (postOps env st) w).map fun w' => (posted env st, w') := by
  have hpost : posted env st =
      withPost st (startedPostOf env).1 (startedPostOf env).2 :=
    if_pos hlen
  rw [postOps, if_pos hlen, hpost, storeAfterAll_cons]
  have hsave : ∀ ev, soloBody (store
      (.updateCall (withPost st (startedPostOf env).1 (startedPostOf env).2).call) >>=
      fun _ =>
        publish ev (wholeChannel channelID) >>= fun _ =>
          pure (withPost st (startedPostOf env).1 (startedPostOf env).2)) w =
      ((storeAfter (.updateCall
        (withPost st (startedPostOf env).1 (startedPostOf env).2).call)
        w).bind (storeAfterAll [])).map fun w' =>
          (withPost st (startedPostOf env).1 (startedPostOf env).2, w') := by
    intro ev
    rw [soloBody_updateCall, Option.map_bind]
    refine congrArg _ (funext fun w' => ?_)
    exact soloBody_silent_unit (c := publish ev _) ⟨trivial, fun _ => trivial⟩ w'
  unfold callStarted
  dsimp only
  split
  · refine (soloBody_silent_unit (c := sendEphemeralPost ..) ?_ w).trans (hsave _)
    exact ⟨trivial, fun _ => trivial⟩
  · exact hsave _

/-- A join that is accepted. -/
theorem soloBody_addSessionToCall
    (h : joinChecks p env state r channelID = .ok (st, jobs)) :
    soloBody (addSessionToCall p env r channelID state) w =
      (storeAfterAll (joinOps p env st jobs r ++ postOps env (joined p env st r)) w).map
        fun w' =>
        ((some (posted env (joined p env st r)), .ok ()), w') := by
  unfold addSessionToCall
  rw [soloBody_bind, soloBody_addUserSession h, storeAfterAll_append, Option.bind_map,
    Option.map_bind]
  refine congrArg _ (funext fun w' => ?_)
  have hannounce : ∀ st' w'', soloBody (announceJoin p env st' r channelID >>= fun _ =>
      pure (some st', (.ok () : Except String Unit))) w'' =
        some ((some st', .ok ()), w'') :=
    fun st' w'' => soloBody_silent_unit (announceJoin_silent ..) w''
  show soloBody ((if (joined p env st r).sessions.rows.length = 1 then
      callStarted p env (joined p env st r) r.userID channelID else pure
        (joined p env st r)) >>=
        fun st' => announceJoin p env st' r channelID >>= fun _ =>
          pure (some st', (.ok () : Except String Unit))) w' = _
  rw [soloBody_bind]
  by_cases hlen : (joined p env st r).sessions.rows.length = 1
  · rw [if_pos hlen, soloBody_callStarted hlen, Option.bind_map, Function.comp_apply]
    cases storeAfterAll (postOps env (joined p env st r)) w' with
    | none => rfl
    | some w'' => exact hannounce _ _
  · rw [if_neg hlen, postOps, if_neg hlen, posted, if_neg hlen]
    exact hannounce _ _

/-- A join that is refused. -/
theorem soloBody_addSessionToCall_refused {e : String}
    (h : joinChecks p env state r channelID = .error e) :
    soloBody (addSessionToCall p env r channelID state) w =
    some ((state, .error e), w) := by
  have honly : (announceRefusal r channelID e).Only Op.Silent := by
    unfold announceRefusal
    split
    · exact ⟨trivial, fun _ => trivial⟩
    · trivial
  have hadd : soloBody (addUserSession p env state r channelID) w =
      some ((state, .error e), w) := by
    unfold addUserSession
    rw [tryAddUserSession_eq, h]
    dsimp only
    rw [Code.bind_assoc, soloBody_silent_unit honly]
    rfl
  unfold addSessionToCall
  rw [soloBody_bind, hadd]
  rfl

end Join

/-! ## The state after a join -/

section Stored

variable {p : Plugin} {env : Env} {channelID : String} {r : JoinRequest}
  {state : Option CallState} {st : CallState} {jobs : List CallJob} {w w' : Store}

theorem storeAfter_updateCallJob {j : CallJob} :
    storeAfter (.updateCallJob j) w = some w' ↔ j.isValid = .ok () ∧
    w.updateCallJob j = w' := by
  unfold storeAfter
  simp only [StoreOp.exec]
  cases j.isValid <;> simp

theorem storeAfter_updateCall {c : Call} :
    storeAfter (.updateCall c) w = some w' ↔ c.isValid = .ok () ∧
    w.updateCall c = w' := by
  unfold storeAfter
  simp only [StoreOp.exec]
  cases c.isValid <;> simp

theorem storeAfter_createCall {c : Call} : storeAfter (.createCall c) w = some w' ↔
    c.isValid = .ok () ∧ ∃ t, w.calls.insert? c = some t ∧
    { w with calls := t } = w' := by
  unfold storeAfter
  simp only [StoreOp.exec]
  cases hi : insertRow "call" c.isValid w.calls c with
  | error e =>
      refine iff_of_false (by simp) ?_
      rintro ⟨hv, t, ht, -⟩
      rw [insertRow_eq_ok.2 ⟨hv, ht⟩] at hi
      cases hi
  | ok t =>
      obtain ⟨hv, ht⟩ := insertRow_eq_ok.1 hi
      simp [hv, ht]

theorem storeAfter_createCallSession {row : CallSession} :
    storeAfter (.createCallSession row) w = some w' ↔ row.isValid = .ok () ∧
      ∃ t, w.sessions.insert? row = some t ∧ { w with sessions := t } = w' := by
  unfold storeAfter
  simp only [StoreOp.exec]
  cases hi : insertRow "call session" row.isValid w.sessions row with
  | error e =>
      refine iff_of_false (by simp) ?_
      rintro ⟨hv, t, ht, -⟩
      rw [insertRow_eq_ok.2 ⟨hv, ht⟩] at hi
      cases hi
  | ok t =>
      obtain ⟨hv, ht⟩ := insertRow_eq_ok.1 hi
      simp [hv, ht]

/-- The jobs a join takes over are read as it wrote them. -/
theorem storedState_jobsTaken (h : storedState w channelID = some st)
    (hjobs : jobsOf p st r = .ok jobs)
    (hw : storeAfterAll (jobs.map fun j => .updateCallJob (withBotConnID j r.connID))
      w = some w') :
    storedState w' channelID = some (withJobs p st r) := by
  have hrunning : ∀ type j, st.job type = some j → j.endAt = 0 := fun type j hj =>
    (Store.getActiveCallJobs_eq_some
      (((storedState_eq_some.1 h).2.2 type).trans hj)).2.2.1
  have hone : ∀ {w₁ w₂ : Store} {st₁ : CallState} {j} (type), storedState w₁ channelID =
      some st₁ → st₁.job type = some j → j.endAt = 0 →
      storeAfter (.updateCallJob (withBotConnID j r.connID)) w₁ = some w₂ →
      storedState w₂ channelID =
      some (st₁.withJob type (withBotConnID j r.connID)) := by
    intro w₁ w₂ st₁ j type hst₁ hj hend hw₂
    rw [← (storeAfter_updateCallJob.1 hw₂).2]
    exact storedState_updateCallJob hst₁ hj rfl hend rfl
  unfold jobsOf at hjobs
  unfold withJobs
  split at hjobs
  next hbot =>
    rw [if_pos hbot]
    unfold jobsTaken at hjobs
    unfold takeJobs
    split at hjobs
    · cases hjobs
    cases hrec : st.recording.filter (awaitsBot r.jobID) with
    | some rec =>
        rw [hrec] at hjobs
        cases hjobs
        have hj : st.job .recording = some rec := (Option.filter_eq_some_iff.1 hrec).1
        rw [List.map_singleton, storeAfterAll_cons] at hw
        obtain ⟨w₁, hw₁, hw⟩ := Option.bind_eq_some_iff.1 hw
        cases hw
        exact hone .recording h hj (hrunning _ _ hj) hw₁
    | none =>
        rw [hrec] at hjobs
        cases htr : st.transcription.filter (awaitsBot r.jobID) with
        | none =>
            rw [htr] at hjobs
            cases hjobs
        | some tr =>
            rw [htr] at hjobs
            cases hjobs
            have hj : st.job .transcribing = some tr :=
              (Option.filter_eq_some_iff.1 htr).1
            dsimp only
            rw [List.map_append, storeAfterAll_append] at hw
            obtain ⟨w₁, hw₁, hw⟩ := Option.bind_eq_some_iff.1 hw
            rw [List.map_singleton, storeAfterAll_cons] at hw
            obtain ⟨w₂, hw₂, hw⟩ := Option.bind_eq_some_iff.1 hw
            cases hw
            cases hlc : startingCaptions st with
            | none =>
                rw [hlc] at hw₁
                cases hw₁
                exact hone .transcribing h hj (hrunning _ _ hj) hw₂
            | some lc =>
                have hlcj : st.job .captioning = some lc :=
                  (Option.filter_eq_some_iff.1 hlc).1
                rw [hlc, Option.toList_some, List.map_singleton,
                  storeAfterAll_cons] at hw₁
                obtain ⟨w₀, hw₀, hw₁⟩ := Option.bind_eq_some_iff.1 hw₁
                cases hw₁
                have hst := hone .captioning h hlcj (hrunning _ _ hlcj) hw₀
                exact hone .transcribing hst hj (hrunning _ _ hj) hw₂
  next hbot =>
    rw [if_neg hbot]
    cases hjobs
    cases hw
    exact h

/-- No rows point to the call yet. -/
def Unused (w : Store) (callID : String) : Prop :=
  (∀ x ∈ w.sessions, x.callID ≠ callID) ∧ ∀ j ∈ w.jobs, j.callID ≠ callID

/-- The state of a call that was just created. -/
theorem storedState_createCall {c : Call} {t : Table Call.id}
    (h : storedState w channelID = none) (hi : w.calls.insert? c = some t)
    (hchannel : c.channelID = channelID) (hact : Active c) (hunused : Unused w c.id) :
    storedState { w with calls := t } channelID =
    some ⟨c, .empty, none, none, none⟩ := by
  refine storedState_eq_some.2
    ⟨getActiveCall_createCall (storedState_eq_none.1 h) hi hchannel hact,
      Table.ext ?_, ?_⟩
  · exact List.filter_eq_nil_iff.2 fun x hx hc => hunused.1 x hx (of_decide_eq_true hc)
  · intro type
    have hnone : ({ w with calls := t } : Store).getActiveCallJobs c.id type = none :=
      Store.getActiveCallJobs_eq_none.2 fun j hj hc => absurd hc (hunused.2 j hj)
    rw [hnone]
    cases type <;> rfl

theorem joined_active (hact : Active st.call) : Active (joined p env st r).call := by
  rw [joined_call]
  exact hact

/-- **The state after a join** that goes through is the one the batch goes on with. -/
theorem storedState_of_join (hread : storedState w channelID = state)
    (h : joinChecks p env state r channelID = .ok (st, jobs))
    (hunused : state = none → Unused w env.newID)
    (hw : storeAfterAll (joinOps p env st jobs r ++ postOps env (joined p env st r))
      w = some w') :
    storedState w' channelID = some (posted env (joined p env st r)) := by
  obtain ⟨hcall, hcheck, hjobs⟩ := joinChecks_eq_ok h
  rw [joinOps, joinWrites, List.map_append, List.map_map, storeAfterAll_append,
    storeAfterAll_append] at hw
  obtain ⟨w₃, hw₃, hpost⟩ := Option.bind_eq_some_iff.1 hw
  obtain ⟨w₁, hw₁, hw₃⟩ := Option.bind_eq_some_iff.1 hw₃
  rw [List.map_cons, List.map_singleton, storeAfterAll_cons] at hw₃
  obtain ⟨w₂, hw₂, hw₃⟩ := Option.bind_eq_some_iff.1 hw₃
  rw [storeAfterAll_cons] at hw₃
  obtain ⟨_, hw₃, hsame⟩ := Option.bind_eq_some_iff.1 hw₃
  cases hsame
  obtain ⟨-, t, hi, rfl⟩ := storeAfter_createCallSession.1 hw₃
  have hrows := joined_sessions env hcheck
  -- the state once the call has been written
  have hwritten : ∃ sessions : Table CallSession.id, sessions.rows = st.sessions.rows ∧
      storedState w₂ channelID =
      some { joined p env st r with sessions := sessions } := by
    unfold callWrite at hw₂
    rcases callToJoin_eq_ok hcall with hstate | ⟨hstate, host, rfl⟩
    · subst hstate
      have hst₁ := storedState_jobsTaken hread hjobs hw₁
      have hsame : (withJobs p st r).call = st.call := withJobs_call p st r
      split at hw₂
      next =>
        -- a call that is there is not created again
        obtain ⟨-, t', hi', -⟩ := storeAfter_createCall.1 hw₂
        have hid : (withJobs p st r).call.id = (joined p env st r).call.id := by
          rw [hsame, joined_call]
        exact absurd hid ((Table.insert?_eq_some.1 hi').1 _ (storedState_active hst₁).1)
      next =>
        obtain ⟨-, rfl⟩ := storeAfter_updateCall.1 hw₂
        have hset : Store.setCall (withJobs p st r).call (joined p env st r).call =
            (joined p env st r).call := by
          rw [hsame, joined_call]
          rfl
        refine ⟨(withJobs p st r).sessions, by rw [withJobs_sessions], ?_⟩
        rw [storedState_updateCall hst₁ hset
          (joined_active (storedState_active hread).2.2)]
        rfl
    · -- there is no job that the bot could join for
      have hnone : r.userID ≠ p.botID ∧ jobs = [] := by
        unfold jobsOf jobsTaken at hjobs
        rw [if_pos
          (⟨rfl, rfl⟩ : (newCallState p env r.userID channelID host).recording = none ∧
          (newCallState p env r.userID channelID host).transcription = none)] at hjobs
        split at hjobs
        · cases hjobs
        next hbot =>
          cases hjobs
          exact ⟨hbot, rfl⟩
      obtain ⟨hbot, rfl⟩ := hnone
      cases hw₁
      have hlen : (joined p env (newCallState p env r.userID channelID host)
          r).sessions.rows.length = 1 := by
        rw [hrows]
        rfl
      rw [if_pos hlen] at hw₂
      obtain ⟨-, t', hi', rfl⟩ := storeAfter_createCall.1 hw₂
      refine ⟨.empty, rfl, ?_⟩
      have hact : Active (newCallState p env r.userID channelID host).call :=
        ⟨rfl, env.now_pos _, rfl⟩
      have hid : (joined p env (newCallState p env r.userID channelID host) r).call.id =
          env.newID := by
        rw [joined_call]
        rfl
      rw [storedState_createCall (hread.trans hstate) hi' (by rw [joined_call]; rfl)
        (joined_active hact) (hid ▸ hunused hstate)]
      have hjobs : withJobs p (newCallState p env r.userID channelID host) r =
          newCallState p env r.userID channelID host := if_neg hbot
      unfold joined
      rw [hjobs]
      rfl
  obtain ⟨sessions, hsessions, hst₂⟩ := hwritten
  have hsession : newSession env (joined p env st r) r.userID r.connID =
      newSession env st r.userID r.connID := newSession_joined
  have hput : (joined p env st r).sessions.rows = sessions.rows ++
      [newSession env (joined p env st r) r.userID r.connID] := by
    rw [hrows, hsessions, hsession]
  have hst₃ := storedState_createSession hst₂ hi rfl hput
  have hst₃ : storedState { w₂ with sessions := t } channelID =
      some (joined p env st r) := hst₃
  unfold postOps at hpost
  unfold posted at hpost ⊢
  split at hpost
  next hlen =>
    rw [if_pos hlen]
    rw [storeAfterAll_cons] at hpost
    obtain ⟨_, hpost, hsame⟩ := Option.bind_eq_some_iff.1 hpost
    cases hsame
    obtain ⟨-, rfl⟩ := storeAfter_updateCall.1 hpost
    exact storedState_updateCall
      (c :=
        (withPost (joined p env st r) (startedPostOf env).1 (startedPostOf env).2).call)
      hst₃ rfl (storedState_active hst₃).2.2
  next hlen =>
    rw [if_neg hlen]
    cases hpost
    exact hst₃

end Stored

/-! ## Orders of the maps -/

/-- The same readings of the clock, ids and posts; the maps may be walked in other
orders, and an RTC session may fail to open. -/
structure Env.SameReadings (env env' : Env) : Prop where
  now : env'.now = env.now
  newID : env'.newID = env.newID
  newHost : env'.newHost = env.newHost
  startedPost : env'.startedPost = env.startedPost

/-- Every session names its user, as every row that is stored must. -/
def CallState.Named (st : CallState) : Prop := ∀ x ∈ st.sessions, x.userID ≠ ""

/-- The join times of the sessions. -/
def CallState.joinTimes (st : CallState) : List Int :=
  st.sessions.rows.map CallSession.joinAt

/-- Users who joined at different times are told apart in every order of the map. -/
theorem getHostID_orders {st : CallState} {botID : String} (hnamed : st.Named)
    (htimes : st.joinTimes.Nodup) (env env' : Env) :
    st.getHostID env botID = st.getHostID env' botID := by
  have hsettled : st.HostSettled botID := by
    refine .inr (.inr ⟨fun x y hx hy _ _ => ?_, fun hsome => ?_⟩)
    · have htime : x.joinAt = y.joinAt := le_antisymm (hx.2 y hy.1) (hy.2 x hx.1)
      have hrow := List.inj_on_of_nodup_map htimes (CallState.mem_candidates.1 hx.1).1
        (CallState.mem_candidates.1 hy.1).1 htime
      rw [hrow]
    · obtain ⟨y, hy, -⟩ := hsome
      obtain ⟨x, hx⟩ := CallState.exists_earliest (List.ne_nil_of_mem hy)
      exact ⟨x, hx, hnamed x (CallState.mem_candidates.1 hx.1).1⟩
  obtain ⟨host, -, hhost⟩ := (CallState.oneHost_iff st botID).2 hsettled
  exact (hhost env).trans (hhost env').symm

section Orders

variable {p : Plugin} {env env' : Env} {channelID : String} {r : JoinRequest}
  {state : Option CallState} {st : CallState} {jobs : List CallJob} {w w' : Store}

theorem Env.SameReadings.joinChecks (h : env.SameReadings env') :
    joinChecks p env' state r channelID = joinChecks p env state r channelID := by
  unfold Ports.joinChecks callToJoin newCallState
  rw [h.now, h.newID, h.newHost]

/-- The state a join leads to does not depend on the order of the map. -/
theorem Env.SameReadings.joined (h : env.SameReadings env')
    (hcheck : checkJoin p st r.connID = .ok ()) (hnamed : st.Named)
    (huser : r.userID ≠ "") (htimes : (st.joinTimes ++ [env.now .joinAt]).Nodup) :
    joined p env' st r = joined p env st r := by
  have hsession : newSession env' (withJobs p st r) r.userID r.connID =
      newSession env (withJobs p st r) r.userID r.connID := by
    unfold newSession
    rw [h.now]
  have hrows : (withSession env st r).sessions.rows =
      st.sessions.rows ++ [newSession env st r.userID r.connID] := by
    rw [← joined_sessions env hcheck]
    simp only [withSession, Ports.joined, admitted, withJobs_sessions, newSession,
      withJobs_call]
  have hhost : ∀ env₁ env₂ : Env, (withSession env st r).getHostID env₁ p.botID =
      (withSession env st r).getHostID env₂ p.botID := by
    refine getHostID_orders (fun x hx => ?_) ?_
    · rw [Table.mem_def, hrows, List.mem_append, List.mem_singleton] at hx
      rcases hx with hx | rfl
      · exact hnamed x hx
      · exact huser
    · unfold CallState.joinTimes
      rw [hrows, List.map_append]
      exact htimes
  have hsame : ∀ env₁, CallState.getHostID env₁
      { withJobs p st r with
        sessions := (withJobs p st r).sessions.put
          (newSession env (withJobs p st r) r.userID r.connID) } p.botID =
      (withSession env st r).getHostID env₁ p.botID := fun env₁ =>
    CallState.getHostID_congr (by simp [withSession])
      (by simp [withSession, newSession])
  have hsame' := fun env₁ => (hsame env₁).trans (hhost env₁ env)
  dsimp only at hsame'
  unfold Ports.joined admitted
  dsimp only
  rw [hsession, hsame' env, hsame' env']

/-- A join whose session is refused by the store comes to nothing. -/
theorem newSession_of_storeAfterAll
    (h : storeAfterAll (joinOps p env st jobs r ++ postOps env (joined p env st r))
      w = some w') :
    r.userID ≠ "" := by
  rw [joinOps, joinWrites, List.map_append, storeAfterAll_append,
    storeAfterAll_append] at h
  obtain ⟨w₃, hw₃, -⟩ := Option.bind_eq_some_iff.1 h
  obtain ⟨w₁, -, hw₃⟩ := Option.bind_eq_some_iff.1 hw₃
  rw [List.map_cons, List.map_singleton, storeAfterAll_cons] at hw₃
  obtain ⟨w₂, -, hw₃⟩ := Option.bind_eq_some_iff.1 hw₃
  rw [storeAfterAll_cons] at hw₃
  obtain ⟨w₄, hw₄, -⟩ := Option.bind_eq_some_iff.1 hw₃
  exact (CallSession.isValid_ok.1 (storeAfter_createCallSession.1 hw₄).1).2.2.1

/-- A join does the same in every order of the map. -/
theorem soloBody_addSessionToCall_orders (h : env.SameReadings env')
    (hnamed : ∀ st, state = some st → st.Named)
    (htimes : ∀ st, state = some st → (st.joinTimes ++ [env.now .joinAt]).Nodup) :
    soloBody (addSessionToCall p env' r channelID state) w =
      soloBody (addSessionToCall p env r channelID state) w := by
  cases hchecks : joinChecks p env state r channelID with
  | error e =>
      rw [soloBody_addSessionToCall_refused hchecks,
        soloBody_addSessionToCall_refused (h.joinChecks.trans hchecks)]
  | ok res =>
      obtain ⟨st, jobs⟩ := res
      rw [soloBody_addSessionToCall hchecks,
        soloBody_addSessionToCall (h.joinChecks.trans hchecks)]
      obtain ⟨hcall, hcheck, -⟩ := joinChecks_eq_ok hchecks
      have hst : st.Named ∧ (st.joinTimes ++ [env.now .joinAt]).Nodup := by
        rcases callToJoin_eq_ok hcall with rfl | ⟨-, host, rfl⟩
        · exact ⟨hnamed st rfl, htimes st rfl⟩
        · exact ⟨fun x hx => absurd hx (Table.not_mem_empty x), List.nodup_singleton _⟩
      by_cases huser : r.userID = ""
      · -- the store refuses the session, whoever is the host
        have hnone : ∀ env₁, storeAfterAll (joinOps p env₁ st jobs r ++
            postOps env₁ (joined p env₁ st r)) w = none := fun env₁ =>
          Option.eq_none_iff_forall_ne_some.2 fun w' hw' =>
            newSession_of_storeAfterAll hw' huser
        rw [hnone, hnone]
        rfl
      · have hjoined := h.joined hcheck hst.1 huser hst.2
        have hpost : startedPostOf env' = startedPostOf env := by
          unfold startedPostOf
          rw [h.startedPost]
        have hsession : newSession env' (joined p env st r) r.userID r.connID =
            newSession env (joined p env st r) r.userID r.connID := by
          unfold newSession
          rw [h.now]
        unfold joinOps joinWrites postOps posted
        rw [hjoined, hpost, hsession]

end Orders

/-! ## A batch of joins -/

/-- A batch and its items one after another, each on a state it reads, end alike as far
as `view` shows: with the same outcomes and in the same store, or both with a store call
that fails. -/
def EndAlike {β : Type} (view : List (Except String Unit) × Store → β)
    (batch : P (Except String (List (Except String Unit))))
    (items : P (List (Except String (Except String Unit)))) (w : Store) : Prop :=
  ∃ res res' : Option (List (Except String Unit) × Store),
    soloHandler batch w = res.map (fun r => (.ok r.1, r.2)) ∧
    soloHandler items w = res'.map (fun r => (r.1.map .ok, r.2)) ∧
    res.map view = res'.map view

/-- One item on its own and then the others. -/
theorem soloHandler_oneByOne_cons {ι α : Type} {channelID : String}
    {code : ι → P (Except String α)} {body : ι → Option CallState → Body α}
    (hcode : ∀ i, code i = underLock channelID (body i)) (i : ι)
    (rest : List ι) (w : Store) :
    soloHandler (oneByOne code (i :: rest)) w =
      (soloBody (body i (storedState w channelID)) w).bind fun r =>
        (soloHandler (oneByOne code rest) r.2).map fun r' =>
            (.ok r.1 :: r'.1, r'.2) := by
  have hcons : Prog.solo (exec .works) Op.failed (oneByOne code (i :: rest)) w = _ :=
    oneByOne_solo_cons code i rest w
  have hone : Prog.solo (exec .works) Op.failed (code i) w = _ :=
    (congrArg (soloHandler · w) (hcode i)).trans (soloHandler_underLock w)
  rw [hone, Option.bind_map] at hcons
  exact hcons

/-- The same request, with the same readings. -/
def Join.SameReadings (j j' : Join) : Prop := j'.req = j.req ∧ j.env.SameReadings j'.env

/-- What the joins of a batch need of the state they start from: its sessions are named,
all join times differ, and new calls get unused ids. -/
structure JoinsApart (state : Option CallState) (js : List Join) (w : Store) :
    Prop where
  named : ∀ st, state = some st → st.Named
  times : ((state.map CallState.joinTimes).getD [] ++ js.map (·.env.now .joinAt)).Nodup
  unused : state = none → ∀ j ∈ js, Unused w j.env.newID

section Batch

variable {p : Plugin} {channelID : String} {state : Option CallState} {j : Join}
  {js js' : List Join} {w w' : Store}

/-- What the first join leaves to the others. -/
theorem JoinsApart.next {st : CallState} {jobs : List CallJob}
    (h : JoinsApart state (j :: js) w)
    (hchecks : joinChecks p j.env state j.req channelID = .ok (st, jobs))
    (hw : storeAfterAll (joinOps p j.env st jobs j.req ++
      postOps j.env (joined p j.env st j.req)) w = some w') :
    JoinsApart (some (posted j.env (joined p j.env st j.req))) js w' := by
  obtain ⟨hcall, hcheck, -⟩ := joinChecks_eq_ok hchecks
  have hsessions : (posted j.env (joined p j.env st j.req)).sessions.rows =
      st.sessions.rows ++ [newSession j.env st j.req.userID j.req.connID] := by
    rw [← joined_sessions j.env hcheck]
    unfold posted
    split <;> rfl
  have hst : st.Named ∧ (state.map CallState.joinTimes).getD [] = st.joinTimes := by
    rcases callToJoin_eq_ok hcall with rfl | ⟨rfl, host, rfl⟩
    · exact ⟨h.named st rfl, rfl⟩
    · exact ⟨fun x hx => absurd hx (Table.not_mem_empty x), rfl⟩
  refine ⟨fun st' hst' x hx => ?_, ?_, fun hnone => by cases hnone⟩
  · cases hst'
    rw [Table.mem_def, hsessions, List.mem_append, List.mem_singleton] at hx
    rcases hx with hx | rfl
    · exact hst.1 x hx
    · exact newSession_of_storeAfterAll hw
  · have htimes := h.times
    rw [hst.2, List.map_cons, List.append_cons] at htimes
    rw [Option.map_some, Option.getD_some, CallState.joinTimes, hsessions,
      List.map_append]
    exact htimes

/-- The items of a batch of joins end as they would one by one. -/
theorem addSessionsToCall_oneByOne (hsame : List.Forall₂ Join.SameReadings js js') :
    ∀ (state : Option CallState) (w : Store), storedState w channelID = state →
      JoinsApart state js w → soloHandler (oneByOne (handleJoin p channelID) js') w =
        (soloBody (addSessionsToCall p channelID js state) w).map
          fun r => (r.1.map .ok, r.2) := by
  induction hsame with
  | nil => exact fun _ _ _ _ => rfl
  | @cons j j' js js' hj _ ih =>
      intro state w hread hapart
      obtain ⟨hreq, henv⟩ := hj
      have hbody : ∀ i : Join, handleJoin p channelID i =
          underLock channelID fun state => do
          let res ← addSessionToCall p i.env i.req channelID state
          return res.2 := fun _ => rfl
      have htimes : ∀ st, state = some st →
          (st.joinTimes ++ [j.env.now .joinAt]).Nodup := by
        rintro st rfl
        have hall := hapart.times
        rw [List.map_cons, List.append_cons] at hall
        exact (List.nodup_append.1 hall).1
      rw [soloHandler_oneByOne_cons hbody, hread, soloBody_bind, hreq,
        soloBody_addSessionToCall_orders henv hapart.named htimes]
      unfold addSessionsToCall
      rw [soloBody_bind]
      -- the others, from what the first join leaves
      have hrest : ∀ (a : Option CallState × Except String Unit) (w' : Store),
          storedState w' channelID = a.1 → JoinsApart a.1 js w' →
          (soloHandler (oneByOne (handleJoin p channelID) js') w').map
            (fun r' => (.ok a.2 :: r'.1, r'.2)) =
          (soloBody (addSessionsToCall p channelID js a.1 >>= fun outcomes =>
            pure (a.2 :: outcomes)) w').map fun r => (r.1.map .ok, r.2) := by
        intro a w' hread' hapart'
        rw [ih a.1 w' hread' hapart', soloBody_bind]
        cases soloBody (addSessionsToCall p channelID js a.1) w' <;> rfl
      cases hchecks : joinChecks p j.env state j.req channelID with
      | error e =>
          rw [soloBody_addSessionToCall_refused hchecks]
          refine hrest (state, .error e) w hread ⟨hapart.named, ?_, fun hnone i hi =>
            hapart.unused hnone i (List.mem_cons_of_mem _ hi)⟩
          exact hapart.times.sublist
            (List.Sublist.append_left (List.sublist_cons_self _ _) _)
      | ok res =>
          obtain ⟨st, jobs⟩ := res
          rw [soloBody_addSessionToCall hchecks]
          cases hw : storeAfterAll (joinOps p j.env st jobs j.req ++
              postOps j.env (joined p j.env st j.req)) w with
          | none => rfl
          | some w' =>
              have hunused : state = none → Unused w j.env.newID := fun hnone =>
                hapart.unused hnone j (List.mem_cons_self ..)
              exact hrest (some (posted j.env (joined p j.env st j.req)), .ok ()) w'
                (storedState_of_join hread hchecks hunused hw) (hapart.next hchecks hw)

/-- **Joins in a batch**: the outcomes and the store are those of the joins one by
one. -/
theorem joinBatch_oneByOne (hsame : List.Forall₂ Join.SameReadings js js')
    (hapart : JoinsApart (storedState w channelID) js w) :
    EndAlike id (joinBatch p channelID js) (oneByOne (handleJoin p channelID) js') w :=
  ⟨_, _, soloHandler_underLock w, addSessionsToCall_oneByOne hsame _ w rfl hapart, rfl⟩

end Batch

/-- Bob and carol join. -/
def twoJoins : List Join := [⟨bobJoins, .sample 20⟩, ⟨carolJoins, .sample 30⟩]

theorem joinBatch_oneByOne_two : List.Forall₂ Join.SameReadings twoJoins twoJoins ∧
    JoinsApart (storedState sampleStore "chan") twoJoins sampleStore ∧
    EndAlike id (joinBatch .sample "chan" twoJoins)
      (oneByOne (handleJoin .sample "chan") twoJoins) sampleStore := by
  have hsame : List.Forall₂ Join.SameReadings twoJoins twoJoins :=
    .cons ⟨rfl, rfl, rfl, rfl, rfl⟩ (.cons ⟨rfl, rfl, rfl, rfl, rfl⟩ .nil)
  have hstored : storedState sampleStore "chan" = some sampleState := by decide
  have hapart : JoinsApart (storedState sampleStore "chan") twoJoins sampleStore := by
    rw [hstored]
    refine ⟨fun st hst => ?_, by decide, fun hnone => by cases hnone⟩
    cases hst
    unfold CallState.Named
    decide
  exact ⟨hsame, hapart, joinBatch_oneByOne hsame hapart⟩

end CallsPlugin.Ports
