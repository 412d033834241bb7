import CallsPlugin.Verified.Discipline
import CallsPlugin.Ports.Handlers

/-!
# Who releases the lock of a call

Every request on a call keeps the lock discipline of `Verified.Discipline`.  The
one that can release after a failed attempt is the start of a recording: it
gives the lock up to call the job service, and when it cannot take it again its
caller's deferred `unlockCall` still runs.
-/

namespace CallsPlugin.Ports

open CallsPlugin.Verified
open CallsPlugin.Ports.Public CallsPlugin.Ports.Db

/-! ## Discipline -/

section Disciplined

variable {α : Type} {stray : Prop}

theorem lockCallReturnState_disciplined {channelID : String}
    {Q : Bool → Except String (Option CallState) → Prop}
    (herr : ∀ e, Q false (.error e)) (hok : ∀ state, Q true (.ok state)) :
    Disciplined stray false (lockCallReturnState channelID) Q := by
  simp only [lockCallReturnState, lockCall, unlockCall, Prog.lock_bind, Prog.ret_bind,
    Disciplined.lock]
  refine ⟨?_, by simpa using herr _⟩
  simp only [if_true, Prog.liftM_eq, Disciplined.bind, Disciplined.lift]
  refine Code.all_of_forall (fun res => ?_) _
  cases res with
  | error e => exact herr _
  | ok state => exact hok state

/-- A handler whose body keeps the lock, or strays after losing it. -/
theorem withLock_disciplined (channelID : String) {body : Option CallState → P α}
    (hbody : ∀ state, Disciplined stray true (body state) fun h _ => h = true ∨ stray) :
    Disciplined stray false (withLock channelID body) fun h _ => h = false := by
  rw [withLock, Disciplined.bind]
  refine lockCallReturnState_disciplined (fun e => by simp) fun state => ?_
  rw [Disciplined.bind]
  refine (hbody state).mono fun h res hh => ?_
  simp only [unlockCall, Prog.unlock_bind, Prog.ret_bind, Prog.pure_eq]
  cases h with
  | true => simp
  | false => simpa using hh

/-- Code keeps the lock. -/
theorem lift_disciplined (c : Body α) {h : Bool} :
    Disciplined stray h (Prog.lift c) fun h' _ => h' = h :=
  Disciplined.lift.2 (Code.all_of_forall (fun _ => rfl) _)

theorem underLock_disciplined (channelID : String) (body : Option CallState → Body α) :
    Disciplined stray false (underLock channelID body) fun h _ => h = false :=
  withLock_disciplined channelID fun _ => (lift_disciplined _).mono
    fun _ _ hh => .inl hh

/-- What follows code under the lock starts with the lock held. -/
theorem bind_disciplined {β : Type} {c : Body α} {f : α → P β} {h : Bool}
    {Q : Bool → β → Prop} (hf : ∀ a, Disciplined stray h (f a) Q) :
    Disciplined stray h (Prog.lift c >>= f) Q := by
  rw [Disciplined.bind]
  exact (lift_disciplined c).mono fun h' a hh => hh ▸ hf a

/-- The start of a transcribing job ends with the lock held, or after a failed
attempt to take it again. -/
theorem startTranscribingJob_disciplined (p : Plugin) (env : Env) (state : CallState)
    (callID userID trID : String) :
    Disciplined True true (startTranscribingJob p env state callID userID trID)
      fun _ _ => True := by
  unfold startTranscribingJob
  split
  · simp
  split
  · simp
  refine bind_disciplined fun created => ?_
  cases created with
  | error e => simp
  | ok _ =>
      refine bind_disciplined fun captions => ?_
      cases captions with
      | error e => simp
      | ok _ =>
          refine bind_disciplined fun _ => ?_
          simp only [unlockCall, Prog.unlock_bind, Prog.ret_bind,
            Disciplined.unlock_held]
          refine bind_disciplined fun ran => ?_
          rw [Disciplined.bind]
          refine lockCallReturnState_disciplined (fun e => by simp) fun state => ?_
          exact (lift_disciplined _).mono fun _ _ _ => trivial

theorem recordingJobStarted_disciplined (p : Plugin) (env : Env) (state : CallState)
    (recState : CallJob) (callID userID : String) (ran : Except String String) :
    Disciplined True true (recordingJobStarted p env state recState callID userID ran)
      fun _ _ => True := by
  unfold recordingJobStarted
  cases ran with
  | error jobErr =>
      exact bind_disciplined fun _ => bind_disciplined fun _ => bind_disciplined
        fun _ => by simp
  | ok recJobID =>
      by_cases hrun : recState.props.jobID ≠ ""
      · simp only [hrun, ne_eq, not_false_eq_true, if_true]
        exact bind_disciplined fun _ => by simp
      · simp only [hrun, if_false]
        refine bind_disciplined fun updated => ?_
        cases updated with
        | error e => exact bind_disciplined fun _ => by simp
        | ok _ =>
            dsimp only
            split
            · rw [Disciplined.bind]
              refine (startTranscribingJob_disciplined _ _ _ _ _ _).mono
                fun h res _ => ?_
              cases res with
              | error e =>
                  cases e with
                  | http code e => exact bind_disciplined fun _ => by simp
                  | nilState => simp
              | ok trJobID => exact bind_disciplined fun _ => by simp
            · exact bind_disciplined fun _ => by simp

theorem startRecordingJob_disciplined (p : Plugin) (env : Env) (state : CallState)
    (callID userID : String) :
    Disciplined True true (startRecordingJob p env state callID userID)
      fun _ _ => True := by
  unfold startRecordingJob
  split
  · simp
  refine bind_disciplined fun created => ?_
  cases created with
  | error e => simp
  | ok _ =>
      refine bind_disciplined fun _ => ?_
      simp only [unlockCall, Prog.unlock_bind, Prog.ret_bind, Disciplined.unlock_held]
      refine bind_disciplined fun ran => ?_
      rw [Disciplined.bind]
      refine lockCallReturnState_disciplined (fun e => by simp) fun state => ?_
      cases state with
      | none => simp
      | some state =>
          cases hrec : state.recording with
          | none => simp [hrec]
          | some recState =>
              simpa [hrec] using recordingJobStarted_disciplined _ _ _ _ _ _ _

/-- A recording action may stray, if it is a start. -/
theorem handleRecordingAction_disciplined (p : Plugin) (env : Env) (allowed : Bool)
    (userID callID : String) (action : RecordingAction) :
    Disciplined (action = .start) false
      (handleRecordingAction p env allowed userID callID action) fun h _ =>
      h = false := by
  unfold handleRecordingAction
  split
  · simp
  split
  · simp
  rw [Disciplined.bind]
  refine (withLock_disciplined callID fun state => ?_).mono fun h res hh => ?_
  · cases state with
    | none => simp
    | some state =>
        dsimp only
        split
        · simp
        · cases action with
          | start =>
              rw [eq_self, Disciplined.bind]
              refine (startRecordingJob_disciplined _ _ _ _ _).mono fun h res _ => ?_
              cases res <;> simp
          | stop => exact bind_disciplined fun _ => by simp
          | other => simp
  · cases res <;> simpa using hh

theorem cleanUpCall_disciplined (p : Plugin) (env : Env) (call : Call) :
    Disciplined stray false (cleanUpCall p env call) fun h _ => h = false := by
  simp only [cleanUpCall, lockCall, unlockCall, Prog.lock_bind, Prog.ret_bind,
    Disciplined.lock]
  refine ⟨?_, by simp⟩
  simp only [if_true]
  split
  · simp
  · refine bind_disciplined fun res => ?_
    cases res <;> simp

theorem cleanUpState_disciplined (p : Plugin) (env : Env) (channelID : String) :
    Disciplined stray false (cleanUpState p env channelID) fun h _ => h = false := by
  refine bind_disciplined fun calls => ?_
  cases calls with
  | error e => simp
  | ok calls =>
      dsimp only
      induction calls.filter fun call => call.channelID = channelID with
      | nil => simp [cleanUpCalls]
      | cons call rest ih =>
          rw [cleanUpCalls, Disciplined.bind]
          refine (cleanUpCall_disciplined p env call).mono fun h res hh => ?_
          subst hh
          cases res with
          | error e => simp
          | ok _ => exact ih

/-- The requests that may release after a failed attempt. -/
def Handler.mayStray : Handler → Prop
  | .recordingAction _ _ action => action = .start
  | _ => False

/-- Dropping the result of a request. -/
theorem disciplined_drop {c : P α}
    (hc : Disciplined stray false c fun h _ => h = false) :
    Disciplined stray false (do let _ ← c) fun h _ => h = false := by
  simpa using hc

/-- Every request keeps the discipline; only the start of a recording may stray. -/
theorem Handler.code_disciplined (h : Handler) (p : Plugin) (env : Env)
    (channelID : String) :
    Disciplined h.mayStray false (h.code p env channelID) fun h _ => h = false := by
  cases h with
  | forceEnd callID => exact lift_disciplined _
  | screen us turnOn =>
      refine disciplined_drop ?_
      unfold handleClientMessageTypeScreen
      split
      · simp
      · exact underLock_disciplined _ _
  | recordingAction allowed userID action =>
      exact disciplined_drop (handleRecordingAction_disciplined _ _ _ _ _ _)
  | cleanUp => exact disciplined_drop (cleanUpState_disciplined _ _ _)
  | jobStatus jobID status =>
      refine disciplined_drop ?_
      rw [handleBotPostJobsStatus, Disciplined.bind]
      refine (underLock_disciplined _ _).mono fun h res hh => ?_
      cases res <;> simpa using hh
  | _ => exact disciplined_drop (underLock_disciplined _ _)

end Disciplined

/-! ## The lock of a call -/

section Runs

variable {T N : Type} [DecidableEq T] [DecidableEq N]

/-- In every run of requests on a channel, in which no start of a recording that
has lost the lock runs its deferred `unlockCall` while the mutex of its node is
locked: each `unlockCall` that unlocks something is made by the holder, what is
unlocked was locked by the one who unlocks, and each successful `lockCall` is
matched by exactly one release, once it is over. -/
theorem unlockCall_by_holder (node : T → N) (p : T → Plugin) (env : T → Env)
    (channelID : String) (store : Store) (h : T → Handler) {tr : List (Event T Choice)}
    {s : Sys Op Op.Resp Store T N}
    (hr : Runs exec node (StrayHarmless node fun t => (h t).mayStray)
      (requests p env channelID store h) tr s) :
    (∀ t k, s.code t = .unlock k →
      StrayHarmless node (fun t => (h t).mayStray) tr s t (.unlock : Act Choice) →
      s.inner (node t) ≠ none → s.owner = some t) ∧
    (∀ e ∈ tr, ∀ t, e.freed = some t → e.thread = t) ∧
    (∀ t, acquired t tr = freed t tr + if s.owner = some t then 1 else 0) ∧
    ∀ t, s.code t = .ret ⟨⟩ → acquired t tr = freed t tr := by
  have hp := hr.discipline (start_unlocked _ _) fun t =>
    (h t).code_disciplined (p t) (env t) channelID
  refine ⟨fun t k hk hok hin => ?_, hp.own, hp.count, fun t ht => hp.done ht⟩
  exact (hp.owner_of_unlock hk hok).resolve_right hin

end Runs

/-- A check that releases are made by who has obtained the lock. -/
def checkHolder {T N : Type} [DecidableEq T] (tr : List (Event T Choice))
    (_ : Sys Op Op.Resp Store T N) (t : T) : Act Choice → Bool
  | .unlock => holding t tr
  | _ => true

theorem strayHarmless_of_checkHolder {T N : Type} [DecidableEq T] (node : T → N)
    (stray : T → Prop) (tr : List (Event T Choice)) (s : Sys Op Op.Resp Store T N)
    (t : T) (a : Act Choice) (h : checkHolder tr s t a = true) :
    StrayHarmless node stray tr s t a := by
  cases a <;> simp_all [StrayHarmless, checkHolder]

/-- One request, on its way through the lock. -/
theorem unlockCall_by_holder_of_view : ∃ (tr : List (Event Bool Choice))
    (s : Sys Op Op.Resp Store Bool Bool), acquired true tr = 1 ∧ freed true tr = 1 ∧
      Runs exec id (StrayHarmless id fun _ => False)
        (requests (fun _ => Plugin.sample) (fun _ => Env.sample 1000) "chan" sampleStore
          fun _ => .view fun _ => .ret ()) tr s := by
  have hsched : ((requests (fun _ => Plugin.sample) (fun _ => Env.sample 1000) "chan"
      sampleStore fun _ : Bool => .view fun _ => .ret ()).sched exec id checkHolder []
      [(true, .enter), (true, .acquire), (true, .op Choice.works),
        (true, .op Choice.works), (true, .op Choice.works), (true, .unlock)]).map
      (fun r => (acquired true r.1, match r.2.code true with
        | .ret _ => true
        | _ => false)) = some (1, true) := by decide
  obtain ⟨tr, s, hr, hf⟩ :=
    Runs.exists_of_sched (strayHarmless_of_checkHolder id fun _ => False) hsched
  obtain ⟨hacq, hdone⟩ := Prod.mk.inj hf
  have hret : s.code true = .ret ⟨⟩ := by
    split at hdone
    next h => exact h
    next => cases hdone
  have hcount :=
    (unlockCall_by_holder id _ _ _ _ (fun _ => .view fun _ => .ret ()) hr).2.2.2
    true hret
  exact ⟨tr, s, hacq, hcount.symm.trans hacq, hr⟩

/-! ### The re-lock that fails

Threads 0 and 1 run on one node, thread 2 on another.  Thread 0 starts a
recording and gives the lock up; thread 2 takes it, so thread 0 cannot take it
again in time; then thread 1 takes it, and thread 0 releases. -/

/-- The requests of the run. -/
def relockRequests : Fin 3 → Handler
  | 0 => .recordingAction true "alice" .start
  | _ => .callStateRequest "alice" "s1"

/-- Where they run. -/
def relockNode (t : Fin 3) : Bool := t = 2

/-- The schedule. -/
def relockSchedule : List (Fin 3 × Act Choice) :=
  let op (t : Fin 3) : Fin 3 × Act Choice := (t, .op Choice.works)
  [(0, .enter), (0, .acquire), op 0, op 0, op 0, op 0, op 0, (0, .unlock), op 0,
    (2, .enter), (2, .acquire), (0, .enter), (0, .giveUp),
    op 2, op 2, op 2, op 2, (2, .unlock), (1, .enter), (1, .acquire), (0, .unlock)]

/-- Thread 0 unlocks what thread 1 has locked. -/
theorem unlockCall_of_failed_relock : ∃ (tr : List (Event (Fin 3) Choice))
    (s : Sys Op Op.Resp Store (Fin 3) Bool),
    Runs exec relockNode (fun _ _ _ _ => True)
      (requests (fun _ => Plugin.sample) (fun _ => Env.sample 1000) "chan" sampleStore
        relockRequests) tr s ∧
    ∃ e ∈ tr, e.thread = 0 ∧ e.freed = some 1 := by
  have hsched :
      ((requests (fun _ => Plugin.sample) (fun _ => Env.sample 1000) "chan" sampleStore
      relockRequests).sched exec relockNode (fun _ _ _ _ => true) [] relockSchedule).map
      (fun r => r.1.any fun e => e.thread = 0 ∧ e.freed = some 1) =
      some true := by decide
  obtain ⟨tr, s, hr, hf⟩ := Runs.exists_of_sched (fun _ _ _ _ _ => trivial) hsched
  obtain ⟨e, he, h0, h1⟩ := by simpa using hf
  exact ⟨tr, s, hr, e, he, h0, h1⟩

end CallsPlugin.Ports
