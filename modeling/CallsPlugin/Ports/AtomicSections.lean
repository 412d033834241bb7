import CallsPlugin.Verified.Atomic
import CallsPlugin.Ports.LockDiscipline
import CallsPlugin.Ports.Participants

/-!
# Requests are as good as made one at a time

Outside the lock a request does one thing only: the start of a recording calls the job
service, which tells nothing of the store.  So requests of many nodes on a channel, each
read of the store, each write and each event a step of its own, leave what requests
leave that have no lock and do all they do under it at once.  The delayed step of
`hostEnd` and the clean-up read the store without the lock and are left out.
-/

namespace CallsPlugin.Ports

open CallsPlugin.Verified
open CallsPlugin.Ports.Public CallsPlugin.Ports.Db

section Guarded

variable {α : Type}

/-- What the job service answers does not depend on the store. -/
theorem runJob_free (type : JobType) (callID postID jobID : String) :
    Free exec (.runJob type callID postID jobID) := fun c => ⟨c.runJob, fun _ => rfl⟩

theorem lockCallReturnState_guarded {channelID : String} {h : Bool}
    {Q : Bool → Except String (Option CallState) → Prop}
    (herr : ∀ e, Q false (.error e)) (hok : ∀ state, Q true (.ok state)) :
    Guarded (Free exec) h (lockCallReturnState channelID) Q := by
  simp only [lockCallReturnState, lockCall, unlockCall, Prog.lock_bind, Prog.ret_bind,
    Guarded.lock]
  refine ⟨?_, by simpa using herr _⟩
  simp only [if_true, Prog.liftM_eq, Guarded.bind, Guarded.lift]
  refine Code.all_of_forall (fun res => ?_) _
  cases res with
  | error e => exact herr _
  | ok state => exact hok state

/-- A handler whose body is guarded. -/
theorem withLock_guarded (channelID : String) {body : Option CallState → P α}
    (hbody : ∀ state, Guarded (Free exec) true (body state) fun _ _ => True) :
    Guarded (Free exec) false (withLock channelID body) fun _ _ => True := by
  rw [withLock, Guarded.bind]
  refine lockCallReturnState_guarded (fun e => trivial) fun state => ?_
  rw [Guarded.bind]
  exact (hbody state).mono fun _ _ _ => trivial

/-- Under the lock code may do anything. -/
theorem lift_guarded (c : Body α) {Q : Bool → α → Prop} (hQ : ∀ a, Q true a) :
    Guarded (Free exec) true (Prog.lift c) Q :=
  Guarded.lift.2 (Code.all_of_forall hQ _)

theorem underLock_guarded (channelID : String) (body : Option CallState → Body α) :
    Guarded (Free exec) false (underLock channelID body) fun _ _ => True :=
  withLock_guarded channelID fun _ => lift_guarded _ fun _ => trivial

/-- What follows code under the lock. -/
theorem bind_guarded {β : Type} {c : Body α} {f : α → P β} {Q : Bool → β → Prop}
    (hf : ∀ a, Guarded (Free exec) true (f a) Q) :
    Guarded (Free exec) true (Prog.lift c >>= f) Q := by
  rw [Guarded.bind]
  exact lift_guarded c hf

/-- A call to the job service may stand outside the lock. -/
theorem runJob_guarded {β : Type} {type : JobType} {callID postID jobID : String}
    {h : Bool} {f : Except String String → P β} {Q : Bool → β → Prop}
    (hf : ∀ ran, Guarded (Free exec) h (f ran) Q) :
    Guarded (Free exec) h (Prog.lift (runJob type callID postID jobID) >>= f) Q := by
  rw [Guarded.bind]
  exact ⟨fun _ => runJob_free _ _ _ _, hf⟩

/-- The start of a transcribing job, which without the lock comes back with
`nilState`. -/
theorem startTranscribingJob_guarded (p : Plugin) (env : Env) (state : CallState)
    (callID userID trID : String) :
    Guarded (Free exec) true (startTranscribingJob p env state callID userID trID)
      fun h res => h = true ∨ res = .error .nilState := by
  unfold startTranscribingJob
  split
  · exact .inl rfl
  split
  · exact .inl rfl
  refine bind_guarded fun created => ?_
  cases created with
  | error e => exact .inl rfl
  | ok _ =>
      refine bind_guarded fun captions => ?_
      cases captions with
      | error e => exact .inl rfl
      | ok _ =>
          refine bind_guarded fun _ => ?_
          simp only [unlockCall, Prog.unlock_bind, Prog.ret_bind, Guarded.unlock]
          refine runJob_guarded fun ran => ?_
          rw [Guarded.bind]
          refine lockCallReturnState_guarded (fun e => .inr rfl) fun state => ?_
          exact lift_guarded _ fun _ => .inl rfl

theorem recordingJobStarted_guarded (p : Plugin) (env : Env) (state : CallState)
    (recState : CallJob) (callID userID : String) (ran : Except String String) :
    Guarded (Free exec) true
      (recordingJobStarted p env state recState callID userID ran) fun _ _ => True := by
  unfold recordingJobStarted
  cases ran with
  | error jobErr =>
      exact bind_guarded fun _ => bind_guarded fun _ => bind_guarded fun _ => trivial
  | ok recJobID =>
      by_cases hrun : recState.props.jobID ≠ ""
      · simp only [hrun, ne_eq, not_false_eq_true, if_true]
        exact bind_guarded fun _ => trivial
      · simp only [hrun, if_false]
        refine bind_guarded fun updated => ?_
        cases updated with
        | error e => exact bind_guarded fun _ => trivial
        | ok _ =>
            dsimp only
            split
            · rw [Guarded.bind]
              refine (startTranscribingJob_guarded _ _ _ _ _ _).mono
                fun h res hres => ?_
              rcases hres with rfl | rfl
              · cases res with
                | error e =>
                    cases e with
                    | http code e => exact bind_guarded fun _ => trivial
                    | nilState => trivial
                | ok trJobID => exact bind_guarded fun _ => trivial
              · trivial
            · exact bind_guarded fun _ => trivial

theorem startRecordingJob_guarded (p : Plugin) (env : Env) (state : CallState)
    (callID userID : String) :
    Guarded (Free exec) true (startRecordingJob p env state callID userID)
      fun _ _ => True := by
  unfold startRecordingJob
  split
  · trivial
  refine bind_guarded fun created => ?_
  cases created with
  | error e => trivial
  | ok _ =>
      refine bind_guarded fun _ => ?_
      simp only [unlockCall, Prog.unlock_bind, Prog.ret_bind, Guarded.unlock]
      refine runJob_guarded fun ran => ?_
      rw [Guarded.bind]
      refine lockCallReturnState_guarded (fun e => trivial) fun state => ?_
      cases state with
      | none => trivial
      | some state =>
          cases hrec : state.recording with
          | none => simp [hrec]
          | some recState =>
              simpa [hrec] using recordingJobStarted_guarded _ _ _ _ _ _ _

theorem handleRecordingAction_guarded (p : Plugin) (env : Env) (allowed : Bool)
    (userID callID : String) (action : RecordingAction) :
    Guarded (Free exec) false (handleRecordingAction p env allowed userID callID action)
      fun _ _ => True := by
  unfold handleRecordingAction
  split
  · trivial
  split
  · trivial
  rw [Guarded.bind]
  refine (withLock_guarded callID fun state => ?_).mono fun h res _ => ?_
  · cases state with
    | none => trivial
    | some state =>
        dsimp only
        split
        · trivial
        · cases action with
          | start =>
              rw [Guarded.bind]
              refine (startRecordingJob_guarded _ _ _ _ _).mono fun h res _ => ?_
              cases res <;> trivial
          | stop => exact bind_guarded fun _ => trivial
          | other => trivial
  · cases res <;> trivial

/-- Dropping the result of a request. -/
theorem guarded_drop {c : P α} (hc : Guarded (Free exec) false c fun _ _ => True) :
    Guarded (Free exec) false (do let _ ← c) fun _ _ => True :=
  Guarded.bind.2 (hc.mono fun _ _ _ => trivial)

/-- Every request that does not end calls without the lock is guarded. -/
theorem Handler.code_guarded {h : Handler} (hends : ¬ h.Ends) (p : Plugin) (env : Env)
    (channelID : String) :
    Guarded (Free exec) false (h.code p env channelID) fun _ _ => True := by
  cases h with
  | forceEnd callID => exact absurd (.inr ⟨callID, rfl⟩) hends
  | cleanUp => exact absurd (.inl rfl) hends
  | screen us turnOn =>
      refine guarded_drop ?_
      unfold handleClientMessageTypeScreen
      split
      · trivial
      · exact underLock_guarded _ _
  | recordingAction allowed userID action =>
      exact guarded_drop (handleRecordingAction_guarded _ _ _ _ _ _)
  | jobStatus jobID status =>
      refine guarded_drop ?_
      rw [handleBotPostJobsStatus, Guarded.bind]
      refine (underLock_guarded _ _).mono fun h res _ => ?_
      cases res <;> trivial
  | _ => exact guarded_drop (underLock_guarded _ _)

end Guarded

/-! ## Runs -/

section Runs

variable {T N : Type} [DecidableEq T] [DecidableEq N]

/-- In every run of requests on a channel, from any nodes and with any answers, in which
no start of a recording that has lost the lock unlocks what another has locked: whenever
nobody has the lock, the store and what each request has left to do are what the
requests come to without a lock, each doing what it does under the lock at once, one
after the other; the operations under the lock and their answers are the same, in the
same order. -/
theorem requests_atomic (node : T → N) (p : T → Plugin) (env : T → Env)
    (channelID : String) (store : Store) (h : T → Handler) (hends : ∀ t, ¬ (h t).Ends)
    {tr : List (Event T Choice)} {s : Sys Op Op.Resp Store T N}
    {l : List (T × (o : Op) × o.Resp)}
    (hr : Histories exec node (StrayHarmless node fun t => (h t).mayStray)
      (AddsIssued exec) (requests p env channelID store h) tr s l)
      (ho : s.owner = none) :
    ∃ L, Alone exec ⟨store, fun t => (h t).code (p t) (env t) channelID⟩ L
      ⟨s.world, s.code⟩ ∧ l = flat L :=
  hr.alone (start_unlocked _ _)
    (fun t => (h t).code_disciplined (p t) (env t) channelID)
    (fun t => Handler.code_guarded (hends t) (p t) (env t) channelID) ho

/-- A check that each release is the holder's or finds its node unlocked. -/
def checkHarmless (node : T → N) (tr : List (Event T Choice))
    (s : Sys Op Op.Resp Store T N) (t : T) : Act Choice → Bool
  | .unlock => holding t tr || (s.inner (node t)).isNone
  | .enter | .acquire | .giveUp | .op _ => true

omit [DecidableEq N] in
theorem strayHarmless_of_checkHarmless (node : T → N) (stray : T → Prop)
    (tr : List (Event T Choice)) (s : Sys Op Op.Resp Store T N) (t : T) (a : Act Choice)
    (h : checkHarmless node tr s t a = true) : StrayHarmless node stray tr s t a := by
  cases a with
  | unlock =>
      intro _ hhold
      rw [checkHarmless, hhold, Bool.false_or, Option.isNone_iff_eq_none] at h
      exact h
  | _ => trivial

end Runs

/-! ### A recording that starts while another request waits

Thread 0 starts a recording and gives the lock up.  Thread 2 has waited for it on
another node and takes it; meanwhile thread 0 calls the job service, tries for the lock
and gives up. -/

/-- The schedule; `t` starts the recording and `t'` takes the lock in between. -/
def waitingSchedule {T : Type} (t t' : T) : List (T × Act Choice) :=
  let op (t : T) : T × Act Choice := (t, .op Choice.works)
  [(t, .enter), (t, .acquire), op t, (t', .enter), op t, op t, op t, op t, (t, .unlock),
    (t', .acquire), op t, op t', (t, .enter), op t', op t', (t, .giveUp), op t',
    (t, .unlock), (t', .unlock)]

/-- The two sections are as good as done one after the other. -/
theorem requests_atomic_waiting : ∃ (tr : List (Event (Fin 3) Choice))
    (s : Sys Op Op.Resp Store (Fin 3) Bool) (l : List (Fin 3 × (o : Op) × o.Resp)),
    Histories exec relockNode
      (StrayHarmless relockNode fun t => (relockRequests t).mayStray)
      (AddsIssued exec) (requests (fun _ => Plugin.sample) (fun _ => Env.sample 1000)
        "chan" sampleStore relockRequests) tr s l ∧
    l.map (·.1) = [0, 0, 0, 0, 0, 2, 2, 2, 2] ∧
    ∃ L, Alone exec ⟨sampleStore,
      fun t => (relockRequests t).code Plugin.sample (Env.sample 1000)
      "chan"⟩ L ⟨s.world, s.code⟩ ∧ l = flat L := by
  have hsched :
      ((requests (fun _ => Plugin.sample) (fun _ => Env.sample 1000) "chan" sampleStore
      relockRequests).schedHistory exec relockNode (checkHarmless relockNode)
      (fun s t a _ => s.issues exec t a) [] [] (waitingSchedule 0 2)).map
      (fun r => (r.2.2.map (·.1), r.2.1.owner.isNone)) =
        some ([0, 0, 0, 0, 0, 2, 2, 2, 2], true) := by decide
  obtain ⟨tr, s, l, hr, hf⟩ := Histories.exists_of_sched
    (strayHarmless_of_checkHarmless relockNode fun t => (relockRequests t).mayStray)
    (addsIssued_issues exec) hsched
  obtain ⟨hl, hown⟩ := Prod.mk.inj hf
  have hends : ∀ t, ¬ (relockRequests t).Ends := by
    intro t
    unfold relockRequests
    split <;> rintro (h | ⟨id, h⟩) <;> cases h
  exact ⟨tr, s, l, hr, hl, requests_atomic relockNode _ _ _ _ relockRequests hends hr
    (Option.isNone_iff_eq_none.1 hown)⟩

end CallsPlugin.Ports
