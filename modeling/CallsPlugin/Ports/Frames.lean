import CallsPlugin.Ports.Session

/-!
# What the job handlers leave alone

Stopping a job writes job rows and changes the jobs of the in-memory state; the
call and its sessions stay as they are, in memory and in the store.
-/

namespace CallsPlugin.Ports

open CallsPlugin.Verified
open CallsPlugin.Ports.Public CallsPlugin.Ports.Db

/-- The operation writes job rows, if anything, publishes nothing but their state, and
is no `Point`. -/
def Op.JobsOnly : Op → Prop
  | .store (.updateCallJob _) => True
  | .store _ => False
  | .publish (.callJobState _ _) _ => True
  | .publish _ _ => False
  | .reach _ => False
  | _ => True

/-- The operation is no store call, and no `Point` but that of an untold screen
message. -/
def Op.Silent : Op → Prop
  | .store _ => False
  | .reach p => p = .untold
  | _ => True

theorem Op.Silent.exec {o : Op} (h : o.Silent) (c : Choice) (s : Store) :
    (Ports.exec c s o).2 = s := by
  cases o <;> first | rfl | exact h.elim

/-- Two stores have the same calls and sessions. -/
def SameRows (s s' : Store) : Prop := s'.calls = s.calls ∧ s'.sessions = s.sessions

/-- Two states have the same call and sessions. -/
def SameCall (cs cs' : CallState) : Prop :=
  cs'.call = cs.call ∧ cs'.sessions = cs.sessions

theorem SameRows.refl (s : Store) : SameRows s s := ⟨rfl, rfl⟩

theorem SameRows.trans {s s' s'' : Store} (h : SameRows s s') (h' : SameRows s' s'') :
    SameRows s s'' := ⟨h'.1.trans h.1, h'.2.trans h.2⟩

theorem SameCall.refl (cs : CallState) : SameCall cs cs := ⟨rfl, rfl⟩

theorem SameCall.trans {cs cs' cs'' : CallState} (h : SameCall cs cs')
    (h' : SameCall cs' cs'') :
    SameCall cs cs'' := ⟨h'.1.trans h.1, h'.2.trans h.2⟩

theorem attempt_updateCallJob_sameRows (fails : Bool) (s : Store) (j : CallJob) :
    SameRows s (attempt fails s (.updateCallJob j)).2 := by
  unfold attempt
  split
  · exact .refl s
  · simp only [StoreOp.exec]
    split <;> exact ⟨rfl, rfl⟩

theorem Op.JobsOnly.sameRows {o : Op} (h : o.JobsOnly) (c : Choice) (s : Store) :
    SameRows s (exec c s o).2 := by
  cases o with
  | store o =>
      cases o <;> first | exact attempt_updateCallJob_sameRows _ _ _ | exact h.elim
  | reach p => exact h.elim
  | _ => exact .refl s

/-- Code that only writes jobs and returns a state with the same call and
sessions. -/
def JobsFrame {α : Type} (cs : CallState) (f : α → CallState) (c : Body α) : Prop :=
  c.Only Op.JobsOnly ∧ c.All fun a => SameCall cs (f a)

section Frame

variable {α β : Type} {cs cs' : CallState} {f : α → CallState} {g : β → CallState}

theorem JobsFrame.ret {a : α} (h : SameCall cs (f a)) :
    JobsFrame cs f (.ret a) := ⟨trivial, h⟩

theorem JobsFrame.op {o : Op} {k : o.Resp → Body α} (ho : o.JobsOnly)
    (hk : ∀ r, JobsFrame cs f (k r)) : JobsFrame cs f (.op o k) :=
  ⟨⟨ho, fun r => (hk r).1⟩, fun r => (hk r).2⟩

theorem JobsFrame.weaken {c : Body α} (h : JobsFrame cs' f c) (hcs : SameCall cs cs') :
    JobsFrame cs f c :=
  ⟨h.1, h.2.mono fun _ ha => hcs.trans ha⟩

theorem JobsFrame.bind {c : Body α} {k : α → Body β} (hc : JobsFrame cs f c)
    (hk : ∀ a, SameCall cs (f a) → JobsFrame cs g (k a)) : JobsFrame cs g (c >>= k) :=
  ⟨hc.1.bind_all hc.2 fun a ha => (hk a ha).1, hc.2.bind fun a ha => (hk a ha).2⟩

end Frame

theorem stopLiveCaptions_frame (env : Env) (state : CallState) :
    JobsFrame state Prod.fst (stopLiveCaptions env state) := by
  unfold stopLiveCaptions
  split
  · exact .ret (.refl _)
  · refine .op trivial fun res => ?_
    cases res <;> exact .ret ⟨rfl, rfl⟩

/-- Stopping the recording or transcribing job, to any depth. -/
theorem stopJob_frame (p : Plugin) (env : Env) (depth : Nat) :
    ∀ (state : CallState) (callID : String),
      JobsFrame state Prod.fst (stopRecordingJob p env depth state callID) ∧
      JobsFrame state Prod.fst (stopTranscribingJob p env depth state callID) := by
  induction depth with
  | zero =>
      intro state callID
      rw [stopRecordingJob, stopTranscribingJob]
      exact ⟨.ret (.refl _), .ret (.refl _)⟩
  | succ depth ih =>
      intro state callID
      constructor
      · rw [stopRecordingJob]
        split
        · exact .ret (.refl _)
        split
        · exact .ret (.refl _)
        refine .op trivial fun res => ?_
        cases res with
        | error e => exact .ret ⟨rfl, rfl⟩
        | ok _ =>
            refine .bind (f := id) ?_ fun state' hstate' => ?_
            · split
              · exact .bind ((ih _ _).2.weaken ⟨rfl, rfl⟩) fun res hres => .ret hres
              · exact .ret ⟨rfl, rfl⟩
            · refine .op trivial fun res => ?_
              cases res with
              | error e => exact .op trivial fun _ => .ret hstate'
              | ok _ => exact .op trivial fun _ => .ret hstate'
      · rw [stopTranscribingJob]
        split
        · exact .ret (.refl _)
        split
        · exact .ret (.refl _)
        refine .op trivial fun res => ?_
        cases res with
        | error e => exact .ret ⟨rfl, rfl⟩
        | ok _ =>
            refine .bind (c := stopLiveCaptions env _)
              ((stopLiveCaptions_frame _ _).weaken ⟨rfl, rfl⟩) fun res hres => ?_
            obtain ⟨state', res⟩ := res
            cases res with
            | error e => exact .ret hres
            | ok _ =>
                refine .op trivial fun res => ?_
                cases res with
                | error e => exact .op trivial fun _ => .ret hres
                | ok _ =>
                    refine .bind (f := id) ?_ fun state'' hstate'' => ?_
                    · split
                      · exact .bind ((ih _ _).1.weaken hres) fun res hres => .ret hres
                      · exact .ret hres
                    · refine .op trivial fun _ => ?_
                      cases state''.liveCaptions with
                      | none => exact .ret hstate''
                      | some lc => exact .op trivial fun _ => .ret hstate''

theorem stopJobsOfLoneBot_silent (p : Plugin) (channelID : String) (state : CallState) :
    (stopJobsOfLoneBot p channelID state).Only Op.Silent := by
  have hstop : ∀ job, (stopJobOf p channelID job).Only Op.Silent := by
    rintro (_ | job)
    · trivial
    · exact ⟨trivial, fun _ => trivial⟩
  unfold stopJobsOfLoneBot
  split
  · exact (hstop _).bind fun _ => hstop _
  · trivial

theorem publishJob?_silent (env : Env) (state : CallState) (callID : String)
    (job : Option CallJob) : (publishJob? env state callID job).Only Op.Silent := by
  cases job with
  | none => trivial
  | some job => exact ⟨trivial, fun _ => trivial⟩

theorem announceHost_silent (env : Env) (oldHostID : String) (state : CallState)
    (channelID : String) :
    (announceHost env oldHostID state channelID).Only Op.Silent := by
  unfold announceHost
  split
  · exact ⟨trivial, fun _ => trivial⟩
  · trivial

theorem announceJoin_silent (p : Plugin) (env : Env) (state : CallState)
    (r : JoinRequest) (channelID : String) :
    (announceJoin p env state r channelID).Only Op.Silent := by
  unfold announceJoin
  split
  · refine ⟨trivial, fun _ => ⟨trivial, fun _ => ?_⟩⟩
    dsimp only
    split
    · exact (publishJob?_silent ..).bind fun _ => ⟨trivial, fun _ => trivial⟩
    · exact ⟨trivial, fun _ => trivial⟩
  · trivial

/-- A state that differs at most in the stats and the props of its call. -/
def Touched (cs cs' : CallState) : Prop :=
  ∃ stats props, cs' =
    { cs with call := { cs.call with stats := stats, props := props } }

theorem Touched.refl (cs : CallState) : Touched cs cs :=
  ⟨cs.call.stats, cs.call.props, rfl⟩

theorem screenLeft_frame (env : Env) (r : LeaveRequest) (channelID : String)
    (st : CallState) :
    (screenLeft env r channelID st).Only Op.Silent ∧
      (screenLeft env r channelID st).All (Touched st) := by
  unfold screenLeft
  split
  · exact ⟨⟨trivial, fun _ => trivial⟩, fun _ => ⟨_, _, rfl⟩⟩
  · exact ⟨trivial, .refl st⟩

theorem hostLeft_frame (p : Plugin) (env : Env) (r : LeaveRequest) (channelID : String)
    (st : CallState) : (hostLeft p env r channelID st).Only Op.Silent ∧
      (hostLeft p env r channelID st).All (Touched st) := by
  unfold hostLeft
  split
  · dsimp only
    split
    · exact ⟨⟨trivial, fun _ => trivial⟩, fun _ => ⟨_, _, rfl⟩⟩
    · exact ⟨trivial, .refl st⟩
  · exact ⟨trivial, .refl st⟩

end CallsPlugin.Ports
