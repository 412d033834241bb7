import CallsPlugin.Verified.Deeds
import CallsPlugin.Ports.BotConnections

/-!
# A bot leaves

Before it announces that a session has left, its removal has read the jobs of the call
and written the end of those that name the connection that left.  It ends a recording or
a transcription only if one of the two names it.  While the bot has not reconnected, the
jobs it serves name the connection it joined on (`Bot.served_of_runs`); a reconnection
puts the new one into them, and a removal looks for the first (`botLeaves_jobGoesOn`).
-/

namespace CallsPlugin.Ports

open CallsPlugin.Verified
open CallsPlugin.Ports.Public CallsPlugin.Ports.Db

/-! ## Deeds of a removal -/

/-- The deed writes the job as ended. -/
def EndsRow {T : Type} (d : Deed Op Store Choice T) (id : String) : Prop :=
  ∃ j, d.op = .store (.updateCallJob j) ∧ j.id = id ∧ 0 < j.endAt

/-- The store accepts the write of a job. -/
def TakenByStore {T : Type} (d : Deed Op Store Choice T) : Prop :=
  ∀ j, d.op = .store (.updateCallJob j) →
    (exec d.choice d.world (.store (.updateCallJob j))).1 = .ok ()

/-- The row of a job as the deed leaves it has ended. -/
def LeavesEnded {T : Type} (d : Deed Op Store Choice T) (id : String) : Prop :=
  ∃ x ∈ (exec d.choice d.world d.op).2.jobs, x.id = id ∧ 0 < x.endAt

/-- A write that is accepted ends the row. -/
theorem EndsRow.stored {T : Type} {d : Deed Op Store Choice T} {id : String}
    (h : EndsRow d id) (hacc : TakenByStore d) (hrow : ∃ x ∈ d.world.jobs, x.id = id) :
    LeavesEnded d id := by
  obtain ⟨thread, ch, w, o⟩ := d
  obtain ⟨j, rfl, hid, hend⟩ := h
  obtain ⟨x, hx, hxid⟩ := hrow
  have hstored : (exec ch w (.store (.updateCallJob j))).1 = .ok () →
      (exec ch w (.store (.updateCallJob j))).2 = w.updateCallJob j := by
    rw [exec_store]
    unfold attempt
    split
    · exact fun h => by cases h
    · simp only [StoreOp.exec]
      split
      · exact fun h => by cases h
      · exact fun _ => rfl
  have hkey : x.id = j.id := hxid.trans hid.symm
  refine ⟨Store.setJob x j, ?_, hxid, hend⟩
  show _ ∈ (exec ch w (.store (.updateCallJob j))).2.jobs
  rw [hstored (hacc j rfl)]
  exact Store.mem_updateCallJob.2 ⟨x, hx, if_pos hkey⟩

/-- The connection by which a leave tells that the bot of a job has left. -/
def LeaveRequest.connOf (r : LeaveRequest) : JobType → String
  | .captioning => r.connID
  | _ => r.originalConnID

/-- The job names the connection that leaves. -/
def LeaveRequest.Names (r : LeaveRequest) (type : JobType) (j : CallJob) : Prop :=
  j.props.botConnID = r.connOf type

/-- What a thread that removes the sessions in `rs` is held to: it writes only jobs that
have ended, the job `jobID` only after it has read a recording or transcription that
names one of the sessions, and it announces a leave only after it has ended the jobs it
has read that name the session. -/
structure LeavesWell {T : Type} (t : T) (rs : List LeaveRequest) (jobID : String)
    (l : List (Deed Op Store Choice T)) (o : Op) : Prop where
  ended : ∀ j, o = .store (.updateCallJob j) → 0 < j.endAt
  named : ∀ j, o = .store (.updateCallJob j) → j.id = jobID → ∃ d ∈ l, d.thread = t ∧
    ∃ callID type j', d.op = .store (.getActiveCallJobs callID) ∧ type ≠ .captioning ∧
      d.world.getActiveCallJobs callID type = some j' ∧ ∃ r ∈ rs, r.Names type j'
  announced : ∀ userID id bc, o = .publish (.userLeft userID id) bc → ∃ r ∈ rs,
    r.originalConnID = id ∧ ∃ l₁ d l₂ callID, l = l₁ ++ d :: l₂ ∧ d.thread = t ∧
      d.op = .store (.getActiveCallJobs callID) ∧
      ∀ type j, d.world.getActiveCallJobs callID type = some j → r.Names type j →
        ∃ d' ∈ l₂, d'.thread = t ∧ EndsRow d' j.id

/-- The operation neither writes a job nor announces a leave. -/
def Op.Quiet : Op → Prop
  | .store (.updateCallJob _) => False
  | .publish (.userLeft _ _) _ => False
  | _ => True

theorem Op.Quiet.leavesWell {T : Type} {t : T} {rs : List LeaveRequest} {jobID : String}
    {l : List (Deed Op Store Choice T)} {o : Op} (ho : o.Quiet) :
    LeavesWell t rs jobID l o where
  ended j hj := by subst hj; exact ho.elim
  named j hj := by subst hj; exact ho.elim
  announced userID id bc h := by subst h; exact ho.elim

/-- A thread among others that removes the sessions in `rs`, if there are any. -/
abbrev leaveRely {T : Type} (b : Bot) (t : T) (rs : List LeaveRequest) :
    Rely Op Op.Resp (List (Deed Op Store Choice T)) :=
  deedRely exec b.Served t fun l o => rs ≠ [] → LeavesWell t rs b.jobID l o

/-! ## What has been read and written -/

section Leaving

variable {T : Type} {b : Bot} {t : T} {rs : List LeaveRequest}
  {l₀ l l' : List (Deed Op Store Choice T)} {st₀ st st' : CallState}
  {done done' : JobType → Prop}

/-- The thread has just read the jobs of `st₀`. -/
def HasRead (b : Bot) (t : T) (l₀ : List (Deed Op Store Choice T)) (st₀ : CallState) :
    Prop :=
  ∃ l d callID, l₀ = l ++ [d] ∧ d.thread = t ∧
    d.op = .store (.getActiveCallJobs callID) ∧
    b.Served d.world ∧ ∀ type, st₀.job type = d.world.getActiveCallJobs callID type

/-- Since then it has written the job as ended. -/
def HasEnded (t : T) (l₀ l : List (Deed Op Store Choice T)) (id : String) : Prop :=
  ∃ l₂, l = l₀ ++ l₂ ∧ ∃ d ∈ l₂, d.thread = t ∧ EndsRow d id

theorem HasEnded.along {id : String} (h : HasEnded t l₀ l id) (hl : l <+: l') :
    HasEnded t l₀ l' id := by
  obtain ⟨l₂, rfl, d, hd, hdone⟩ := h
  obtain ⟨l₃, rfl⟩ := hl
  exact ⟨l₂ ++ l₃, List.append_assoc .., d, List.mem_append_left _ hd, hdone⟩

/-- The copy `j` in memory of a job `j₀` that was read: one that is marked as ended has
been written, and if it is `done` it is marked. -/
structure CopyOf (t : T) (l₀ l : List (Deed Op Store Choice T)) (done : Prop)
    (j₀ j : CallJob) :
    Prop where
  id : j.id = j₀.id
  conn : j.props.botConnID = j₀.props.botConnID
  marked : done → j.endAt ≠ 0
  written : j.endAt ≠ 0 → HasEnded t l₀ l j₀.id

/-- The jobs in memory are those that were read, and those in `done` have ended. -/
structure JobsMarked (t : T) (l₀ : List (Deed Op Store Choice T)) (st₀ : CallState)
    (done : JobType → Prop) (st : CallState)
    (l : List (Deed Op Store Choice T)) : Prop where
  since : l₀ <+: l
  jobs : ∀ type, Option.Rel (CopyOf t l₀ l (done type)) (st₀.job type) (st.job type)

/-- The jobs that a leave tells the bot of. -/
def Mine (st₀ : CallState) (r : LeaveRequest) (type : JobType) : Prop :=
  ∃ j, st₀.job type = some j ∧ r.Names type j

/-- One of the sessions is that of the bot of the recording or of the transcription. -/
def BotsLeave (st₀ : CallState) (rs : List LeaveRequest) : Prop :=
  ∃ r ∈ rs, ∃ type ≠ .captioning, Mine st₀ r type

theorem CopyOf.along {j₀ j : CallJob} {c c' : Prop} (h : CopyOf t l₀ l c j₀ j)
    (hl : l <+: l') (hc : c' → c) : CopyOf t l₀ l' c' j₀ j :=
  ⟨h.id, h.conn, fun hd => h.marked (hc hd), fun hend => (h.written hend).along hl⟩

theorem JobsMarked.along (h : JobsMarked t l₀ st₀ done st l) (hl : l <+: l')
    (hd : ∀ type, done' type → done type) : JobsMarked t l₀ st₀ done' st l' where
  since := h.since.trans hl
  jobs type := by
    have hj := h.jobs type
    generalize st₀.job type = j₀, st.job type = j at hj
    cases hj with
    | some hj => exact .some (hj.along hl (hd type))
    | none => exact .none

theorem JobsMarked.mono (h : JobsMarked t l₀ st₀ done st l)
    (hd : ∀ type, done' type → done type) :
    JobsMarked t l₀ st₀ done' st l :=
  h.along (List.prefix_refl l) hd

theorem JobsMarked.same (h : JobsMarked t l₀ st₀ done st l)
    (hsame : ∀ type, st'.job type = st.job type) :
    JobsMarked t l₀ st₀ done st' l :=
  ⟨h.since, fun type => hsame type ▸ h.jobs type⟩

/-- A job in memory was read. -/
theorem JobsMarked.get {type : JobType} {j : CallJob}
    (h : JobsMarked t l₀ st₀ done st l) (hj : st.job type = some j) :
    ∃ j₀, st₀.job type = some j₀ ∧ CopyOf t l₀ l (done type) j₀ j := by
  have hrel := h.jobs type
  rw [hj] at hrel
  generalize st₀.job type = j₀ at hrel
  cases hrel with
  | some hcopy => exact ⟨_, rfl, hcopy⟩

/-- Ending a job in memory, if its end has been written. -/
theorem JobsMarked.withJob {type : JobType} {j j' : CallJob}
    (h : JobsMarked t l₀ st₀ done st l) (hj : st.job type = some j) (hid : j'.id = j.id)
    (hconn : j'.props.botConnID = j.props.botConnID) (hend : j'.endAt ≠ 0)
    (hwritten : HasEnded t l₀ l j.id) :
    JobsMarked t l₀ st₀ (fun type' => done type' ∨ type' = type)
      (st.withJob type j') l where
  since := h.since
  jobs type' := by
    by_cases hne : type' = type
    · subst hne
      obtain ⟨j₀, hj₀, hcopy⟩ := h.get hj
      rw [hj₀, withJob_job_self]
      exact .some ⟨hid.trans hcopy.id, hconn.trans hcopy.conn, fun _ => hend,
        fun _ => hcopy.id ▸ hwritten⟩
    · rw [withJob_job_of_ne st j' hne]
      have hrel := h.jobs type'
      generalize st₀.job type' = j₀, st.job type' = i at hrel
      cases hrel with
      | some hi =>
          exact .some (hi.along (List.prefix_refl l) fun hd => hd.resolve_right hne)
      | none => exact .none

/-- Noting an error on a job in memory that has ended; `j` is an earlier copy. -/
theorem JobsMarked.noteError {type : JobType} {j : CallJob} {endAt : Int}
    (h : JobsMarked t l₀ st₀ done st' l') (hd : done type)
    (hearlier : JobsMarked t l₀ st₀ done' st l)
    (hj : st.job type = some j) (hend : endAt ≠ 0) (err : String) :
    JobsMarked t l₀ st₀ done
      (st'.withJob type { j with endAt := endAt, props := { j.props with err := err } })
      l' where
  since := h.since
  jobs type' := by
    have hrel := h.jobs type'
    by_cases hne : type' = type
    · subst hne
      obtain ⟨j₀, hj₀, hcopy⟩ := hearlier.get hj
      rw [hj₀] at hrel ⊢
      rw [withJob_job_self]
      generalize st'.job type' = i at hrel
      cases hrel with
      | some hi =>
          exact .some ⟨hcopy.id, hcopy.conn, fun _ => hend,
            fun _ => hi.written (hi.marked hd)⟩
    · rwa [withJob_job_of_ne st' _ hne]

/-! ## Rules -/

/-- What the code leaves: a state in which the jobs in `done` have ended. -/
def Marks (b : Bot) (t : T) (rs : List LeaveRequest)
    (l₀ : List (Deed Op Store Choice T))
    (st₀ : CallState) {α : Type} (done : α → JobType → Prop) (f : α → CallState)
    (c : Body α) (l : List (Deed Op Store Choice T)) : Prop :=
  (Prog.lift c).Meets (leaveRely b t rs)
    (fun a l' => JobsMarked t l₀ st₀ (done a) (f a) l') l

section Rules

variable {α β : Type} {f : α → CallState} {g : β → CallState} {D : α → JobType → Prop}
  {E : β → JobType → Prop}

theorem Marks.ret {a : α} (h : JobsMarked t l₀ st₀ (D a) (f a) l) :
    Marks b t rs l₀ st₀ D f (.ret a) l :=
  fun _ hl => h.along hl fun _ hd => hd

theorem Marks.bind {c : Body α} {k : α → Body β} (hc : Marks b t rs l₀ st₀ D f c l)
    (hk : ∀ a l', JobsMarked t l₀ st₀ (D a) (f a) l' →
      Marks b t rs l₀ st₀ E g (k a) l') :
    Marks b t rs l₀ st₀ E g (c >>= k) l := by
  unfold Marks
  rw [Prog.lift_bind]
  exact Prog.Meets.bind hc hk

/-- An operation that the thread may issue now. -/
theorem Marks.op {o : Op} {k : o.Resp → Body α} (h : JobsMarked t l₀ st₀ done st l)
    (ho : ∀ l', JobsMarked t l₀ st₀ done st l' → LeavesWell t rs b.jobID l' o)
    (hk : ∀ r l' ch w, JobsMarked t l₀ st₀ done st (l' ++ [⟨t, ch, w, o⟩]) → l₀ <+: l' →
      Marks b t rs l₀ st₀ D f (k r) (l' ++ [⟨t, ch, w, o⟩])) :
    Marks b t rs l₀ st₀ D f (.op o k) l := by
  intro l' hl
  have hnow := h.along hl fun _ hd => hd
  refine ⟨fun _ => ho l' hnow, ?_⟩
  rintro r _ ⟨ch, w, -, -, rfl⟩
  exact hk r l' ch w (hnow.along (List.prefix_append ..) fun _ hd => hd) hnow.since

/-- An operation that neither writes a job nor announces a leave. -/
theorem Marks.quiet {o : Op} {k : o.Resp → Body α} (ho : o.Quiet)
    (h : JobsMarked t l₀ st₀ done st l)
    (hk : ∀ r l', JobsMarked t l₀ st₀ done st l' → Marks b t rs l₀ st₀ D f (k r) l') :
    Marks b t rs l₀ st₀ D f (.op o k) l :=
  .op h (fun _ _ => ho.leavesWell) fun r _ _ _ h' _ => hk r _ h'

/-- Code that does neither, and leaves the jobs in memory. -/
theorem Marks.quietly {c : Body α} {k : α → Body β} (h : JobsMarked t l₀ st₀ done st l)
    (hc : c.Only Op.Quiet) (hall : c.All fun a => ∀ type, (f a).job type = st.job type)
    (hk : ∀ a l', JobsMarked t l₀ st₀ done (f a) l' →
      Marks b t rs l₀ st₀ E g (k a) l') :
    Marks b t rs l₀ st₀ E g (c >>= k) l := by
  induction c generalizing l with
  | ret a => exact hk a l (h.same hall)
  | op o k' ih => exact .quiet hc.1 h fun r l' h' => ih r h' (hc.2 r) (hall r)

/-- A write of something else that the code cannot go on without. -/
theorem Marks.quietWrite {wr : Write} {k : Except String Unit → Body α}
    (ho : (Op.store wr.op).Quiet) (h : JobsMarked t l₀ st₀ done st l)
    (hk : ∀ res l', JobsMarked t l₀ st₀ done st l' →
      Marks b t rs l₀ st₀ D f (k res) l') :
    Marks b t rs l₀ st₀ D f (write wr >>= k) l := by
  refine .quiet ho h fun res l' h' => ?_
  cases res with
  | error e => exact .quiet trivial h' fun _ l'' h'' => hk _ l'' h''
  | ok _ => exact hk _ l' h'

/-- A job is ended, in memory and in its row. -/
theorem Marks.endJob {j j' : CallJob} {k : Except String Unit → Body α}
    (h : JobsMarked t l₀ st₀ done st l) (type : JobType) (hj : st.job type = some j)
    (hid : j'.id = j.id) (hconn : j'.props.botConnID = j.props.botConnID)
    (hend : 0 < j'.endAt)
    (hgood : ∀ l', l₀ <+: l' → LeavesWell t rs b.jobID l' (.store (.updateCallJob j')))
    (hk : ∀ res l', JobsMarked t l₀ st₀ (fun type' => done type' ∨ type' = type)
      (st.withJob type j') l' → Marks b t rs l₀ st₀ D f (k res) l') :
    Marks b t rs l₀ st₀ D f (store (.updateCallJob j') >>= k) l := by
  refine .op h (fun l' h' => hgood l' h'.since) fun r l' ch w h' hl' => hk r _ ?_
  obtain ⟨l₂, rfl⟩ := hl'
  refine h'.withJob hj hid hconn hend.ne' ⟨l₂ ++ [_], List.append_assoc .., _,
    List.mem_append_right _ (List.mem_singleton_self _), rfl, j', rfl, hid, hend⟩

end Rules

/-! ## Stopping -/

/-- The thread may end a job that is not `b.jobID`, or if the bot of a recording or
transcription leaves. -/
theorem leavesWell_of_ended {j : CallJob} (hread : HasRead b t l₀ st₀)
    (hend : 0 < j.endAt) (hj : j.id = b.jobID → BotsLeave st₀ rs) (hl : l₀ <+: l) :
    LeavesWell t rs b.jobID l (.store (.updateCallJob j)) where
  ended _ h := by cases h; exact hend
  named _ h hid := by
    cases h
    obtain ⟨r, hr, type, htype, i, hi, hname⟩ := hj hid
    obtain ⟨l₁, d, callID, rfl, hthread, hop, -, hjobs⟩ := hread
    exact ⟨d, hl.subset (List.mem_append_right _ (List.mem_singleton_self d)), hthread,
      callID, type, i, hop, htype, (hjobs type).symm.trans hi, r, hr, hname⟩
  announced _ _ _ h := by cases h

variable {p : Plugin} {env : Env} {channelID : String}

theorem publishJob?_quiet (st : CallState) (job : Option CallJob) :
    (publishJob? env st channelID job).Only Op.Quiet := by
  cases job with
  | none => trivial
  | some job => exact ⟨trivial, fun _ => trivial⟩

theorem stopLiveCaptions_marks (hread : HasRead b t l₀ st₀) (hbot : BotsLeave st₀ rs)
    (h : JobsMarked t l₀ st₀ done st l) :
    Marks b t rs l₀ st₀ (fun _ => done) Prod.fst (stopLiveCaptions env st) l := by
  unfold stopLiveCaptions
  split
  · exact .ret h
  next lc hlc =>
    refine .endJob h .captioning hlc rfl rfl (env.now_pos _) (fun _ =>
      leavesWell_of_ended hread (env.now_pos _) fun _ => hbot) fun res l' h' => ?_
    have hdone : JobsMarked t l₀ st₀ done _ l' := h'.mono fun _ => .inl
    cases res <;> exact .ret hdone

/-- Stopping the recording or transcribing job, to any depth. -/
theorem stopJobs_mark (hread : HasRead b t l₀ st₀) (hbot : BotsLeave st₀ rs)
    (depth : Nat) :
    ∀ {done : JobType → Prop} {st : CallState} {l : List (Deed Op Store Choice T)},
    JobsMarked t l₀ st₀ done st l →
    Marks b t rs l₀ st₀ (fun _ => done) Prod.fst
      (stopRecordingJob p env depth st channelID) l ∧
      Marks b t rs l₀ st₀ (fun _ => done) Prod.fst
        (stopTranscribingJob p env depth st channelID) l := by
  have hgood : ∀ {j : CallJob} (l' : List (Deed Op Store Choice T)), 0 < j.endAt →
      l₀ <+: l' →
      LeavesWell t rs b.jobID l' (.store (.updateCallJob j)) := fun _ hend =>
    leavesWell_of_ended hread hend fun _ => hbot
  induction depth with
  | zero =>
      intro done st l h
      rw [stopRecordingJob, stopTranscribingJob]
      exact ⟨.ret h, .ret h⟩
  | succ depth ih =>
      intro done st l h
      constructor
      · rw [stopRecordingJob]
        split
        · exact .ret h
        next job hjob =>
        split
        · exact .ret h
        refine .endJob h .recording hjob rfl rfl (env.now_pos _) (fun l' =>
          hgood l' (env.now_pos _)) fun res l₁ h₁ => ?_
        cases res with
        | error e => exact .ret (h₁.mono fun _ => .inl)
        | ok _ =>
            refine .bind (f := id) (D := fun _ type => done type ∨ type = .recording) ?_
              fun st₂ l₂ h₂ => ?_
            · split
              · exact .bind (ih h₁).2 fun res l' h' => .ret h'
              · exact .ret h₁
            · refine .quiet trivial h₂ fun res l₃ h₃ => ?_
              cases res with
              | error e =>
                  have hnoted :=
                    h₃.noteError (.inr rfl) h hjob (env.now_pos .recordingEnd).ne'
                    ("failed to stop recording job: " ++ e)
                  exact .quiet trivial hnoted fun _ _ h₄ => .ret (h₄.mono fun _ => .inl)
              | ok _ =>
                  exact .quiet trivial h₃ fun _ _ h₄ => .ret (h₄.mono fun _ => .inl)
      · rw [stopTranscribingJob]
        split
        · exact .ret h
        next job hjob =>
        split
        · exact .ret h
        refine .endJob h .transcribing hjob rfl rfl (env.now_pos _) (fun l' =>
          hgood l' (env.now_pos _)) fun res l₁ h₁ => ?_
        cases res with
        | error e => exact .ret (h₁.mono fun _ => .inl)
        | ok _ =>
            refine .bind (c := stopLiveCaptions env _)
              (stopLiveCaptions_marks hread hbot h₁) fun res l₂ h₂ => ?_
            obtain ⟨st₂, res⟩ := res
            cases res with
            | error e => exact .ret (h₂.mono fun _ => .inl)
            | ok _ =>
                refine .quiet trivial h₂ fun res l₃ h₃ => ?_
                cases res with
                | error e =>
                    have hnoted := h₃.noteError (.inr rfl) h hjob
                      (env.now_pos .transcribingEnd).ne'
                      ("failed to stop transcription job: " ++ e)
                    exact .quiet trivial hnoted fun _ _ h₄ =>
                      .ret (h₄.mono fun _ => .inl)
                | ok _ =>
                    refine .bind (f := id) (D := fun _ type => done type ∨
                      type = .transcribing) ?_ fun st₄ l₄ h₄ => ?_
                    · split
                      · exact .bind (ih h₃).1 fun res l' h' => .ret h'
                      · exact .ret h₃
                    · refine .quiet trivial h₄ fun _ l₅ h₅ => ?_
                      exact .quietly (c := publishJob? env _ channelID _)
                        (f := fun _ => st₄) h₅ (publishJob?_quiet _ _)
                        (Code.all_of_forall (fun _ _ => rfl) _)
                        fun _ _ h₆ => .ret (h₆.mono fun _ => .inl)

/-! ## Leaving -/

/-- Writing the end of a job that the code cannot go on without. -/
theorem Marks.writeJob {α : Type} {f : α → CallState} {D : α → JobType → Prop}
    {j j' : CallJob} {k : Except String Unit → Body α}
    (h : JobsMarked t l₀ st₀ done st l) (type : JobType)
    (hj : st.job type = some j) (hid : j'.id = j.id)
    (hconn : j'.props.botConnID = j.props.botConnID) (hend : 0 < j'.endAt)
    (hgood : ∀ l', l₀ <+: l' → LeavesWell t rs b.jobID l' (.store (.updateCallJob j')))
    (hk : ∀ res l', JobsMarked t l₀ st₀ (fun type' => done type' ∨ type' = type)
      (st.withJob type j') l' → Marks b t rs l₀ st₀ D f (k res) l') :
    Marks b t rs l₀ st₀ D f (write (jobWrite j') >>= k) l := by
  refine .endJob h type hj hid hconn hend hgood fun res l' h' => ?_
  cases res with
  | error e => exact .quiet trivial h' fun _ l'' h'' => hk _ l'' h''
  | ok _ => exact hk _ l' h'

/-- The step leaves the jobs in memory as those that were read; the jobs in `done'` have
ended if it goes on. -/
def StepMarks (b : Bot) (t : T) (rs : List LeaveRequest)
    (l₀ : List (Deed Op Store Choice T))
    (st₀ : CallState) (done done' : JobType → Prop) (g : Step) : Prop :=
  ∀ st l, JobsMarked t l₀ st₀ done st l →
    Marks b t rs l₀ st₀ (fun res type => res.2 = .ok () ∧ done' type) Prod.fst (g st) l

theorem StepMarks.andThen {done'' : JobType → Prop} {g f : Step}
    (hg : StepMarks b t rs l₀ st₀ done done' g)
    (hf : StepMarks b t rs l₀ st₀ done' done'' f) :
    StepMarks b t rs l₀ st₀ done done'' (g.andThen f) := by
  refine fun st l h => .bind (hg st l h) fun res l' h' => ?_
  obtain ⟨st', res⟩ := res
  cases res with
  | error e => exact .ret (h'.mono fun _ hd => absurd hd.1 (by simp))
  | ok _ => exact hf st' l' (h'.mono fun _ hd => ⟨rfl, hd⟩)

variable {r : LeaveRequest}

/-- No running job of the type names the connection that left. -/
theorem JobsMarked.skip (h : JobsMarked t l₀ st₀ done st l) (type : JobType)
    (hnone : (st.job type).filter (leftBy (r.connOf type)) = none) :
    JobsMarked t l₀ st₀ (fun type' => done type' ∨ type' = type ∧
      Mine st₀ r type') st l where
  since := h.since
  jobs type' := by
    have hrel := h.jobs type'
    by_cases hne : type' = type
    · subst hne
      have hmine : ∀ j₀, st₀.job type' = some j₀ → Mine st₀ r type' →
          r.Names type' j₀ := by
        rintro j₀ hj₀ ⟨j₁, hj₁, hname⟩
        obtain rfl := Option.some.inj (hj₀.symm.trans hj₁)
        exact hname
      generalize st₀.job type' = j₀, st.job type' = j at hrel hnone hmine
      cases hrel with
      | none => exact .none
      | some hcopy =>
          refine .some ⟨hcopy.id, hcopy.conn, fun hd => ?_, hcopy.written⟩
          rcases hd with hd | ⟨-, hm⟩
          · exact hcopy.marked hd
          · intro hend
            have hleft := Option.filter_eq_none_iff.1 hnone _ rfl
            exact hleft (decide_eq_true
              ⟨hend, (hcopy.conn.trans (hmine _ rfl hm)).symm⟩)
    · generalize st₀.job type' = j₀, st.job type' = j at hrel
      cases hrel with
      | none => exact .none
      | some hcopy =>
          exact .some (hcopy.along (List.prefix_refl l) fun hd => hd.resolve_right
            fun h => hne h.1)

/-- A running job of the type names it. -/
theorem JobsMarked.mine {j : CallJob} (h : JobsMarked t l₀ st₀ done st l)
    (type : JobType) (hsome : (st.job type).filter (leftBy (r.connOf type)) = some j) :
    st.job type = some j ∧ Mine st₀ r type := by
  obtain ⟨hj, hleft⟩ := Option.filter_eq_some_iff.1 hsome
  obtain ⟨j₀, hj₀, hcopy⟩ := h.get hj
  exact ⟨hj, j₀, hj₀, hcopy.conn.symm.trans (of_decide_eq_true hleft).2.symm⟩

/-- The step of a job goes on when the job has ended. -/
theorem JobsMarked.goesOn {type : JobType} {res : Except String Unit}
    (h : JobsMarked t l₀ st₀ (fun type' => done type' ∨ type' = type) st l) :
    JobsMarked t l₀ st₀ (fun type' => res = .ok () ∧
      (done type' ∨ type' = type ∧ Mine st₀ r type'))
      st l :=
  h.mono fun _ hd => hd.2.imp_right And.left

theorem recordingBotLeft_marks (hread : HasRead b t l₀ st₀) (hr : r ∈ rs) :
    StepMarks b t rs l₀ st₀ done (fun type => done type ∨ type = .recording ∧
      Mine st₀ r type) (recordingBotLeft p env r channelID) := by
  intro st l h
  unfold recordingBotLeft
  split
  next hnone => exact .ret ((h.skip (r := r) .recording hnone).mono fun _ => And.right)
  next job hjob =>
    obtain ⟨hj, hmine⟩ := h.mine (r := r) .recording hjob
    have hbot : BotsLeave st₀ rs := ⟨r, hr, .recording, by simp, hmine⟩
    refine .writeJob h .recording hj rfl rfl (env.now_pos _) (fun _ =>
      leavesWell_of_ended hread (env.now_pos _) fun _ => hbot) fun res l₁ h₁ => ?_
    cases res with
    | error e => exact .ret h₁.goesOn
    | ok _ =>
        refine .bind (f := id) (D := fun _ type => done type ∨ type = .recording) ?_
          fun st₂ l₂ h₂ => .quiet trivial h₂ fun _ _ h₃ => .ret h₃.goesOn
        split
        · exact .bind (stopJobs_mark hread hbot stopDepth h₁).2 fun res l' h' => .ret h'
        · exact .ret h₁

theorem transcribingBotLeft_marks (hread : HasRead b t l₀ st₀) (hr : r ∈ rs) :
    StepMarks b t rs l₀ st₀ done (fun type => done type ∨ type = .transcribing ∧
      Mine st₀ r type) (transcribingBotLeft p env r channelID) := by
  intro st l h
  unfold transcribingBotLeft
  split
  next hnone =>
    exact .ret ((h.skip (r := r) .transcribing hnone).mono fun _ => And.right)
  next job hjob =>
    obtain ⟨hj, hmine⟩ := h.mine (r := r) .transcribing hjob
    have hbot : BotsLeave st₀ rs := ⟨r, hr, .transcribing, by simp, hmine⟩
    refine .writeJob h .transcribing hj rfl rfl (env.now_pos _) (fun _ =>
      leavesWell_of_ended hread (env.now_pos _) fun _ => hbot) fun res l₁ h₁ => ?_
    cases res with
    | error e => exact .ret h₁.goesOn
    | ok _ =>
        refine .bind (f := id) (D := fun _ type => done type ∨ type = .transcribing) ?_
          fun st₂ l₂ h₂ => .quiet trivial h₂ fun _ l₃ h₃ => ?_
        · split
          · exact .bind (stopJobs_mark hread hbot stopDepth h₁).1
              fun res l' h' => .ret h'
          · exact .ret h₁
        · exact .quietly (c := publishJob? env _ channelID _) (f := fun _ => st₂) h₃
            (publishJob?_quiet _ _) (Code.all_of_forall (fun _ _ => rfl) _)
            fun _ _ h₄ => .ret h₄.goesOn

/-- The captions that were read are not the job of the bot. -/
theorem HasRead.captions {lc : CallJob} (hread : HasRead b t l₀ st₀)
    (hlc : st₀.job .captioning = some lc) : lc.id ≠ b.jobID := by
  intro hid
  obtain ⟨_, d, callID, -, -, -, hserved, hjobs⟩ := hread
  obtain ⟨hmem, -, -, htype⟩ :=
    Store.getActiveCallJobs_eq_some ((hjobs .captioning).symm.trans hlc)
  exact hserved.type lc hmem hid htype

theorem captioningBotLeft_marks (hread : HasRead b t l₀ st₀) :
    StepMarks b t rs l₀ st₀ done (fun type => done type ∨ type = .captioning ∧
      Mine st₀ r type) (captioningBotLeft env r) := by
  intro st l h
  unfold captioningBotLeft
  split
  next hnone => exact .ret ((h.skip (r := r) .captioning hnone).mono fun _ => And.right)
  next job hjob =>
    obtain ⟨hj, -⟩ := h.mine (r := r) .captioning hjob
    obtain ⟨lc, hlc, hcopy⟩ := h.get hj
    refine .writeJob h .captioning hj rfl rfl (env.now_pos _) (fun _ =>
      leavesWell_of_ended hread (env.now_pos _) fun hid =>
        absurd (hcopy.id.symm.trans hid) (hread.captions hlc)) fun res l₁ h₁ => ?_
    cases res <;> exact .ret h₁.goesOn

/-- The thread may announce a leave when the jobs that name the session have ended. -/
theorem leavesWell_of_marked (hread : HasRead b t l₀ st₀) (hr : r ∈ rs)
    (h : JobsMarked t l₀ st₀ done st l) (hdone : ∀ type, Mine st₀ r type → done type)
    (userID : String) (bc : WebSocketBroadcast) :
    LeavesWell t rs b.jobID l (.publish (.userLeft userID r.originalConnID) bc) where
  ended _ he := by cases he
  named _ he := by cases he
  announced _ _ _ he := by
    cases he
    obtain ⟨l₁, d, callID, rfl, hthread, hop, -, hjobs⟩ := hread
    obtain ⟨l₂, rfl⟩ := h.since
    refine ⟨r, hr, rfl, l₁, d, l₂, callID, by simp, hthread, hop,
      fun type j hj hname => ?_⟩
    rw [← hjobs] at hj
    have hrel := h.jobs type
    rw [hj] at hrel
    generalize st.job type = i at hrel
    cases hrel with
    | some hcopy =>
        obtain ⟨l₃, hl₃, hended⟩ :=
          hcopy.written (hcopy.marked (hdone type ⟨j, hj, hname⟩))
        obtain rfl := List.append_cancel_left hl₃
        exact hended

/-- Code of no store call that changes at most the call of the state. -/
theorem Touched.job {st st' : CallState} (h : Touched st st') (type : JobType) :
    st'.job type = st.job type := by
  obtain ⟨stats, props, rfl⟩ := h
  cases type <;> rfl

theorem hostLeft_quiet : (hostLeft p env r channelID st).Only Op.Quiet := by
  unfold hostLeft
  split
  · dsimp only
    split
    · exact ⟨trivial, fun _ => trivial⟩
    · trivial
  · trivial

theorem saveLeave_marks (hread : HasRead b t l₀ st₀) (hr : r ∈ rs)
    (hdone : ∀ type, Mine st₀ r type → done type) :
    StepMarks b t rs l₀ st₀ done done (saveLeave p env r channelID) := by
  refine fun st l h => .op h (fun l' h' => leavesWell_of_marked hread hr h' hdone _ _)
    fun _ l₁ ch w h₁ _ => ?_
  refine .quietly (c := hostLeft p env r channelID st) (f := id) h₁ hostLeft_quiet
    ((hostLeft_frame p env r channelID st).2.mono fun _ => Touched.job)
    fun st' l₂ h₂ => ?_
  have hcall : JobsMarked t l₀ st₀ done { st' with call := callLeft env st' } l₂ :=
    JobsMarked.same h₂ fun type => by cases type <;> rfl
  refine .quietWrite trivial hcall fun res l₃ h₃ => ?_
  dsimp only
  split
  · exact .quiet trivial h₃ fun _ _ h₄ => .ret (h₄.mono fun _ => And.right)
  · exact .ret (h₃.mono fun _ => And.right)

theorem screenLeft_quiet : (screenLeft env r channelID st).Only Op.Quiet := by
  unfold screenLeft
  split
  · exact ⟨trivial, fun _ => trivial⟩
  · trivial

theorem stopJobsOfLoneBot_quiet : (stopJobsOfLoneBot p channelID st).Only Op.Quiet := by
  have hstop : ∀ job, (stopJobOf p channelID job).Only Op.Quiet := by
    rintro (_ | job)
    · trivial
    · exact ⟨trivial, fun _ => trivial⟩
  unfold stopJobsOfLoneBot
  split
  · exact (hstop _).bind fun _ => hstop _
  · trivial

theorem sessionLeft_marks (hread : HasRead b t l₀ st₀) (hr : r ∈ rs)
    (us : CallSession) :
    StepMarks b t rs l₀ st₀ (fun _ => False) (fun _ => False)
      (sessionLeft p env r channelID us) := by
  -- after the three stages every job that names the session has ended
  have hdone : ∀ type, Mine st₀ r type →
      ((False ∨ type = .recording ∧ Mine st₀ r type) ∨ type = .transcribing ∧
        Mine st₀ r type) ∨ type = .captioning ∧ Mine st₀ r type := by
    intro type hm
    cases type with
    | recording => exact .inl (.inl (.inr ⟨rfl, hm⟩))
    | transcribing => exact .inl (.inr ⟨rfl, hm⟩)
    | captioning => exact .inr ⟨rfl, hm⟩
  have hstages : ∃ done, StepMarks b t rs l₀ st₀ (fun _ => False) done
      ((recordingBotLeft p env r channelID).andThen <|
        (transcribingBotLeft p env r channelID).andThen <|
        (captioningBotLeft env r).andThen <| saveLeave p env r channelID) :=
    ⟨_, (recordingBotLeft_marks hread hr).andThen
      ((transcribingBotLeft_marks hread hr).andThen
      ((captioningBotLeft_marks hread).andThen (saveLeave_marks hread hr hdone)))⟩
  obtain ⟨done, hstages⟩ := hstages
  refine fun st l h => .quietWrite trivial h fun res l₁ h₁ => ?_
  cases res with
  | error e => exact .ret (h₁.mono fun _ hd => hd.2)
  | ok _ =>
      have herased : JobsMarked t l₀ st₀ (fun _ => False)
          { st with sessions := st.sessions.erase r.originalConnID } l₁ :=
        h₁.same fun type => by cases type <;> rfl
      refine .quietly (c := screenLeft env r channelID _) (f := id) herased
        screenLeft_quiet ((screenLeft_frame env r channelID _).2.mono fun _ =>
          Touched.job) fun st' l₂ h₂ => ?_
      have hrest : ∀ l, JobsMarked t l₀ st₀ (fun _ => False) st' l →
          Marks b t rs l₀ st₀ (fun res _ => res.2 = .ok () ∧ False) Prod.fst
            (stopJobsOfLoneBot p channelID st' >>= fun _ =>
              ((recordingBotLeft p env r channelID).andThen <|
                (transcribingBotLeft p env r channelID).andThen <|
                (captioningBotLeft env r).andThen <| saveLeave p env r channelID) st')
                l := by
        refine fun l h => .quietly (f := fun _ => st') h stopJobsOfLoneBot_quiet
          (Code.all_of_forall (fun _ _ => rfl) _) fun _ l₃ h₃ => ?_
        exact Prog.Meets.mono (hstages st' l₃ h₃) fun _ _ h₄ =>
          h₄.mono fun _ hd => hd.2.elim
      dsimp only
      split
      · exact .quiet trivial h₂ fun _ => hrest
      · exact hrest l₂ h₂

/-- The removal of a session leaves the jobs in memory as those that were read. -/
theorem removeUserSession_marks (hread : HasRead b t l₀ st₀) (hr : r ∈ rs)
    (h : JobsMarked t l₀ st₀ (fun _ => False) st l) :
    (Prog.lift (removeUserSession p env r channelID (some st))).Meets (leaveRely b t rs)
      (fun res l' => ∃ st', res.1 = some st' ∧
        JobsMarked t l₀ st₀ (fun _ => False) st' l') l := by
  unfold removeUserSession
  dsimp only
  split
  · exact fun l' hl => ⟨st, rfl, h.along hl fun _ hd => hd⟩
  next us _ =>
    rw [Prog.lift_bind]
    refine Prog.Meets.bind (sessionLeft_marks hread hr us st l h) fun res l₁ h₁ l₂ hl =>
      ⟨res.1, rfl, ?_⟩
    exact h₁.along hl fun _ hd => hd.elim

theorem removeSessionsFromCall_meets (hread : HasRead b t l₀ st₀) (ls : List Leave)
    (hrs : ∀ x ∈ ls, x.req ∈ rs) :
    ∀ {st : CallState} {l : List (Deed Op Store Choice T)},
    JobsMarked t l₀ st₀ (fun _ => False) st l →
    (Prog.lift (removeSessionsFromCall p channelID ls (some st))).Meets
      (leaveRely b t rs) (fun _ _ => True) l := by
  induction ls with
  | nil => exact fun _ _ _ => trivial
  | cons x rest ih =>
      intro st l h
      unfold removeSessionsFromCall
      rw [Prog.lift_bind]
      refine (removeUserSession_marks hread (hrs x (List.mem_cons_self ..)) h).bind
        fun res l₁ h₁ => ?_
      obtain ⟨_, res⟩ := res
      obtain ⟨st', rfl, h₁⟩ := h₁
      rw [Prog.lift_bind]
      exact (ih (fun y hy => hrs y (List.mem_cons_of_mem _ hy)) h₁).bind
        fun _ _ _ _ _ => trivial

/-- Without a call there is nothing to remove. -/
theorem removeSessionsFromCall_none (ls : List Leave) :
    (removeSessionsFromCall p channelID ls none).Only Op.Quiet := by
  induction ls with
  | nil => trivial
  | cons x rest ih => exact ih.bind fun _ => trivial

/-! ## Requests -/

/-- The state that has been read, after the read. -/
theorem HasRead.marked (hread : HasRead b t l₀ st₀) (hl : l₀ <+: l) :
    JobsMarked t l₀ st₀ (fun _ => False) st₀ l where
  since := hl
  jobs type := by
    obtain ⟨_, d, callID, -, -, -, -, hjobs⟩ := hread
    have hactive : ∀ j, st₀.job type = some j → j.endAt = 0 := fun j hj =>
      (Store.getActiveCallJobs_eq_some ((hjobs type).symm.trans hj)).2.2.1
    generalize st₀.job type = j at hactive
    cases j with
    | none => exact .none
    | some j =>
        exact .some ⟨rfl, rfl, False.elim, fun hend => absurd (hactive j rfl) hend⟩

theorem leave_quiet {α : Type} {o : Op} {k : o.Resp → P α}
    {Q : α → List (Deed Op Store Choice T) → Prop}
    (ho : o.Quiet) (hk : ∀ r ch w l', l <+: l' → b.Served w → r = (exec ch w o).1 →
      (k r).Meets (leaveRely b t rs) Q (l' ++ [⟨t, ch, w, o⟩])) :
    (Prog.op o k).Meets (leaveRely b t rs) Q l := by
  refine fun l' hl => ⟨fun _ => ho.leavesWell, ?_⟩
  rintro r _ ⟨ch, w, hw, hr, rfl⟩
  exact hk r ch w l' hl hw hr

/-- A state that was read under the lock. -/
theorem lockCallReturnState_read :
    (lockCallReturnState channelID).Meets (leaveRely b t rs)
    (fun res l' => ∀ st, res = .ok (some st) → ∃ l₀, HasRead b t l₀ st ∧
      l₀ <+: l') l := by
  simp only [lockCallReturnState, lockCall, Prog.lock_bind, Prog.ret_bind]
  intro locked
  cases locked with
  | false =>
      rintro l' - st h
      cases h
  | true =>
      refine leave_quiet trivial fun res ch w l₁ _ _ _ => ?_
      rcases res with e | _ | call
      · rintro l' - st h
        cases h
      · rintro l' - st h
        cases h
      · refine leave_quiet trivial fun res ch w l₂ _ _ _ => ?_
        cases res with
        | error e =>
            rintro l' - st h
            cases h
        | ok sessions =>
            refine leave_quiet trivial fun res ch w l₃ _ hw hres => ?_
            cases res with
            | error e =>
                rintro l' - st h
                cases h
            | ok jobs =>
                intro l' hl st h
                cases h
                refine ⟨_, ⟨l₃, _, call.id, rfl, rfl, rfl, hw, fun type => ?_⟩, hl⟩
                have hread : (attempt ch.storeFails w (.getActiveCallJobs call.id)).1 =
                    .ok jobs := hres.symm
                unfold attempt at hread
                split at hread
                · cases hread
                · cases hread
                  cases type <;> rfl

/-- A handler whose body is given the state that was read. -/
theorem underLock_leaves {α : Type} {body : Option CallState → Body α}
    (hsome : ∀ st l₀ l, HasRead b t l₀ st → l₀ <+: l →
      (Prog.lift (body (some st))).Meets (leaveRely b t rs) (fun _ _ => True) l)
    (hnone : (body none).Only Op.Quiet) :
    (underLock channelID body).Meets (leaveRely b t rs) (fun _ _ => True) l := by
  refine lockCallReturnState_read.bind fun res l₁ hres => ?_
  match res, hres with
  | .error e, _ => exact fun _ _ => trivial
  | .ok none, _ =>
      refine Prog.Meets.bind (Prog.Meets.of_only (Prog.Only.lift hnone) (fun _ _ ho _ =>
        ho.leavesWell) l₁) fun _ _ _ _ _ => trivial
  | .ok (some st), hres =>
      obtain ⟨l₀, hread, hl⟩ := hres st rfl
      exact (hsome st l₀ l₁ hread hl).bind fun _ _ _ _ _ => trivial

/-- Work that removes sessions meets what it is held to. -/
theorem Work.code_leaves (q : Work) (p : Plugin) (env : Env) (channelID : String) :
    (q.code p env channelID).Meets (leaveRely b t (q.leaves.map (·.req)))
      (fun _ _ => True) l := by
  by_cases hnone : q.leaves = []
  · exact Prog.Meets.of_only (P := fun _ => True)
      (Prog.only_of_forall (fun _ => trivial) _)
      (fun _ _ _ hne => absurd (congrArg (List.map (·.req)) hnone) hne) l
  have hlone : ∀ x : Leave, x.req ∈ [x].map (·.req) := fun x => List.mem_cons_self ..
  cases q with
  | request h =>
      cases h with
      | leave x =>
          refine Prog.Meets.bind (underLock_leaves (fun st l₀ l hread hl => ?_) ⟨⟩)
            fun _ _ _ _ _ => trivial
          rw [Prog.lift_bind]
          exact (removeUserSession_marks hread (hlone x) (hread.marked hl)).bind
            fun _ _ _ _ _ => trivial
      | leaveBatch ls =>
          refine Prog.Meets.bind (underLock_leaves (fun st l₀ l hread hl => ?_)
            (removeSessionsFromCall_none ls)) fun _ _ _ _ _ => trivial
          exact removeSessionsFromCall_meets hread ls
            (fun x hx => List.mem_map_of_mem hx) (hread.marked hl)
      | _ => exact absurd rfl hnone
  | _ => exact absurd rfl hnone

end Leaving

/-! ## The announcement -/

section Announcing

variable {p : Plugin} {env : Env} {channelID : String} {r : LeaveRequest}

/-- A write of a session or of a job that fails. -/
def FailsToLeave : (o : Op) → o.Resp → Prop
  | .store (.deleteCallSession _), res => ∃ e, res = .error e
  | .store (.updateCallJob _), res => ∃ e, res = .error e
  | _, _ => False

/-- The operation announces the leave. -/
def Announces (r : LeaveRequest) (o : Op) : Prop :=
  ∃ bc, o = .publish (.userLeft r.userID r.originalConnID) bc

/-- What comes after the step announces the leave if it goes on, and then so does the
whole. -/
def Continues (r : LeaveRequest) (g : Step) : Prop :=
  ∀ {α : Type} (st : CallState) (k : CallState × Except String Unit → Body α),
    (∀ st', (k (st', .ok ())).Passes FailsToLeave (Announces r)) →
    (g st >>= k).Passes FailsToLeave (Announces r)

/-- Writing a job or deleting a session. -/
theorem passes_write {α : Type} {wr : Write} {k : Except String Unit → Body α}
    (hwr : ∀ e, FailsToLeave (.store wr.op) (.error e))
    (hk : (k (.ok ())).Passes FailsToLeave (Announces r)) :
    (write wr >>= k).Passes FailsToLeave (Announces r) := by
  refine .inr fun res hres => ?_
  cases res with
  | error e => exact absurd (hwr e) hres
  | ok _ => exact hk

theorem recordingBotLeft_continues :
    Continues r (recordingBotLeft p env r channelID) := by
  intro α st k hk
  unfold recordingBotLeft
  split
  · exact hk st
  · rw [Code.bind_assoc]
    refine passes_write (fun e => ⟨e, rfl⟩) ?_
    dsimp only
    rw [Code.bind_assoc]
    exact .after fun st' => .inr fun _ _ => hk _

theorem transcribingBotLeft_continues :
    Continues r (transcribingBotLeft p env r channelID) := by
  intro α st k hk
  unfold transcribingBotLeft
  split
  · exact hk st
  · rw [Code.bind_assoc]
    refine passes_write (fun e => ⟨e, rfl⟩) ?_
    dsimp only
    rw [Code.bind_assoc]
    refine .after fun st' => .inr fun _ _ => ?_
    show ((publishJob? env st' channelID st'.liveCaptions >>= fun _ =>
      Code.ret (st', Except.ok ())) >>= k).Passes _ _
    rw [Code.bind_assoc]
    exact .after fun _ => hk _

theorem captioningBotLeft_continues : Continues r (captioningBotLeft env r) := by
  intro α st k hk
  unfold captioningBotLeft
  split
  · exact hk st
  · rw [Code.bind_assoc]
    exact passes_write (fun e => ⟨e, rfl⟩) (hk _)

/-- The removal of a session that is in the call announces the leave, unless the session
is not deleted or the write of a job fails. -/
theorem removeUserSession_announces {st : CallState} {us : CallSession}
    (hus : st.sessions.find? r.originalConnID = some us) :
    (removeUserSession p env r channelID (some st)).Passes FailsToLeave
      (Announces r) := by
  unfold removeUserSession
  dsimp only
  rw [hus]
  refine .bind (passes_write (fun e => ⟨e, rfl⟩) (.after fun st' => ?_))
  have hstages : ((recordingBotLeft p env r channelID).andThen
      ((transcribingBotLeft p env r channelID).andThen
        ((captioningBotLeft env r).andThen (saveLeave p env r channelID))) st').Passes
        FailsToLeave (Announces r) := by
    refine recordingBotLeft_continues st' _ fun st' => ?_
    refine transcribingBotLeft_continues st' _ fun st' => ?_
    exact captioningBotLeft_continues st' _ fun st' => .inl ⟨_, rfl⟩
  dsimp only
  split
  · exact .inr fun _ _ => .after fun _ => .after fun _ => hstages
  · exact .after fun _ => hstages

end Announcing

/-! ## Runs -/

section Runs

variable {T N : Type} [DecidableEq T] [DecidableEq N]

/-- A condition on a step: no join takes over a job that the bot serves. -/
def NoOtherBot (b : Bot) (work : T → Work) (_ : List (Event T Choice))
    (s : Sys Op Op.Resp Store T N) (t : T) (a : Act Choice) : Prop :=
  ∀ ch j k, a = .op ch → s.code t = .op (.store (.updateCallJob j)) k →
    (work t).joins ≠ [] → ¬ b.serves j.id

/-- No reconnection has put another connection into the jobs that the bot serves. -/
def NotReconnected (b : Bot) (work : T → Work) (l : List (Deed Op Store Choice T)) :
    Prop :=
  ∀ d ∈ l, ∀ j, (work d.thread).reconnects → d.op = .store (.updateCallJob j) →
    ¬ b.serves j.id

/-- The bot as long as it has not reconnected. -/
def Bot.first (b : Bot) (connID : String) : Bot := { b with conns := (· = connID) }

theorem Work.Within.first {b : Bot} {q : Work} (h : q.Within b) (connID : String)
    (hq : ¬ q.reconnects) : q.Within (b.first connID) := by
  cases q with
  | request h' =>
      cases h' with
      | botReconnect connID prevConnID => exact absurd trivial hq
      | _ => exact h
  | _ => exact h

variable {b : Bot} {node : T → N} {p : T → Plugin} {env : T → Env} {channelID : String}
  {work : T → Work} {store : Store} {tr : List (Event T Choice)}
  {s : Sys Op Op.Resp Store T N} {l : List (Deed Op Store Choice T)}

/-- Each deed of a removal is as it is held to. -/
theorem leavesWell_of_runs {names : T → Prop} (h0 : b.Served store)
    (hwork : ∀ t, names t ∨ (work t).Within b)
    (hr : Histories exec node (NamesBot b names) AddsDeeds
      (start store fun t => (work t).code (p t) (env t) channelID) tr s l) :
    (∀ d ∈ l, b.Served d.world) ∧ ∀ l₁ d l₂, l = l₁ ++ d :: l₂ →
      (work d.thread).leaves ≠ [] →
      LeavesWell d.thread ((work d.thread).leaves.map (·.req)) b.jobID l₁ d.op := by
  have hserved : ∀ tr s, Runs exec node (NamesBot b names)
      (start store fun t => (work t).code (p t) (env t) channelID) tr s →
      b.Served s.world :=
    fun tr s hruns => b.served_of_runs node p env channelID work names hwork
      store h0 hruns
  refine ⟨hr.deeds_world hserved, fun l₁ d l₂ hl hne => ?_⟩
  exact hr.deeds_good hserved
    (fun t => Work.code_leaves (work t) (p t) (env t) channelID) l₁ d l₂
    hl (by simpa using hne)

/-- The thread has read the jobs of the call, and has since written the end of those
that the bot serves; their rows end, if the store accepts it. -/
def EndsServed (b : Bot) (t : T) (l : List (Deed Op Store Choice T)) : Prop :=
  ∃ l₁ d l₂ callID, l = l₁ ++ d :: l₂ ∧ d.thread = t ∧
    d.op = .store (.getActiveCallJobs callID) ∧
    ∀ type j, d.world.getActiveCallJobs callID type = some j → b.serves j.id →
      ∃ d' ∈ l₂, d'.thread = t ∧ EndsRow d' j.id ∧
      (TakenByStore d' → LeavesEnded d' j.id)

/-- The thread has read a recording or transcription, other than the job of the bot,
that names one of the sessions. -/
def OtherBotLeaves (b : Bot) (t : T) (ls : List Leave)
    (l : List (Deed Op Store Choice T)) : Prop :=
  ∃ d ∈ l, d.thread = t ∧ ∃ callID type j, d.op = .store (.getActiveCallJobs callID) ∧
    type ≠ .captioning ∧ d.world.getActiveCallJobs callID type = some j ∧
    j.id ≠ b.jobID ∧ ∃ x ∈ ls, j.props.botConnID = x.req.originalConnID

omit [DecidableEq T] [DecidableEq N] in
theorem NoOtherBot.names {t : T} {a : Act Choice} (h : NoOtherBot b work tr s t a) :
    NamesBot b (fun t => (work t).joins ≠ []) tr s t a := fun ch j k ha hk hjoins =>
  .of_not_serves (h ch j k ha hk hjoins)

/-- As long as the bot has not reconnected, it is not removed before its jobs have
ended. -/
theorem endsServed_of_runs {connID : String} (h0 : (b.first connID).Served store)
    (hwork : ∀ t, (work t).joins ≠ [] ∨ (work t).Within b)
    (hr : Histories exec node (NoOtherBot b work) AddsDeeds
      (start store fun t => (work t).code (p t) (env t) channelID) tr s l)
    (hnot : NotReconnected b work l) {l₁ l₂ : List (Deed Op Store Choice T)}
    {d : Deed Op Store Choice T} {userID : String} {bc : WebSocketBroadcast}
    (hl : l = l₁ ++ d :: l₂) (hop : d.op = .publish (.userLeft userID connID) bc)
    (hleaves : (work d.thread).leaves ≠ [])
    (hconn : ∀ x ∈ (work d.thread).leaves, x.req.originalConnID = connID →
      x.req.connID = connID) :
    EndsServed b d.thread l₁ := by
  have hwork' : ∀ t, ((work t).joins ≠ [] ∨ (work t).reconnects) ∨
      (work t).Within (b.first connID) := by
    intro t
    by_cases hrec : (work t).reconnects
    · exact .inl (.inr hrec)
    · exact (hwork t).imp .inl fun h => h.first connID hrec
  have hr' : Histories exec node (NamesBot (b.first connID)
      fun t => (work t).joins ≠ [] ∨ (work t).reconnects) AddsDeeds
      (start store fun t => (work t).code (p t) (env t) channelID) tr s l := by
    refine hr.of_deeds (fun d => ∀ j, (work d.thread).reconnects →
      d.op = .store (.updateCallJob j) → ¬ b.serves j.id)
        (fun tr s t a hok hnew => ?_) hnot
    rintro ch j k rfl hk hnames
    refine .of_not_serves ?_
    rcases hnames with hjoins | hrec
    · exact hok ch j k rfl hk hjoins
    · refine hnew ⟨t, ch, s.world, _⟩ ?_ j hrec rfl
      rw [Sys.deeds_op hk]
      exact List.mem_singleton_self _
  obtain ⟨hserved, hwell⟩ := leavesWell_of_runs h0 hwork' hr'
  obtain ⟨r, hr, horig, l₃, e, l₄, callID, rfl, hthread, hread, hended⟩ :=
    (hwell l₁ d l₂ hl hleaves).announced userID connID bc hop
  obtain ⟨x, hx, rfl⟩ := List.mem_map.1 hr
  refine ⟨l₃, e, l₄, callID, rfl, hthread, hread, fun type j hj hs => ?_⟩
  -- the job names the connection that the bot joined on
  obtain ⟨hmem, -, hactive, -⟩ := Store.getActiveCallJobs_eq_some hj
  have he : e ∈ l := by
    rw [hl]
    exact List.mem_append_left _ (List.mem_append_right _ (List.mem_cons_self ..))
  have hname : j.props.botConnID = connID := (hserved e he).knows j hmem hs hactive
  have hmine : x.req.Names type j := by
    unfold LeaveRequest.Names
    rw [hname]
    cases type with
    | captioning => exact (hconn x hx horig).symm
    | recording => exact horig.symm
    | transcribing => exact horig.symm
  obtain ⟨d', hd', hthread', hends⟩ := hended type j hj hmine
  refine ⟨d', hd', hthread', hends, fun hacc => hends.stored hacc ?_⟩
  have hdl : d' ∈ l := by
    rw [hl]
    exact List.mem_append_left _ (List.mem_append_right _ (List.mem_cons_of_mem _ hd'))
  exact (hserved d' hdl).row j.id hs

/-- Other sessions do not end the job, unless the bot of the other job is among them. -/
theorem otherBotLeaves_of_runs (h0 : b.Served store)
    (hwork : ∀ t, (work t).joins ≠ [] ∨ (work t).Within b)
    (hr : Histories exec node (NoOtherBot b work) AddsDeeds
      (start store fun t => (work t).code (p t) (env t) channelID) tr s l)
    {l₁ l₂ : List (Deed Op Store Choice T)} {d : Deed Op Store Choice T} {j : CallJob}
    (hl : l = l₁ ++ d :: l₂) (hleaves : (work d.thread).leaves ≠ [])
    (hop : d.op = .store (.updateCallJob j)) (hid : j.id = b.jobID)
    (hothers : ∀ x ∈ (work d.thread).leaves, ¬ b.conns x.req.originalConnID) :
    OtherBotLeaves b d.thread (work d.thread).leaves l₁ := by
  have hr' : Histories exec node (NamesBot b fun t => (work t).joins ≠ []) AddsDeeds
      (start store fun t => (work t).code (p t) (env t) channelID) tr s l :=
    hr.of_deeds (fun _ => True) (fun _ _ _ _ hok _ => hok.names) fun _ _ => trivial
  obtain ⟨hserved, hwell⟩ := leavesWell_of_runs h0 hwork hr'
  obtain ⟨e, he, hthread, callID, type, i, hread, htype, hi, r, hr, hname⟩ :=
    (hwell l₁ d l₂ hl hleaves).named j hop hid
  obtain ⟨x, hx, rfl⟩ := List.mem_map.1 hr
  have hconn : i.props.botConnID = x.req.originalConnID := by
    cases type with
    | captioning => exact absurd rfl htype
    | recording => exact hname
    | transcribing => exact hname
  refine ⟨e, he, hthread, callID, type, i, hread, htype, hi,
    fun hi' => ?_, x, hx, hconn⟩
  -- the job of the bot names a connection of the bot
  obtain ⟨hmem, -, hactive, -⟩ := Store.getActiveCallJobs_eq_some hi
  have hel : e ∈ l := by
    rw [hl]
    exact List.mem_append_left _ he
  refine hothers x hx (hconn ▸ (hserved e hel).knows i hmem ?_ hactive)
  exact hi' ▸ b.serves_jobID

end Runs

/-! ## Instances -/

/-- The recording bot joins. -/
def recorderJoins : JoinRequest := ⟨"bot", "b1", "rec", some true, .other⟩

/-- The transcribing bot joins. -/
def transcriberJoins : JoinRequest := ⟨"bot", "b2", "tr", some true, .other⟩

/-- The call of Alice, whose transcribing bot has joined. -/
def transcriberState : CallState :=
  joined .sample (.sample 20) (stateOfCall startingStore sampleCall) transcriberJoins

/-- The store then. -/
def transcriberStore : Store :=
  ((addUserSession .sample (.sample 20) (storedState startingStore "chan")
    transcriberJoins "chan").run (exec .works) startingStore).2

theorem transcriber_yields :
    (addUserSession .sample (.sample 20) (storedState startingStore "chan")
      transcriberJoins "chan").Yields exec startingStore (some transcriberState, .ok ())
      transcriberStore :=
  Code.yields_run Choice.works _ startingStore

/-- The transcribing bot, which serves the captions too. -/
def transcriberBot : Bot where
  jobID := "tr"
  serves id := id = "tr" ∨ id = "lc"
  conns connID := connID = "b2"
  serves_jobID := .inl rfl

theorem transcriberBot_joined :
    transcriberBot.Joined transcriberJoins transcriberState where
  jobID := rfl
  conns := rfl
  serves id := by
    constructor
    · rintro (rfl | rfl)
      · exact ⟨.transcribing, _, rfl, rfl, rfl⟩
      · exact ⟨.captioning, _, rfl, rfl, rfl⟩
    · rintro ⟨type, j, hj, rfl, hconn⟩
      cases type with
      | recording =>
          cases hj
          exact absurd hconn (by decide)
      | transcribing =>
          cases hj
          exact .inl rfl
      | captioning =>
          cases hj
          exact .inr rfl

/-- The session of the transcribing bot is removed. -/
def transcriberLeaves (_ : Unit) : Work :=
  .request (.leave ⟨⟨"bot", "b2", "b2"⟩, .sample 30⟩)

/-- The recording bot joins, reconnects and leaves. -/
def recorderReconnects (t : Fin 3) : Work :=
  match t with
  | 0 => .request (.join ⟨recorderJoins, .sample 20⟩)
  | 1 => .request (.botReconnect "b4" "b1")
  | 2 => .request (.leave ⟨⟨"bot", "b1", "b4"⟩, .sample 30⟩)

/-- Both bots join, and the recording bot leaves. -/
def recorderLeaves (t : Fin 3) : Work :=
  match t with
  | 0 => .request (.join ⟨recorderJoins, .sample 20⟩)
  | 1 => .request (.join ⟨transcriberJoins, .sample 20⟩)
  | 2 => .request (.leave ⟨⟨"bot", "b1", "b1"⟩, .sample 30⟩)

/-- A transcribing bot that joins later for the same job. -/
def transcriberTakesOver (t : Fin 3) : Work :=
  match t with
  | 0 => .request (.join ⟨transcriberJoins, .sample 20⟩)
  | 1 => .request (.join ⟨⟨"bot", "b3", "tr", some true, .other⟩, .sample 20⟩)
  | 2 => .request (.leave ⟨⟨"bot", "b2", "b2"⟩, .sample 30⟩)

/-- The bots in the call of Alice do `work`, and `sessions` and `jobs` are left. -/
def BotsLeft (work : Fin 3 → Work) (sessions : List String)
    (jobs : List (String × String × Int)) :
    Prop :=
  ∃ (tr : List (Event (Fin 3) Choice)) (s : Sys Op Op.Resp Store (Fin 3) Unit),
    Runs exec (fun _ => ()) StoreWorks
      (start startingStore fun t => (work t).code .sample (.sample 20) "chan") tr s ∧
    s.owner = none ∧ s.world.sessions.rows.map (·.id) = sessions ∧
    s.world.jobs.rows.map (fun j => (j.id, j.props.botConnID, j.endAt)) = jobs

theorem botsLeft_of_sched {work : Fin 3 → Work} {sessions : List String}
    {jobs : List (String × String × Int)} (sched : List (Fin 3 × Act Choice))
    (h : ((start startingStore fun t => (work t).code .sample (.sample 20) "chan" :
        Sys Op Op.Resp Store (Fin 3) Unit).sched exec
          (fun _ => ()) checkStoreWorks [] sched).map
      (fun r => (r.2.owner, r.2.world.sessions.rows.map (·.id),
        r.2.world.jobs.rows.map fun j => (j.id, j.props.botConnID, j.endAt))) =
      some (none, sessions, jobs)) : BotsLeft work sessions jobs := by
  obtain ⟨tr, s, hr, hf⟩ := Runs.exists_of_sched storeWorks_of_check h
  obtain ⟨hfree, hrows⟩ := Prod.mk.inj hf
  exact ⟨tr, s, hr, hfree, Prod.mk.inj hrows⟩

end CallsPlugin.Ports
