import CallsPlugin.Ports.JobHandlers
import CallsPlugin.Ports.JoinPlan

/-!
# Joins and leaves keep the coupling of the jobs

A join writes jobs when it is a bot's, which takes its job over; a leave when the
bot's session ends.  The items of a batch share the in-memory state: `Follows` is
what joins keep of it, `Tracks` what leaves keep.
-/

namespace CallsPlugin.Ports

open CallsPlugin.Verified
open CallsPlugin.Ports.Public CallsPlugin.Ports.Db

/-! ## Joins -/

/-- The jobs in memory are the active ones, or there are none that a bot could take
over. -/
def Follows (t : JobTable) (st : CallState) : Prop :=
  Fresh t st ∨ st.recording = none ∧ st.transcription = none

/-- Two states of one call with the same jobs. -/
structure SameJobs (st st' : CallState) : Prop where
  id : st'.call.id = st.call.id
  job : ∀ type, st'.job type = st.job type

theorem SameJobs.follows {t : JobTable} {st st' : CallState} (h : SameJobs st st')
    (hf : Follows t st) : Follows t st' := by
  refine hf.imp (fun hf type x => ?_) fun hn => ?_
  · rw [h.id, h.job type]
    exact hf type x
  · exact ⟨(h.job .recording).trans hn.1, (h.job .transcribing).trans hn.2⟩

/-- What captions and transcription have in common once the bot's connection `connID`
has taken over the captions of the call. -/
structure TakenOver (callID connID c : String) (lc tr : CallJob) : Prop where
  self : c = callID → lc.props.botConnID = connID ∧ lc.startAt = 0
  other : c ≠ callID → Served c lc tr

/-- What a part of a join leaves: on error nothing has been written. -/
structure Joins (t : JobTable) (res : Except String CallState) (t' : JobTable) :
    Prop where
  coupled : Coupled t'
  error : ∀ e, res = .error e → t' = t
  ok : ∀ st, res = .ok st → Follows t' st

section Join

variable {p : Plugin} {env : Env} {t : JobTable} {st : CallState} {channelID : String}

theorem Joins.refused {e : String} (hc : Coupled t) : Joins t (.error e) t :=
  ⟨hc, fun _ _ => rfl, by rintro _ ⟨⟩⟩

theorem Joins.accepted {t' : JobTable} (hc : Coupled t') (h : Follows t' st) :
    Joins t (.ok st) t' :=
  ⟨hc, by rintro _ ⟨⟩, by rintro _ ⟨⟩; exact h⟩

theorem botJoins_wp {connID jobID : String} (hc : Coupled t) (h : Follows t st) :
    (botJoins st connID jobID).wp jobLogic (Joins t) t := by
  unfold botJoins
  split
  · exact .refused hc
  next hjobs =>
    have hf : Fresh t st := h.resolve_right hjobs
    split
    next recState hrec =>
      have hrec : st.job .recording = some recState :=
        (Option.filter_eq_some_iff.1 hrec).1
      have hend := ((hf .recording recState).1 hrec).endAt
      have hm := hf.mirrors .recording
      rw [hrec] at hm
      exact writeJob_wp (.accepted (hc.update_recording hm hend rfl hend)
        (.inl (hf.update hc hrec rfl hend)))
    next =>
      split
      next trState htr =>
        obtain ⟨htr, hawaits⟩ := Option.filter_eq_some_iff.1 htr
        have htr : st.job .transcribing = some trState := htr
        have hstart : trState.startAt = 0 := (of_decide_eq_true hawaits).2
        have hact := (hf .transcribing trState).1 htr
        have hm := hf.mirrors .transcribing
        rw [htr] at hm
        refine Code.wp_bind.2 ?_
        unfold botJoinsLiveCaptions
        split
        next hlc =>
          refine writeJob_wp (.accepted
            (hc.update_transcribing hm hact.endAt rfl hact.endAt
            (fun lc hlc' _ => ?_) fun _ _ _ _ hs => hs)
              (.inl (hf.update hc htr rfl hact.endAt)))
          exact absurd (((hf .captioning lc).2 hlc').symm.trans hlc) (by simp)
        next lc hlc =>
          have hlc : st.job .captioning = some lc := hlc
          have hlcact := (hf .captioning lc).1 hlc
          have hlcm := hf.mirrors .captioning
          rw [hlc] at hlcm
          have hlcstart := (hc.served hlcact hact).2 hstart
          rw [if_neg (by simpa using hlcstart)]
          refine writeJob_wp (writeJob_wp ?_)
          have hc' : CoupledBy (TakenOver st.call.id connID)
              (t.update (withBotConnID lc connID)) :=
            hc.update_captioning hlcm hlcact.endAt rfl hlcact.endAt
              (fun _ _ _ => ⟨fun _ => ⟨rfl, hlcstart⟩, fun hne => absurd rfl hne⟩)
              fun _ _ _ hne hs => ⟨fun e => absurd e hne, fun _ => hs⟩
          have hf' : Fresh (t.update (withBotConnID lc connID))
              (st.withJob .captioning (withBotConnID lc connID)) :=
            hf.update hc hlc rfl hlcact.endAt
          have htr' : (st.withJob .captioning (withBotConnID lc connID)).job
              .transcribing =
              some trState := htr
          have hm' := hf'.mirrors .transcribing
          rw [htr'] at hm'
          exact .accepted (hc'.update_transcribing hm' hact.endAt rfl hact.endAt
            (fun _ _ hs => ⟨(hs.self rfl).1, fun _ => (hs.self rfl).2⟩)
            fun _ _ _ hne hs => hs.other hne)
            (.inl (hf'.update hc' htr' rfl hact.endAt))
      next => exact .refused hc

theorem callWrite_jobs (w : Store) : ((callWrite st).op.exec w).2.jobs = w.jobs := by
  by_cases h : st.sessions.rows.length = 1
  · rw [callWrite, if_pos h]
    simp only [StoreOp.exec]
    split <;> rfl
  · rw [callWrite, if_neg h]
    simp only [StoreOp.exec]
    split <;> rfl

theorem callWrite_isWrite : (callWrite st).op.isWrite = true := by
  unfold callWrite
  split <;> rfl

theorem sessionWrite_jobs (session : CallSession) (w : Store) :
    ((sessionWrite session).op.exec w).2.jobs = w.jobs := by
  simp only [sessionWrite, StoreOp.exec]
  split <;> rfl

theorem saveJoin_wp {t₀ : JobTable} {oldHostID userID connID : String} (hc : Coupled t)
    (h : Follows t st) :
    (saveJoin env st oldHostID userID connID channelID).wp jobLogic (Joins t₀) t :=
  writeCall_wp callWrite_isWrite callWrite_jobs
    (writeCall_wp rfl (sessionWrite_jobs _) (Code.wp_bind.2
    (silent_job_wp (announceHost_silent ..) fun _ => .accepted hc h)))

theorem tryAddUserSession_wp {state : Option CallState} {r : JoinRequest}
    (hc : Coupled t) (h : ∀ st, state = some st → Follows t st) :
    (tryAddUserSession p env state r channelID).wp jobLogic (Joins t) t := by
  unfold tryAddUserSession
  split
  · dsimp only
    split
    · exact quiet_wp (fun _ _ => rfl) fun _ => .refused hc
    · exact .refused hc
  next st hcall =>
    have hst : Follows t st := by
      rcases callToJoin_eq_ok hcall with hstate | ⟨-, host, rfl⟩
      · exact h st hstate
      · exact .inr ⟨rfl, rfl⟩
    split
    · exact .refused hc
    · have hadmit : ∀ (st' : CallState) {t' : JobTable}, Coupled t' → Follows t' st' →
          (saveJoin env (admitted p env st' r.userID r.connID) st'.call.getHostID
            r.userID r.connID channelID).wp jobLogic (Joins t) t' :=
            fun st' t' hc' hf =>
        saveJoin_wp hc' (SameJobs.follows ⟨rfl, fun type => by cases type <;> rfl⟩ hf)
      refine Code.wp_bind.2 ?_
      split
      · refine Code.wp_mono (botJoins_wp hc hst) fun res t' hres => ?_
        cases res with
        | error e =>
            obtain rfl := hres.error e rfl
            exact .refused hc
        | ok st' => exact hadmit st' hres.coupled (hres.ok st' rfl)
      · exact hadmit st hc hst

/-- What one join leaves to the next of its batch. -/
def JoinedJobs (state : Option CallState) (t : JobTable) : Prop :=
  Coupled t ∧ ∀ st, state = some st → Follows t st

theorem addUserSession_job_wp {state : Option CallState} {r : JoinRequest}
    (h : JoinedJobs state t) :
    (addUserSession p env state r channelID).wp jobLogic
      (fun res t' => JoinedJobs res.1 t') t := by
  refine Code.wp_bind.2
    (Code.wp_mono (tryAddUserSession_wp h.1 h.2) fun res t' hres => ?_)
  cases res with
  | error e => exact hres.error e rfl ▸ h
  | ok st =>
      exact ⟨hres.coupled, fun st' hst' => hres.ok st' (by rw [Option.some.inj hst'])⟩

theorem updateCall_jobs (c : Call) (w : Store) :
    ((StoreOp.updateCall c).exec w).2.jobs = w.jobs := by
  simp only [StoreOp.exec]
  split <;> rfl

theorem callStarted_job_wp {userID : String} (h : JoinedJobs (some st) t) :
    (callStarted p env st userID channelID).wp jobLogic
      (fun st' t' => JoinedJobs (some st') t') t := by
  have hsave : ∀ postID threadID ev, (store (.updateCall
      { st.call with postID := postID, threadID := threadID }) >>= fun _ =>
        publish ev (wholeChannel channelID) >>= fun _ =>
          pure { st with call := { st.call with
            postID := postID, threadID := threadID } }).wp
      jobLogic (fun st' t' => JoinedJobs (some st') t') t := fun _ _ _ =>
    callOp_wp rfl (updateCall_jobs _) fun _ => quiet_wp (fun _ _ => rfl) fun _ =>
      ⟨h.1, by rintro _ ⟨⟩; exact SameJobs.follows ⟨rfl,
        fun type => by cases type <;> rfl⟩ (h.2 st rfl)⟩
  unfold callStarted
  dsimp only
  split
  · exact quiet_wp (fun _ _ => rfl) fun _ => hsave _ _ _
  · exact hsave _ _ _

theorem addSessionToCall_job_wp {state : Option CallState} {r : JoinRequest}
    (h : JoinedJobs state t) :
    (addSessionToCall p env r channelID state).wp jobLogic
      (fun res t' => JoinedJobs res.1 t') t := by
  refine Code.wp_bind.2 (Code.wp_mono (addUserSession_job_wp h) fun res t' hres => ?_)
  obtain ⟨state', res⟩ := res
  cases res with
  | error e => exact quiet_wp (fun _ _ => rfl) fun _ => hres
  | ok _ =>
      cases state' with
      | none => exact hres
      | some st =>
          have hstart : (if st.sessions.rows.length = 1
              then callStarted p env st r.userID channelID else pure st).wp jobLogic
              (fun st' t'' => JoinedJobs (some st') t'') t' := by
            split
            · exact callStarted_job_wp hres
            · exact hres
          refine Code.wp_bind.2 (Code.wp_mono hstart fun st' t'' hres' => ?_)
          exact Code.wp_bind.2 (silent_job_wp (announceJoin_silent ..) fun _ => hres')

theorem addSessionsToCall_job_wp (js : List Join) :
    ∀ {state : Option CallState} {t : JobTable},
    JoinedJobs state t →
      (addSessionsToCall p channelID js state).wp jobLogic
        (fun _ t' => Coupled t') t := by
  induction js with
  | nil => exact fun h => h.1
  | cons j rest ih =>
      exact fun h => Code.wp_bind.2
          (Code.wp_mono (addSessionToCall_job_wp h) fun res t' hres =>
        Code.wp_bind.2 (Code.wp_mono (ih hres) fun _ _ hc => hc))

end Join

/-! ## Leaves -/

/-- The jobs in memory mirror the table, and what is active is there as it is in the
table. -/
structure Tracks (t : JobTable) (st : CallState) : Prop where
  mirrors : StateMirrors t st
  settled : ∀ type, Settled t st type

theorem Fresh.tracks {t : JobTable} {st : CallState} (h : Fresh t st) : Tracks t st :=
  ⟨h.mirrors, h.settled⟩

theorem SameJobs.tracks {t : JobTable} {st st' : CallState} (h : SameJobs st st')
    (ht : Tracks t st) : Tracks t st' where
  mirrors type := by
    rw [h.id, h.job type]
    exact ht.mirrors type
  settled type x hx := by
    rw [h.id] at hx
    rw [h.job type]
    exact ht.settled type x hx

theorem Touched.sameJobs {st st' : CallState} (h : Touched st st') :
    SameJobs st st' := by
  obtain ⟨stats, props, rfl⟩ := h
  exact ⟨rfl, fun type => by cases type <;> rfl⟩

/-- A leave on the connection `connID` in progress: jobs have ended, and captions that
lost their transcription sit on that connection. -/
structure BotLeaves (connID : String) (t t' : JobTable) (st st' : CallState) :
    Prop where
  stopped : Stopped t t' st st'
  transcription : NoneActive t' st.call.id .recording →
    NoneActive t' st.call.id .transcribing
  captions : NoneActive t' st.call.id .transcribing →
    ∀ lc, ActiveJob t' st.call.id .captioning lc → lc.props.botConnID = connID

theorem leftBy_iff {connID : String} {job : CallJob} :
    leftBy connID job = true ↔ job.endAt = 0 ∧ job.props.botConnID = connID := by
  rw [leftBy, decide_eq_true_iff, eq_comm (a := connID)]

section Leave

variable {p : Plugin} {env : Env} {r : LeaveRequest} {channelID : String}
  {t t' : JobTable} {st st' : CallState}

/-- A step that succeeds, and the next. -/
theorem Step.andThen_wp {g f : Step} {I : CallState → JobTable → Prop}
    {Q : CallState × Except String Unit → JobTable → Prop}
    (hg : (g st).wp jobLogic (fun res t' => res.2 = .ok () ∧ I res.1 t') t)
    (hf : ∀ st' t', I st' t' → (f st').wp jobLogic Q t') :
    (g.andThen f st).wp jobLogic Q t := by
  refine Code.wp_bind.2 (Code.wp_mono hg fun res t' hres => ?_)
  obtain ⟨st', res⟩ := res
  obtain ⟨rfl, hI⟩ := hres
  exact hf st' t' hI

theorem Tracks.stopped (h : Tracks t st) (hs : Stopped t t' st st') : Tracks t' st' :=
  ⟨hs.mirrors, fun type => hs.settled type (h.settled type)⟩

theorem recordingBotLeft_wp (hc : Coupled t) (h : Tracks t st) :
    (recordingBotLeft p env r channelID st).wp jobLogic (fun res t' =>
      res.2 = .ok () ∧ BotLeaves r.originalConnID t t' st res.1) t := by
  unfold recordingBotLeft
  split
  · exact ⟨rfl, .refl h.mirrors, hc.noneActive_transcribing,
      fun hn lc hlc => absurd hlc (hc.noneActive_captioning hn lc)⟩
  next recState hrec =>
    have hrec : st.job .recording = some recState :=
      (Option.filter_eq_some_iff.1 hrec).1
    refine writeJob_wp ?_
    obtain ⟨hst, hnone⟩ := h.mirrors.endJob .recording
      { recState with endAt := env.now .recordingEnd } hrec ⟨rfl, rfl, rfl⟩
          (env.now_pos _).ne'
    refine Code.wp_bind.2 (Code.wp_mono (coupledTranscription_wp 1 hst.mirrors
      (running_of_ended (env.now_pos _).ne')) fun st' t' hres => ?_)
    obtain ⟨hst', -, hboth, -⟩ := hres
    have hc' := hc.stopAll (h.settled _) (hst.trans hst').ends hboth
    exact quiet_wp (fun _ _ => rfl) fun _ =>
      ⟨rfl, hst.trans hst', hc'.noneActive_transcribing,
      fun hn lc hlc => absurd hlc (hc'.noneActive_captioning hn lc)⟩

theorem transcribingBotLeft_wp (hc : Coupled t)
    (h : BotLeaves r.originalConnID t t' st st') :
    (transcribingBotLeft p env r channelID st').wp jobLogic (fun res t'' =>
      res.2 = .ok () ∧ BotLeaves r.originalConnID t t'' st res.1) t' := by
  unfold transcribingBotLeft
  split
  · exact ⟨rfl, h⟩
  next trState htr =>
    obtain ⟨htr, hleft⟩ := Option.filter_eq_some_iff.1 htr
    have htr : st'.job .transcribing = some trState := htr
    obtain ⟨hend, hbot⟩ := leftBy_iff.1 hleft
    have hact : ActiveJob t st.call.id .transcribing trState := by
      have hm := h.stopped.mirrors .transcribing
      rw [htr] at hm
      exact h.stopped.ends.active (h.stopped.call ▸ hm.active hend)
    refine writeJob_wp ?_
    obtain ⟨hst, hnone⟩ := h.stopped.mirrors.endJob .transcribing
      { trState with endAt := env.now .transcribingEnd } htr ⟨rfl, rfl, rfl⟩
          (env.now_pos _).ne'
    refine Code.wp_bind.2 ?_
    have hdone : ∀ {t'' st''}, Stopped (JobTable.update t'
          { trState with endAt := env.now .transcribingEnd }) t''
        (st'.withJob .transcribing { trState with endAt := env.now .transcribingEnd })
        st'' →
        BotLeaves r.originalConnID t t'' st st'' := fun {t'' st''} hst'' =>
      ⟨h.stopped.trans (hst.trans hst''),
        fun _ => hst''.ends.noneActive (h.stopped.call ▸ hnone),
        fun _ lc hlc => (hc.served ((h.stopped.trans (hst.trans hst'')).ends.active hlc)
          hact).1.trans hbot⟩
    have hpub : ∀ {t'' st''}, BotLeaves r.originalConnID t t'' st st'' →
        (publishJob env st'' channelID
          { trState with endAt := env.now .transcribingEnd } >>=
          fun _ => publishJob? env st'' channelID st''.liveCaptions >>= fun _ =>
            pure ((st'', .ok ()) : CallState × Except String Unit)).wp jobLogic
                (fun res t'' =>
          res.2 = .ok () ∧ BotLeaves r.originalConnID t t'' st res.1) t'' := fun hb =>
      quiet_wp (fun _ _ => rfl) fun _ => Code.wp_bind.2
        (silent_job_wp (publishJob?_silent ..) fun _ => ⟨rfl, hb⟩)
    split
    · exact Code.wp_bind.2 (Code.wp_mono (stopRecordingJob_wp 0 hst.mirrors)
        fun res t'' hres => hpub (hdone hres.1))
    · exact hpub (hdone (.refl hst.mirrors))

theorem captioningBotLeft_wp (hc : Coupled t) (ht : Tracks t st)
    (h : BotLeaves r.connID t t' st st') :
    (captioningBotLeft env r st').wp jobLogic (fun res t'' =>
      res.2 = .ok () ∧ Coupled t'' ∧ Tracks t'' res.1) t' := by
  unfold captioningBotLeft
  split
  next hlc =>
    refine ⟨rfl, hc.ends h.stopped.ends h.transcription fun hn lc hact => ?_,
      ht.stopped h.stopped⟩
    -- captions without a transcription sit on the connection that leaves
    have hmem : st'.liveCaptions = some lc :=
      (ht.stopped h.stopped).settled .captioning lc (h.stopped.call ▸ hact)
    rw [hmem, Option.filter_eq_none_iff] at hlc
    exact hlc lc rfl (leftBy_iff.2 ⟨hact.endAt, h.captions hn lc hact⟩)
  next lcState hlc =>
    have hlc : st'.job .captioning = some lcState := (Option.filter_eq_some_iff.1 hlc).1
    refine writeJob_wp ?_
    obtain ⟨hst, hnone⟩ := h.stopped.mirrors.endJob .captioning
      { lcState with endAt := env.now .captioningEnd } hlc ⟨rfl, rfl, rfl⟩
          (env.now_pos _).ne'
    have hst' := h.stopped.trans hst
    refine ⟨rfl, hc.ends hst'.ends (fun hrec => ?_) fun _ => h.stopped.call ▸ hnone,
      ht.stopped hst'⟩
    have hends := hst.ends
    have hrecm := hst.mirrors .recording
    rw [withJob_call] at hrecm
    rw [h.stopped.call] at hends hrecm
    refine hends.noneActive (h.transcription fun x hx => ?_)
    -- the recording goes on as before
    have hmem : st'.job .recording = some x :=
      (ht.stopped h.stopped).settled .recording x (h.stopped.call ▸ hx)
    rw [withJob_job_of_ne _ _ (by simp), hmem] at hrecm
    exact hrec x (hrecm.active hx.endAt)

/-- What one leave leaves to the next of its batch. -/
def LeftJobs (state : Option CallState) (t : JobTable) : Prop :=
  Coupled t ∧ ∀ st, state = some st → Tracks t st

theorem callLeft_id : (callLeft env st).id = st.call.id := by
  unfold callLeft
  split <;> rfl

theorem saveLeave_job_wp (hc : Coupled t) (h : Tracks t st) :
    (saveLeave p env r channelID st).wp jobLogic
      (fun res t' => LeftJobs (some res.1) t') t := by
  obtain ⟨honly, hall⟩ := hostLeft_frame p env r channelID st
  refine quiet_wp (fun _ _ => rfl) fun _ => ?_
  refine Code.wp_bind.2 (silent_all_job_wp honly hall fun st' hst' => ?_)
  have hdone : LeftJobs (some { st' with call := callLeft env st' }) t :=
    ⟨hc, by
      rintro _ ⟨⟩
      exact SameJobs.tracks ⟨callLeft_id, fun type => by cases type <;> rfl⟩
        (hst'.sameJobs.tracks h)⟩
  refine writeCall_wp rfl (updateCall_jobs _) ?_
  dsimp only
  split
  · exact quiet_wp (fun _ _ => rfl) fun _ => hdone
  · exact hdone

/-- A leave from the deletion of its session on, on the connection the session has
always had. -/
theorem sessionLeft_job_wp {us : CallSession} (hr : r.connID = r.originalConnID)
    (hc : Coupled t) (h : Tracks t st) :
    (sessionLeft p env r channelID us st).wp jobLogic
      (fun res t' => LeftJobs (some res.1) t') t := by
  refine writeCall_wp rfl (fun _ => rfl) ?_
  obtain ⟨honly, hall⟩ := screenLeft_frame env r channelID
    { st with sessions := st.sessions.erase r.originalConnID }
  refine Code.wp_bind.2 (silent_all_job_wp honly hall fun st' hst' => ?_)
  have herase :
      SameJobs st { st with sessions := st.sessions.erase r.originalConnID } :=
    ⟨rfl, fun type => by cases type <;> rfl⟩
  have hst' : Tracks t st' := hst'.sameJobs.tracks (herase.tracks h)
  have hrest : ((stopJobsOfLoneBot p channelID st') >>= fun _ =>
      ((recordingBotLeft p env r channelID).andThen <|
        (transcribingBotLeft p env r channelID).andThen <|
        (captioningBotLeft env r).andThen <| saveLeave p env r channelID) st').wp
      jobLogic (fun res t' => LeftJobs (some res.1) t') t := by
    refine Code.wp_bind.2 (silent_job_wp (stopJobsOfLoneBot_silent ..) fun _ => ?_)
    refine Step.andThen_wp
      (I := fun st'' t' => BotLeaves r.originalConnID t t' st' st'')
      (recordingBotLeft_wp hc hst') fun st₁ t₁ h₁ => ?_
    refine Step.andThen_wp
      (I := fun st'' t' => BotLeaves r.originalConnID t t' st' st'')
      (transcribingBotLeft_wp hc h₁) fun st₂ t₂ h₂ => ?_
    exact Step.andThen_wp (I := fun st'' t' => Coupled t' ∧ Tracks t' st'')
      (captioningBotLeft_wp hc hst' (hr ▸ h₂)) fun st₃ t₃ h₃ =>
      saveLeave_job_wp h₃.1 h₃.2
  dsimp only
  split
  · exact quiet_wp (fun _ _ => rfl) fun _ => hrest
  · exact hrest

theorem removeUserSession_job_wp {state : Option CallState}
    (hr : r.connID = r.originalConnID) (h : LeftJobs state t) :
    (removeUserSession p env r channelID state).wp jobLogic
      (fun res t' => LeftJobs res.1 t') t := by
  unfold removeUserSession
  split
  · exact h
  next st =>
    split
    · exact h
    · exact Code.wp_bind.2 (sessionLeft_job_wp hr h.1 (h.2 st rfl))

theorem removeSessionsFromCall_job_wp (ls : List Leave)
    (hls : ∀ l ∈ ls, l.req.connID = l.req.originalConnID) :
    ∀ {state : Option CallState} {t : JobTable}, LeftJobs state t →
      (removeSessionsFromCall p channelID ls state).wp jobLogic
        (fun _ t' => Coupled t') t := by
  induction ls with
  | nil => exact fun h => h.1
  | cons l rest ih =>
      exact fun h => Code.wp_bind.2 (Code.wp_mono
        (removeUserSession_job_wp (hls l (List.mem_cons_self ..)) h) fun res t' hres =>
          Code.wp_bind.2 (Code.wp_mono
            (ih (fun l hl => hls l (List.mem_cons_of_mem _ hl)) hres) fun _ _ hc => hc))

end Leave

end CallsPlugin.Ports
