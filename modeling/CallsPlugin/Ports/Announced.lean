import CallsPlugin.Verified.Watched
import CallsPlugin.Ports.Mirror

/-!
# What joins and leaves announce

What an observer of the published events hears of a join or a leave is a function of the
state in memory and of the request.  `addSessionToCall_told` and
`removeUserSession_told` say which, for joins and leaves that do not give up on a failed
store call, whatever the observer makes of the events (`hear`).
-/

namespace CallsPlugin.Ports

open CallsPlugin.Verified
open CallsPlugin.Ports.Public CallsPlugin.Ports.Db

/-! ## Observers of events -/

/-- What an observer of events makes of an operation. -/
def hears {D : Type} (hear : WsEvent → WebSocketBroadcast → D → D) : Op → D → D
  | .publish ev b => hear ev b
  | _ => id

/-- The observer does not mind the answers to a single connection and the states of
jobs. -/
structure Aloof {D : Type} (hear : WsEvent → WebSocketBroadcast → D → D) : Prop where
  join : ∀ connID b d, hear (.join connID) b d = d
  error : ∀ e connID b d, hear (.error e connID) b d = d
  jobs : ∀ callID job b d, hear (.callJobState callID job) b d = d

/-- Handlers with an observer of events. -/
abbrev watchLogic {D : Type} (allow : Choice → Store → Op → Prop)
    (hear : WsEvent → WebSocketBroadcast → D → D) (inv : Store × D → Prop) :
    Logic Op Op.Resp (Store × D) Choice :=
  (callLogic allow (fun _ => True) True).watched (hears hear) inv

/-- A session row may be stored while the sessions are those of `s`. -/
def Enters (allow : Choice → Store → Op → Prop) (s : Store) (row : CallSession) :
    Prop :=
  ∃ c s', s'.sessions = s.sessions ∧ allow c s' (.store (.createCallSession row))

section Told

variable {D : Type} {hear : WsEvent → WebSocketBroadcast → D → D}
  {allow : Choice → Store → Op → Prop} {inv : Store × D → Prop} {w : Store} {d : D}

/-- The observer is left alone. -/
def Unheard (hear : WsEvent → WebSocketBroadcast → D → D) (o : Op) : Prop :=
  ∀ d, hears hear o d = d

theorem unheard_store (o : StoreOp) : Unheard hear (.store o) := fun _ => rfl

theorem unheard_reach (p : Point) : Unheard hear (.reach p) := fun _ => rfl

theorem Op.JobsOnly.unheard (hhear : Aloof hear) {o : Op} (ho : o.JobsOnly) :
    Unheard hear o := by
  cases o with
  | publish ev b =>
      cases ev <;> first | exact hhear.jobs _ _ b | exact ho.elim
  | _ => exact fun _ => rfl

theorem write_unheard (wr : Write) : (write wr).Only (Unheard hear) := by
  refine ⟨unheard_store _, fun res => ?_⟩
  cases res with
  | error e => exact ⟨unheard_reach _, fun _ => trivial⟩
  | ok _ => trivial

theorem writeAll_unheard (ws : List Write) : (writeAll ws).Only (Unheard hear) := by
  induction ws with
  | nil => trivial
  | cons wr ws ih =>
      refine (write_unheard wr).bind fun res => ?_
      cases res with
      | error e => trivial
      | ok _ => exact ih

/-- An event is heard. -/
theorem publish_told {ev : WsEvent} {b : WebSocketBroadcast}
    {Q : Unit → Store × D → Prop} (h : Q () (w, hear ev b d)) :
    (publish ev b).wp (watchLogic allow hear inv) Q (w, d) :=
  ⟨trivial, fun _ _ => h⟩

/-- A write that is not given up on goes through. -/
theorem write_done (hgave : ∀ c s, ¬ allow c s (.reach .gaveUp)) (wr : Write) :
    (write wr).wp (callLogic allow (fun _ => True) True) (fun res w' => res = .ok () ∧
      w' = (wr.op.exec w).2 ∧ ∃ c, allow c w (.store wr.op)) w := by
  refine write_rule_allowed trivial (fun _ _ _ => trivial) (fun e hup => ?_)
    fun c a hc _ _ => ⟨rfl, rfl, c, hc⟩
  obtain ⟨_, _, c', _, _, _, hup⟩ := hup
  exact absurd hup (hgave c' w)

/-- Writes that leave the sessions alone. -/
theorem writeAll_done (hgave : ∀ c s, ¬ allow c s (.reach .gaveUp)) (ws : List Write)
    (hws : ∀ wr ∈ ws, ∀ s, (wr.op.exec s).2.sessions = s.sessions) :
    ∀ w : Store, (writeAll ws).wp (callLogic allow (fun _ => True) True)
      (fun res w' => res = .ok () ∧ w'.sessions = w.sessions) w := by
  induction ws with
  | nil => exact fun w => ⟨rfl, rfl⟩
  | cons wr ws ih =>
      intro w
      refine Code.wp_bind.2 (Code.wp_mono (write_done hgave wr) fun res w' hw' => ?_)
      obtain ⟨rfl, rfl, -⟩ := hw'
      refine Code.wp_mono (ih (fun wr hwr => hws wr (List.mem_cons_of_mem _ hwr)) _)
        fun res w' hw' => ⟨hw'.1, ?_⟩
      exact hw'.2.trans (hws wr (List.mem_cons_self ..) w)

/-! ## Joins -/

/-- The announcement of a change of host. -/
def tellHost (hear : WsEvent → WebSocketBroadcast → D → D) (env : Env)
    (oldHostID : String) (st : CallState) (channelID : String) (d : D) : D :=
  if st.call.getHostID ≠ oldHostID then
    hear (.callHostChanged st.call.getHostID st.call.id) (st.audience env channelID) d
  else d

/-- The announcement of a new call. -/
def tellStart (hear : WsEvent → WebSocketBroadcast → D → D) (st : CallState)
    (channelID : String) (d : D) : D :=
  hear (.callStart st.call.id channelID st.call.startAt st.call.threadID st.call.postID
    st.call.ownerID st.call.getHostID) (wholeChannel channelID) d

/-- The announcement of a join. -/
def tellJoin (hear : WsEvent → WebSocketBroadcast → D → D) (p : Plugin) (env : Env)
    (st : CallState) (r : JoinRequest) (channelID : String) (d : D) : D :=
  hear (.callState channelID (st.getClientState env p.botID r.userID))
    { userID := r.userID, reliableClusterSend := true }
    (hear (.userJoined r.userID r.connID) (wholeChannel channelID) d)

variable {p : Plugin} {env : Env} {r : JoinRequest} {channelID : String}
  {state : Option CallState} {st : CallState}

theorem jobWrite_sessions (job : CallJob) (s : Store) :
    ((jobWrite job).op.exec s).2.sessions = s.sessions := by
  simp only [jobWrite, StoreOp.exec]
  split <;> rfl

theorem callWrite_sessions (st : CallState) (s : Store) :
    ((callWrite st).op.exec s).2.sessions = s.sessions := by
  by_cases hlen : st.sessions.rows.length = 1
  · rw [callWrite, if_pos hlen]
    simp only [StoreOp.exec]
    split <;> rfl
  · rw [callWrite, if_neg hlen]
    simp only [StoreOp.exec]
    split <;> rfl

/-- The writes of a join go through, and its session may be stored. -/
theorem joinWrites_done (hgave : ∀ c s, ¬ allow c s (.reach .gaveUp))
    (jobs : List CallJob) :
    (writeAll (joinWrites p env st jobs r)).wp (callLogic allow (fun _ => True) True)
      (fun res _ => res = .ok () ∧ Enters allow w (newSession env st r.userID r.connID))
      w := by
  have hwrites : joinWrites p env st jobs r = (jobs.map (fun job =>
      jobWrite (withBotConnID job r.connID)) ++ [callWrite (joined p env st r)]) ++
      [sessionWrite (newSession env (joined p env st r) r.userID r.connID)] := by
    rw [joinWrites, List.append_assoc]
    rfl
  rw [hwrites, writeAll_append]
  have hkeep : ∀ wr ∈ jobs.map (fun job => jobWrite (withBotConnID job r.connID)) ++
      [callWrite (joined p env st r)], ∀ s, (wr.op.exec s).2.sessions = s.sessions := by
    intro wr hwr s
    rcases List.mem_append.1 hwr with hwr | hwr
    · obtain ⟨job, -, rfl⟩ := List.mem_map.1 hwr
      exact jobWrite_sessions _ s
    · rw [List.mem_singleton.1 hwr]
      exact callWrite_sessions _ s
  refine Code.wp_bind.2
    (Code.wp_mono (writeAll_done hgave _ hkeep w) fun res w' hw' => ?_)
  obtain ⟨rfl, hsess⟩ := hw'
  refine Code.wp_bind.2 (Code.wp_mono (write_done hgave _) fun res w'' hw'' => ?_)
  obtain ⟨rfl, -, c, hc⟩ := hw''
  refine ⟨rfl, c, w', hsess, ?_⟩
  rwa [newSession_joined] at hc

/-- What `addUserSession` returns and what is heard of it. -/
theorem addUserSession_told (hgave : ∀ c s, ¬ allow c s (.reach .gaveUp)) :
    (addUserSession p env state r channelID).wp (watchLogic allow hear inv)
      (fun res wd =>
      (∃ e, res = (state, .error e) ∧ wd.2 = d) ∨
      ∃ st jobs, joinChecks p env state r channelID = .ok (st, jobs) ∧
        Enters allow w (newSession env st r.userID r.connID) ∧
        res = (some (joined p env st r), .ok ()) ∧
        wd.2 = tellHost hear env st.call.getHostID (joined p env st r) channelID d)
          (w, d) := by
  rw [addUserSession, tryAddUserSession_eq]
  cases hchecks : joinChecks p env state r channelID with
  | error e =>
      refine Code.wp_bind.2 (Code.wp_bind.2 ?_)
      unfold announceRefusal
      split
      · exact ⟨trivial, fun _ _ => .inl ⟨e, rfl, rfl⟩⟩
      · exact .inl ⟨e, rfl, rfl⟩
  | ok res =>
      obtain ⟨st, jobs⟩ := res
      refine Code.wp_bind.2 (Code.wp_bind.2 (Code.wp_mono
        (Code.wp_unheard (joinWrites_done hgave jobs) (writeAll_unheard _))
          fun res wd hwd => ?_))
      obtain ⟨⟨rfl, henter⟩, hd⟩ := hwd
      obtain ⟨w', d'⟩ := wd
      obtain rfl : d' = d := hd
      have hdone : ∀ d'', d'' =
          tellHost hear env st.call.getHostID (joined p env st r) channelID d' →
          (∃ e, ((some (joined p env st r), .ok ()) : Option CallState ×
            Except String Unit) =
            (state, .error e) ∧ d'' = d') ∨ ∃ st' jobs', (Except.ok (st, jobs) :
              Except String (CallState × List CallJob)) = .ok (st', jobs') ∧
            Enters allow w (newSession env st' r.userID r.connID) ∧
            ((some (joined p env st r), .ok ()) : Option CallState ×
              Except String Unit) = (some (joined p env st' r), .ok ()) ∧
            d'' = tellHost hear env st'.call.getHostID (joined p env st' r)
              channelID d' :=
        fun d'' hd => .inr ⟨st, jobs, rfl, henter, rfl, hd⟩
      refine Code.wp_bind.2 ?_
      rw [withJobs_call]
      unfold announceHost
      unfold tellHost at hdone
      split
      next hnew => exact publish_told (hdone _ (if_pos hnew).symm)
      next hsame => exact hdone _ (if_neg hsame).symm

/-- What is heard of the start of a call. -/
theorem callStarted_told (userID : String) :
    (callStarted p env st userID channelID).wp (watchLogic allow hear inv)
      (fun st' wd =>
      ∃ postID threadID, st' = withPost st postID threadID ∧
        wd.2 = tellStart hear st' channelID d)
      (w, d) := by
  have hstore : ∀ postID threadID,
      (store (.updateCall (withPost st postID threadID).call) >>=
      fun _ => publish (.callStart st.call.id channelID st.call.startAt threadID postID
        st.call.ownerID st.call.getHostID) (wholeChannel channelID) >>= fun _ =>
      pure (withPost st postID threadID)).wp (watchLogic allow hear inv) (fun st' wd =>
        ∃ postID threadID, st' = withPost st postID threadID ∧
          wd.2 = tellStart hear st' channelID d) (w, d) :=
    fun postID threadID =>
      ⟨trivial, fun _ _ => ⟨trivial, fun _ _ => ⟨postID, threadID, rfl, rfl⟩⟩⟩
  unfold callStarted
  dsimp only
  split
  · exact ⟨trivial, fun _ _ => hstore _ _⟩
  · exact hstore _ _

/-- What is heard of a join whose RTC session is opened. -/
theorem announceJoin_told (hhear : Aloof hear) (hopens : env.opensRTC = true) :
    (announceJoin p env st r channelID).wp (watchLogic allow hear inv)
      (fun _ wd => wd.2 = tellJoin hear p env st r channelID d) (w, d) := by
  unfold announceJoin
  rw [if_pos hopens]
  refine ⟨trivial, fun _ _ => ⟨trivial, fun _ _ => ?_⟩⟩
  have hjoin : hears hear (.publish (.join r.connID)
      { connectionID := r.connID, reliableClusterSend := true }) d =
          d := hhear.join _ _ d
  have hstate : ∀ w' : Store,
      (publish (.callState channelID (st.getClientState env p.botID r.userID))
      { userID := r.userID, reliableClusterSend := true }).wp
          (watchLogic allow hear inv)
      (fun _ wd => wd.2 = tellJoin hear p env st r channelID d)
      (w', hears hear (.publish (.userJoined r.userID r.connID)
        (wholeChannel channelID)) (hears hear (.publish (.join r.connID)
          { connectionID := r.connID, reliableClusterSend := true }) d)) := by
    intro w'
    rw [hjoin]
    exact publish_told rfl
  dsimp only
  split
  · refine Code.wp_bind.2 ?_
    cases st.recording with
    | none => exact hstate _
    | some job =>
        refine ⟨trivial, fun _ _ => ?_⟩
        have hjob : ∀ d', hears hear (.publish (.callJobState channelID
            (getClientStateFromCallJob job)) (st.audience env channelID)) d' = d' :=
          hhear.jobs _ _ _
        show Code.wp _ _ _ (_, hears hear _ _)
        rw [hjob]
        exact hstate _
  · exact hstate _

/-- The outcome of a join: it is refused, or the session enters the call. -/
inductive JoinTold (hear : WsEvent → WebSocketBroadcast → D → D)
    (allow : Choice → Store → Op → Prop)
    (p : Plugin) (env : Env) (r : JoinRequest) (channelID : String)
    (state : Option CallState) (s : Store) (d : D) : Option CallState → D → Prop
  | refused : JoinTold hear allow p env r channelID state s d state d
  | started (st : CallState) (jobs : List CallJob) (postID threadID : String)
      (hchecks : joinChecks p env state r channelID = .ok (st, jobs))
      (henter : Enters allow s (newSession env st r.userID r.connID))
      (hlen : (joined p env st r).sessions.rows.length = 1) :
      JoinTold hear allow p env r channelID state s d
        (some (withPost (joined p env st r) postID threadID))
        (tellJoin hear p env (withPost (joined p env st r) postID threadID) r channelID
          (tellStart hear (withPost (joined p env st r) postID threadID) channelID
            (tellHost hear env st.call.getHostID (joined p env st r) channelID d)))
  | entered (st : CallState) (jobs : List CallJob)
      (hchecks : joinChecks p env state r channelID = .ok (st, jobs))
      (henter : Enters allow s (newSession env st r.userID r.connID))
      (hlen : (joined p env st r).sessions.rows.length ≠ 1) :
      JoinTold hear allow p env r channelID state s d (some (joined p env st r))
        (tellJoin hear p env (joined p env st r) r channelID
          (tellHost hear env st.call.getHostID (joined p env st r) channelID d))

/-- What a join returns and what is heard of it. -/
theorem addSessionToCall_told (hhear : Aloof hear)
    (hgave : ∀ c s, ¬ allow c s (.reach .gaveUp)) (hopens : env.opensRTC = true) :
    (addSessionToCall p env r channelID state).wp (watchLogic allow hear inv)
      (fun res wd => JoinTold hear allow p env r channelID state w d res.1 wd.2)
      (w, d) := by
  refine Code.wp_bind.2 (Code.wp_mono (addUserSession_told hgave) fun res wd hwd => ?_)
  obtain ⟨w', d'⟩ := wd
  rcases hwd with ⟨e, rfl, rfl⟩ | ⟨st, jobs, hchecks, henter, rfl, rfl⟩
  · refine Code.wp_bind.2 (publish_told ?_)
    rw [hhear.error]
    exact .refused
  · dsimp only
    split
    next hlen =>
      refine Code.wp_bind.2
        (Code.wp_mono (callStarted_told r.userID) fun st' wd hwd => ?_)
      obtain ⟨w'', d''⟩ := wd
      obtain ⟨postID, threadID, rfl, rfl⟩ := hwd
      refine Code.wp_bind.2
        (Code.wp_mono (announceJoin_told hhear hopens) fun _ wd hwd => ?_)
      obtain ⟨w₃, d₃⟩ := wd
      obtain rfl := hwd
      exact .started st jobs postID threadID hchecks henter hlen
    next hlen =>
      refine Code.wp_bind.2
        (Code.wp_bind.2 (Code.wp_mono (announceJoin_told hhear hopens)
        fun _ wd hwd => ?_))
      obtain ⟨w'', d''⟩ := wd
      obtain rfl := hwd
      exact .entered st jobs hchecks henter hlen

/-! ## Leaves -/

/-- The announcement of the host that takes over from the one that left. -/
def tellHostLeft (hear : WsEvent → WebSocketBroadcast → D → D) (p : Plugin) (env : Env)
    (r : LeaveRequest) (channelID : String) (st : CallState) (d : D) : D :=
  if st.call.getHostID = r.userID ∧ st.sessions.rows ≠ [] ∧
      st.getHostID env p.botID ≠ r.userID then
    hear (.callHostChanged (st.getHostID env p.botID) st.call.id)
      (st.audience env channelID) d
  else d

/-- The announcement that the leaving session no longer shares its screen. -/
def tellScreenLeft (hear : WsEvent → WebSocketBroadcast → D → D) (env : Env)
    (r : LeaveRequest) (channelID : String) (st : CallState) (d : D) : D :=
  if st.call.props.screenSharingSessionID = r.originalConnID then
    hear (.userScreenOff none) ((withoutSession env r st).audience env channelID) d
  else d

/-- The announcement that its camera is off. -/
def tellVideoLeft (hear : WsEvent → WebSocketBroadcast → D → D) (env : Env)
    (r : LeaveRequest) (channelID : String) (us : CallSession) (st : CallState)
    (d : D) : D :=
  if us.video then
    hear (.userVideoOff r.userID r.originalConnID)
      ((withoutSession env r st).audience env channelID) d
  else d

/-- The announcement of a leave. -/
def tellLeave (hear : WsEvent → WebSocketBroadcast → D → D) (p : Plugin) (env : Env)
    (r : LeaveRequest) (channelID : String) (us : CallSession) (st : CallState)
    (d : D) : D :=
  tellHostLeft hear p env r channelID (withoutSession env r st)
    (hear (.userLeft r.userID r.originalConnID) (wholeChannel channelID)
      (tellVideoLeft hear env r channelID us st
        (tellScreenLeft hear env r channelID st d)))

/-- The outcome of a leave: the session is not in the call, or it leaves. -/
inductive LeaveTold (hear : WsEvent → WebSocketBroadcast → D → D) (p : Plugin)
    (env : Env) (r : LeaveRequest) (channelID : String)
    (state : Option CallState) (d : D) :
    Option CallState → D → Prop
  | refused : LeaveTold hear p env r channelID state d state d
  | left (st : CallState) (us : CallSession) (st' : CallState)
      (hstate : state = some st) (hus : st.sessions.find? r.originalConnID = some us)
      (hst' : SameCall (Ports.left p env r (withoutSession env r st)) st') :
      LeaveTold hear p env r channelID state d (some st')
        (tellLeave hear p env r channelID us st d)

variable {l : LeaveRequest}

theorem jobWrite_unheard {α : Type} {job : CallJob} {k : Except String Unit → Body α}
    (herr : ∀ e, (k (.error e)).Only (Unheard hear))
    (hok : (k (.ok ())).Only (Unheard hear)) :
    (write (jobWrite job) >>= k).Only (Unheard hear) := by
  refine (write_unheard _).bind fun res => ?_
  cases res with
  | error e => exact herr e
  | ok _ => exact hok

theorem JobsFrame.unheard (hhear : Aloof hear) {α : Type} {cs : CallState}
    {f : α → CallState} {c : Body α} (h : JobsFrame cs f c) : c.Only (Unheard hear) :=
  h.1.mono fun _ ho => ho.unheard hhear

theorem publishJob?_unheard (hhear : Aloof hear) (env : Env) (st : CallState)
    (callID : String) (job : Option CallJob) :
    (publishJob? env st callID job).Only (Unheard hear) := by
  cases job with
  | none => trivial
  | some job => exact ⟨hhear.jobs _ _ _, fun _ => trivial⟩

theorem stopJobsOfLoneBot_unheard (p : Plugin) (channelID : String) (st : CallState) :
    (stopJobsOfLoneBot p channelID st).Only (Unheard hear) := by
  have hstop : ∀ job, (stopJobOf p channelID job).Only (Unheard hear) := by
    intro job
    cases job with
    | none => trivial
    | some job => exact ⟨fun _ => rfl, fun _ => trivial⟩
  unfold stopJobsOfLoneBot
  split
  · exact (hstop _).bind fun _ => hstop _
  · trivial

theorem recordingBotLeft_unheard (hhear : Aloof hear) (st : CallState) :
    (recordingBotLeft p env l channelID st).Only (Unheard hear) := by
  unfold recordingBotLeft
  split
  · trivial
  · refine jobWrite_unheard (fun e => trivial) (Code.Only.bind ?_ fun st' => ?_)
    · dsimp only
      split
      · exact ((stopJob_frame p env stopDepth _ channelID).2.unheard hhear).bind
          fun _ => trivial
      · trivial
    · exact ⟨hhear.jobs _ _ _, fun _ => trivial⟩

theorem transcribingBotLeft_unheard (hhear : Aloof hear) (st : CallState) :
    (transcribingBotLeft p env l channelID st).Only (Unheard hear) := by
  unfold transcribingBotLeft
  split
  · trivial
  · refine jobWrite_unheard (fun e => trivial) (Code.Only.bind ?_ fun st' => ?_)
    · dsimp only
      split
      · exact ((stopJob_frame p env stopDepth _ channelID).1.unheard hhear).bind
          fun _ => trivial
      · trivial
    · exact ⟨hhear.jobs _ _ _, fun _ => (publishJob?_unheard hhear ..).bind
        fun _ => trivial⟩

theorem captioningBotLeft_unheard (st : CallState) :
    (captioningBotLeft env l st).Only (Unheard hear) := by
  unfold captioningBotLeft
  split
  · trivial
  · exact jobWrite_unheard (fun e => trivial) trivial

/-- A step of a leave that only changes jobs is not heard. -/
theorem jobStep_told (hgave : ∀ c s, ¬ allow c s (.reach .gaveUp)) {g f : Step}
    {st₀ : CallState}
      (hg : JobStep (fun _ => allow) (fun _ _ => True) (fun _ => True) True
      (fun st _ => SameCall st₀ st) g) (hquiet : ∀ st, (g st).Only (Unheard hear))
    {Q : CallState × Except String Unit → Store × D → Prop} (hst : SameCall st₀ st)
    (hf : ∀ st' w', SameCall st₀ st' →
      (f st').wp (watchLogic allow hear inv) Q (w', d)) :
    (g.andThen f st).wp (watchLogic allow hear inv) Q (w, d) := by
  refine Code.wp_bind.2 (Code.wp_mono (Code.wp_unheard (hg st w hst) (hquiet st))
    fun res wd hwd => ?_)
  obtain ⟨⟨hsame, herr⟩, hd⟩ := hwd
  obtain ⟨w', d'⟩ := wd
  obtain rfl : d' = d := hd
  obtain ⟨st', res⟩ := res
  cases res with
  | error e =>
      obtain ⟨_, _, c', _, _, _, hup⟩ := herr e rfl
      exact absurd hup (hgave c' w')
  | ok _ => exact hf st' w' hsame

/-- The steps that end jobs keep what is said of the call and its sessions. -/
theorem sameCall_keptByJobs (st₀ : CallState) :
    KeptByJobs fun st _ => SameCall st₀ st where
  op _ _ _ _ _ h := h
  mem _ _ _ hsame h := h.trans hsame

/-- What is left of a leave depends on the call and its sessions alone. -/
theorem left_congr {st' : CallState} (hsame : SameCall st st') :
    SameCall (left p env l st) (left p env l st') := by
  obtain ⟨hcall, hsess⟩ := hsame
  have hhost : st'.getHostID env p.botID = st.getHostID env p.botID :=
    CallState.getHostID_congr hcall hsess
  have hleft : hostLeftCall p env l st' = hostLeftCall p env l st := by
    unfold hostLeftCall
    rw [hhost, hcall, hsess]
  refine ⟨?_, hsess⟩
  unfold left callLeft
  dsimp only
  rw [hleft, hsess]

/-- What is heard of the choice of another host. -/
theorem hostLeft_told (st : CallState) :
    (hostLeft p env l channelID st).wp (watchLogic allow hear inv) (fun st' wd =>
      st' = { st with call := hostLeftCall p env l st } ∧
        wd.2 = tellHostLeft hear p env l channelID st d) (w, d) := by
  have hkeep : ¬ (st.call.getHostID = l.userID ∧ st.sessions.rows ≠ [] ∧
      st.getHostID env p.botID ≠ l.userID) →
      st = { st with call := hostLeftCall p env l st } ∧
        d = tellHostLeft hear p env l channelID st d := by
    intro hno
    have hcall : hostLeftCall p env l st = st.call := if_neg hno
    have htold : tellHostLeft hear p env l channelID st d = d := if_neg hno
    rw [hcall, htold]
    exact ⟨rfl, rfl⟩
  unfold hostLeft
  by_cases hhost : st.call.getHostID = l.userID ∧ st.sessions.rows ≠ []
  · rw [if_pos hhost]
    dsimp only
    by_cases hnew : st.getHostID env p.botID ≠ l.userID
    · have hcall : hostLeftCall p env l st =
          { st.call with props := { st.call.props with
          hosts := if st.getHostID env p.botID =
            "" then [] else [st.getHostID env p.botID] } } :=
        if_pos ⟨hhost.1, hhost.2, hnew⟩
      have htold : tellHostLeft hear p env l channelID st d =
          hear (.callHostChanged (st.getHostID env p.botID) st.call.id)
            (st.audience env channelID) d :=
        if_pos ⟨hhost.1, hhost.2, hnew⟩
      rw [if_pos hnew, hcall, htold]
      exact Code.wp_bind.2 (publish_told ⟨rfl, rfl⟩)
    · rw [if_neg hnew]
      exact hkeep fun h => hnew h.2.2
  · rw [if_neg hhost]
    exact hkeep fun h => hhost ⟨h.1, h.2.1⟩

/-- What is heard of the end of a leave. -/
theorem saveLeave_told (hgave : ∀ c s, ¬ allow c s (.reach .gaveUp)) (st : CallState) :
    (saveLeave p env l channelID st).wp (watchLogic allow hear inv) (fun res wd =>
      res.1 = left p env l st ∧ wd.2 = tellHostLeft hear p env l channelID st
        (hear (.userLeft l.userID l.originalConnID) (wholeChannel channelID) d))
        (w, d) := by
  refine Code.wp_bind.2 (publish_told (Code.wp_bind.2 (Code.wp_mono (hostLeft_told st)
    fun st' wd hwd => ?_)))
  obtain ⟨w', d'⟩ := wd
  obtain ⟨rfl, rfl⟩ := hwd
  refine Code.wp_bind.2
    (Code.wp_mono (Code.wp_unheard (write_done hgave _) (write_unheard _))
    fun res wd hwd => ?_)
  split
  · exact ⟨trivial, fun _ _ => ⟨rfl, hwd.2⟩⟩
  · exact ⟨rfl, hwd.2⟩

/-- What is heard of the sharer that left. -/
theorem screenLeft_told (st : CallState) :
    (screenLeft env l channelID
      { st with sessions := st.sessions.erase l.originalConnID }).wp
      (watchLogic allow hear inv) (fun st' wd => st' = withoutSession env l st ∧
        wd.2 = tellScreenLeft hear env l channelID st d) (w, d) := by
  unfold screenLeft withoutSession screenLeftCall tellScreenLeft
  dsimp only
  by_cases hshares : st.call.props.screenSharingSessionID = l.originalConnID
  · rw [if_pos hshares, if_pos hshares, if_pos hshares]
    exact Code.wp_bind.2 (publish_told ⟨rfl, rfl⟩)
  · rw [if_neg hshares, if_neg hshares, if_neg hshares]
    exact ⟨rfl, rfl⟩

/-- The choice of another host depends on the call and its sessions alone. -/
theorem tellHostLeft_congr {st' : CallState} (hsame : SameCall st st') (d : D) :
    tellHostLeft hear p env l channelID st' d =
    tellHostLeft hear p env l channelID st d := by
  obtain ⟨hcall, hsess⟩ := hsame
  have hhost : st'.getHostID env p.botID = st.getHostID env p.botID :=
    CallState.getHostID_congr hcall hsess
  unfold tellHostLeft CallState.audience
  rw [hhost, hcall, hsess]

/-- What is heard of a leave from the deletion of the session on. -/
theorem sessionLeft_told (hhear : Aloof hear)
    (hgave : ∀ c s, ¬ allow c s (.reach .gaveUp)) (us : CallSession) (st : CallState) :
    (sessionLeft p env l channelID us st).wp (watchLogic allow hear inv) (fun res wd =>
      SameCall (left p env l (withoutSession env l st)) res.1 ∧
        wd.2 = tellLeave hear p env l channelID us st d) (w, d) := by
  have hkept := sameCall_keptByJobs (withoutSession env l st)
  have hquiet : Lenient fun _ _ => True := fun _ _ _ => trivial
  have hrest : ∀ w' d',
      ((stopJobsOfLoneBot p channelID (withoutSession env l st)) >>= fun _ =>
      ((recordingBotLeft p env l channelID).andThen <|
        (transcribingBotLeft p env l channelID).andThen <|
        (captioningBotLeft env l).andThen <| saveLeave p env l channelID)
          (withoutSession env l st)).wp (watchLogic allow hear inv) (fun res wd =>
      SameCall (left p env l (withoutSession env l st)) res.1 ∧
        wd.2 = tellHostLeft hear p env l channelID (withoutSession env l st)
          (hear (.userLeft l.userID l.originalConnID) (wholeChannel channelID) d'))
          (w', d') := by
    intro w' d'
    have hstop : (stopJobsOfLoneBot p channelID (withoutSession env l st)).wp
        (callLogic allow (fun _ => True) True) (fun _ _ => True) w' :=
      silent_wp (stopJobsOfLoneBot_silent ..) fun _ => trivial
    refine Code.wp_bind.2
      (Code.wp_mono (Code.wp_unheard hstop (stopJobsOfLoneBot_unheard ..))
      fun _ wd hwd => ?_)
    obtain ⟨w'', d''⟩ := wd
    obtain rfl : d'' = d' := hwd.2
    refine jobStep_told hgave (hkept.recordingBotLeft hquiet p env l channelID)
      (recordingBotLeft_unheard hhear) (.refl _) fun st' w' hst' => ?_
    refine jobStep_told hgave (hkept.transcribingBotLeft hquiet p env l channelID)
      (transcribingBotLeft_unheard hhear) hst' fun st' w' hst' => ?_
    refine jobStep_told hgave (hkept.captioningBotLeft hquiet env l)
      captioningBotLeft_unheard hst' fun st' w' hst' => ?_
    refine Code.wp_mono (saveLeave_told hgave st') fun res wd hwd => ?_
    rw [hwd.1, hwd.2]
    exact ⟨left_congr hst', tellHostLeft_congr hst' _⟩
  refine Code.wp_bind.2
    (Code.wp_mono (Code.wp_unheard (write_done hgave _) (write_unheard _))
    fun res wd hwd => ?_)
  obtain ⟨w', d'⟩ := wd
  obtain ⟨⟨rfl, -⟩, hd⟩ := hwd
  obtain rfl : d' = d := hd
  refine Code.wp_bind.2 (Code.wp_mono (screenLeft_told st) fun st' wd hwd => ?_)
  obtain ⟨w'', d''⟩ := wd
  obtain ⟨rfl, rfl⟩ := hwd
  dsimp only
  unfold tellLeave tellVideoLeft
  split
  · exact Code.wp_bind.2 (publish_told (hrest _ _))
  · exact hrest _ _

/-- What a leave returns and what is heard of it. -/
theorem removeUserSession_told (hhear : Aloof hear)
    (hgave : ∀ c s, ¬ allow c s (.reach .gaveUp)) :
    (removeUserSession p env l channelID state).wp (watchLogic allow hear inv)
      (fun res wd => LeaveTold hear p env l channelID state d res.1 wd.2) (w, d) := by
  cases state with
  | none => exact .refused
  | some st =>
      unfold removeUserSession
      dsimp only
      split
      · exact .refused
      next us hus =>
        refine Code.wp_bind.2
          (Code.wp_mono (sessionLeft_told hhear hgave us st) fun res wd hwd => ?_)
        obtain ⟨w', d'⟩ := wd
        obtain ⟨hsame, rfl⟩ := hwd
        exact .left st us _ rfl hus hsame

/-! ## Under the lock -/

theorem store_unheard {α : Type} {o : StoreOp} {k : Except String o.Result → Body α}
    (hk : ∀ res, (k res).Only (Unheard hear)) : (store o >>= k).Only (Unheard hear) :=
  ⟨unheard_store o, hk⟩

theorem getCallState_unheard (channelID : String) :
    (getCallState channelID).Only (Unheard hear) := by
  refine store_unheard fun res => ?_
  cases res with
  | error e => trivial
  | ok call =>
      cases call with
      | none => trivial
      | some call =>
          refine Code.Only.bind (store_unheard fun res => ?_) fun res => ?_
          · cases res with
            | error e => trivial
            | ok sessions =>
                refine store_unheard fun res => ?_
                cases res <;> trivial
          · cases res <;> trivial

/-- A request that runs on the stored state and restores the invariant, where fewer
choices may occur. -/
theorem underLock_on {α : Type} {body : Option CallState → Body α} {wd : Store × D}
    {m : Terms Op (Store × D) Choice}
    (hallow : ∀ h c wd o, m.allow h c wd o → allow c wd.1 o) (hpre : ∀ wd o, m.pre wd o)
    (hbody : ∀ w d, inv (w, d) → (body (storedState w channelID)).wp
      ((watchLogic allow hear inv).on m) (fun _ wd => inv wd) (w, d)) :
    wp ((watchLogic allow hear inv).on m) false (underLock channelID body)
      (fun h _ _ => h = false) wd := by
  simp only [underLock, withLock, lockCallReturnState, lockCall, unlockCall,
    Prog.lock_bind, Prog.ret_bind, wp_lock]
  refine ⟨fun wd hwd => ?_, fun _ wd => by simp⟩
  obtain ⟨w, d⟩ := wd
  simp only [if_true, Prog.liftM_eq, Prog.bind_assoc]
  have hread : (getCallState channelID).wp (callLogic allow (fun _ => True) True)
      (fun res w' => w' = w ∧
        ((∃ e, res = .error e) ∨ res = .ok (storedState w channelID))) w :=
    getCallState_wp (fun e => ⟨rfl, .inl ⟨e, rfl⟩⟩) ⟨rfl, .inr rfl⟩
  have hunheard : (getCallState channelID).wp
      ((callLogic allow (fun _ => True) True).watched (hears hear) inv)
      (fun res wd' => (wd'.1 = w ∧ ((∃ e, res = .error e) ∨
        res = .ok (storedState w channelID))) ∧ wd'.2 = d) (w, d) :=
    Code.wp_unheard hread (getCallState_unheard _)
  refine wp_bind.2 (wp_lift.2 (Code.wp_mono (Code.wp_on (L := watchLogic allow hear inv)
    hallow (fun wd o _ => hpre wd o) hunheard) fun res wd' hwd' => ?_))
  obtain ⟨w', d'⟩ := wd'
  obtain ⟨⟨rfl, hres⟩, hd⟩ := hwd'
  obtain rfl : d' = d := hd
  rcases hres with ⟨e, rfl⟩ | rfl
  · simpa using hwd
  · simp only [Prog.pure_eq, Prog.ret_bind]
    refine wp_bind.2 (wp_lift.2 (Code.wp_mono (hbody _ _ hwd) fun a wd'' hwd'' => ?_))
    simpa using hwd''

/-- The same where they all may. -/
theorem underLock_told {α : Type} {body : Option CallState → Body α}
    {wd : Store × D} (hbody : ∀ w d, inv (w, d) → (body (storedState w channelID)).wp
      (watchLogic allow hear inv) (fun _ wd => inv wd) (w, d)) :
    wp (watchLogic allow hear inv) false (underLock channelID body)
      (fun h _ _ => h = false) wd :=
  underLock_on (m := (watchLogic allow hear inv).terms) (fun _ _ _ _ h => h)
    (fun _ _ => trivial) hbody

end Told

end CallsPlugin.Ports
