import CallsPlugin.Ports.CallLogic
import CallsPlugin.Ports.JoinAtomic

/-!
# Proof rules for joins and leaves

What a join and a leave do to the call in memory is a function of the call and of the
request; what they do to the store is a fixed sequence of writes, which a failing one
cuts short.  An invariant that ties the state in memory to the store is kept by a whole
request if it is kept by these few steps (`JoinRule`, `LeaveRule`).
-/

namespace CallsPlugin.Ports

open CallsPlugin.Verified
open CallsPlugin.Ports.Public CallsPlugin.Ports.Db

/-! ## Logics with a requirement on the writes of calls -/

/-- `callLogic` with a requirement on the operations, and choices that may depend on who
has the lock. -/
@[reducible]
def callRules (allow : Holder → Choice → Store → Op → Prop) (pre : Store → Op → Prop)
    (inv : Store → Prop) (lockMayFail : Prop) : Logic Op Op.Resp Store Choice :=
  (callLogic (allow .self) inv lockMayFail).on ⟨allow, pre⟩

/-- The operation writes a call row, or adds a session. -/
def Op.WritesCall : Op → Prop
  | .store (.createCall _) | .store (.updateCall _) | .store (.createCallSession _) =>
      True
  | _ => False

/-- Nothing is required of other operations. -/
def Lenient (pre : Store → Op → Prop) : Prop := ∀ w o, ¬ o.WritesCall → pre w o

/-- A store call fails, and the request that issued it returns. -/
def GivesUp (allow : Choice → Store → Op → Prop) (w : Store) : Prop :=
  ∃ o c c' e, allow c w (.store o) ∧ (exec c w (.store o)).1 = .error e ∧
    allow c' w (.reach .gaveUp)

theorem Op.JobsOnly.not_writesCall {o : Op} (h : o.JobsOnly) : ¬ o.WritesCall := by
  cases o with
  | store o => cases o <;> first | exact id | exact h.elim
  | _ => exact id

theorem Op.Silent.not_writesCall {o : Op} (h : o.Silent) : ¬ o.WritesCall := by
  cases o <;> first | exact id | exact h.elim

section Rules

variable {allow : Holder → Choice → Store → Op → Prop} {pre : Store → Op → Prop}
  {inv : Store → Prop} {lockMayFail : Prop}

/-- A store call succeeds on the working database, as the choices permit, or fails
without effect. -/
theorem store_rule_allowed {o : StoreOp} {Q : Except String o.Result → Store → Prop}
    {w : Store} (hpre : pre w (.store o))
    (herr : ∀ c e, allow .self c w (.store o) → (exec c w (.store o)).1 = .error e →
      Q (.error e) w)
    (hok : ∀ c a, allow .self c w (.store o) → c.storeFails = false →
      (o.exec w).1 = .ok a →
      Q (.ok a) (o.exec w).2) :
      (store o).wp (callRules allow pre inv lockMayFail) Q w := by
  refine Code.wp_perform.2 ⟨hpre, fun c hc => ?_⟩
  have hfail := herr c
  simp only [exec_store] at hfail ⊢
  cases hf : c.storeFails with
  | true =>
      rw [hf, attempt_true] at hfail
      exact hfail _ hc rfl
  | false =>
      rw [hf, attempt_false] at hfail
      rw [attempt_false]
      cases hres : (o.exec w).1 with
      | error e =>
          rw [StoreOp.exec_error hres]
          exact hfail e hc hres
      | ok a => exact hok c a hc hf hres

/-- A store call succeeds on the working database, or fails without effect. -/
theorem store_rule {o : StoreOp} {Q : Except String o.Result → Store → Prop} {w : Store}
    (hpre : pre w (.store o))
    (herr : ∀ c e, allow .self c w (.store o) → (exec c w (.store o)).1 = .error e →
      Q (.error e) w)
    (hok : ∀ a, (o.exec w).1 = .ok a → Q (.ok a) (o.exec w).2) :
    (store o).wp (callRules allow pre inv lockMayFail) Q w :=
  store_rule_allowed hpre herr fun _ a _ _ => hok a

/-- A write an operation cannot go on without. -/
theorem write_rule_allowed {wr : Write} {Q : Except String Unit → Store → Prop}
    {w : Store} (hpre : pre w (.store wr.op)) (hquiet : Lenient pre)
    (herr : ∀ e, GivesUp (allow .self) w → Q (.error e) w)
    (hok : ∀ c a, allow .self c w (.store wr.op) → c.storeFails = false →
      (wr.op.exec w).1 = .ok a → Q (.ok ()) (wr.op.exec w).2) :
    (write wr).wp (callRules allow pre inv lockMayFail) Q w := by
  refine Code.wp_bind.2
      (store_rule_allowed hpre (fun c e hc he => ?_) fun c a hc hf ha =>
    hok c a hc hf ha)
  exact ⟨hquiet w _ id, fun c' hc' => herr _ ⟨_, c, c', e, hc, he, hc'⟩⟩

theorem write_rule {wr : Write} {Q : Except String Unit → Store → Prop} {w : Store}
    (hpre : pre w (.store wr.op)) (hquiet : Lenient pre)
    (herr : ∀ e, GivesUp (allow .self) w → Q (.error e) w)
    (hok : ∀ a, (wr.op.exec w).1 = .ok a → Q (.ok ()) (wr.op.exec w).2) :
    (write wr).wp (callRules allow pre inv lockMayFail) Q w :=
  write_rule_allowed hpre hquiet herr fun _ a _ _ => hok a

/-- Code that does not call the store leaves it. -/
theorem silent_rule {α : Type} {c : Body α} {R : α → Prop} {Q : α → Store → Prop}
    {w : Store} (hquiet : Lenient pre) (h : c.Only Op.Silent) (hR : c.All R)
    (hQ : ∀ a, R a → Q a w) :
    c.wp (callRules allow pre inv lockMayFail) Q w :=
  Code.wp_mono (h.wp (I := (· = w)) hR
    (fun w' _ ho _ => hquiet w' _ ho.not_writesCall)
    (fun c _ _ ho hs _ => (ho.exec c _).trans hs) rfl) fun a _ hw => hw.2 ▸ hQ a hw.1

/-! ## Changes of jobs -/

/-- What is said of the call in memory and of the store does not depend on jobs. -/
structure KeptByJobs (I : CallState → Store → Prop) : Prop where
  op : ∀ c st w (o : Op), o.JobsOnly → I st w → I st (exec c w o).2
  mem : ∀ st st' w, SameCall st st' → I st w → I st' w

/-- A step that only changes jobs, and gives up if it fails. -/
def JobStep (allow : Holder → Choice → Store → Op → Prop) (pre : Store → Op → Prop)
    (inv : Store → Prop) (lockMayFail : Prop) (I : CallState → Store → Prop)
    (g : Step) : Prop :=
  ∀ st w, I st w → (g st).wp (callRules allow pre inv lockMayFail)
    (fun res w' => I res.1 w' ∧ ∀ e, res.2 = .error e → GivesUp (allow .self) w') w

section Jobs

variable {I : CallState → Store → Prop} {st : CallState} {w : Store}

theorem KeptByJobs.frame_rule (hI : KeptByJobs I) (hquiet : Lenient pre) {α : Type}
    {f : α → CallState} {c : Body α} (hc : JobsFrame st f c) (h : I st w) :
    c.wp (callRules allow pre inv lockMayFail) (fun a w' => I (f a) w') w :=
  Code.wp_mono (hc.1.wp (I := fun w' => I st w') hc.2
    (fun w o ho _ => hquiet w o ho.not_writesCall)
    (fun c w o ho hw _ => hI.op c st w o ho hw) h) fun _ w' hw =>
    hI.mem _ _ w' hw.1 hw.2

/-- Writing a job that ended, and what follows. -/
theorem KeptByJobs.write_rule (hI : KeptByJobs I) (hquiet : Lenient pre) {α : Type}
    {job : CallJob} {c : Except String Unit → Body α} {Q : α → Store → Prop}
    (h : I st w) (herr : ∀ e, GivesUp (allow .self) w →
      (c (.error e)).wp (callRules allow pre inv lockMayFail) Q w)
    (hok : ∀ w', I st w' → (c (.ok ())).wp (callRules allow pre inv lockMayFail) Q w') :
    (write (jobWrite job) >>= c).wp (callRules allow pre inv lockMayFail) Q w := by
  refine Code.wp_bind.2
    (Ports.write_rule (hquiet w _ id) hquiet herr fun a ha => hok _ ?_)
  have hop := hI.op .works st w (.store (.updateCallJob job)) trivial h
  rwa [exec_store, works_storeFails, attempt_false] at hop

/-- Stopping the coupled job inside a step. -/
theorem KeptByJobs.coupled_rule (hI : KeptByJobs I) (hquiet : Lenient pre) {α : Type}
    {run : Prop} [Decidable run] {c : Body (CallState × α)}
    (hc : JobsFrame st Prod.fst c) (h : I st w) :
    (if run then do
        let res ← c
        return res.1
      else return st).wp (callRules allow pre inv lockMayFail)
      (fun st' w' => I st' w') w := by
  split
  · exact Code.wp_bind.2 (hI.frame_rule hquiet hc h)
  · exact h

theorem KeptByJobs.recordingBotLeft (hI : KeptByJobs I) (hquiet : Lenient pre)
    (p : Plugin) (env : Env) (r : LeaveRequest) (channelID : String) :
    JobStep allow pre inv lockMayFail I (recordingBotLeft p env r channelID) := by
  intro st w h
  unfold Ports.recordingBotLeft
  split
  · exact ⟨h, fun _ he => by cases he⟩
  next recState _ =>
    refine hI.write_rule hquiet h
      (fun e hgave => ⟨hI.mem st _ w ⟨rfl, rfl⟩ h, fun _ _ => hgave⟩) fun w' hw' => ?_
    have hframe := (stopJob_frame p env stopDepth
      { st with recording := some { recState with endAt := env.now .recordingEnd } }
          channelID).2
    refine Code.wp_bind.2 (Code.wp_mono
      (hI.coupled_rule hquiet hframe (hI.mem st _ w' ⟨rfl, rfl⟩ hw'))
        fun st' w'' hw'' => ?_)
    exact ⟨hquiet _ _ id, fun _ _ => ⟨hw'', fun _ he => by cases he⟩⟩

theorem KeptByJobs.transcribingBotLeft (hI : KeptByJobs I) (hquiet : Lenient pre)
    (p : Plugin) (env : Env) (r : LeaveRequest) (channelID : String) :
    JobStep allow pre inv lockMayFail I (transcribingBotLeft p env r channelID) := by
  intro st w h
  unfold Ports.transcribingBotLeft
  split
  · exact ⟨h, fun _ he => by cases he⟩
  next trState _ =>
    refine hI.write_rule hquiet h
      (fun e hgave => ⟨hI.mem st _ w ⟨rfl, rfl⟩ h, fun _ _ => hgave⟩) fun w' hw' => ?_
    have hframe := (stopJob_frame p env stopDepth
      { st with transcription := some { trState with
          endAt := env.now .transcribingEnd } }
        channelID).1
    refine Code.wp_bind.2 (Code.wp_mono
      (hI.coupled_rule hquiet hframe (hI.mem st _ w' ⟨rfl, rfl⟩ hw'))
        fun st' w'' hw'' => ?_)
    refine ⟨hquiet _ _ id, fun _ _ => Code.wp_bind.2 ?_⟩
    have hdone : I st' w'' ∧ ∀ e, (Except.ok () : Except String Unit) = .error e →
        GivesUp (allow .self) w'' := ⟨hw'', fun _ he => by cases he⟩
    cases st'.liveCaptions with
    | none => exact hdone
    | some lc => exact ⟨hquiet _ _ id, fun _ _ => hdone⟩

theorem KeptByJobs.captioningBotLeft (hI : KeptByJobs I) (hquiet : Lenient pre)
    (env : Env) (r : LeaveRequest) :
    JobStep allow pre inv lockMayFail I (captioningBotLeft env r) := by
  intro st w h
  unfold Ports.captioningBotLeft
  split
  · exact ⟨h, fun _ he => by cases he⟩
  next lcState _ =>
    exact hI.write_rule hquiet h
      (fun e hgave => ⟨hI.mem st _ w ⟨rfl, rfl⟩ h, fun _ _ => hgave⟩)
      fun w' hw' => ⟨hI.mem st _ w' ⟨rfl, rfl⟩ hw', fun _ he => by cases he⟩

/-- One step after another. -/
theorem JobStep.andThen {g f : Step} {Q : CallState × Except String Unit → Store → Prop}
    (hg : JobStep allow pre inv lockMayFail I g) (h : I st w)
    (herr : ∀ st' e w', I st' w' → GivesUp (allow .self) w' → Q (st', .error e) w')
    (hf : ∀ st' w', I st' w' → (f st').wp (callRules allow pre inv lockMayFail) Q w') :
    (g.andThen f st).wp (callRules allow pre inv lockMayFail) Q w := by
  refine Code.wp_bind.2 (Code.wp_mono (hg st w h) fun res w' hw' => ?_)
  obtain ⟨st', res⟩ := res
  cases res with
  | error e => exact herr _ _ _ hw'.1 (hw'.2 e rfl)
  | ok _ => exact hf _ _ hw'.1

end Jobs

/-! ## Leaves -/

/-- The call once the leaving session no longer shares its screen. -/
def screenLeftCall (env : Env) (r : LeaveRequest) (call : Call) : Call :=
  if call.props.screenSharingSessionID = r.originalConnID then
    let shared := call.props.screenStartAt
    { call with
      stats := ⟨if shared > 0
        then call.stats.screenDuration + secondsSinceTimestamp (env.now .screenOff)
        shared
        else call.stats.screenDuration⟩
      props := { call.props with
        screenSharingSessionID := ""
        screenStartAt := if shared > 0 then 0 else shared } }
  else call

/-- The state once the session has been taken out of it. -/
def withoutSession (env : Env) (r : LeaveRequest) (st : CallState) : CallState :=
  { st with
    call := screenLeftCall env r st.call
    sessions := st.sessions.erase r.originalConnID }

/-- The call once another host was chosen for one that left. -/
def hostLeftCall (p : Plugin) (env : Env) (r : LeaveRequest) (st : CallState) : Call :=
  if st.call.getHostID = r.userID ∧ st.sessions.rows ≠ [] ∧
      st.getHostID env p.botID ≠ r.userID then
    { st.call with props := { st.call.props with
      hosts :=
        if st.getHostID env p.botID = "" then [] else [st.getHostID env p.botID] } }
  else st.call

/-- The state at the end of a leave. -/
def left (p : Plugin) (env : Env) (r : LeaveRequest) (st : CallState) : CallState :=
  { st with call := callLeft env { st with call := hostLeftCall p env r st } }

theorem screenLeft_all (env : Env) (r : LeaveRequest) (channelID : String)
    (st : CallState) :
    (screenLeft env r channelID
      { st with sessions := st.sessions.erase r.originalConnID }).All
      (· = withoutSession env r st) := by
  unfold screenLeft withoutSession screenLeftCall
  dsimp only
  split
  · exact fun _ => rfl
  · rfl

theorem hostLeft_all (p : Plugin) (env : Env) (r : LeaveRequest) (channelID : String)
    (st : CallState) : (hostLeft p env r channelID st).All
      (· = { st with call := hostLeftCall p env r st }) := by
  unfold hostLeft hostLeftCall
  by_cases hhost : st.call.getHostID = r.userID ∧ st.sessions.rows ≠ []
  · rw [if_pos hhost]
    dsimp only
    by_cases hnew : st.getHostID env p.botID ≠ r.userID
    · rw [if_pos hnew, if_pos ⟨hhost.1, hhost.2, hnew⟩]
      exact fun _ => rfl
    · rw [if_neg hnew, if_neg fun h => hnew h.2.2]
      rfl
  · rw [if_neg hhost, if_neg fun h => hhost ⟨h.1, h.2.1⟩]
    rfl

/-- What keeps `I` over a leave; `M` holds between the deletion of the session and the
update of the call. -/
structure LeaveRule (allow : Choice → Store → Op → Prop) (pre : Store → Op → Prop)
    (p : Plugin) (env : Env) (r : LeaveRequest)
    (I M : CallState → Store → Prop) : Prop where
  jobs : KeptByJobs M
  deleted : ∀ st us w c, I st w → st.sessions.find? r.originalConnID = some us →
    allow c w (.store (.deleteCallSession r.originalConnID)) → c.storeFails = false →
    M (withoutSession env r st) (w.deleteCallSession r.originalConnID)
  gaveUp : ∀ st w, M st w → GivesUp allow w → I st w
  unsaved : ∀ st w, M st w → GivesUp allow w → I (left p env r st) w
  saved : ∀ st w, M st w → (left p env r st).call.isValid = .ok () →
    I (left p env r st) (w.updateCall (left p env r st).call)
  update : ∀ st w, M st w → pre w (.store (.updateCall (left p env r st).call))

section Leave

variable {p : Plugin} {env : Env} {r : LeaveRequest} {I M : CallState → Store → Prop}
  {channelID : String}

theorem LeaveRule.saveLeave (h : LeaveRule (allow .self) pre p env r I M)
    (hquiet : Lenient pre) {st : CallState} {w : Store} (hM : M st w) :
    (saveLeave p env r channelID st).wp (callRules allow pre inv lockMayFail)
      (fun res w' => I res.1 w') w := by
  refine Code.wp_bind.2 ⟨hquiet _ _ id, fun _ _ => ?_⟩
  refine Code.wp_bind.2 (silent_rule hquiet (hostLeft_frame p env r channelID st).1
    (hostLeft_all p env r channelID st) fun st' hst' => ?_)
  subst hst'
  have hpost : ∀ (res : Except String Unit) w', I (left p env r st) w' →
      (if st.sessions.rows = [] then
          updateCallPostEnded (left p env r st).call.postID
            (left p env r st).call.props.participants
            >>= fun _ => pure (left p env r st, res)
        else pure (left p env r st, res)).wp
        (callRules allow pre inv lockMayFail) (fun res w' => I res.1 w') w' := by
    intro res w' hw'
    split
    · exact ⟨hquiet _ _ id, fun _ _ => hw'⟩
    · exact hw'
  refine Code.wp_bind.2 (write_rule (h.update st w hM) hquiet
    (fun e hgave => hpost _ _ (h.unsaved st w hM hgave)) fun a ha => hpost _ _ ?_)
  simp only [StoreOp.exec] at ha ⊢
  split at ha
  · cases ha
  next hv => exact h.saved st w hM hv

theorem LeaveRule.sessionLeft (h : LeaveRule (allow .self) pre p env r I M)
    (hquiet : Lenient pre) {us : CallSession} {st : CallState} {w : Store} (hI : I st w)
    (hus : st.sessions.find? r.originalConnID = some us) :
    (sessionLeft p env r channelID us st).wp (callRules allow pre inv lockMayFail)
      (fun res w' => I res.1 w') w := by
  refine Code.wp_bind.2 (write_rule_allowed (hquiet _ _ id) hquiet (fun e _ => hI)
    fun c a hc hf _ => ?_)
  refine Code.wp_bind.2 (silent_rule hquiet (screenLeft_frame env r channelID _).1
    (screenLeft_all env r channelID st) fun st' hst' => ?_)
  subst hst'
  have hrest : ((stopJobsOfLoneBot p channelID (withoutSession env r st)) >>= fun _ =>
      ((recordingBotLeft p env r channelID).andThen <|
        (transcribingBotLeft p env r channelID).andThen <|
        (captioningBotLeft env r).andThen <| Ports.saveLeave p env r channelID)
          (withoutSession env r st)).wp
      (callRules allow pre inv lockMayFail) (fun res w' => I res.1 w')
      (w.deleteCallSession r.originalConnID) := by
    refine Code.wp_bind.2 (silent_rule hquiet (stopJobsOfLoneBot_silent _ _ _)
      (Code.all_of_forall (Q := fun _ => True) (fun _ => trivial) _) fun _ _ => ?_)
    have hgave : ∀ st' (e : String) w', M st' w' →
        GivesUp (allow .self) w' → I st' w' :=
      fun st' _ w' => h.gaveUp st' w'
    refine (h.jobs.recordingBotLeft hquiet p env r channelID).andThen
      (h.deleted st us w c hI hus hc hf) hgave fun st' w' hM => ?_
    refine (h.jobs.transcribingBotLeft hquiet p env r channelID).andThen hM hgave
      fun st' w' hM => ?_
    exact (h.jobs.captioningBotLeft hquiet env r).andThen hM hgave
      fun st' w' hM => h.saveLeave hquiet hM
  dsimp only
  split
  · exact ⟨hquiet _ _ id, fun _ _ => hrest⟩
  · exact hrest

/-- A leave. -/
theorem LeaveRule.removeUserSession (h : LeaveRule (allow .self) pre p env r I M)
    (hquiet : Lenient pre) {R : Option CallState → Store → Prop}
    (hR : ∀ st w, R (some st) w ↔ I st w)
    {state : Option CallState} {w : Store} (hI : R state w) :
    (removeUserSession p env r channelID state).wp (callRules allow pre inv lockMayFail)
      (fun res w' => R res.1 w') w := by
  cases state with
  | none => exact hI
  | some st =>
      unfold Ports.removeUserSession
      dsimp only
      split
      · exact hI
      next us hus =>
        exact Code.wp_bind.2 (Code.wp_mono (h.sessionLeft hquiet ((hR st w).1 hI) hus)
          fun res w' hw' => (hR res.1 w').2 hw')

end Leave

/-- The items of a batch of leaves. -/
theorem removeSessionsFromCall_rule {W C : Type} {L : Logic Op Op.Resp W C} {p : Plugin}
    {channelID : String} {R : Option CallState → W → Prop} (ls : List Leave)
    (h : ∀ l ∈ ls, ∀ state w, R state w →
      (removeUserSession p l.env l.req channelID state).wp L
      (fun res w' => R res.1 w') w) :
    ∀ (state : Option CallState) (w : W), R state w →
      (removeSessionsFromCall p channelID ls state).wp L (fun _ w' => ∃ state',
        R state' w') w := by
  induction ls with
  | nil => exact fun state w hR => ⟨state, hR⟩
  | cons l rest ih =>
      intro state w hR
      refine Code.wp_bind.2 (Code.wp_mono (h l (List.mem_cons_self ..) state w hR)
        fun res w' hw' => ?_)
      exact Code.wp_bind.2 (ih (fun l hl => h l (List.mem_cons_of_mem _ hl)) _ w' hw')

/-! ## Joins -/

/-- The state with the post of its call. -/
def withPost (st : CallState) (postID threadID : String) : CallState :=
  { st with call := { st.call with postID := postID, threadID := threadID } }

/-- A join that does not create the call goes on with the state it was given. -/
theorem callToJoin_of_length {p : Plugin} {env : Env} {state : Option CallState}
    {r : JoinRequest} {channelID : String} {st : CallState}
    (hcall : callToJoin p env state r channelID = .ok st)
    (hcheck : checkJoin p st r.connID = .ok ())
    (hlen : (joined p env st r).sessions.rows.length ≠ 1) : state = some st := by
  rcases callToJoin_eq_ok hcall with rfl | ⟨rfl, host, rfl⟩
  · rfl
  · refine absurd ?_ hlen
    rw [joined_sessions env hcheck]
    rfl

/-- The call is stored as a join left it. -/
def Written (M : Option CallState → CallState → Store → Prop) (st : CallState)
    (w : Store) : Prop :=
  ∃ state w₀, M state st w₀ ∧ w.calls = w₀.calls

/-- What keeps `I` over a join; `M` holds between the write of the call and that of the
session, for the state before and the one after. -/
structure JoinRule (allow : Choice → Store → Op → Prop) (pre : Store → Op → Prop)
    (p : Plugin) (env : Env) (r : JoinRequest) (channelID : String)
    (I : Option CallState → Store → Prop)
    (M : Option CallState → CallState → Store → Prop) : Prop where
  jobs : ∀ c state w (o : Op), o.JobsOnly → I state w → I state (exec c w o).2
  created : ∀ state st w t, I state w → callToJoin p env state r channelID = .ok st →
    checkJoin p st r.connID = .ok () → (joined p env st r).sessions.rows.length = 1 →
    (joined p env st r).call.isValid = .ok () →
    w.calls.insert? (joined p env st r).call = some t →
    M state (joined p env st r) { w with calls := t }
  updated : ∀ state st w, I state w → callToJoin p env state r channelID = .ok st →
    checkJoin p st r.connID = .ok () → (joined p env st r).sessions.rows.length ≠ 1 →
    (joined p env st r).call.isValid = .ok () →
    M state (joined p env st r) (w.updateCall (joined p env st r).call)
  create : ∀ state st w, I state w → callToJoin p env state r channelID = .ok st →
    checkJoin p st r.connID = .ok () → (joined p env st r).sessions.rows.length = 1 →
    pre w (.store (.createCall (joined p env st r).call))
  update : ∀ state st w, I state w → callToJoin p env state r channelID = .ok st →
    checkJoin p st r.connID = .ok () → (joined p env st r).sessions.rows.length ≠ 1 →
    pre w (.store (.updateCall (joined p env st r).call))
  gaveUp : ∀ state st w, M state st w → GivesUp allow w → I state w
  session : ∀ state st w, M state st w →
    pre w (.store (.createCallSession (newSession env st r.userID r.connID)))
  entered : ∀ state st w t, M state st w →
    (newSession env st r.userID r.connID).isValid = .ok () →
    w.sessions.insert? (newSession env st r.userID r.connID) = some t →
    I (some st) { w with sessions := t }
  unposted : ∀ st w postID threadID, I (some st) w → Written M st w →
    st.sessions.rows.length = 1 → I (some (withPost st postID threadID)) w
  posted : ∀ st w postID threadID, I (some st) w → Written M st w →
    st.sessions.rows.length = 1 → (withPost st postID threadID).call.isValid = .ok () →
    I (some (withPost st postID threadID))
      (w.updateCall (withPost st postID threadID).call)
  post : ∀ st w postID threadID, I (some st) w → Written M st w →
    st.sessions.rows.length = 1 →
    pre w (.store (.updateCall (withPost st postID threadID).call))

section Join

variable {p : Plugin} {env : Env} {r : JoinRequest} {channelID : String}
  {I : Option CallState → Store → Prop}
  {M : Option CallState → CallState → Store → Prop}

/-- Writing the jobs a bot takes over. -/
theorem JoinRule.writeJobs (h : JoinRule (allow .self) pre p env r channelID I M)
    (hquiet : Lenient pre) (state : Option CallState) (jobs : List CallJob) :
    ∀ w : Store, I state w →
      (writeAll (jobs.map fun j => jobWrite (withBotConnID j r.connID))).wp
        (callRules allow pre inv lockMayFail) (fun _ w' => I state w') w := by
  induction jobs with
  | nil => exact fun w hw => hw
  | cons j rest ih =>
      intro w hw
      refine Code.wp_bind.2
        (write_rule (hquiet _ _ id) hquiet (fun e _ => hw) fun a ha => ih _ ?_)
      have hop :=
        h.jobs .works state w (.store (.updateCallJob (withBotConnID j r.connID)))
        trivial hw
      rwa [exec_store, works_storeFails, attempt_false] at hop

/-- Writing the call and the session of a join. -/
theorem JoinRule.writeCall (h : JoinRule (allow .self) pre p env r channelID I M)
    (hquiet : Lenient pre) {state : Option CallState} {st : CallState} {w : Store}
    (hI : I state w) (hcall : callToJoin p env state r channelID = .ok st)
    (hcheck : checkJoin p st r.connID = .ok ()) :
    (writeAll [callWrite (joined p env st r),
      sessionWrite (newSession env (joined p env st r) r.userID r.connID)]).wp
      (callRules allow pre inv lockMayFail) (fun res w' =>
        match res with
        | .error _ => I state w'
        | .ok _ =>
            I (some (joined p env st r)) w' ∧ Written M (joined p env st r) w') w := by
  have hsession : ∀ w₁, M state (joined p env st r) w₁ →
      (writeAll [sessionWrite
        (newSession env (joined p env st r) r.userID r.connID)]).wp
        (callRules allow pre inv lockMayFail) (fun res w' =>
          match res with
          | .error _ => I state w'
          | .ok _ =>
              I (some (joined p env st r)) w' ∧
                  Written M (joined p env st r) w') w₁ := by
    intro w₁ hM
    refine Code.wp_bind.2
      (write_rule (h.session state _ _ hM) hquiet (fun e hgave => ?_) fun a ha => ?_)
    · exact h.gaveUp state _ _ hM hgave
    · simp only [sessionWrite, StoreOp.exec] at ha ⊢
      cases hi : insertRow "call session"
          (newSession env (joined p env st r) r.userID r.connID).isValid w₁.sessions
          (newSession env (joined p env st r) r.userID r.connID) with
      | error e => rw [hi] at ha; cases ha
      | ok t =>
          obtain ⟨hv, hi⟩ := insertRow_eq_ok.1 hi
          exact ⟨h.entered state _ _ t hM hv hi, state, w₁, hM, rfl⟩
  rw [callWrite]
  split
  next hlen =>
    refine Code.wp_bind.2 (write_rule (h.create state st w hI hcall hcheck hlen) hquiet
      (fun e _ => hI) fun a ha => hsession _ ?_)
    simp only [StoreOp.exec] at ha ⊢
    cases hi : insertRow "call" (joined p env st r).call.isValid w.calls
        (joined p env st r).call with
    | error e => rw [hi] at ha; cases ha
    | ok t =>
        obtain ⟨hv, hi⟩ := insertRow_eq_ok.1 hi
        exact h.created state st w t hI hcall hcheck hlen hv hi
  next hlen =>
    refine Code.wp_bind.2 (write_rule (h.update state st w hI hcall hcheck hlen) hquiet
      (fun e _ => hI) fun a ha => hsession _ ?_)
    simp only [StoreOp.exec] at ha ⊢
    split at ha
    · cases ha
    next hv => exact h.updated state st w hI hcall hcheck hlen hv

/-- `addUserSession` -/
theorem JoinRule.addUserSession (h : JoinRule (allow .self) pre p env r channelID I M)
    (hquiet : Lenient pre) {state : Option CallState} {w : Store} (hI : I state w) :
    (addUserSession p env state r channelID).wp (callRules allow pre inv lockMayFail)
      (fun res w' => I res.1 w' ∧ ∀ st, res = (some st, .ok ()) →
        Written M st w') w := by
  have hrefused : ∀ e w', I state w' → I state w' ∧
      ∀ st, ((state, .error e) : Option CallState × Except String Unit) =
        (some st, .ok ()) →
        Written M st w' := fun e w' hI => ⟨hI, fun st he => by cases he⟩
  have hall : ∀ c : Body Unit, c.All fun _ => True :=
    Code.all_of_forall fun _ => trivial
  rw [Ports.addUserSession, tryAddUserSession_eq]
  cases hchecks : joinChecks p env state r channelID with
  | error e =>
      have honly : (announceRefusal r channelID e).Only Op.Silent := by
        unfold announceRefusal
        split
        · exact ⟨trivial, fun _ => trivial⟩
        · trivial
      exact Code.wp_bind.2 (Code.wp_bind.2 (silent_rule hquiet honly (hall _) fun _ _ =>
        hrefused _ _ hI))
  | ok res =>
      obtain ⟨st, jobs⟩ := res
      obtain ⟨hcall, hcheck, -⟩ := joinChecks_eq_ok hchecks
      dsimp only
      rw [joinWrites, writeAll_append]
      refine Code.wp_bind.2 (Code.wp_bind.2 (Code.wp_bind.2 (Code.wp_mono
        (h.writeJobs hquiet state jobs w hI) fun res w' hw' => ?_)))
      cases res with
      | error e => exact hrefused _ _ hw'
      | ok _ =>
          refine Code.wp_mono (h.writeCall hquiet hw' hcall hcheck) fun res w' hw' => ?_
          cases res with
          | error e => exact hrefused _ _ hw'
          | ok _ =>
              refine Code.wp_bind.2
                (silent_rule hquiet (announceHost_silent _ _ _ _) (hall _)
                fun _ _ => ⟨hw'.1, fun st' he => ?_⟩)
              cases he
              exact hw'.2

/-- Storing the post of a new call. -/
theorem JoinRule.callStarted (h : JoinRule (allow .self) pre p env r channelID I M)
    (hquiet : Lenient pre) {st : CallState} {w : Store} (hI : I (some st) w)
    (hwritten : Written M st w) (hlen : st.sessions.rows.length = 1) :
      (callStarted p env st r.userID channelID).wp (callRules allow pre inv lockMayFail)
      (fun st' w' => I (some st') w') w := by
  have hsave : ∀ postID threadID ev,
      (store (.updateCall (withPost st postID threadID).call)
      >>= fun _ => publish ev (wholeChannel channelID) >>= fun _ =>
        pure (withPost st postID threadID)).wp (callRules allow pre inv lockMayFail)
      (fun st' w' => I (some st') w') w := by
    intro postID threadID ev
    refine Code.wp_bind.2
      (store_rule (h.post st w _ _ hI hwritten hlen) (fun c e _ _ => ?_) fun a ha => ?_)
    · exact ⟨hquiet _ _ id, fun _ _ => h.unposted st w _ _ hI hwritten hlen⟩
    · refine ⟨hquiet _ _ id, fun _ _ => ?_⟩
      simp only [StoreOp.exec] at ha ⊢
      split at ha
      · cases ha
      next hv => exact h.posted st w _ _ hI hwritten hlen hv
  unfold Ports.callStarted
  dsimp only
  split
  · exact ⟨hquiet _ _ id, fun _ _ => hsave _ _ _⟩
  · exact hsave _ _ _

/-- A join. -/
theorem JoinRule.addSessionToCall (h : JoinRule (allow .self) pre p env r channelID I M)
    (hquiet : Lenient pre) {state : Option CallState} {w : Store} (hI : I state w) :
    (addSessionToCall p env r channelID state).wp (callRules allow pre inv lockMayFail)
      (fun res w' => I res.1 w') w := by
  refine Code.wp_bind.2 (Code.wp_mono (h.addUserSession hquiet hI) fun res w' hw' => ?_)
  obtain ⟨state', res⟩ := res
  cases res with
  | error e => exact Code.wp_bind.2 ⟨hquiet _ _ id, fun _ _ => hw'.1⟩
  | ok _ =>
      cases state' with
      | none => exact hw'.1
      | some st =>
          have hstart : (if st.sessions.rows.length = 1
              then Ports.callStarted p env st r.userID channelID else pure st).wp
              (callRules allow pre inv lockMayFail)
              (fun st' w'' => I (some st') w'') w' := by
            split
            next hlen => exact h.callStarted hquiet hw'.1 (hw'.2 st rfl) hlen
            · exact hw'.1
          refine Code.wp_bind.2 (Code.wp_mono hstart fun st' w'' hw'' => ?_)
          exact Code.wp_bind.2 (silent_rule hquiet (announceJoin_silent _ _ _ _ _)
            (Code.all_of_forall (Q := fun _ => True) (fun _ => trivial) _)
              fun _ _ => hw'')

end Join

/-- The items of a batch of joins. -/
theorem addSessionsToCall_rule {W C : Type} {L : Logic Op Op.Resp W C} {p : Plugin}
    {channelID : String} {I : Option CallState → W → Prop} (js : List Join)
    (h : ∀ j ∈ js, ∀ state w, I state w →
      (addSessionToCall p j.env j.req channelID state).wp L
      (fun res w' => I res.1 w') w) :
    ∀ (state : Option CallState) (w : W), I state w →
      (addSessionsToCall p channelID js state).wp L (fun _ w' => ∃ state',
        I state' w') w := by
  induction js with
  | nil => exact fun state w hI => ⟨state, hI⟩
  | cons j rest ih =>
      intro state w hI
      refine Code.wp_bind.2 (Code.wp_mono (h j (List.mem_cons_self ..) state w hI)
        fun res w' hw' => ?_)
      exact Code.wp_bind.2 (ih (fun j hj => h j (List.mem_cons_of_mem _ hj)) _ w' hw')

/-! ## Under the lock -/

/-- Reading the state gives the stored state, or fails. -/
theorem getCallState_rule {channelID : String} {w : Store} (hquiet : Lenient pre)
    {Q : Except String (Option CallState) → Store → Prop}
    (herr : ∀ e, Q (.error e) w) (hok : Q (.ok (storedState w channelID)) w) :
    (getCallState channelID).wp (callRules allow pre inv lockMayFail) Q w := by
  refine Code.wp_bind.2
    (store_rule (hquiet _ _ id) (fun c e _ _ => herr _) fun call hcall => ?_)
  obtain rfl : w.getActiveCallByChannelID channelID = call := Except.ok.inj hcall
  unfold storedState at hok
  cases hget : w.getActiveCallByChannelID channelID with
  | none => rwa [hget] at hok
  | some call =>
      rw [hget] at hok
      refine Code.wp_bind.2
        (Code.wp_bind.2 (store_rule (hquiet _ _ id) (fun c e _ _ => herr _)
        fun sessions hs => ?_))
      cases Except.ok.inj hs
      refine Code.wp_bind.2
        (store_rule (hquiet _ _ id) (fun c e _ _ => herr _) fun jobs hj => ?_)
      cases Except.ok.inj hj
      exact hok

/-- A handler that runs on the stored state and restores the invariant. -/
theorem underLock_rule {α : Type} {channelID : String}
    {body : Option CallState → Body α}
    {w : Store} (hquiet : Lenient pre)
      (hbody : ∀ w, inv w → (body (storedState w channelID)).wp
      (callRules allow pre inv lockMayFail) (fun _ w' => inv w') w) :
    wp (callRules allow pre inv lockMayFail) false (underLock channelID body)
      (fun h _ _ => h = false) w := by
  simp only [underLock, withLock, lockCallReturnState, lockCall, unlockCall,
    Prog.lock_bind, Prog.ret_bind, wp_lock]
  refine ⟨fun w' hw' => ?_, fun _ w' => by simp⟩
  simp only [if_true, Prog.liftM_eq, Prog.bind_assoc]
  refine wp_bind.2 (wp_lift.2 (getCallState_rule hquiet (fun e => ?_) ?_))
  · simpa using hw'
  · simp only [Prog.pure_eq, Prog.ret_bind]
    refine wp_bind.2 (wp_lift.2 (Code.wp_mono (hbody w' hw') fun a w'' hw'' => ?_))
    simpa using hw''

/-- The code of a request whose body runs under the lock. -/
theorem discard_rule {W C : Type} {L : Logic Op Op.Resp W C} {α : Type} {c : P α}
    {w : W} {h : Bool} (hc : wp L h c (fun h _ _ => h = false) w) :
    wp L h (c >>= fun _ => .ret ()) (fun h _ _ => h = false) w :=
  wp_bind.2 (wp_mono hc fun _ _ _ hq => wp_ret.2 hq)

end Rules

end CallsPlugin.Ports
