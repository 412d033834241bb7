import CallsPlugin.Ports.Handlers
import CallsPlugin.Ports.NodeSteps
import CallsPlugin.Ports.StartOutcome

/-!
# Reconnections that fail

`handleReconnect` marks the old session first, then brings the rows of a bot's jobs up
to date, then stores the new session, and tells RTCD last.  Here every step may fail,
and what a failure leaves behind is compared with what there was.
-/

namespace CallsPlugin.Ports

open CallsPlugin.Verified
open CallsPlugin.Ports.Public CallsPlugin.Ports.Db

/-! ## The request with every step that may fail -/

/-- The answers a request to reconnect gets: the permission, the call, the lock of the
call with the store that is found under it and which of its writes fail, and RTCD's
answer, where there is RTCD. -/
structure ReconnectSteps where
  hasPermission : Bool
  isBot : Bool
  /-- `getCallState` -/
  state : Except String (Option CallState)
  window : Window
  rtcd : Option (Except String Unit)

namespace ReconnectSteps

/-- `handleBotWSReconnect`, and the store it leaves. -/
def handleBot (e : ReconnectSteps) (r : ReconnectRequest) :
    Except String Unit × Store :=
  let m := (handleBotWSReconnect r.connID r.prevConnID r.channelID).play
    (answers e.window.choose) (fun _ => e.window.turn) e.window.store
  (m.result.bind id, m.world)

/-- The answers as `handleReconnect` takes them. -/
def env (e : ReconnectSteps) (r : ReconnectRequest) : ReconnectEnv where
  hasPermission := e.hasPermission
  isBot := e.isBot
  state := e.state
  handleBotWSReconnect := (e.handleBot r).1

/-- The store after the request, which only the handling of a bot's jobs writes. -/
def storeAfter (e : ReconnectSteps) (r : ReconnectRequest) (n : Node) : Store :=
  match reconnectCall (e.env r) r, n.claimSession r with
  | .ok _, .ok _ => if e.isBot then (e.handleBot r).2 else e.window.store
  | _, _ => e.window.store

/-- `handleReconnect` with all its steps.  If RTCD cannot be told, it returns before its
routine starts. -/
def handleReconnect (e : ReconnectSteps) (r : ReconnectRequest) (n : Node) :
    Except String Unit × Node × Store :=
  match Ports.handleReconnect (e.env r) r n with
  | (.error err, node) => (.error err, node, e.storeAfter r n)
  | (.ok _, node) =>
      match e.rtcd with
      | some (.error err) =>
          (.error ("failed to send client reconnect message: " ++ err),
            { node with readers := n.readers }, e.storeAfter r n)
      | _ => (.ok (), node, e.storeAfter r n)

end ReconnectSteps

/-- A failed request has left the old session tracked and as it was marked, has put
nothing into the map that no routine reads for, and has changed no job. -/
structure Atomic (r : ReconnectRequest) (n n' : Node) (jobs jobs' : JobTable) :
    Prop where
  kept : ∀ x, n.previous r = some x →
    x ∈ n'.sessions ∧ (n'.heap x.us).wsReconnected = (n.heap x.us).wsReconnected
  read : ∀ x ∈ n'.sessions, x ∉ n.sessions → ∃ routine ∈ n'.readers, routine.us = x.us
  jobs : jobs' = jobs

/-! ## The jobs of a bot -/

/-- The update of the job is refused. -/
def Rejects (choose : Op → Choice) (j : CallJob) : Prop :=
  (choose (.store (.updateCallJob j))).storeFails = true ∨ j.isValid ≠ .ok ()

/-- The transcription has the bot's new connection while the captions, which the same
bot serves, keep the old one. -/
def CaptionsLeft (choose : Op → Choice) (connID prevConnID : String) :
    Option CallState → Prop
  | none => False
  | some st =>
      connID ≠ prevConnID ∧
        (∀ rc, st.recording = some rc → rc.props.botConnID ≠ prevConnID) ∧
        ∃ tr lc, st.transcription = some tr ∧ tr.props.botConnID = prevConnID ∧
          st.liveCaptions = some lc ∧ lc.props.botConnID = prevConnID ∧
          ¬ Rejects choose (withBotConnID tr connID) ∧
          Rejects choose (withBotConnID lc connID)

section Jobs

variable {choose : Op → Choice} {s : Store} {connID prevConnID channelID : String}

theorem answers_of_rejects {j : CallJob} (h : Rejects choose j) :
    ∃ err, answers choose s (.store (.updateCallJob j)) = (.error err, s) := by
  rw [answers, exec_store, attempt]
  split
  · exact ⟨_, rfl⟩
  next hworks =>
    have hvalid := h.resolve_left hworks
    simp only [StoreOp.exec]
    split
    · exact ⟨_, rfl⟩
    next hv => exact absurd hv hvalid

theorem answers_of_accepts {j : CallJob} (h : ¬ Rejects choose j) :
    answers choose s (.store (.updateCallJob j)) = (.ok (), s.updateCallJob j) := by
  obtain ⟨hworks, hvalid⟩ := not_or.1 h
  rw [answers, exec_store, attempt, if_neg hworks]
  simp only [StoreOp.exec]
  rw [not_not.1 hvalid]

/-- Giving a job of the store another connection changes the store. -/
theorem updateBotConnID_jobs_iff {j : CallJob} (hj : j ∈ s.jobs)
    (hprev : j.props.botConnID = prevConnID) :
    (s.updateCallJob (withBotConnID j connID)).jobs = s.jobs ↔ connID = prevConnID := by
  constructor
  · intro h
    have hmem : j ∈ (s.updateCallJob (withBotConnID j connID)).jobs := h ▸ hj
    have hself :=
      (Table.mem_modify_self (Store.setJob_id · (withBotConnID j connID)) hj rfl).1 hmem
    have hprops : (withBotConnID j connID).props.botConnID = j.props.botConnID :=
      congrArg (fun j : CallJob => j.props.botConnID) hself
    exact hprops.trans hprev
  · rintro rfl
    have hsame : withBotConnID j connID = j := by
      subst hprev
      rfl
    rw [hsame]
    show s.jobs.modify j.id (Store.setJob · j) (Store.setJob_id · j) = s.jobs
    refine Table.modify_eq_self fun r hr hk => ?_
    rw [s.jobs.eq_of_key_eq hr hj hk]
    rfl

theorem captionerReconnected_error {lcState : Option CallJob} {err : String}
    {s' : Store}
      (h : (captionerReconnected connID prevConnID lcState).run (answers choose) s =
      (.error err, s')) :
    s' = s ∧ ∃ lc, lcState = some lc ∧ lc.props.botConnID = prevConnID ∧
      Rejects choose (withBotConnID lc connID) := by
  unfold captionerReconnected at h
  split at h
  next => cases h
  next lc hlc =>
    obtain ⟨hlc, hprev⟩ := Option.filter_eq_some_iff.1 hlc
    rw [store, Code.perform_bind, Code.run_op] at h
    by_cases hrej : Rejects choose (withBotConnID lc connID)
    · obtain ⟨err', he⟩ := answers_of_rejects (s := s) hrej
      rw [he] at h
      cases h
      exact ⟨rfl, lc, hlc, of_decide_eq_true hprev, hrej⟩
    · rw [answers_of_accepts hrej] at h
      cases h

/-- When `handleBotWSReconnect` fails under the lock, the jobs are as before unless the
captions have been left behind. -/
theorem botReconnected_error {state : Option CallState}
    (hread : ∀ st, state = some st → ReadFrom s.jobs st) {err : String} {s' : Store}
    (h : (botReconnected connID prevConnID state).run (answers choose) s =
      (.error err, s')) :
    s'.jobs = s.jobs ↔ ¬ CaptionsLeft choose connID prevConnID state := by
  cases state with
  | none => cases h
  | some st =>
      simp only [botReconnected] at h
      split at h
      next rc hrc =>
        obtain ⟨hrc, hprev⟩ := Option.filter_eq_some_iff.1 hrc
        rw [store, Code.perform_bind, Code.run_op] at h
        have hsame : s' = s := by
          rcases answers_update choose s (withBotConnID rc connID) with ⟨e, he⟩ | he <;>
            rw [he] at h <;> cases h
          rfl
        refine iff_of_true (by rw [hsame]) ?_
        rintro ⟨-, hno, -⟩
        exact hno rc hrc (of_decide_eq_true hprev)
      next hrc =>
        have hrec : ∀ rc, st.recording = some rc → rc.props.botConnID ≠ prevConnID := by
          intro rc hst hprev
          have hfilter := Option.filter_eq_none_iff.1 hrc rc hst
          exact hfilter (decide_eq_true hprev)
        split at h
        next => cases h
        next tr htr =>
          obtain ⟨htr, hprev⟩ := Option.filter_eq_some_iff.1 htr
          have hprev : tr.props.botConnID = prevConnID := of_decide_eq_true hprev
          have hmem : tr ∈ s.jobs := (hread st rfl .transcribing tr htr).mem
          rw [store, Code.perform_bind, Code.run_op] at h
          by_cases hrej : Rejects choose (withBotConnID tr connID)
          · obtain ⟨err', he⟩ := answers_of_rejects (s := s) hrej
            rw [he] at h
            cases h
            refine iff_of_true rfl ?_
            rintro ⟨-, -, tr', lc, htr', -, -, -, hacc, -⟩
            rw [htr] at htr'
            cases htr'
            exact hacc hrej
          · rw [answers_of_accepts hrej] at h
            obtain ⟨rfl, lc, hlc, hlcprev, hlcrej⟩ := captionerReconnected_error h
            rw [updateBotConnID_jobs_iff hmem hprev]
            constructor
            · rintro hconn ⟨hne, -⟩
              exact hne hconn
            · intro hno
              by_contra hne
              exact hno ⟨hne, hrec, tr, lc, htr, hprev, hlc, hlcprev, hrej, hlcrej⟩

/-- `handleBotWSReconnect` fails without the lock, or in its body. -/
theorem ReconnectSteps.handleBot_error {e : ReconnectSteps} {r : ReconnectRequest}
    {err : String} (h : (e.handleBot r).1 = .error err) :
    (e.handleBot r).2.jobs = e.window.store.jobs ↔
      ¬ CaptionsLeft e.window.choose r.connID r.prevConnID
        (e.window.state r.channelID) := by
  obtain ⟨res, log, hplay, -, hres⟩ :=
    play_lockCallReturnState (answers e.window.choose)
    e.window.store r.channelID fun _ => e.window
  unfold handleBot handleBotWSReconnect underLock withLock at h ⊢
  dsimp only at h ⊢
  rw [Prog.play_bind, hplay] at h ⊢
  dsimp only at h ⊢
  rcases hres with rfl | ⟨⟨err', rfl⟩, hnone⟩
  · simp only [Prog.play_lift_bind, unlockCall, Prog.unlock_bind, Prog.play_unlock,
      Prog.ret_bind, Prog.pure_eq, Prog.play_ret] at h ⊢
    generalize hrun :
      (botReconnected r.connID r.prevConnID (e.window.state r.channelID)).run
      (answers e.window.choose) e.window.store = out at h ⊢
    obtain ⟨res, s'⟩ := out
    cases res with
    | ok _ => cases h
    | error err' =>
        exact botReconnected_error (fun st hst => Window.readFrom_state hst) hrun
  · rw [hnone]
    exact iff_of_true rfl fun h => h

end Jobs

/-! ## When a failure leaves something behind -/

/-- The request gets past its checks, that of the old session's mark included. -/
def ReconnectSteps.Reaches (e : ReconnectSteps) (r : ReconnectRequest) (n : Node) :
    Prop :=
  (∃ st, reconnectCall (e.env r) r = .ok st) ∧
    ∀ x, n.previous r = some x → (n.heap x.us).wsReconnected = false

/-- The handling of the bot's jobs fails with the old session on this node, or with the
captions left behind. -/
def ReconnectSteps.FailsForBot (e : ReconnectSteps) (r : ReconnectRequest) (n : Node) :
    Prop :=
  e.isBot = true ∧ (∃ err, (e.handleBot r).1 = .error err) ∧
    ((∃ x, n.previous r = some x) ∨
      CaptionsLeft e.window.choose r.connID r.prevConnID (e.window.state r.channelID))

/-- RTCD cannot be told. -/
def ReconnectSteps.FailsForRTCD (e : ReconnectSteps) (r : ReconnectRequest) : Prop :=
  (e.isBot = true → (e.handleBot r).1 = .ok ()) ∧ ∃ err, e.rtcd = some (.error err)

section Failures

variable {n n₁ : Node} {e : ReconnectSteps} {r : ReconnectRequest} {rtc : Bool}

theorem Atomic.refl (r : ReconnectRequest) (n : Node) (jobs : JobTable) :
    Atomic r n n jobs jobs :=
  ⟨fun _ hx => ⟨(Node.previous_eq_some hx).1, rfl⟩, fun _ hx hno => absurd hx hno, rfl⟩

/-- Where the old session has been marked, the failure is not atomic. -/
theorem not_atomic_of_claimed {x : Slot} (hclaim : n.claimSession r = .ok (rtc, n₁))
    (hx : n.previous r = some x) {jobs jobs' : JobTable} :
    ¬ Atomic r n n₁ jobs jobs' := by
  intro hatomic
  rcases Node.claimSession_ok hclaim with ⟨hnone, -⟩ | ⟨y, hy, hopen, -, rfl⟩
  · rw [hnone] at hx
    cases hx
  · have hkept := (hatomic.kept y hy).2
    rw [Node.markReconnected_self, hopen] at hkept
    cases hkept

/-- Where a session was stored and no routine started, it is not atomic either. -/
theorem not_atomic_of_stored (hn : n.Apart) {callID : String}
    (hclaim : n.claimSession r = .ok (rtc, n₁)) {jobs jobs' : JobTable} :
    ¬ Atomic r n { n₁.storeSession r callID rtc with readers := n.readers }
      jobs jobs' := by
  intro hatomic
  have hnext : n₁.next = n.next := (Node.Evolves.claimSession hclaim).next
  have hmem : ⟨r.connID, n₁.next⟩ ∈ (n₁.storeSession r callID rtc).sessions :=
    Table.mem_put.2 (.inr rfl)
  have hfresh : (⟨r.connID, n₁.next⟩ : Slot) ∉ n.sessions := fun hx =>
    absurd (hn.slots _ hx) (not_lt.2 hnext.ge)
  obtain ⟨routine, hroutine, hus⟩ := hatomic.read _ hmem hfresh
  exact absurd (hn.routines routine hroutine) (not_lt.2 (hus.trans hnext).ge)

theorem ReconnectSteps.storeAfter_of_claim {st : CallState}
    (hcall : reconnectCall (e.env r) r = .ok st)
    (hclaim : n.claimSession r = .ok (rtc, n₁)) :
    e.storeAfter r n = if e.isBot then (e.handleBot r).2 else e.window.store := by
  unfold ReconnectSteps.storeAfter
  rw [hcall, hclaim]

/-- **A failed reconnection** leaves nothing behind, except when it fails for the jobs
of a bot whose old session is on this node or whose captions are left behind, and when
it fails to tell RTCD. -/
theorem reconnect_atomic_iff (hn : n.Apart) (e : ReconnectSteps)
    (r : ReconnectRequest) :
    (∀ err n' s', e.handleReconnect r n = (.error err, n', s') →
        Atomic r n n' e.window.store.jobs s'.jobs) ↔
      ¬ (e.Reaches r n ∧ (e.FailsForBot r n ∨ e.FailsForRTCD r)) := by
  unfold ReconnectSteps.handleReconnect
  rcases handleReconnect_cases (e.env r) r n with ⟨err, he, hno⟩ |
    ⟨st, rtc, n₁, err, hcall, hclaim, hbot, hjobs, he⟩ |
      ⟨st, rtc, n₁, hcall, hclaim, hjobs, he⟩ <;>
    rw [he] <;> dsimp only
  · -- refused by a check
    refine iff_of_true (fun err' n' s' h => ?_) ?_
    · cases h
      have hstore : e.storeAfter r n = e.window.store := by
        unfold ReconnectSteps.storeAfter
        split
        next st _ hcall hclaim =>
          obtain ⟨err', herr⟩ := hno st hcall
          rw [hclaim] at herr
          cases herr
        next => rfl
      rw [hstore]
      exact .refl r n _
    · rintro ⟨⟨⟨st, hcall⟩, hopen⟩, -⟩
      obtain ⟨res, hres⟩ := Node.claimSession_ok_iff.2 hopen
      obtain ⟨err', herr⟩ := hno st hcall
      rw [hres] at herr
      cases herr
  · -- the bot's jobs
    have hbot : e.isBot = true := hbot
    have hjobs : (e.handleBot r).1 = .error err := hjobs
    have hreaches : e.Reaches r n :=
      ⟨⟨st, hcall⟩, Node.claimSession_ok_iff.1 ⟨_, hclaim⟩⟩
    rw [ReconnectSteps.storeAfter_of_claim hcall hclaim, if_pos hbot]
    have hleft := ReconnectSteps.handleBot_error hjobs
    constructor
    · rintro hatomic ⟨-, ⟨-, -, ⟨x, hx⟩ | hcaptions⟩ | ⟨hok, -⟩⟩
      · exact not_atomic_of_claimed hclaim hx (hatomic _ _ _ rfl)
      · exact hleft.1 (hatomic _ _ _ rfl).jobs hcaptions
      · rw [hok hbot] at hjobs
        cases hjobs
    · intro hno err' n' s' h
      cases h
      have hfine := not_or.1 fun h => hno ⟨hreaches, .inl ⟨hbot, ⟨err, hjobs⟩, h⟩⟩
      rcases Node.claimSession_ok hclaim with ⟨-, -, rfl⟩ | ⟨x, hx, -⟩
      · have hsame := hleft.2 hfine.2
        exact { Atomic.refl r _ e.window.store.jobs with jobs := hsame }
      · exact absurd ⟨x, hx⟩ hfine.1
  · -- RTCD
    have hreaches : e.Reaches r n :=
      ⟨⟨st, hcall⟩, Node.claimSession_ok_iff.1 ⟨_, hclaim⟩⟩
    have hnobot : ¬ e.FailsForBot r n := by
      rintro ⟨hbot, ⟨err, herr⟩, -⟩
      have hok : (e.handleBot r).1 = .ok () := hjobs hbot
      rw [hok] at herr
      cases herr
    cases hrtcd : e.rtcd with
    | none =>
        refine iff_of_true (fun err n' s' h => by cases h) ?_
        rintro ⟨-, hbot | ⟨-, err, herr⟩⟩
        · exact hnobot hbot
        · rw [hrtcd] at herr
          cases herr
    | some answer =>
        cases answer with
        | ok _ =>
            refine iff_of_true (fun err n' s' h => by cases h) ?_
            rintro ⟨-, hbot | ⟨-, err, herr⟩⟩
            · exact hnobot hbot
            · rw [hrtcd] at herr
              cases herr
        | error err =>
            refine iff_of_false (fun hatomic => ?_) fun hno =>
              hno ⟨hreaches, .inr ⟨hjobs, err, hrtcd⟩⟩
            exact not_atomic_of_stored hn hclaim (hatomic _ _ _ rfl)

end Failures

/-! ## Runs with the recording bot -/

/-- The bot is in the call, on the node that handles its RTC. -/
def botJoined : Node := emptyNode.handleJoin "bot" "b0" "chan" sampleCall.id true

theorem botJoined_apart : botJoined.Apart :=
  (emptyNode_apart.handleJoin _ _ _ _ fun x hx => by cases hx).toApart

/-- The bot reconnects over a new connection, and everything but the lock of the call
works. -/
def botReconnects (locked : Bool) : ReconnectSteps where
  hasPermission := true
  isBot := true
  state :=
    .ok (some ⟨sampleCall,
      ⟨[⟨"b0", sampleCall.id, "bot", 10, true, 0, false⟩], by decide⟩,
    none, none, none⟩)
  window := ⟨locked, sampleStore, fun _ => .works⟩
  rtcd := none

/-- The bot's request. -/
def botRequest : ReconnectRequest := ⟨"bot", "b1", "chan", "b0", "b0"⟩

/-- A second request that finds the session marked is refused and leaves no trace. -/
theorem reconnect_refused_atomic : Atomic botRequest (botJoined.markReconnected 0)
    (botJoined.markReconnected 0) sampleStore.jobs sampleStore.jobs := by
  have hapart : (botJoined.markReconnected 0).Apart :=
    ⟨botJoined_apart.slots, botJoined_apart.routines, botJoined_apart.apart⟩
  have hmarked : (botJoined.markReconnected 0).previous botRequest =
      some ⟨"b0", 0⟩ := by decide
  refine (reconnect_atomic_iff hapart (botReconnects true) botRequest).2 ?_
    "session already reconnected" _ _ rfl
  rintro ⟨⟨-, hopen⟩, -⟩
  have hno := hopen _ hmarked
  rw [Node.markReconnected_self] at hno
  cases hno

/-- A request that does not obtain the lock has marked the bot's session. -/
theorem reconnect_leaves_mark : ∃ err n' s',
    (botReconnects false).handleReconnect botRequest botJoined = (.error err, n', s') ∧
      botJoined.previous botRequest = some ⟨"b0", 0⟩ ∧
      (botJoined.heap 0).wsReconnected = false ∧ (n'.heap 0).wsReconnected = true ∧
      ¬ Atomic botRequest botJoined n' sampleStore.jobs s'.jobs := by
  refine ⟨_, botJoined.markReconnected 0, sampleStore,
    rfl, by decide, by decide, by decide,
    fun h => ?_⟩
  have hkept := (h.kept ⟨"b0", 0⟩ (by decide)).2
  rw [Node.markReconnected_self] at hkept
  cases hkept

end CallsPlugin.Ports
