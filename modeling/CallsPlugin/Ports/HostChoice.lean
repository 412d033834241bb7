import CallsPlugin.Ports.CallHost
import CallsPlugin.Ports.JobCoupling

/-!
# An explicit choice of a host

`changeHost` makes a user the host and locks it, but where that user is the host already
it leaves another user's lock in place.  The host then stays for as long as it is in the
call, unless that other user joins.
-/

namespace CallsPlugin.Ports

open CallsPlugin.Verified
open CallsPlugin.Ports.Public CallsPlugin.Ports.Db

/-! ## The invariant -/

/-- What is chosen: the call, its host, and the user in its lock. -/
structure HostPick where
  callID : String
  host : String
  locked : String

/-- The call has the chosen host and lock. -/
def HostPick.HeldBy (k : HostPick) (c : Call) : Prop :=
  c.getHostID = k.host ∧ c.props.hostLockedUserID = k.locked

theorem HostPick.HeldBy.congr {k : HostPick} {c c' : Call} (h : k.HeldBy c)
    (hc : SameHost c c') :
    k.HeldBy c' := ⟨hc.getHostID.trans h.1, hc.locked.trans h.2⟩

/-- The host is in the call, and nobody else is locked who is. -/
structure HostStays (k : HostPick) (s : Store) : Prop where
  row : ∃ c ∈ s.calls, c.id = k.callID
  host : ∀ c ∈ s.calls, c.id = k.callID → k.HeldBy c
  present : InCall s.sessions k.callID k.host
  absent : k.locked ≠ k.host → ¬ InCall s.sessions k.callID k.locked

/-- The state in memory, if it is one of the call. -/
structure HostStaysSync (k : HostPick) (st : CallState) (s : Store) : Prop
    extends HostStays k s where
  mem : st.call.id = k.callID → k.HeldBy st.call
  sync : st.call.id = k.callID → ∀ x, x ∈ st.sessions ↔ x ∈ s.sessions ∧
    x.callID = k.callID

section State

variable {k : HostPick} {st st' : CallState} {s s' : Store}

theorem HostStays.sameRows (h : HostStays k s) (hrows : SameRows s s') :
    HostStays k s' := by
  refine ⟨?_, ?_, ?_, ?_⟩
  · rw [hrows.1]
    exact h.row
  · rw [hrows.1]
    exact h.host
  · rw [hrows.2]
    exact h.present
  · rw [hrows.2]
    exact h.absent

theorem HostStaysSync.congr (h : HostStaysSync k st s) (hid : st'.call.id = st.call.id)
    (hcall : SameHost st.call st'.call) (hsess : st'.sessions = st.sessions)
    (hrows : SameRows s s') : HostStaysSync k st' s' where
  toHostStays := h.toHostStays.sameRows hrows
  mem hk := (h.mem (hid.symm.trans hk)).congr hcall
  sync hk := by
    rw [hsess, hrows.2]
    exact h.sync (hid.symm.trans hk)

/-- A call is written that has the host. -/
theorem HostStays.updateCall {c : Call} (h : HostStays k s)
    (hc : c.id = k.callID → k.HeldBy c) :
    HostStays k (s.updateCall c) where
  row := by
    obtain ⟨x, hx, hxid⟩ := h.row
    refine ⟨_, Store.mem_updateCall.2 ⟨x, hx, rfl⟩, ?_⟩
    split <;> exact hxid
  host x hx hxid := by
    obtain ⟨r, hr, rfl⟩ := Store.mem_updateCall.1 hx
    by_cases hk : r.id = c.id
    · rw [if_pos hk] at hxid ⊢
      exact hc (hk.symm.trans hxid)
    · rw [if_neg hk] at hxid ⊢
      exact h.host r hr hxid
  present := h.present
  absent := h.absent

/-- The host of the state is chosen again. -/
theorem getHostID_of_pick {env : Env} {botID : String} (hmem : k.HeldBy st.call)
    (hhost : Attends st k.host) (hlocked : k.locked ≠ k.host → ¬ Attends st k.locked) :
    st.getHostID env botID = k.host := by
  have hcur : hostLoop botID st.call.getHostID (env.iter st.sessions.rows) ""
      0 = k.host := by
    rw [hmem.1]
    obtain ⟨x, hx, hu⟩ := hhost
    exact hostLoop_of_mem ⟨x, (env.iter_perm _).mem_iff.2 hx, hu⟩ _ _
  unfold CallState.getHostID
  rw [hmem.2]
  split
  next h =>
    by_contra hne
    exact hlocked hne (isUserIDInCall_iff.1 h.2)
  next => exact hcur

theorem HostStaysSync.attends (h : HostStaysSync k st s) (hk : st.call.id = k.callID) :
    Attends st k.host ∧ (k.locked ≠ k.host → ¬ Attends st k.locked) := by
  constructor
  · obtain ⟨x, hx, hxc, hu⟩ := h.present
    exact ⟨x, (h.sync hk x).2 ⟨hx, hxc⟩, hu⟩
  · rintro hne ⟨x, hx, hu⟩
    obtain ⟨hx, hxc⟩ := (h.sync hk x).1 hx
    exact h.absent hne ⟨x, hx, hxc, hu⟩

/-- The state read under the lock is in step with the store. -/
theorem HostStays.sync {channelID : String} (h : HostStays k s)
    (hst : storedState s channelID = some st) : HostStaysSync k st s := by
  refine ⟨h, fun hk => h.host st.call (storedState_active hst).1 hk, fun hk x => ?_⟩
  rw [← hk]
  exact mem_storedState_sessions hst

end State

/-! ## Leaves -/

/-- After the operation the host has a session in the call. -/
def KeepsPresent (k : HostPick) (c : Choice) (s : Store) (o : Op) : Prop :=
  InCall (exec c s o).2.sessions k.callID k.host

section Leave

variable {k : HostPick} {p : Plugin} {env : Env} {r : LeaveRequest} {st : CallState}
  {s : Store}

/-- A leave stores the call with its host. -/
theorem HostStaysSync.left (h : HostStaysSync k st s) (hk : st.call.id = k.callID) :
    k.HeldBy (left p env r st).call := by
  obtain ⟨hhost, hlocked⟩ := h.attends hk
  have hne : st.sessions.rows ≠ [] := by
    obtain ⟨x, hx, -⟩ := hhost
    exact List.ne_nil_of_mem hx
  have hsame : hostLeftCall p env r st = st.call := by
    refine if_neg fun hleft => hleft.2.2 ?_
    rw [getHostID_of_pick (h.mem hk) hhost hlocked]
    exact (h.mem hk).1.symm.trans hleft.1
  rw [left_of_sessions hne, hsame]
  exact h.mem hk

/-- A leave after which the host is still in the call leaves the host. -/
theorem hostStaysLeft_rule (k : HostPick) (p : Plugin) (env : Env) (r : LeaveRequest) :
    LeaveRule (KeepsPresent k) (fun _ _ => True) p env r (HostStaysSync k)
      (HostStaysSync k) where
  jobs :=
    { op c st w o ho h := h.congr rfl (.refl _) rfl (ho.sameRows c w)
      mem st st' w hsame h :=
        h.congr (congrArg Call.id hsame.1) (hsame.1 ▸ .refl _) hsame.2 (.refl w) }
  deleted st us w c h hus hallow hworks := by
    have hdelete : exec c w (.store (.deleteCallSession r.originalConnID)) =
        (.ok (), w.deleteCallSession r.originalConnID) := by
      rw [exec_store, hworks]
      rfl
    have hpresent : InCall (w.deleteCallSession r.originalConnID).sessions
        k.callID k.host := by
      unfold KeepsPresent at hallow
      rwa [hdelete] at hallow
    have ⟨hid, hcall⟩ : (withoutSession env r st).call.id = st.call.id ∧
        SameHost st.call (withoutSession env r st).call := withoutSession_call r
    refine ⟨⟨h.row, h.host, hpresent, fun hne => ?_⟩, fun hk => ?_, fun hk x => ?_⟩
    · rintro ⟨x, hx, hxc⟩
      exact h.absent hne ⟨x, (Store.mem_deleteCallSession.1 hx).1, hxc⟩
    · exact (h.mem (hid.symm.trans hk)).congr hcall
    · rw [withoutSession, Table.mem_erase, Store.mem_deleteCallSession,
        h.sync (hid.symm.trans hk)]
      exact and_right_comm
  gaveUp _ _ h _ := h
  unsaved st w h _ :=
    { toHostStays := h.toHostStays
      mem hk := h.left ((left_id r).symm.trans hk)
      sync hk := h.sync ((left_id r).symm.trans hk) }
  saved st w h _ :=
    { toHostStays :=
        h.toHostStays.updateCall fun hk => h.left ((left_id r).symm.trans hk)
      mem hk := h.left ((left_id r).symm.trans hk)
      sync hk := h.sync ((left_id r).symm.trans hk) }
  update _ _ _ := trivial

end Leave

/-! ## Joins -/

/-- The state shared by a batch of joins. -/
def HostStaysState (k : HostPick) : Option CallState → Store → Prop
  | none, s => HostStays k s
  | some st, s => HostStaysSync k st s

theorem HostStaysState.stays {k : HostPick} {state : Option CallState} {s : Store}
    (h : HostStaysState k state s) : HostStays k s := by
  cases state with
  | none => exact h
  | some st => exact HostStaysSync.toHostStays h

/-- The state in the course of a join: the call is stored, the session `r` is not. -/
structure HostStaysJoining (k : HostPick) (r : CallSession) (state : Option CallState)
    (st : CallState) (s : Store) : Prop where
  before : HostStaysState k state s
  mem : st.call.id = k.callID → k.HeldBy st.call
  sync : st.call.id = k.callID → ∀ x, x ∈ st.sessions ↔ x ∈ s.sessions ∧
    x.callID = k.callID ∨ x = r

section Join

variable {k : HostPick} {p : Plugin} {env : Env} {r : JoinRequest} {st : CallState}
  {s : Store}

/-- A join by another user than the locked one chooses the host again. -/
theorem HostStaysSync.joined (h : HostStaysSync k st s) (hk : st.call.id = k.callID)
    (hr : k.locked ≠ k.host → r.userID ≠ k.locked)
    (hcheck : checkJoin p st r.connID = .ok ()) :
    k.HeldBy (joined p env st r).call := by
  obtain ⟨hhost, hlocked⟩ := h.attends hk
  have hmem : ∀ u, Attends (withSession env st r) u ↔ Attends st u ∨ r.userID = u := by
    intro u
    rw [← attends_joined (p := p)]
    unfold Attends
    constructor
    · rintro ⟨x, hx, hu⟩
      rcases (mem_joined_sessions hcheck).1 hx with hx | rfl
      · exact .inl ⟨x, hx, hu⟩
      · exact .inr hu
    · rintro (⟨x, hx, hu⟩ | hu)
      · exact ⟨x, (mem_joined_sessions hcheck).2 (.inl hx), hu⟩
      · exact ⟨_, (mem_joined_sessions hcheck).2 (.inr rfl), hu⟩
  have hchosen : (withSession env st r).getHostID env p.botID = k.host := by
    refine getHostID_of_pick (h.mem hk) ((hmem _).2 (.inl hhost)) fun hne hatt => ?_
    rcases (hmem _).1 hatt with hatt | hu
    · exact hlocked hne hatt
    · exact hr hne hu
  have hsame : SameHost st.call (Ports.joined p env st r).call := by
    rw [joined_call]
    refine ⟨if_neg fun hne => hne ?_, rfl⟩
    exact hchosen.trans (h.mem hk).1.symm
  exact (h.mem hk).congr hsame

/-- A join by another user than the locked one leaves the host. -/
theorem hostStaysJoin_rule {allow : Choice → Store → Op → Prop} {channelID : String}
    (hr : k.locked ≠ k.host → r.userID ≠ k.locked) :
    JoinRule allow (fun _ _ => True) p env r channelID (HostStaysState k)
      (fun state st => HostStaysJoining k (newSession env st r.userID r.connID)
        state st) where
  jobs c state w o ho h := by
    have hrows := ho.sameRows c w
    cases state with
    | none => exact HostStays.sameRows h hrows
    | some st => exact HostStaysSync.congr h rfl (.refl _) rfl hrows
  created state st w t h hcall hcheck hlen hv hi := by
    obtain ⟨hfresh, -⟩ := Table.insert?_eq_some.1 hi
    obtain ⟨c, hc, hcid⟩ := h.stays.row
    -- the chosen call is stored, so it is not the one inserted
    have hother : (Ports.joined p env st r).call.id ≠ k.callID := fun hk =>
      hfresh c hc (hcid.trans hk.symm)
    have hstays : HostStays k { w with calls := t } := by
      refine ⟨⟨c, (Table.mem_of_insert? hi).2 (.inl hc), hcid⟩, fun x hx hxid => ?_,
        h.stays.present, h.stays.absent⟩
      rcases (Table.mem_of_insert? hi).1 hx with hx | rfl
      · exact h.stays.host x hx hxid
      · exact absurd hxid hother
    refine ⟨?_, fun hk => absurd hk hother, fun hk => absurd hk hother⟩
    cases state with
    | none => exact hstays
    | some st' =>
        have h : HostStaysSync k st' w := h
        exact ⟨hstays, h.mem, h.sync⟩
  updated state st w h hcall hcheck hlen hv := by
    rcases callToJoin_eq_ok hcall with rfl | ⟨rfl, host, rfl⟩
    · have h : HostStaysSync k st w := h
      have hjoined : (Ports.joined p env st r).call.id = k.callID →
          k.HeldBy (Ports.joined p env st r).call := fun hk =>
        h.joined (joined_id.symm.trans hk) hr hcheck
      refine ⟨⟨h.toHostStays.updateCall hjoined, h.mem, h.sync⟩, hjoined,
        fun hk x => ?_⟩
      rw [mem_joined_sessions hcheck, newSession_joined,
        h.sync (joined_id.symm.trans hk)]
      exact Iff.rfl
    · refine absurd ?_ hlen
      rw [joined_sessions env hcheck]
      rfl
  create _ _ _ _ _ _ _ := trivial
  update _ _ _ _ _ _ _ := trivial
  gaveUp _ _ _ h _ := h.before
  session _ _ _ _ := trivial
  entered state st w t h hv hi := by
    have hmem : ∀ x, x ∈ t ↔ x ∈ w.sessions ∨ x = newSession env st r.userID r.connID :=
      fun x => Table.mem_of_insert? hi
    have hstays := h.before.stays
    refine ⟨⟨hstays.row, hstays.host, ?_, fun hne => ?_⟩, h.mem, fun hk x => ?_⟩
    · obtain ⟨x, hx, hxc⟩ := hstays.present
      exact ⟨x, (hmem x).2 (.inl hx), hxc⟩
    · rintro ⟨x, hx, hxc, hu⟩
      rcases (hmem x).1 hx with hx | rfl
      · exact hstays.absent hne ⟨x, hx, hxc, hu⟩
      · exact hr hne hu
    · rw [h.sync hk, hmem]
      constructor
      · rintro (⟨hx, hxc⟩ | rfl)
        · exact ⟨.inl hx, hxc⟩
        · exact ⟨.inr rfl, hk⟩
      · rintro ⟨hx | rfl, hxc⟩
        · exact .inl ⟨hx, hxc⟩
        · exact .inr rfl
  unposted st w postID threadID h _ _ :=
    HostStaysSync.congr h rfl ⟨rfl, rfl⟩ rfl (.refl w)
  posted st w postID threadID h _ _ _ := by
    have h : HostStaysSync k st w := h
    have hpost : HostStaysSync k (withPost st postID threadID) w :=
      h.congr rfl ⟨rfl, rfl⟩ rfl (.refl w)
    exact ⟨hpost.toHostStays.updateCall hpost.mem, hpost.mem, hpost.sync⟩
  post _ _ _ _ _ _ _ := trivial

end Join

/-! ## Runs -/

/-- The request is no join of the user. -/
def Handler.NotJoinedBy (u : String) : Handler → Prop
  | .join j => j.req.userID ≠ u
  | .joinBatch js => ∀ j ∈ js, j.req.userID ≠ u
  | _ => True

/-- The rules of the joins and leaves after a choice. -/
abbrev stayLogic (k : HostPick) : Logic Op Op.Resp Store Choice :=
  callRules (fun _ => KeepsPresent k) (fun _ _ => True) (HostStays k) True

section Runs

variable {k : HostPick} {channelID : String}

/-- Every join and leave meets its precondition. -/
theorem stays_wp {h : Handler} (hh : h.JoinOrLeave)
    (hjoin : k.locked ≠ k.host → h.NotJoinedBy k.locked) (p : Plugin)
    (env : Env) (w : Store) :
    wp (stayLogic k) false (h.code p env channelID) (fun h _ _ => h = false) w := by
  have hstate : ∀ {w : Store}, HostStays k w →
      HostStaysState k (storedState w channelID) w := by
    intro w hstays
    cases hst : storedState w channelID with
    | none => exact hstays
    | some st => exact hstays.sync hst
  have hjoins : ∀ j : Join, (k.locked ≠ k.host → j.req.userID ≠ k.locked) → ∀ state w,
      HostStaysState k state w →
        (addSessionToCall p j.env j.req channelID state).wp (stayLogic k)
        (fun res w' => HostStaysState k res.1 w') w :=
    fun j hj state w hw => (hostStaysJoin_rule hj).addSessionToCall lenient_true hw
  have hleaves : ∀ (l : Leave) state w, HostStaysState k state w →
      (removeUserSession p l.env l.req channelID state).wp (stayLogic k)
        (fun res w' => HostStaysState k res.1 w') w :=
    fun l state w hw => (hostStaysLeft_rule k p l.env l.req).removeUserSession
      lenient_true (R := HostStaysState k) (fun _ _ => Iff.rfl) hw
  cases h with
  | join j =>
      refine discard_rule (underLock_rule lenient_true fun w hw => ?_)
      exact Code.wp_bind.2
        (Code.wp_mono (hjoins j hjoin _ w (hstate hw)) fun _ _ hw => hw.stays)
  | joinBatch js =>
      refine discard_rule (underLock_rule lenient_true fun w hw => ?_)
      exact Code.wp_mono (addSessionsToCall_rule js (fun j hj =>
        hjoins j fun hne => hjoin hne j hj) _ w (hstate hw)) fun _ _ ⟨_, hw⟩ => hw.stays
  | leave l =>
      refine discard_rule (underLock_rule lenient_true fun w hw => ?_)
      exact Code.wp_bind.2
        (Code.wp_mono (hleaves l _ w (hstate hw)) fun _ _ hw => hw.stays)
  | leaveBatch ls =>
      refine discard_rule (underLock_rule lenient_true fun w hw => ?_)
      exact Code.wp_mono (removeSessionsFromCall_rule ls (fun l _ => hleaves l) _ w
        (hstate hw)) fun _ _ ⟨_, hw⟩ => hw.stays
  | _ => exact hh.elim

/-- Storing a call that succeeds. -/
theorem run_updateCallOf {st : CallState} {ch : Choice} {s : Store}
    (hok : ((updateCallOf st).run (exec ch) s).1 = .ok ()) :
    (updateCallOf st).run (exec ch) s = (.ok (), s.updateCall st.call) := by
  simp only [updateCallOf, store, Code.perform_bind, Code.run_op, exec_store, attempt,
    StoreOp.exec] at hok ⊢
  cases hf : ch.storeFails with
  | true =>
      rw [hf] at hok
      cases hok
  | false =>
      rw [hf] at hok
      cases hv : st.call.isValid with
      | error e =>
          rw [hv] at hok
          cases hok
      | ok _ => rfl

/-- The row of a call after it was written. -/
theorem heldBy_updateCall {s : Store} {c : Call} {u locked : String}
    (hrow : ∃ x ∈ s.calls, x.id = c.id)
    (hhost : c.getHostID = u) (hlocked : c.props.hostLockedUserID = locked) :
    (∃ x ∈ (s.updateCall c).calls, x.id = c.id) ∧
      ∀ x ∈ (s.updateCall c).calls, x.id = c.id →
      x.getHostID = u ∧ x.props.hostLockedUserID = locked := by
  constructor
  · obtain ⟨x, hx, hxid⟩ := hrow
    refine ⟨_, Store.mem_updateCall.2 ⟨x, hx, rfl⟩, ?_⟩
    split <;> exact hxid
  · intro x hx hxid
    obtain ⟨r, hr, rfl⟩ := Store.mem_updateCall.1 hx
    by_cases hk : r.id = c.id
    · rw [if_pos hk]
      exact ⟨hhost, hlocked⟩
    · rw [if_neg hk] at hxid
      exact absurd hxid hk

/-- What a successful choice leaves: the call, with the host chosen, and locked unless
it was the host already and another user is locked. -/
theorem hostChanged_ok {p : Plugin} {env : Env} {requesterID u : String} {ch : Choice}
    {store store' : Store} {st : CallState}
    (hst : storedState store channelID = some st)
    (hok : (hostChanged p env requesterID channelID u (some st)).run (exec ch) store =
      (.ok (), store')) :
    store'.sessions = store.sessions ∧ (∃ c ∈ store'.calls, c.id = st.call.id) ∧
      ∃ locked, (∀ c ∈ store'.calls, c.id = st.call.id →
        c.getHostID = u ∧ c.props.hostLockedUserID = locked) ∧
        (locked = u ∨ st.call.getHostID = u ∧ st.call.props.hostLockedUserID = locked ∧
          locked ≠ "") := by
  have hc : st.call ∈ store.calls := (storedState_active hst).1
  have hrow : ∃ x ∈ store.calls, x.id = st.call.id := ⟨st.call, hc, rfl⟩
  unfold hostChanged at hok
  dsimp only at hok
  split at hok
  · cases hok
  split at hok
  · cases hok
  split at hok
  next hhost =>
    split at hok
    next =>
      have hrun := run_updateCallOf (congrArg Prod.fst hok)
      obtain rfl : Store.updateCall store _ = store' :=
        congrArg Prod.snd (hrun.symm.trans hok)
      obtain ⟨hrow', hheld⟩ := heldBy_updateCall (c := { st.call with
        props := { st.call.props with hostLockedUserID := u } }) hrow hhost rfl
      exact ⟨rfl, hrow', u, hheld, .inl rfl⟩
    next hsome =>
      obtain rfl : store = store' := congrArg Prod.snd hok
      refine ⟨rfl, hrow, _, fun c hmem hid => ?_, .inr ⟨hhost, rfl, hsome⟩⟩
      rw [storedState_row hst hmem hid]
      exact ⟨hhost, rfl⟩
  split at hok
  · cases hok
  · rw [Code.run_bind] at hok
    cases hres : ((updateCallOf { st with
        call := { st.call with
          props := { st.call.props with
            hosts := [u], hostLockedUserID := u } } }).run (exec ch) store).1 with
    | error e =>
        rw [hres] at hok
        cases hok
    | ok _ =>
        have hrun := run_updateCallOf hres
        rw [hrun] at hok
        obtain rfl : Store.updateCall store _ = store' := congrArg Prod.snd hok
        obtain ⟨hrow', hheld⟩ := heldBy_updateCall (c := { st.call with
          props := { st.call.props with hosts := [u], hostLockedUserID := u } }) hrow
            rfl rfl
        exact ⟨rfl, hrow', u, hheld, .inl rfl⟩

variable {T N : Type} [DecidableEq T] [DecidableEq N]

/-- Each step leaves the user with a session in the call. -/
def StaysInCall (callID u : String) (_ : List (Event T Choice))
    (s : Sys Op Op.Resp Store T N) (t : T) (a : Act Choice) : Prop :=
  ∀ c o cont, a = .op c → s.code t = .op o cont →
    InCall (exec c s.world o).2.sessions callID u

/-- After `changeHost` returned success for a user in the call, in every run of joins
and leaves whose steps all leave that user in the call, the user is the host whenever
the lock is free, provided that a user who was locked when the chosen one was the host
already is not in the call and does not join. -/
theorem hostChoice_of_runs (node : T → N) (p : T → Plugin) (env : T → Env)
    (channelID : String) (h : T → Handler) (hh : ∀ t, (h t).JoinOrLeave)
    (plugin : Plugin) (reading : Env)
    (requesterID u : String) (ch : Choice) (store store' : Store) (st : CallState)
    (hst : storedState store channelID = some st)
    (hok : (hostChanged plugin reading requesterID channelID u (some st)).run
      (exec ch) store = (.ok (), store'))
    (hin : InCall store'.sessions st.call.id u)
    (hlock : st.call.getHostID = u → st.call.props.hostLockedUserID ≠ "" →
      st.call.props.hostLockedUserID ≠ u →
        ¬ InCall store.sessions st.call.id st.call.props.hostLockedUserID ∧
          ∀ t, (h t).NotJoinedBy st.call.props.hostLockedUserID)
    {tr : List (Event T Choice)} {s : Sys Op Op.Resp Store T N}
    (hr : Runs exec node (StaysInCall st.call.id u)
      (requests p env channelID store' h) tr s)
    (hfree : s.owner = none) :
    ∀ c ∈ s.world.calls, c.id = st.call.id → c.getHostID = u := by
  obtain ⟨hsess, hrow, locked, hheld, hlocked⟩ := hostChanged_ok hst hok
  -- a lock on another user is one that was found
  have hother : locked ≠ u → ¬ InCall store'.sessions st.call.id locked ∧
      ∀ t, (h t).NotJoinedBy locked := by
    intro hne
    obtain ⟨hhost, rfl, hsome⟩ := hlocked.resolve_left hne
    rw [hsess]
    exact hlock hhost hsome hne
  have h0 : HostStays ⟨st.call.id, u, locked⟩ store' :=
    ⟨hrow, hheld, hin, fun hne => (hother hne).1⟩
  have hok := hr.monitor (L := stayLogic ⟨st.call.id, u, locked⟩)
    (m := fun _ => (stayLogic ⟨st.call.id, u, locked⟩).terms)
    (Sys.OkFor.start (start_unlocked _ _) h0 fun t w =>
      stays_wp (hh t) (fun hne => (hother hne).2 t) (p t) (env t) w)
    (fun _ _ _ c o cont hok hk => hok c o cont rfl hk) (fun _ _ _ _ => trivial)
    (fun hf => hf.elim)
  exact fun c hc hid => (HostStays.host (hok.free hfree) c hc hid).1

end Runs

/-! ## Instances -/

/-- The sample call with other users in its lock and among its participants. -/
def lockedCall (locked : String) (participants : List String) : Call :=
  { sampleCall with props := { sampleCall.props with
      hostLockedUserID := locked, participants := participants } }

/-- The store with that call and alice's session. -/
def lockedStore (locked : String) (participants : List String) : Store where
  calls := ⟨[lockedCall locked participants], by simp⟩
  sessions := sampleStore.sessions
  jobs := .empty

/-- A check that a step leaves alice in the call. -/
def checkAliceStays {T : Type} (_ : List (Event T Choice))
    (s : Sys Op Op.Resp Store T Unit) (t : T) (a : Act Choice) : Bool :=
  match a, s.code t with
  | .op c, .op o _ =>
      (exec c s.world o).2.sessions.rows.any fun r => r.callID = "call" ∧
        r.userID = "alice"
  | _, _ => true

theorem staysInCall_of_check {T : Type} (tr : List (Event T Choice))
    (s : Sys Op Op.Resp Store T Unit) (t : T) (a : Act Choice)
    (h : checkAliceStays tr s t a = true) :
    StaysInCall "call" "alice" tr s t a := by
  rintro c o cont rfl hk
  simp only [checkAliceStays, hk, List.any_eq_true, decide_eq_true_eq] at h
  obtain ⟨r, hr, hrc, hu⟩ := h
  exact ⟨r, hr, hrc, hu⟩

theorem alice_inCall (locked : String) (participants : List String) :
    InCall (lockedStore locked participants).sessions "call" "alice" :=
  ⟨sampleSession, List.mem_singleton_self _, rfl, rfl⟩

/-- Alice, who is the host, is chosen and locked, and bob joins. -/
theorem hostChoice_of_bobsJoin : ∃ (tr : List (Event Unit Choice))
    (s : Sys Op Op.Resp Store Unit Unit),
    Runs exec (fun _ => ()) (StaysInCall "call" "alice")
      (requests (fun _ => .sample) (fun _ => .sample 20) "chan"
        (lockedStore "alice" ["alice"]) fun _ => bobsJoin) tr s ∧ s.owner = none ∧
    s.world.sessions.rows.map CallSession.id = ["s1", "s2"] ∧
    ∀ c ∈ s.world.calls, c.id = "call" → c.getHostID = "alice" := by
  have hsched : ((requests (fun _ => .sample) (fun _ => .sample 20) "chan"
      (lockedStore "alice" ["alice"]) fun _ : Unit => bobsJoin).sched exec (fun _ => ())
      checkAliceStays [] (inTurn () 8 Choice.works)).map
      (fun r => (r.2.owner, r.2.world.sessions.rows.map CallSession.id)) =
      some (none, ["s1", "s2"]) := by
    decide
  obtain ⟨tr, s, hr, hf⟩ := Runs.exists_of_sched staysInCall_of_check hsched
  obtain ⟨hfree, hids⟩ := Prod.mk.inj hf
  have hchoice : (hostChanged .sample (.sample 20) "alice" "chan" "alice"
      (some (stateOfCall sampleStore sampleCall))).run (exec .works) sampleStore =
      (.ok (), lockedStore "alice" ["alice"]) := by
    decide
  have hst : storedState sampleStore "chan" =
      some (stateOfCall sampleStore sampleCall) := by
    decide
  exact ⟨tr, s, hr, hfree, hids,
    hostChoice_of_runs (fun _ => ()) _ _ "chan" (fun _ => bobsJoin)
    (fun _ => trivial) .sample (.sample 20) "alice" "alice" .works sampleStore _ _ hst
    hchoice (alice_inCall _ _) (fun _ hsome => absurd rfl hsome) hr hfree⟩

/-- Dave's join. -/
def davesJoin : Handler := .join ⟨⟨"dave", "s4", "", some true, .other⟩, .sample 30⟩

/-- Dave joins, is made the host by alice, and leaves. -/
def daveHosts : Fin 3 → Handler
  | 0 => davesJoin
  | 1 => .changeHost "alice" "dave"
  | 2 => .leave ⟨⟨"dave", "s4", "s4"⟩, .sample 40⟩

/-- Dave was locked before he left, so alice is the host again; the choice of alice
succeeds and keeps dave's lock, and when dave joins he is the host, with alice in the
call. -/
theorem hostChoice_undone :
    (∃ (tr : List (Event (Fin 3) Choice)) (s : Sys Op Op.Resp Store (Fin 3) Unit),
      Runs exec (fun _ => ()) StoreWorks
        (requests (fun _ => .sample) (fun _ => .sample 20) "chan" sampleStore daveHosts)
        tr s ∧
      s.owner = none ∧ s.world = lockedStore "dave" ["alice", "dave"]) ∧
    (hostChanged .sample (.sample 50) "alice" "chan" "alice"
      (storedState (lockedStore "dave" ["alice", "dave"]) "chan")).run (exec .works)
      (lockedStore "dave" ["alice", "dave"]) =
      (.ok (), lockedStore "dave" ["alice", "dave"]) ∧
    InCall (lockedStore "dave" ["alice", "dave"]).sessions "call" "alice" ∧
    ∃ (tr : List (Event Unit Choice)) (s : Sys Op Op.Resp Store Unit Unit),
      Runs exec (fun _ => ()) (StaysInCall "call" "alice")
        (requests (fun _ => .sample) (fun _ => .sample 20) "chan"
          (lockedStore "dave" ["alice", "dave"]) fun _ => davesJoin) tr s ∧
      s.owner = none ∧ ∃ c ∈ s.world.calls, c.id = "call" ∧ c.getHostID = "dave" := by
  have hbefore : ((requests (fun _ => .sample) (fun _ => .sample 20) "chan" sampleStore
      daveHosts).sched exec (fun _ => ()) checkStoreWorks []
      (inTurn 0 8 Choice.works ++ inTurn 1 5 Choice.works ++
        inTurn 2 7 Choice.works)).map (fun r => (r.2.owner, r.2.world)) =
      some (none, lockedStore "dave" ["alice", "dave"]) := by
    decide
  have hafter : ((requests (fun _ => .sample) (fun _ => .sample 20) "chan"
      (lockedStore "dave" ["alice", "dave"]) fun _ : Unit => davesJoin).sched exec
      (fun _ => ()) checkAliceStays [] (inTurn () 9 Choice.works)).map
      (fun r => (r.2.owner, r.2.world.calls.rows.map fun c => (c.id, c.getHostID))) =
      some (none, [("call", "dave")]) := by
    decide
  obtain ⟨tr₁, s₁, hr₁, hf₁⟩ := Runs.exists_of_sched storeWorks_of_check hbefore
  obtain ⟨hfree₁, hworld⟩ := Prod.mk.inj hf₁
  obtain ⟨tr, s, hr, hf⟩ := Runs.exists_of_sched staysInCall_of_check hafter
  obtain ⟨hfree, hcalls⟩ := Prod.mk.inj hf
  refine ⟨⟨tr₁, s₁, hr₁, hfree₁, hworld⟩, by decide, alice_inCall _ _, tr, s,
    hr, hfree, ?_⟩
  have hrow : ("call", "dave") ∈ s.world.calls.rows.map fun c =>
      (c.id, c.getHostID) := by
    rw [hcalls]
    exact List.mem_singleton_self _
  obtain ⟨c, hc, heq⟩ := List.mem_map.1 hrow
  obtain ⟨hid, hhost⟩ := Prod.mk.inj heq
  exact ⟨c, hc, hid, hhost⟩

end CallsPlugin.Ports
