import CallsPlugin.Ports.ActiveCall

/-!
# The limit on participants

`addUserSession` compares the number of sessions of the call in memory with the limit. 
The call in memory has the sessions of the store, also in the middle of a batch and
after writes that failed, so that is the number of rows.
-/

namespace CallsPlugin.Ports

open CallsPlugin.Verified
open CallsPlugin.Ports.Public CallsPlugin.Ports.Db

/-! ## Counting the sessions of a call -/

/-- The number of session rows of the call. -/
def sessionCount (s : Store) (callID : String) : Nat :=
  (s.getCallSessions callID).rows.length

/-- Sessions have a call, and no call has more than `limit` of them. -/
structure Within (limit : Nat) (s : Store) : Prop where
  calls : ∀ r ∈ s.sessions, ∃ c ∈ s.calls, c.id = r.callID
  fits : ∀ callID, sessionCount s callID ≤ limit

section Count

variable {s s' : Store} {callID : String}

/-- Tables with the same rows have as many of them. -/
theorem length_eq_of_mem_iff {t t' : Table CallSession.id} (h : ∀ r, r ∈ t ↔ r ∈ t') :
    t.rows.length = t'.rows.length := by
  have hperm : t.rows.Perm t'.rows :=
    (List.perm_ext_iff_of_nodup t.nodup.of_map t'.nodup.of_map).2 h
  exact hperm.length_eq

theorem sessionCount_eq_zero (h : ∀ r ∈ s.sessions, r.callID ≠ callID) :
    sessionCount s callID = 0 := by
  have hnil : (s.getCallSessions callID).rows = [] := by
    refine List.eq_nil_iff_forall_not_mem.2 fun r hr => ?_
    obtain ⟨hr, hc⟩ := Store.mem_getCallSessions.1 hr
    exact h r hr hc
  unfold sessionCount
  rw [hnil]
  rfl

/-- A new row counts for its call. -/
theorem sessionCount_insert {r : CallSession} {t : Table CallSession.id}
    (h : s.sessions.insert? r = some t) : sessionCount { s with sessions := t } callID =
      sessionCount s callID + if r.callID = callID then 1 else 0 := by
  have hrows : t.rows = s.sessions.rows ++ [r] := (Table.insert?_eq_some.1 h).2
  show (t.rows.filter _).length = (s.sessions.rows.filter _).length + _
  rw [hrows, List.filter_append, List.length_append]
  congr 1
  by_cases hr : r.callID = callID
  · simp [hr]
  · simp [hr]

/-- No row is gone that was not deleted. -/
theorem sessionCount_mono (h : ∀ r ∈ s'.sessions, r ∈ s.sessions) :
    sessionCount s' callID ≤ sessionCount s callID := by
  refine (List.subperm_of_subset (s'.getCallSessions callID).nodup.of_map ?_).length_le
  intro r hr
  obtain ⟨hr, hc⟩ := Store.mem_getCallSessions.1 hr
  exact Store.mem_getCallSessions.2 ⟨h r hr, hc⟩

end Count

/-- What a step requires so that it keeps to the limit. -/
def LeavesRoom (limit : Nat) (s : Store) : Op → Prop
  | .store (.createCallSession r) => sessionCount s r.callID < limit
  | _ => True

theorem leavesRoom_lenient (limit : Nat) : Lenient (LeavesRoom limit) := by
  intro w o ho
  cases o with
  | store o => cases o <;> first | trivial | exact (ho trivial).elim
  | _ => trivial

/-! ## One operation -/

theorem sessionCount_updateCallSession (s : Store) (r : CallSession) (callID : String) :
    sessionCount (s.updateCallSession r) callID = sessionCount s callID := by
  have hcall : ∀ x : CallSession,
      (if x.id = r.id then Store.setSession x r else x).callID =
      x.callID := by
    intro x
    split <;> rfl
  show ((s.sessions.rows.map _).filter _).length = (s.sessions.rows.filter _).length
  rw [List.filter_map, List.length_map]
  refine congrArg List.length (List.filter_congr fun x _ => ?_)
  simp only [Function.comp_apply, hcall]

/-- An operation that leaves room keeps to the limit. -/
theorem sessionCount_exec {limit : Nat} {s : Store}
    (h : ∀ callID, sessionCount s callID ≤ limit)
    {o : Op} (hpre : LeavesRoom limit s o) (c : Choice) (callID : String) :
    sessionCount (exec c s o).2 callID ≤ limit := by
  cases o with
  | store o =>
      rw [exec_store]
      unfold attempt
      split
      · exact h callID
      cases o with
      | createCallSession r =>
          simp only [StoreOp.exec]
          cases hi : insertRow "call session" r.isValid s.sessions r with
          | error e => exact h callID
          | ok t =>
              have hcount : sessionCount { s with sessions := t } callID =
                  sessionCount s callID + if r.callID = callID then 1 else 0 :=
                sessionCount_insert (insertRow_eq_ok.1 hi).2
              have hroom : sessionCount s r.callID < limit := hpre
              dsimp only
              rw [hcount]
              split
              next he => rw [← he]; omega
              next => exact h callID
      | updateCallSession r =>
          simp only [StoreOp.exec]
          split
          · exact h callID
          · exact (sessionCount_updateCallSession s r callID).le.trans (h callID)
      | deleteCallSession id =>
          exact (sessionCount_mono fun r hr =>
            (Store.mem_deleteCallSession.1 hr).1).trans (h callID)
      | deleteCallsSessions id =>
          exact (sessionCount_mono fun r hr =>
            (Store.mem_deleteCallsSessions.1 hr).1).trans (h callID)
      | createCall call =>
          simp only [StoreOp.exec]
          split <;> exact h callID
      | updateCall call =>
          simp only [StoreOp.exec]
          split <;> exact h callID
      | createCallJob j =>
          simp only [StoreOp.exec]
          split <;> exact h callID
      | updateCallJob j =>
          simp only [StoreOp.exec]
          split <;> exact h callID
      | _ => exact h callID
  | _ => exact h callID

/-! ## The call in memory -/

/-- The state shared by a batch has the sessions of its call in the store. -/
structure LimitSync (limit : Nat) (state : Option CallState) (s : Store) : Prop extends
    Within limit s where
  row : ∀ st, state = some st → ∃ c ∈ s.calls, c.id = st.call.id
  sessions : ∀ st, state = some st →
    ∀ r, r ∈ st.sessions ↔ r ∈ s.sessions ∧ r.callID = st.call.id

/-- The sessions of the call that the state has. -/
def CallState.sessionCount (state : Option CallState) (s : Store) : Nat :=
  match state with
  | none => 0
  | some st => Ports.sessionCount s st.call.id

section Sync

variable {limit : Nat} {state : Option CallState} {st : CallState} {w : Store}

/-- The number in memory is that of the store. -/
theorem LimitSync.length_eq (h : LimitSync limit (some st) w) :
    st.sessions.rows.length = sessionCount w st.call.id :=
  length_eq_of_mem_iff fun r =>
    (h.sessions st rfl r).trans Store.mem_getCallSessions.symm

theorem Within.limitSync (h : Within limit w) (channelID : String) :
    LimitSync limit (storedState w channelID) w := by
  refine ⟨h, fun st hst => ?_, fun st hst r => ?_⟩
  · exact ⟨st.call, (storedState_active hst).1, rfl⟩
  · exact mem_storedState_sessions hst

/-- Only calls and jobs were written. -/
theorem LimitSync.congr (h : LimitSync limit state w) {w' : Store}
    (hsess : w'.sessions = w.sessions)
    (hcalls : ∀ c ∈ w.calls, ∃ c' ∈ w'.calls, c'.id = c.id) :
    LimitSync limit state w' := by
  have hrow : ∀ id, (∃ c ∈ w.calls, c.id = id) → ∃ c ∈ w'.calls, c.id = id := by
    rintro id ⟨c, hc, rfl⟩
    exact hcalls c hc
  refine ⟨⟨fun r hr => hrow _ (h.calls r (hsess ▸ hr)), fun callID => ?_⟩,
    fun st hst => hrow _ (h.row st hst), fun st hst => hsess ▸ h.sessions st hst⟩
  show ((w'.sessions.filter _).rows).length ≤ limit
  rw [hsess]
  exact h.fits callID

theorem LimitSync.updateCall (h : LimitSync limit state w) (call : Call) :
    LimitSync limit state (w.updateCall call) := by
  refine h.congr rfl fun c hc => ⟨_, Store.mem_updateCall.2 ⟨c, hc, rfl⟩, ?_⟩
  split <;> rfl

theorem LimitSync.jobsOnly (h : LimitSync limit state w) {o : Op} (ho : o.JobsOnly)
    (c : Choice) :
    LimitSync limit state (exec c w o).2 := by
  obtain ⟨hcalls, hsessions⟩ := ho.sameRows c w
  exact h.congr hsessions fun c hc => ⟨c, hcalls ▸ hc, rfl⟩

/-- The same call with the same sessions. -/
theorem LimitSync.same (h : LimitSync limit (some st) w) {st' : CallState}
    (hid : st'.call.id = st.call.id) (hsess : st'.sessions = st.sessions) :
    LimitSync limit (some st') w := by
  refine ⟨h.toWithin, fun x hx => ?_, fun x hx => ?_⟩ <;> cases hx
  · rw [hid]
    exact h.row st rfl
  · rw [hid, hsess]
    exact h.sessions st rfl

end Sync

/-! ## Joins -/

theorem checkJoin_room {p : Plugin} {limit : Nat} {st : CallState} {connID : String}
    (hp : p.maxCallParticipants = some (limit : Int)) (hpos : 0 < limit)
    (h : checkJoin p st connID = .ok ()) : st.sessions.rows.length < limit := by
  unfold checkJoin at h
  split at h
  · cases h
  split at h
  · cases h
  split at h
  · cases h
  next hallowed =>
    have hallowed : joinAllowed p st = true := not_not.1 hallowed
    simp only [joinAllowed, hp, decide_eq_true_eq] at hallowed
    omega

/-- The call of a join is stored, its session is not. -/
structure LimitJoining (limit : Nat) (env : Env) (r : JoinRequest)
    (state : Option CallState) (st : CallState) (w : Store) : Prop where
  before : LimitSync limit state w
  row : ∃ c ∈ w.calls, c.id = st.call.id
  sessions : ∀ x, x ∈ st.sessions ↔
    (x ∈ w.sessions ∧ x.callID = st.call.id) ∨ x = newSession env st r.userID r.connID
  room : sessionCount w st.call.id < limit

section Join

variable {p : Plugin} {env : Env} {r : JoinRequest} {channelID : String} {limit : Nat}
  {state : Option CallState} {st : CallState} {w : Store}

/-- The sessions of the state a join leads to. -/
theorem mem_joined (hcheck : checkJoin p st r.connID = .ok ())
    (hsync : ∀ x, x ∈ st.sessions ↔ x ∈ w.sessions ∧ x.callID = st.call.id)
    (x : CallSession) :
    x ∈ (joined p env st r).sessions ↔
      (x ∈ w.sessions ∧ x.callID = (joined p env st r).call.id) ∨
        x = newSession env (joined p env st r) r.userID r.connID := by
  have hid : (joined p env st r).call.id = st.call.id := by rw [joined_call]
  have hnew : newSession env (joined p env st r) r.userID r.connID =
      newSession env st r.userID r.connID := by
    unfold newSession
    rw [hid]
  show x ∈ (joined p env st r).sessions.rows ↔ _
  rw [joined_sessions env hcheck, List.mem_append, List.mem_singleton, hid, hnew,
    ← hsync x]
  exact Iff.rfl

theorem LimitSync.created (h : LimitSync limit state w) (hpos : 0 < limit)
    {t : Table Call.id} (hcheck : checkJoin p st r.connID = .ok ())
    (hlen : (joined p env st r).sessions.rows.length = 1)
    (hi : w.calls.insert? (joined p env st r).call = some t) :
    LimitJoining limit env r state (joined p env st r) { w with calls := t } := by
  have hid : (joined p env st r).call.id = st.call.id := by rw [joined_call]
  have hnil : st.sessions.rows = [] := by
    rw [joined_length hcheck] at hlen
    exact List.eq_nil_of_length_eq_zero (by omega)
  -- the id of the call is new, so that no session has it
  have hfresh : ∀ x ∈ w.sessions, x.callID ≠ st.call.id := by
    intro x hx hc
    obtain ⟨c, hcmem, hck⟩ := h.calls x hx
    exact (Table.insert?_eq_some.1 hi).1 c hcmem (hck.trans (hc.trans hid.symm))
  have hsync : ∀ x, x ∈ st.sessions ↔ x ∈ w.sessions ∧ x.callID = st.call.id := by
    intro x
    refine iff_of_false (fun hx => ?_) fun hx => hfresh x hx.1 hx.2
    have hx : x ∈ st.sessions.rows := hx
    rw [hnil] at hx
    cases hx
  refine ⟨h.congr rfl fun c hc => ⟨c, (Table.mem_of_insert? hi).2 (.inl hc), rfl⟩,
    ⟨_, (Table.mem_of_insert? hi).2 (.inr rfl), rfl⟩, mem_joined hcheck hsync, ?_⟩
  have hzero : sessionCount { w with calls := t } (joined p env st r).call.id = 0 :=
    sessionCount_eq_zero fun x hx => hid ▸ hfresh x hx
  rw [hzero]
  exact hpos

theorem LimitSync.updated (h : LimitSync limit state w)
    (hp : p.maxCallParticipants = some (limit : Int))
    (hpos : 0 < limit) (hcall : callToJoin p env state r channelID = .ok st)
    (hcheck : checkJoin p st r.connID = .ok ())
    (hlen : (joined p env st r).sessions.rows.length ≠ 1) :
    LimitJoining limit env r state (joined p env st r)
      (w.updateCall (joined p env st r).call) := by
  have hid : (joined p env st r).call.id = st.call.id := by rw [joined_call]
  obtain rfl := callToJoin_of_length hcall hcheck hlen
  have h' := h.updateCall (joined p env st r).call
  refine ⟨h', hid ▸ h'.row st rfl, mem_joined hcheck (h.sessions st rfl), ?_⟩
  rw [hid, ← h'.length_eq]
  exact checkJoin_room hp hpos hcheck

/-- A join keeps the state in step with the store, and leaves room. -/
theorem limitJoin_rule (hp : p.maxCallParticipants = some (limit : Int))
    (hpos : 0 < limit) (allow : Choice → Store → Op → Prop) (env : Env)
    (r : JoinRequest) (channelID : String) :
    JoinRule allow (LeavesRoom limit) p env r channelID (LimitSync limit)
      (LimitJoining limit env r) where
  jobs c state w o ho h := h.jobsOnly ho c
  created _ _ _ _ h _ hcheck hlen _ hi := h.created hpos hcheck hlen hi
  updated _ _ _ h hcall hcheck hlen _ := h.updated hp hpos hcall hcheck hlen
  create _ _ _ _ _ _ _ := trivial
  update _ _ _ _ _ _ _ := trivial
  gaveUp _ _ _ h _ := h.before
  session _ _ _ h := h.room
  entered state st w t h _ hi := by
    have hmem := fun x => Table.mem_of_insert? (x := x) hi
    refine ⟨⟨fun x hx => ?_, fun callID => ?_⟩, fun x hx => ?_, fun x hx y => ?_⟩
    · rcases (hmem x).1 hx with hx | rfl
      · exact h.before.calls x hx
      · exact h.row
    · rw [sessionCount_insert hi]
      split
      next he =>
        have hroom := h.room
        have he : st.call.id = callID := he
        rw [← he]
        omega
      next => exact h.before.fits callID
    · cases hx
      exact h.row
    · cases hx
      refine (h.sessions y).trans ⟨?_, ?_⟩
      · rintro (⟨hy, hc⟩ | rfl)
        · exact ⟨(hmem y).2 (.inl hy), hc⟩
        · exact ⟨(hmem _).2 (.inr rfl), rfl⟩
      · rintro ⟨hy, hc⟩
        exact ((hmem y).1 hy).imp_left fun hy => ⟨hy, hc⟩
  unposted st w postID threadID h _ _ := h.same rfl rfl
  posted st w postID threadID h _ _ _ :=
    have h' : LimitSync limit (some (withPost st postID threadID)) w := h.same rfl rfl
    h'.updateCall _
  post _ _ _ _ _ _ _ := trivial

end Join

/-! ## Leaves -/

/-- A leave keeps the state in step with the store. -/
theorem limitLeave_rule (limit : Nat) (allow : Choice → Store → Op → Prop) (p : Plugin)
    (env : Env) (r : LeaveRequest) : LeaveRule allow (LeavesRoom limit) p env r
      (fun st w => LimitSync limit (some st) w)
      (fun st w => LimitSync limit (some st) w) where
  jobs :=
    { op c st w o ho h := h.jobsOnly ho c
      mem st st' w hsame h := h.same (congrArg Call.id hsame.1) hsame.2 }
  deleted st us w c h _ _ _ := by
    have hid := (screenLeftCall_same env r st.call).1
    refine ⟨⟨fun x hx => h.calls x (Store.mem_deleteCallSession.1 hx).1,
      fun callID => ?_⟩, fun x hx => ?_, fun x hx y => ?_⟩
    · exact (sessionCount_mono fun x hx => (Store.mem_deleteCallSession.1 hx).1).trans
        (h.fits callID)
    · cases hx
      rw [withoutSession, hid]
      exact h.row st rfl
    · cases hx
      rw [withoutSession, Table.mem_erase, Store.mem_deleteCallSession,
        h.sessions st rfl, hid]
      exact and_right_comm
  gaveUp _ _ h _ := h
  unsaved st w h _ := h.same (left_id r) rfl
  saved st w h _ := LimitSync.updateCall (h.same (left_id r) rfl) _
  update _ _ _ := trivial

/-! ## The answer of a join -/

/-- The error of a write starts with its text. -/
theorem write_answer (w : Write) :
    (write w).All fun res => ∀ e, res = .error e → ∃ e', e = w.what ++ e' := by
  intro res
  cases res with
  | error e' =>
      intro _ e he
      cases he
      exact ⟨e', rfl⟩
  | ok _ =>
      intro e he
      cases he

theorem writeAll_answer (ws : List Write) :
    (writeAll ws).All fun res => ∀ e, res = .error e →
    ∃ w ∈ ws, ∃ e', e = w.what ++ e' := by
  induction ws with
  | nil =>
      intro e he
      cases he
  | cons w ws ih =>
      refine Code.all_bind.2 ((write_answer w).mono fun res hres => ?_)
      cases res with
      | error e =>
          intro e₁ he
          obtain ⟨e', rfl⟩ := hres e rfl
          cases he
          exact ⟨w, List.mem_cons_self .., e', rfl⟩
      | ok _ =>
          refine ih.mono fun res hres e he => ?_
          obtain ⟨w', hw', e', rfl⟩ := hres e he
          exact ⟨w', List.mem_cons_of_mem _ hw', e', rfl⟩

/-- The text of a failed write is not the refusal for the limit. -/
theorem failed_ne_limits (what e : String) (h : what.toList.head? = some 'f') :
    what ++ e ≠ "user cannot join because of limits" := by
  intro he
  have hhead : (what ++ e).toList.head? = some 'f' := by
    rw [String.toList_append, List.head?_append, h]
    rfl
  rw [he] at hhead
  exact absurd hhead (by decide)

theorem joinWrites_what {p : Plugin} {env : Env} {state : CallState}
    {jobs : List CallJob} {r : JoinRequest} {w : Write}
    (h : w ∈ joinWrites p env state jobs r) :
    w.what.toList.head? = some 'f' := by
  unfold joinWrites at h
  rcases List.mem_append.1 h with h | h
  · obtain ⟨job, -, rfl⟩ := List.mem_map.1 h
    show "failed to update call job: ".toList.head? = some 'f'
    decide
  rcases List.mem_cons.1 h with rfl | h
  · unfold callWrite
    split
    · show "failed to create call: ".toList.head? = some 'f'
      decide
    · show "failed to update call: ".toList.head? = some 'f'
      decide
  · obtain rfl := List.mem_singleton.1 h
    show "failed to create call session: ".toList.head? = some 'f'
    decide

/-- A join answers with the refusal of its checks. -/
theorem addSessionToCall_refused {p : Plugin} {env : Env} {state : Option CallState}
    {r : JoinRequest} {channelID e : String}
    (h : joinChecks p env state r channelID = .error e) :
    (addSessionToCall p env r channelID state).All fun res => res.2 = .error e := by
  refine Code.all_bind.2 ?_
  have hadd : (addUserSession p env state r channelID).All fun res => res =
      (state, .error e) := by
    rw [addUserSession, tryAddUserSession_eq, h]
    exact Code.all_bind.2 (Code.all_bind.2 (Code.all_of_forall (fun _ => rfl) _))
  refine hadd.mono fun res hres => ?_
  subst hres
  exact fun _ => rfl

/-- A join that passes its checks is not refused for the limit. -/
theorem addSessionToCall_passed {p : Plugin} {env : Env} {state : Option CallState}
    {r : JoinRequest} {channelID : String} {st : CallState} {jobs : List CallJob}
    (h : joinChecks p env state r channelID = .ok (st, jobs)) :
    (addSessionToCall p env r channelID state).All fun res =>
      res.2 ≠ .error "user cannot join because of limits" := by
  refine Code.all_bind.2 ?_
  have hadd : (addUserSession p env state r channelID).All fun res =>
      res.2 ≠ .error "user cannot join because of limits" := by
    rw [addUserSession, tryAddUserSession_eq, h]
    refine Code.all_bind.2
      (Code.all_bind.2 ((writeAll_answer _).mono fun res hres => ?_))
    cases res with
    | error e =>
        intro he
        obtain ⟨w, hw, e', rfl⟩ := hres e rfl
        exact failed_ne_limits _ e' (joinWrites_what hw) (Except.error.inj he)
    | ok _ => exact Code.all_bind.2 (Code.all_of_forall (fun _ he => by cases he) _)
  refine hadd.mono fun res hres => ?_
  obtain ⟨state', res⟩ := res
  cases res with
  | error e => exact fun _ => hres
  | ok _ =>
      cases state' with
      | none => exact fun he => by cases he
      | some st =>
          exact Code.all_bind.2 (Code.all_of_forall (fun _ => Code.all_bind.2
            (Code.all_of_forall (fun _ he => by cases he) _)) _)

/-! ## Joins under the lock -/

/-- The join `j` of a batch may be processed with this state and this store, if the
batch is processed with those. -/
inductive Processed (p : Plugin) (channelID : String) :
    List Join → Option CallState → Store → Join → Option CallState → Store → Prop
  | head (j : Join) (rest : List Join) (state : Option CallState) (w : Store) :
      Processed p channelID (j :: rest) state w j state w
  | tail {j j' : Join} {rest : List Join} {state state' state'' : Option CallState}
      {w w' w'' : Store} {res : Except String Unit}
      (hy : (addSessionToCall p j.env j.req channelID state).Yields exec w
        (state', res) w')
      (h : Processed p channelID rest state' w' j' state'' w'') :
      Processed p channelID (j :: rest) state w j' state'' w''

/-- All checks of a join but the one for the limit pass. -/
def PassesOther (p : Plugin) (env : Env) (state : Option CallState) (r : JoinRequest)
    (channelID : String) : Prop :=
  ∃ res, joinChecks { p with maxCallParticipants := none } env state r channelID =
    .ok res

/-- The rules of joins and leaves under a limit. -/
abbrev limitLogic (limit : Nat) : Logic Op Op.Resp Store Choice :=
  callRules (fun _ _ _ _ => True) (LeavesRoom limit) (Within limit) True

section Under

variable {p : Plugin} {channelID : String} {limit : Nat}

theorem limitJoin_wp (hp : p.maxCallParticipants = some (limit : Int))
    (hpos : 0 < limit) (env : Env) (r : JoinRequest) {state : Option CallState}
    {w : Store} (h : LimitSync limit state w) :
    (addSessionToCall p env r channelID state).wp (limitLogic limit)
      (fun res w' => LimitSync limit res.1 w') w :=
  (limitJoin_rule hp hpos _ env r channelID).addSessionToCall
    (leavesRoom_lenient limit) h

theorem limitLeave_wp (env : Env) (r : LeaveRequest) {state : Option CallState}
    {w : Store} (h : LimitSync limit state w) :
      (removeUserSession p env r channelID state).wp
      (limitLogic limit) (fun res w' => LimitSync limit res.1 w') w :=
  (limitLeave_rule limit _ p env r).removeUserSession (leavesRoom_lenient limit)
    (fun _ _ => Iff.rfl) h

/-- In a batch every join is processed with a state in step with the store. -/
theorem LimitSync.processed (hp : p.maxCallParticipants = some (limit : Int))
    (hpos : 0 < limit) {js : List Join} {j : Join} {state state' : Option CallState}
    {w w' : Store} (h : LimitSync limit state w)
    (hproc : Processed p channelID js state w j state' w') :
    LimitSync limit state' w' := by
  induction hproc with
  | head => exact h
  | @tail j₀ _ _ _ state₁ _ _ w₁ _ res hy _ ih =>
      have hjoin := @limitJoin_wp p channelID limit hp hpos j₀.env j₀.req _ _ h
      have hstep := Code.wp_yields (fun _ _ _ => trivial) hjoin (a := (state₁, res)) hy
      exact ih hstep

/-- A join that passes the other checks fails the check of the limit when the call is
full. -/
theorem LimitSync.full_iff (hp : p.maxCallParticipants = some (limit : Int))
    (hpos : 0 < limit) {state : Option CallState} {w : Store}
    (h : LimitSync limit state w) {env : Env}
    {r : JoinRequest} (hother : PassesOther p env state r channelID) :
    joinChecks p env state r channelID = .error "user cannot join because of limits" ↔
      CallState.sessionCount state w = limit := by
  obtain ⟨⟨st, jobs⟩, hres⟩ := hother
  obtain ⟨hcall, hcheck, hjobs⟩ := joinChecks_eq_ok hres
  have hcall : callToJoin p env state r channelID = .ok st := hcall
  have hjobs : jobsOf p st r = .ok jobs := hjobs
  obtain ⟨hend, hconn⟩ : ¬ st.call.endAt > 0 ∧
      ¬ (st.sessions.find? r.connID).isSome := by
    unfold checkJoin at hcheck
    split at hcheck
    · cases hcheck
    next hend =>
      split at hcheck
      · cases hcheck
      next hconn => exact ⟨hend, hconn⟩
  have hallowed : joinAllowed p st = true ↔ st.sessions.rows.length < limit := by
    simp only [joinAllowed, hp, decide_eq_true_eq]
    omega
  -- the number in memory is that of the store
  have hcount : st.sessions.rows.length = CallState.sessionCount state w := by
    rcases callToJoin_eq_ok hcall with rfl | ⟨rfl, host, rfl⟩
    · exact h.length_eq
    · rfl
  have hfits : CallState.sessionCount state w ≤ limit := by
    cases state with
    | none => exact Nat.zero_le _
    | some st₀ => exact h.fits _
  by_cases hroom : st.sessions.rows.length < limit
  · have hok : joinChecks p env state r channelID = .ok (st, jobs) := by
      simp only [joinChecks, hcall, checkJoin, if_neg hend, if_neg hconn,
        hallowed.2 hroom, not_true_eq_false, if_false, hjobs]
    rw [hok]
    exact iff_of_false (fun he => by cases he) (by omega)
  · have hno : ¬ joinAllowed p st = true := fun ha => hroom (hallowed.1 ha)
    have herr : joinChecks p env state r channelID =
        .error "user cannot join because of limits" := by
      simp only [joinChecks, hcall, checkJoin, if_neg hend, if_neg hconn, if_pos hno]
    rw [herr]
    exact iff_of_true rfl (by omega)

/-- What a join that passes the other checks answers. -/
theorem LimitSync.refused_iff (hp : p.maxCallParticipants = some (limit : Int))
    (hpos : 0 < limit) {state state' : Option CallState} {w w' : Store}
    (h : LimitSync limit state w) {env : Env} {r : JoinRequest}
    {res : Except String Unit} (hother : PassesOther p env state r channelID)
    (hy : (addSessionToCall p env r channelID state).Yields exec w (state', res) w') :
    res = .error "user cannot join because of limits" ↔
      CallState.sessionCount state w = limit := by
  have hfull := h.full_iff hp hpos hother
  have hsame : joinChecks p env state r channelID =
      .error "user cannot join because of limits" ↔
      res = .error "user cannot join because of limits" := by
    cases hchecks : joinChecks p env state r channelID with
    | error e =>
        have hres : res = .error e := (addSessionToCall_refused hchecks).yields hy
        rw [hres]
        exact ⟨fun he => congrArg _ (Except.error.inj he),
          fun he => congrArg _ (Except.error.inj he)⟩
    | ok checked =>
        have hres : res ≠ .error "user cannot join because of limits" :=
          (addSessionToCall_passed hchecks).yields hy
        exact iff_of_false (fun he => nomatch he) hres
  exact hsame.symm.trans hfull

/-- A join or a leave meets its precondition. -/
theorem limit_wp (hp : p.maxCallParticipants = some (limit : Int)) (hpos : 0 < limit)
    {h : Handler} (hh : h.JoinOrLeave) (env : Env) (channelID : String) (w : Store) :
    wp (limitLogic limit) false (h.code p env channelID)
      (fun h _ _ => h = false) w := by
  have hquiet := leavesRoom_lenient limit
  cases h with
  | join j =>
      refine discard_rule (underLock_rule hquiet fun w hw => ?_)
      exact Code.wp_bind.2
        (Code.wp_mono (limitJoin_wp hp hpos j.env j.req (hw.limitSync channelID))
        fun _ _ h => h.toWithin)
  | joinBatch js =>
      refine discard_rule (underLock_rule hquiet fun w hw => ?_)
      exact Code.wp_mono (addSessionsToCall_rule js (fun j _ _ _ h =>
        limitJoin_wp hp hpos j.env j.req h) _ w (hw.limitSync channelID))
          fun _ _ ⟨_, h⟩ => h.toWithin
  | leave l =>
      refine discard_rule (underLock_rule hquiet fun w hw => ?_)
      exact Code.wp_bind.2
        (Code.wp_mono (limitLeave_wp l.env l.req (hw.limitSync channelID))
        fun _ _ h => h.toWithin)
  | leaveBatch ls =>
      refine discard_rule (underLock_rule hquiet fun w hw => ?_)
      exact Code.wp_mono (removeSessionsFromCall_rule ls (fun l _ _ _ h =>
        limitLeave_wp l.env l.req h) _ w (hw.limitSync channelID))
          fun _ _ ⟨_, h⟩ => h.toWithin
  | _ => exact hh.elim

end Under

/-! ## Runs -/

section Runs

variable {T N : Type} [DecidableEq T] [DecidableEq N]

/-- **The limit on participants.**  In every run of joins and leaves on a channel, on
nodes that all have the limit, no call ever has more sessions than that; and whoever
takes the lock next with a batch of joins, each that passes the other checks answers
that it is refused for the limit exactly when at the moment it is processed the call has
that many sessions. -/
theorem participantLimit_of_runs (node : T → N) (p : T → Plugin) (env : T → Env)
    (channelID : String) (store : Store) (h : T → Handler) (hh : ∀ t, (h t).JoinOrLeave)
    {limit : Nat} (hpos : 0 < limit)
    (hp : ∀ t, (p t).maxCallParticipants = some (limit : Int)) (h0 : Within limit store)
    {tr : List (Event T Choice)} {s : Sys Op Op.Resp Store T N}
    (hr : Runs exec node (fun _ _ _ _ => True)
      (requests p env channelID store h) tr s) :
    (∀ callID, sessionCount s.world callID ≤ limit) ∧
      (s.owner = none → ∀ t js j state w,
        Processed (p t) channelID js (storedState s.world channelID) s.world j state w →
        PassesOther (p t) j.env state j.req channelID → ∀ state' res w',
        (addSessionToCall (p t) j.env j.req channelID state).Yields exec w
          (state', res) w' →
        (res = .error "user cannot join because of limits" ↔
          CallState.sessionCount state w = limit)) := by
  have hstart : (requests p env channelID store h : Sys Op Op.Resp Store T N).OkFor
      (limitLogic limit) (fun _ => (limitLogic limit).terms) node :=
    .start (start_unlocked _ _) h0 fun t w =>
      limit_wp (hp t) hpos (hh t) (env t) channelID w
  have hmonitor : ∀ {tr s}, Runs exec node (fun _ _ _ _ => True)
      (requests p env channelID store h) tr s →
      s.OkFor (limitLogic limit) (fun _ => (limitLogic limit).terms) node := fun hr =>
    hr.monitor hstart (fun _ _ _ _ _ _ _ _ => trivial) (fun _ _ _ _ => trivial)
      fun hf => hf.elim
  constructor
  · induction hr with
    | refl => exact h0.fits
    | @step tr s s' t a hr hok hs ih =>
        have hsafe := hmonitor hr
        obtain ⟨k, -, -, -, -, rfl⟩ | ⟨k, -, -, -, -, rfl⟩ | ⟨k, -, -, -, rfl⟩ |
          ⟨k, -, -, rfl⟩ | ⟨c, o, k, rfl, hk, rfl⟩ := Sys.step_cases hs
        · exact ih
        · exact ih
        · exact ih
        · have hworld : (s.release node t).world = s.world := by
            unfold Sys.release
            split <;> rfl
          intro callID
          show sessionCount (s.release node t).world callID ≤ limit
          rw [hworld]
          exact ih callID
        · by_cases hown : s.owner = some t
          · exact sessionCount_exec ih (hsafe.pre_of_op hown hk) c
          · -- what is done without the lock is harmless
            rcases hsafe.harmless hown hk (h := s.holder t)
                (Sys.holder_ne_self hown) trivial with
              hw | ⟨hno, hinv⟩
            · intro callID
              have hw : (exec c s.world o).2 = s.world := hw
              show sessionCount (exec c s.world o).2 callID ≤ limit
              rw [hw]
              exact ih callID
            · exact (hinv (hsafe.free (Sys.owner_of_nobody hno))).fits
  · intro hfree t js j state w hproc hother state' res w' hy
    have hw : Within limit s.world := (hmonitor hr).free hfree
    have hsync := (hw.limitSync channelID).processed (hp t) hpos hproc
    exact hsync.refused_iff (hp t) hpos hother hy

end Runs

/-! ## An instance -/

/-- Nodes that allow one participant. -/
def onlyOne : Plugin := { Plugin.sample with maxCallParticipants := some 1 }

theorem emptyStore_within (limit : Nat) : Within limit emptyStore where
  calls r hr := absurd hr (Table.not_mem_empty r)
  fits _ := Nat.zero_le limit

/-- With a limit of one, bob joins and carol is refused. -/
theorem participantLimit_of_one : ∃ (tr : List (Event Unit Choice))
    (s : Sys Op Op.Resp Store Unit Unit),
    Runs exec id (fun _ _ _ _ => True)
      (requests (fun _ => onlyOne) (fun _ => .sample 20) "chan" emptyStore fun _ =>
        bobsJoin) tr s ∧
    (∀ callID, sessionCount s.world callID ≤ 1) ∧
    ∀ state' res w',
      (addSessionToCall onlyOne (.sample 30) carolJoins "chan"
        (storedState s.world "chan")).Yields exec s.world (state', res) w' →
      res = .error "user cannot join because of limits" := by
  have hsched : ((requests (fun _ => onlyOne) (fun _ => .sample 20) "chan" emptyStore
      fun _ : Unit => bobsJoin).sched exec id (fun _ _ _ _ => true) []
      (inTurn () 9 Choice.works)).map
      (fun r => (r.2.owner,
        CallState.sessionCount (storedState r.2.world "chan") r.2.world,
        (joinChecks { onlyOne with maxCallParticipants := none } (.sample 30)
          (storedState r.2.world "chan") carolJoins "chan").isOk)) =
          some (none, 1, true) := by
    decide
  obtain ⟨tr, s, hr, hf⟩ := Runs.exists_of_sched (fun _ _ _ _ _ => trivial) hsched
  obtain ⟨hfree, hf⟩ := Prod.mk.inj hf
  obtain ⟨hfull, hok⟩ := Prod.mk.inj hf
  have hlimit := participantLimit_of_runs id (fun _ => onlyOne) _ "chan" emptyStore
    (fun _ => bobsJoin) (fun _ => trivial) Nat.one_pos (fun _ => rfl)
    (emptyStore_within 1) hr
  have hother : PassesOther onlyOne (.sample 30) (storedState s.world "chan")
      carolJoins "chan" := by
    cases hchecks : joinChecks { onlyOne with maxCallParticipants := none } (.sample 30)
        (storedState s.world "chan") carolJoins "chan" with
    | error e => simp [hchecks, Except.isOk, Except.toBool] at hok
    | ok res => exact ⟨res, hchecks⟩
  refine ⟨tr, s, hr, hlimit.1, fun state' res w' hy => ?_⟩
  have hiff :=
    hlimit.2 hfree () [⟨carolJoins, .sample 30⟩] _ _ _ (.head _ _ _ _) hother _ _ _ hy
  exact hiff.2 hfull

end CallsPlugin.Ports
