import CallsPlugin.Verified.History
import CallsPlugin.Ports.CallHost
import CallsPlugin.Ports.Requests

/-!
# The participants of a call

While a call goes on, its participants are collected in `Props`; its end moves them to
`Participants`.  Under the lock of the call the two together hold exactly the users, the
bot apart, of the sessions there have been.
-/

namespace CallsPlugin.Ports

open CallsPlugin.Verified
open CallsPlugin.Ports.Public CallsPlugin.Ports.Db

/-! ## The record of a call -/

/-- The users recorded for a call: those collected, or those stored with its end. -/
def recorded (c : Call) : List String :=
  if c.endAt = 0 then c.props.participants else c.participants

theorem recorded_ongoing {c : Call} (h : c.endAt = 0) :
    recorded c = c.props.participants := if_pos h

theorem recorded_ended {c : Call} (h : c.endAt ≠ 0) :
    recorded c = c.participants := if_neg h

/-- A user has a session of the call. -/
def HasSession (callID userID : String) (s : Store) : Prop :=
  ∃ r ∈ s.sessions, r.callID = callID ∧ r.userID = userID

/-- The call goes on with the same record; a post it has stays its post. -/
structure SameRecord (c c' : Call) : Prop where
  endAt : c'.endAt = c.endAt
  participants : c'.props.participants = c.props.participants
  post : c.postID ≠ "" → c'.postID = c.postID

theorem SameRecord.refl (c : Call) : SameRecord c c := ⟨rfl, rfl, fun _ => rfl⟩

theorem SameRecord.trans {c c' c'' : Call} (h : SameRecord c c')
    (h' : SameRecord c' c'') :
    SameRecord c c'' where
  endAt := h'.endAt.trans h.endAt
  participants := h'.participants.trans h.participants
  post hp := by
    have hp' : c'.postID = c.postID := h.post hp
    exact (h'.post (hp'.symm ▸ hp)).trans hp'

/-- The call gets its post. -/
theorem SameRecord.withPost {st : CallState} {c : Call} {postID threadID : String}
    (h : SameRecord c st.call) (hp : c.postID = "") :
    SameRecord c (withPost st postID threadID).call :=
  ⟨h.endAt, h.participants, fun hne => absurd hp hne⟩

/-- The call goes on, perhaps with another participant. -/
structure RecordGoesOn (c c' : Call) : Prop where
  before : c.endAt = 0
  after : c'.endAt = 0
  participants : ∀ u ∈ c.props.participants, u ∈ c'.props.participants
  post : c.postID ≠ "" → c'.postID = c.postID

/-- The rows of the call and of its sessions fit together.  `who` may name a user whose
sessions are followed. -/
structure Recorded (callID botID : String) (who : Option String) (s : Store) :
    Prop where
  bot : ∀ c ∈ s.calls, c.id = callID → botID ∉ recorded c
  present : ∀ r ∈ s.sessions, r.callID = callID → r.userID ≠ botID →
    ∃ c ∈ s.calls, c.id = callID ∧ r.userID ∈ recorded c
  seen : ∀ u, who = some u → ∀ c ∈ s.calls, c.id = callID → u ∈ recorded c →
    HasSession callID u s

/-- The state shared by a batch, if it is one of the call. -/
structure RecordedSync (callID botID : String) (who : Option String)
    (st : CallState) (s : Store) :
    Prop extends Recorded callID botID who s where
  row : st.call.id = callID → ∃ c ∈ s.calls, c.id = callID
  ongoing : st.call.id = callID → st.call.endAt = 0
  same : st.call.id = callID → ∀ c ∈ s.calls, c.id = callID → SameRecord c st.call

section State

variable {callID botID : String} {who : Option String} {st st' : CallState}
  {s s' : Store}

theorem Recorded.congr (h : Recorded callID botID who s) (hcalls : s'.calls = s.calls)
    (hsessions : s'.sessions = s.sessions) : Recorded callID botID who s' where
  bot := by
    rw [hcalls]
    exact h.bot
  present := by
    rw [hcalls, hsessions]
    exact h.present
  seen u hu := by
    unfold HasSession
    rw [hcalls, hsessions]
    exact h.seen u hu

theorem RecordedSync.congr (h : RecordedSync callID botID who st s)
    (hid : st'.call.id = st.call.id) (hcall : SameRecord st.call st'.call)
    (hs : Recorded callID botID who s') (hcalls : s'.calls = s.calls) :
    RecordedSync callID botID who st' s' where
  toRecorded := hs
  row hk := by
    rw [hcalls]
    exact h.row (hid.symm.trans hk)
  ongoing hk := hcall.endAt.trans (h.ongoing (hid.symm.trans hk))
  same hk := by
    rw [hcalls]
    exact fun c hc hcid => (h.same (hid.symm.trans hk) c hc hcid).trans hcall

/-- No update removes a row. -/
theorem Store.updateCall_kept {c : Call} (hc : c ∈ s.calls) (x : Call) :
    ∃ c' ∈ (s.updateCall x).calls, c'.id = c.id := by
  refine ⟨_, Store.mem_updateCall.2 ⟨c, hc, rfl⟩, ?_⟩
  split <;> rfl

/-- A write that keeps what is recorded. -/
theorem Recorded.updateCall {x : Call} (h : Recorded callID botID who s)
    (hx : x.id = callID → ∀ c ∈ s.calls, c.id = callID → ∀ u, u ∈ recorded x ↔
      u ∈ recorded c) :
    Recorded callID botID who (s.updateCall x) := by
  have hrow : ∀ c ∈ (s.updateCall x).calls, c.id = callID →
      ∃ r ∈ s.calls, r.id = callID ∧ ∀ u, u ∈ recorded c ↔ u ∈ recorded r := by
    intro c hc hid
    obtain ⟨r, hr, rfl⟩ := Store.mem_updateCall.1 hc
    by_cases hk : r.id = x.id
    · rw [if_pos hk] at hid ⊢
      exact ⟨r, hr, hid, hx (hk.symm.trans hid) r hr hid⟩
    · rw [if_neg hk] at hid ⊢
      exact ⟨r, hr, hid, fun _ => Iff.rfl⟩
  refine ⟨fun c hc hid hmem => ?_, fun r hr hcall hbot => ?_,
    fun u hu c hc hid hmem => ?_⟩
  · obtain ⟨r, hr, hrid, hiff⟩ := hrow c hc hid
    exact h.bot r hr hrid ((hiff _).1 hmem)
  · obtain ⟨c, hc, hid, hmem⟩ := h.present r hr hcall hbot
    obtain ⟨c', hc', hid'⟩ := Store.updateCall_kept hc x
    have hid' : c'.id = callID := hid'.trans hid
    obtain ⟨r', hr', hrid, hiff⟩ := hrow c' hc' hid'
    refine ⟨c', hc', hid', (hiff _).2 ?_⟩
    rw [s.calls.eq_of_key_eq hr' hc (hrid.trans hid.symm)]
    exact hmem
  · obtain ⟨r, hr, hrid, hiff⟩ := hrow c hc hid
    exact h.seen u hu r hr hrid ((hiff u).1 hmem)

/-- After the call was written as the state has it. -/
theorem RecordedSync.updateCall (h : RecordedSync callID botID who st s)
    (hid : st'.call.id = st.call.id) (hcall : SameRecord st.call st'.call) :
    RecordedSync callID botID who st' (s.updateCall st'.call) where
  toRecorded := h.toRecorded.updateCall fun hk c hc hcid u => by
    have hk : st.call.id = callID := hid.symm.trans hk
    have hsame := (h.same hk c hc hcid).trans hcall
    have hgo : st'.call.endAt = 0 := hcall.endAt.trans (h.ongoing hk)
    rw [recorded_ongoing hgo, recorded_ongoing (hsame.endAt.symm.trans hgo),
      hsame.participants]
  row hk := by
    obtain ⟨c, hc, hcid⟩ := h.row (hid.symm.trans hk)
    obtain ⟨c', hc', hid'⟩ := Store.updateCall_kept hc st'.call
    exact ⟨c', hc', hid'.trans hcid⟩
  ongoing hk := hcall.endAt.trans (h.ongoing (hid.symm.trans hk))
  same hk c hc hcid := by
    obtain ⟨r, hr, rfl⟩ := Store.mem_updateCall.1 hc
    by_cases hrk : r.id = st'.call.id
    · rw [if_pos hrk]
      exact ⟨rfl, rfl, fun _ => rfl⟩
    · rw [if_neg hrk] at hcid
      exact absurd (hcid.trans hk.symm) hrk

/-- The state read under the lock is as the row has it. -/
theorem Recorded.sync {channelID : String} (h : Recorded callID botID who s)
    (hst : storedState s channelID = some st) : RecordedSync callID botID who st s := by
  obtain ⟨hc, -, hact⟩ := storedState_active hst
  refine ⟨h, fun hk => ⟨st.call, hc, hk⟩, fun _ => hact.1, fun hk c hmem hid => ?_⟩
  rw [storedState_row hst hmem (hid.trans hk.symm)]
  exact .refl _

/-- A write of the state goes on with the call. -/
theorem RecordedSync.goesOn (h : RecordedSync callID botID who st s)
    (hid : st'.call.id = st.call.id) (he : st'.call.endAt = st.call.endAt)
    (hparticipants : ∀ u ∈ st.call.props.participants, u ∈ st'.call.props.participants)
    (hpost : st.call.postID ≠ "" → st'.call.postID = st.call.postID)
    (hk : st'.call.id = callID) {c : Call} (hc : c ∈ s.calls) (hcid : c.id = callID) :
    RecordGoesOn c st'.call := by
  have hk : st.call.id = callID := hid.symm.trans hk
  have hsame := h.same hk c hc hcid
  refine ⟨hsame.endAt.symm.trans (h.ongoing hk), he.trans (h.ongoing hk),
    fun u hu => ?_, fun hp => ?_⟩
  · exact hparticipants u (hsame.participants.symm ▸ hu)
  · have hp' : st.call.postID = c.postID := hsame.post hp
    exact (hpost (hp'.symm ▸ hp)).trans hp'

end State

/-! ## What is required of a write -/

/-- The request ends calls, if it does anything. -/
def Handler.Ends (h : Handler) : Prop := h = .cleanUp ∨ ∃ id, h = .forceEnd id

/-- The end of a call as it is stored. -/
structure EndsAsStored (c x : Call) : Prop where
  ongoing : c.endAt = 0
  post : x.postID = c.postID
  participants : ∀ u, u ∈ x.participants ↔ u ∈ c.props.participants

/-- No join gives up and no leave ends the call.  A clean-up and a forced end write the
end of the call as it is stored, a forced end while nobody has the lock, and the call's
post is updated with the participants it has while it goes on. -/
structure EndingAllow (callID : String) (h : Handler) (holder : Holder) (_ : Choice)
    (s : Store) (o : Op) : Prop where
  join : h.joins ≠ [] → o ≠ .reach .gaveUp
  leave : h.leaves ≠ [] → ∀ x, o = .store (.updateCall x) → x.id = callID → x.endAt = 0
  ends : h.Ends → ∀ x, o = .store (.updateCall x) → x.id = callID →
    ∀ c ∈ s.calls, c.id = callID → EndsAsStored c x
  post : ∀ postID participants, o = .updateCallPostEnded postID participants →
    postID ≠ "" → ∀ c ∈ s.calls, c.id = callID → c.postID = postID →
      c.endAt = 0 ∧ ∀ u, u ∈ participants ↔ u ∈ c.props.participants
  forceEnd : ∀ id so, h = .forceEnd id → o = .store so → so.isWrite = true →
    holder = .nobody

/-- A write of the call goes on with it, unless it ends it; the call is created as an
ongoing one; the user of a new session is recorded. -/
def KeepsRecord (callID botID : String) (h : Handler) (s : Store) : Op → Prop
  | .store (.updateCall x) => x.id = callID → h.Ends ∨ (h.leaves ≠ [] ∧ x.endAt ≠ 0) ∨
      ∀ c ∈ s.calls, c.id = callID → RecordGoesOn c x
  | .store (.createCall x) =>
      x.id = callID → (∃ c ∈ s.calls, c.id = callID) ∨ x.endAt = 0
  | .store (.createCallSession r) => r.callID = callID → r.userID ≠ botID →
      ∃ c ∈ s.calls, c.id = callID ∧ r.userID ∈ recorded c
  | _ => True

theorem keepsRecord_lenient (callID botID : String) (h : Handler) :
    Lenient (KeepsRecord callID botID h) := by
  intro w o ho
  cases o with
  | store o =>
      cases o with
      | updateCall c => exact absurd trivial ho
      | createCall c => exact absurd trivial ho
      | createCallSession r => exact absurd trivial ho
      | _ => trivial
  | _ => trivial

/-- The conditions, in runs in which the user followed never has a session. -/
structure RecordAllow (callID : String) (who : Option String) (h : Handler)
    (holder : Holder) (ch : Choice) (s : Store) (o : Op) :
    Prop extends EndingAllow callID h holder ch s o where
  unseen : ∀ u, who = some u → ¬ HasSession callID u s

/-- The terms of a request. -/
@[reducible]
def recordTerms (callID botID : String) (who : Option String) (h : Handler) :
    Terms Op Store Choice where
  allow := RecordAllow callID who h
  pre := KeepsRecord callID botID h

/-- The rules of a request on the channel. -/
abbrev recordRules (callID botID : String) (who : Option String) (h : Handler) :
    Logic Op Op.Resp Store Choice :=
  callRules (RecordAllow callID who h) (KeepsRecord callID botID h)
    (Recorded callID botID who) True

section Rules

variable {callID botID channelID : String} {who : Option String} {p : Plugin}
  {env : Env} {h : Handler} {st st' : CallState} {w : Store}

/-- A state may be written after a change that leaves the record alone. -/
theorem RecordedSync.keepsRecord (hst : RecordedSync callID botID who st w)
    (hid : st'.call.id = st.call.id) (hcall : SameRecord st.call st'.call) :
    KeepsRecord callID botID h w (.store (.updateCall st'.call)) :=
  fun hk => .inr (.inr fun _ hc hcid => hst.goesOn hid hcall.endAt
    (fun _ hu => hcall.participants.symm ▸ hu) hcall.post hk hc hcid)

/-- While the followed user has no session it is not recorded. -/
theorem Recorded.not_recorded (hw : Recorded callID botID who w) {u : String}
    (hu : who = some u) (hno : ¬ HasSession callID u w) {c : Call} (hc : c ∈ w.calls)
    (hid : c.id = callID) :
    u ∉ recorded c := fun hmem => hno (hw.seen u hu c hc hid hmem)

/-- Sessions are removed while the followed user has none. -/
theorem Recorded.removeSessions (hw : Recorded callID botID who w)
    (hno : ∀ u, who = some u → ¬ HasSession callID u w) {w' : Store}
    (hcalls : w'.calls = w.calls)
    (hsessions : ∀ r ∈ w'.sessions, r ∈ w.sessions) : Recorded callID botID who w' where
  bot := by
    rw [hcalls]
    exact hw.bot
  present r hr := by
    rw [hcalls]
    exact hw.present r (hsessions r hr)
  seen u hu c hc hid hmem := by
    rw [hcalls] at hc
    exact absurd hmem (hw.not_recorded hu (hno u hu) hc hid)

/-! ## Leaves -/

section Leave

variable {lenv : Env} {r : LeaveRequest}

/-- The state between the leaves of a batch, as long as the call has sessions. -/
def RecordedLeave (callID botID : String) (who : Option String) (st : CallState)
    (s : Store) : Prop :=
  Recorded callID botID who s ∧
    (st.sessions.rows ≠ [] → RecordedSync callID botID who st s)

/-- The state shared by a batch of leaves. -/
def RecordedLeaving (callID botID : String) (who : Option String) :
    Option CallState → Store → Prop
  | none, s => Recorded callID botID who s
  | some st, s => RecordedLeave callID botID who st s

theorem RecordedLeaving.recorded {state : Option CallState}
    (hst : RecordedLeaving callID botID who state w) : Recorded callID botID who w := by
  cases state with
  | none => exact hst
  | some st => exact And.left hst

theorem hostLeftCall_sameRecord (r : LeaveRequest) :
    SameRecord st.call (hostLeftCall p lenv r st) := by
  unfold hostLeftCall
  split <;> exact ⟨rfl, rfl, fun _ => rfl⟩

theorem withoutSession_sameRecord (r : LeaveRequest) :
    SameRecord st.call (withoutSession lenv r st).call := by
  unfold withoutSession screenLeftCall
  dsimp only
  split <;> exact ⟨rfl, rfl, fun _ => rfl⟩

/-- The row a leave writes that finds no session left. -/
theorem left_ended (hnil : st.sessions.rows = []) :
    (left p lenv r st).call.endAt ≠ 0 ∧
      (left p lenv r st).call.participants = st.call.props.participants := by
  have hcall : (left p lenv r st).call = setCallEnded lenv _ := if_pos hnil
  rw [hcall]
  exact ⟨(lenv.now_pos _).ne', (hostLeftCall_sameRecord r).participants⟩

/-- A leave keeps the record, also when it ends the call. -/
theorem recordedLeave_rule (hleave : h.leaves ≠ []) :
    LeaveRule (RecordAllow callID who h .self) (KeepsRecord callID botID h) p lenv r
      (RecordedLeave callID botID who) (RecordedSync callID botID who) where
  jobs :=
    { op c st w o ho hst := by
        have hrows := ho.sameRows c w
        exact hst.congr rfl (.refl _) (hst.toRecorded.congr hrows.1 hrows.2) hrows.1
      mem st st' w hsame hst := by
        obtain ⟨hcall, -⟩ := hsame
        exact hst.congr (congrArg Call.id hcall) (hcall ▸ .refl _) hst.toRecorded rfl }
  deleted st us w c hst hus hallow _ := by
    have hne : st.sessions.rows ≠ [] := List.ne_nil_of_mem (Table.find?_eq_some.1 hus).1
    have hw' : Recorded callID botID who (w.deleteCallSession r.originalConnID) :=
      hst.1.removeSessions hallow.unseen rfl fun x hx =>
        (Store.mem_deleteCallSession.1 hx).1
    exact (hst.2 hne).congr (withoutSession_call r).1
      (withoutSession_sameRecord r) hw' rfl
  gaveUp st w hst _ := ⟨hst.toRecorded, fun _ => hst⟩
  unsaved st w hst _ := by
    refine ⟨hst.toRecorded, fun hne => hst.congr (left_id r) ?_ hst.toRecorded rfl⟩
    have hne : st.sessions.rows ≠ [] := hne
    rw [left_of_sessions hne]
    exact hostLeftCall_sameRecord r
  saved st w hst _ := by
    by_cases hnil : st.sessions.rows = []
    · have hended : (left p lenv r st).call.endAt ≠ 0 := (left_ended hnil).1
      have hparticipants :
          (left p lenv r st).call.participants = st.call.props.participants :=
        (left_ended hnil).2
      refine ⟨hst.toRecorded.updateCall fun hk c hc hcid u => ?_,
        fun hne => absurd hnil hne⟩
      have hk : st.call.id = callID := (left_id r).symm.trans hk
      have hsame := hst.same hk c hc hcid
      have hgo : c.endAt = 0 := hsame.endAt.symm.trans (hst.ongoing hk)
      rw [recorded_ended hended, recorded_ongoing hgo, hparticipants,
        hsame.participants]
    · have hsame : SameRecord st.call (left p lenv r st).call := by
        rw [left_of_sessions hnil]
        exact hostLeftCall_sameRecord r
      have hid : (left p lenv r st).call.id = st.call.id := left_id r
      have hsync := hst.updateCall hid hsame
      exact ⟨hsync.toRecorded, fun _ => hsync⟩
  update st w hst := by
    by_cases hnil : st.sessions.rows = []
    · exact fun _ => .inr (.inl ⟨hleave, (left_ended hnil).1⟩)
    · refine hst.keepsRecord (left_id r) ?_
      rw [left_of_sessions hnil]
      exact hostLeftCall_sameRecord r

end Leave

/-! ## Joins -/

section Join

variable {jenv : Env} {r : JoinRequest}

/-- The state shared by a batch of joins. -/
def RecordedState (callID botID : String) (who : Option String) :
    Option CallState → Store → Prop
  | none, s => Recorded callID botID who s
  | some st, s => RecordedSync callID botID who st s

theorem RecordedState.recorded {state : Option CallState}
    (hst : RecordedState callID botID who state w) : Recorded callID botID who w := by
  cases state with
  | none => exact hst
  | some st => exact RecordedSync.toRecorded hst

/-- The call is written with a user whose session is still to be stored. -/
structure Entering (callID botID : String) (who : Option String) (st : CallState)
    (userID : String) (s : Store) : Prop where
  bot : ∀ c ∈ s.calls, c.id = callID → botID ∉ recorded c
  present : ∀ r ∈ s.sessions, r.callID = callID → r.userID ≠ botID →
    ∃ c ∈ s.calls, c.id = callID ∧ r.userID ∈ recorded c
  seen : ∀ u, who = some u → ∀ c ∈ s.calls, c.id = callID → u ∈ recorded c →
    HasSession callID u s ∨ st.call.id = callID ∧ u = userID
  entered : st.call.id = callID → userID ≠ botID →
    ∃ c ∈ s.calls, c.id = callID ∧ userID ∈ recorded c
  row : st.call.id = callID → ∃ c ∈ s.calls, c.id = callID
  ongoing : st.call.id = callID → st.call.endAt = 0
  same : st.call.id = callID → ∀ c ∈ s.calls, c.id = callID → SameRecord c st.call
  unposted : st.call.id = callID → st.sessions.rows.length = 1 →
    ∀ c ∈ s.calls, c.id = callID → c.postID = ""

/-- The participants after a join. -/
theorem mem_joined_participants {u : String} :
    u ∈ (joined p jenv st r).call.props.participants ↔
      u ∈ st.call.props.participants ∨ u = r.userID ∧ u ≠ p.botID := by
  rw [joined_call]
  dsimp only
  split
  next hnew =>
    rw [List.mem_append, List.mem_singleton]
    refine or_congr_right ⟨fun hu => ⟨hu, hu ▸ hnew.1⟩, fun hu => hu.1⟩
  next hold =>
    refine ⟨Or.inl, fun hu => hu.elim id fun ⟨he, hbot⟩ => ?_⟩
    by_contra hno
    exact hold ⟨he ▸ hbot, he ▸ hno⟩

theorem joined_post (p : Plugin) (jenv : Env) (st : CallState) (r : JoinRequest) :
    (joined p jenv st r).call.endAt = st.call.endAt ∧
      (joined p jenv st r).call.postID = st.call.postID := by
  rw [joined_call]
  exact ⟨rfl, rfl⟩

/-- The join of a call that is stored already. -/
theorem RecordedSync.joined (hst : RecordedSync callID botID who st w)
    (hbot : p.botID = botID) (hlen : (Ports.joined p jenv st r).sessions.rows.length ≠
      1) : Entering callID botID who (joined p jenv st r) r.userID
      (w.updateCall (Ports.joined p jenv st r).call) := by
  obtain ⟨hend, hpost⟩ := joined_post p jenv st r
  have hid : (Ports.joined p jenv st r).call.id = st.call.id := joined_id
  -- what becomes of a row of the call
  have hrow : ∀ c ∈ (w.updateCall (Ports.joined p jenv st r).call).calls,
      c.id = callID → ∃ c₀ ∈ w.calls, c₀.id = callID ∧ ∀ u, u ∈ recorded c ↔
        u ∈ recorded c₀ ∨ st.call.id = callID ∧ u = r.userID ∧ u ≠ botID := by
    intro c hc hcid
    obtain ⟨c₀, hc₀, rfl⟩ := Store.mem_updateCall.1 hc
    by_cases hk : c₀.id = (Ports.joined p jenv st r).call.id
    · rw [if_pos hk] at hcid ⊢
      have hk : st.call.id = callID := hid.symm.trans (hk.symm.trans hcid)
      have hsame := hst.same hk c₀ hc₀ hcid
      have hgo : c₀.endAt = 0 := hsame.endAt.symm.trans (hst.ongoing hk)
      have hgo' : (Store.setCall c₀ (Ports.joined p jenv st r).call).endAt = 0 :=
        hend.trans (hst.ongoing hk)
      refine ⟨c₀, hc₀, hcid, fun u => ?_⟩
      rw [recorded_ongoing hgo', recorded_ongoing hgo, ← hsame.participants]
      refine mem_joined_participants.trans (or_congr_right ?_)
      rw [hbot]
      exact (and_iff_right hk).symm
    · rw [if_neg hk] at hcid ⊢
      refine ⟨c₀, hc₀, hcid,
        fun u => ⟨.inl, fun hu => hu.resolve_right fun hjoin => hk ?_⟩⟩
      exact hcid.trans (hjoin.1.symm.trans hid.symm)
  have hkept : ∀ c₀ ∈ w.calls, c₀.id = callID →
      ∃ c ∈ (w.updateCall (Ports.joined p jenv st r).call).calls, c.id = callID ∧
        ∀ u, u ∈ recorded c ↔ u ∈ recorded c₀ ∨ st.call.id = callID ∧ u = r.userID ∧
        u ≠ botID := by
    intro c₀ hc₀ hcid
    obtain ⟨c, hc, hcid'⟩ := Store.updateCall_kept hc₀ (Ports.joined p jenv st r).call
    have hcid' : c.id = callID := hcid'.trans hcid
    obtain ⟨c₁, hc₁, hcid₁, hiff⟩ := hrow _ hc hcid'
    rw [w.calls.eq_of_key_eq hc₁ hc₀ (hcid₁.trans hcid.symm)] at hiff
    exact ⟨c, hc, hcid', hiff⟩
  refine ⟨fun c hc hcid hmem => ?_, fun x hx hcall hne => ?_,
    fun u hu c hc hcid hmem => ?_,
    fun hk hne => ?_, fun hk => ?_, fun hk => ?_, fun hk c hc hcid => ?_,
    fun _ hone => absurd hone hlen⟩
  · obtain ⟨c₀, hc₀, hcid₀, hiff⟩ := hrow c hc hcid
    rcases (hiff _).1 hmem with hold | ⟨-, -, hne⟩
    · exact hst.bot c₀ hc₀ hcid₀ hold
    · exact hne rfl
  · obtain ⟨c₀, hc₀, hcid₀, hmem⟩ := hst.present x hx hcall hne
    obtain ⟨c, hc, hcid, hiff⟩ := hkept c₀ hc₀ hcid₀
    exact ⟨c, hc, hcid, (hiff _).2 (.inl hmem)⟩
  · obtain ⟨c₀, hc₀, hcid₀, hiff⟩ := hrow c hc hcid
    rcases (hiff u).1 hmem with hold | ⟨hk, hjoin, -⟩
    · exact .inl (hst.seen u hu c₀ hc₀ hcid₀ hold)
    · exact .inr ⟨hid.trans hk, hjoin⟩
  · obtain ⟨c₀, hc₀, hcid₀⟩ := hst.row (hid.symm.trans hk)
    obtain ⟨c, hc, hcid, hiff⟩ := hkept c₀ hc₀ hcid₀
    exact ⟨c, hc, hcid, (hiff _).2 (.inr ⟨hid.symm.trans hk, rfl, hne⟩)⟩
  · obtain ⟨c₀, hc₀, hcid₀⟩ := hst.row (hid.symm.trans hk)
    obtain ⟨c, hc, hcid, -⟩ := hkept c₀ hc₀ hcid₀
    exact ⟨c, hc, hcid⟩
  · exact hend.trans (hst.ongoing (hid.symm.trans hk))
  · obtain ⟨c₀, hc₀, rfl⟩ := Store.mem_updateCall.1 hc
    by_cases hrk : c₀.id = (Ports.joined p jenv st r).call.id
    · rw [if_pos hrk]
      exact ⟨rfl, rfl, fun _ => rfl⟩
    · rw [if_neg hrk] at hcid
      exact absurd (hcid.trans hk.symm) hrk

/-- A call is created with its first participant. -/
theorem Recorded.createCall {t : Table Call.id} (hw : Recorded callID botID who w)
    (hi : w.calls.insert? st.call = some t) (he : st.call.endAt = 0)
    (hpost : st.call.postID = "") {userID : String}
    (hparticipants : ∀ u, u ∈ st.call.props.participants ↔ u = userID ∧ u ≠ botID) :
    Entering callID botID who st userID { w with calls := t } := by
  have hold : ∀ {c}, c ∈ w.calls → c ∈ t :=
    fun hc => (Table.mem_of_insert? hi).2 (.inl hc)
  have hnew : st.call ∈ t := (Table.mem_of_insert? hi).2 (.inr rfl)
  refine ⟨fun c hc hcid hmem => ?_, fun x hx hcall hne => ?_,
    fun u hu c hc hcid hmem => ?_,
    fun hk hne => ⟨_, hnew, hk, ?_⟩, fun hk => ⟨_, hnew, hk⟩, fun _ => he,
    fun hk c hc hcid => ?_, fun hk _ c hc hcid => ?_⟩
  · rcases (Table.mem_of_insert? hi).1 hc with hc | rfl
    · exact hw.bot c hc hcid hmem
    · rw [recorded_ongoing he, hparticipants] at hmem
      exact hmem.2 rfl
  · obtain ⟨c, hc, hcid, hmem⟩ := hw.present x hx hcall hne
    exact ⟨c, hold hc, hcid, hmem⟩
  · rcases (Table.mem_of_insert? hi).1 hc with hc | rfl
    · exact .inl (hw.seen u hu c hc hcid hmem)
    · rw [recorded_ongoing he, hparticipants] at hmem
      exact .inr ⟨hcid, hmem.1⟩
  · rw [recorded_ongoing he, hparticipants]
    exact ⟨rfl, hne⟩
  · rcases (Table.mem_of_insert? hi).1 hc with hc | rfl
    · exact absurd (hcid.trans hk.symm) ((Table.insert?_eq_some.1 hi).1 c hc)
    · exact .refl _
  · rcases (Table.mem_of_insert? hi).1 hc with hc | rfl
    · exact absurd (hcid.trans hk.symm) ((Table.insert?_eq_some.1 hi).1 c hc)
    · exact hpost

/-- Another call is created. -/
theorem RecordedSync.createOther {t : Table Call.id} {c : Call}
    (hst : RecordedSync callID botID who st w) (hi : w.calls.insert? c = some t)
    (hid : st'.call.id ≠ callID) (hc : c.id = st'.call.id) {userID : String} :
    Entering callID botID who st' userID { w with calls := t } := by
  have hrow : ∀ x ∈ t, x.id = callID → x ∈ w.calls := by
    intro x hx hxid
    rcases (Table.mem_of_insert? hi).1 hx with hx | rfl
    · exact hx
    · exact absurd (hc.symm.trans hxid) hid
  refine ⟨fun x hx hxid => hst.bot x (hrow x hx hxid) hxid, fun x hx hcall hne => ?_,
    fun u hu x hx hxid hmem => .inl (hst.seen u hu x (hrow x hx hxid) hxid hmem),
    fun hk => absurd hk hid, fun hk => absurd hk hid, fun hk => absurd hk hid,
    fun hk => absurd hk hid, fun hk => absurd hk hid⟩
  obtain ⟨y, hy, hyid, hmem⟩ := hst.present x hx hcall hne
  exact ⟨y, (Table.mem_of_insert? hi).2 (.inl hy), hyid, hmem⟩

/-- The session is stored. -/
theorem Entering.stored {t : Table CallSession.id} {userID connID : String}
    (hst : Entering callID botID who st userID w)
    (hi : w.sessions.insert? (newSession jenv st userID connID) = some t) :
    RecordedSync callID botID who st { w with sessions := t } := by
  refine ⟨⟨hst.bot, fun x hx hcall hne => ?_, fun u hu c hc hcid hmem => ?_⟩, hst.row,
    hst.ongoing, hst.same⟩
  · rcases (Table.mem_of_insert? hi).1 hx with hx | rfl
    · exact hst.present x hx hcall hne
    · exact hst.entered hcall hne
  · rcases hst.seen u hu c hc hcid hmem with ⟨x, hx, hcall, huser⟩ | ⟨hk, rfl⟩
    · exact ⟨x, (Table.mem_of_insert? hi).2 (.inl hx), hcall, huser⟩
    · exact ⟨_, (Table.mem_of_insert? hi).2 (.inr rfl), hk, rfl⟩

/-- A call that was just created has no post. -/
theorem Written.unposted {userID : String}
    (hst : Written (fun (_ : Option CallState) st w =>
      Entering callID botID who st userID w) st w)
    (hk : st.call.id = callID) (hlen : st.sessions.rows.length = 1) {c : Call}
    (hc : c ∈ w.calls) (hcid : c.id = callID) : c.postID = "" := by
  obtain ⟨-, w₀, hst, hcalls⟩ := hst
  exact hst.unposted hk hlen c (hcalls ▸ hc) hcid

/-- A join records its user. -/
theorem recordedJoin_rule (hjoin : h.joins ≠ []) (hbot : p.botID = botID) :
    JoinRule (RecordAllow callID who h .self) (KeepsRecord callID botID h) p jenv r
      channelID (RecordedState callID botID who)
      (fun _ st w => Entering callID botID who st r.userID w) where
  jobs c state w o ho hst := by
    have hrows := ho.sameRows c w
    cases state with
    | none => exact Recorded.congr hst hrows.1 hrows.2
    | some st =>
        have hst : RecordedSync callID botID who st w := hst
        exact hst.congr rfl (.refl _) (hst.toRecorded.congr hrows.1 hrows.2) hrows.1
  created state st w t hst hcall hcheck _ _ hi := by
    obtain ⟨hend, hpost⟩ := joined_post p jenv st r
    rcases callToJoin_eq_ok hcall with rfl | ⟨rfl, host, rfl⟩
    · -- a call that is stored already cannot be inserted
      have hst : RecordedSync callID botID who st w := hst
      have hne : (joined p jenv st r).call.id ≠ callID := by
        intro hk
        obtain ⟨c, hc, hcid⟩ := hst.row (joined_id.symm.trans hk)
        exact (Table.insert?_eq_some.1 hi).1 c hc (hcid.trans hk.symm)
      exact hst.createOther hi hne rfl
    · refine Recorded.createCall hst hi hend hpost fun u => ?_
      rw [mem_joined_participants, ← hbot]
      exact or_iff_right List.not_mem_nil
  updated state st w hst hcall hcheck hlen _ := by
    obtain rfl := callToJoin_of_length hcall hcheck hlen
    exact RecordedSync.joined hst hbot hlen
  create state st w hst hcall _ _ := by
    obtain ⟨hend, -⟩ := joined_post p jenv st r
    intro hk
    rcases callToJoin_eq_ok hcall with rfl | ⟨rfl, host, rfl⟩
    · exact .inl (RecordedSync.row hst (joined_id.symm.trans hk))
    · exact .inr hend
  update state st w hst hcall hcheck hlen := by
    obtain rfl := callToJoin_of_length hcall hcheck hlen
    obtain ⟨hend, hpost⟩ := joined_post p jenv st r
    exact fun hk => .inr (.inr fun c hc hcid => RecordedSync.goesOn hst joined_id hend
      (fun u hu => mem_joined_participants.2 (.inl hu)) (fun _ => hpost) hk hc hcid)
  gaveUp _ _ _ _ hgave := by
    obtain ⟨-, -, c, -, -, -, hallow⟩ := hgave
    exact absurd rfl (hallow.join hjoin)
  session _ _ _ hst := fun hcall hne => hst.entered hcall hne
  entered _ _ _ _ hst _ hi := Entering.stored hst hi
  unposted st w postID threadID hst hwritten hlen := by
    have hst : RecordedSync callID botID who st w := hst
    exact ⟨hst.toRecorded, hst.row, hst.ongoing, fun hk c hc hcid =>
      (hst.same hk c hc hcid).withPost (hwritten.unposted hk hlen hc hcid)⟩
  posted st w postID threadID hst hwritten hlen _ := by
    have hst : RecordedSync callID botID who st w := hst
    have hrow : ∀ c ∈ (w.updateCall (withPost st postID threadID).call).calls,
        st.call.id = callID → c.id = callID →
        SameRecord c (withPost st postID threadID).call := by
      intro c hc hk hcid
      obtain ⟨c₀, hc₀, rfl⟩ := Store.mem_updateCall.1 hc
      by_cases hrk : c₀.id = (withPost st postID threadID).call.id
      · rw [if_pos hrk]
        exact ⟨rfl, rfl, fun _ => rfl⟩
      · rw [if_neg hrk] at hcid
        exact absurd (hcid.trans hk.symm) hrk
    refine ⟨hst.toRecorded.updateCall fun hk c hc hcid u => ?_, fun hk => ?_,
      hst.ongoing, fun hk c hc => hrow c hc hk⟩
    · have hsame := hst.same hk c hc hcid
      have hgo : c.endAt = 0 := hsame.endAt.symm.trans (hst.ongoing hk)
      have hgo' : (withPost st postID threadID).call.endAt = 0 := hst.ongoing hk
      rw [recorded_ongoing hgo, recorded_ongoing hgo', ← hsame.participants]
      rfl
    · obtain ⟨c, hc, hcid⟩ := hst.row hk
      obtain ⟨c', hc', hid'⟩ :=
        Store.updateCall_kept hc (withPost st postID threadID).call
      exact ⟨c', hc', hid'.trans hcid⟩
  post st w postID threadID hst hwritten hlen := by
    have hst : RecordedSync callID botID who st w := hst
    refine fun hk => .inr (.inr fun c hc hcid => ?_)
    have hsame := hst.same hk c hc hcid
    have hnone : c.postID = "" := hwritten.unposted hk hlen hc hcid
    exact ⟨hsame.endAt.symm.trans (hst.ongoing hk), hst.ongoing hk,
      fun u hu => hsame.participants.symm ▸ hu, fun hp => absurd hnone hp⟩

end Join

/-! ## The other requests -/

/-- The call of the state may be adjusted. -/
theorem RecordedSync.adjustable (hst : RecordedSync callID botID who st w) :
    Adjustable Adjusted (KeepsRecord callID botID h) (Recorded callID botID who)
      w st.call := by
  intro c' hadj
  have hsame : SameRecord st.call c' := ⟨hadj.endAt, hadj.props, fun _ => hadj.postID⟩
  have hid : { st with call := c' }.call.id = st.call.id := hadj.id
  have hsync : RecordedSync callID botID who { st with call := c' } (w.updateCall c') :=
    hst.updateCall hid hsame
  exact ⟨RecordedSync.keepsRecord hst hid hsame, fun _ => hsync.toRecorded⟩

/-- A message that changes a session row. -/
theorem Recorded.updateCallSession (hw : Recorded callID botID who w)
    (x : CallSession) :
    Recorded callID botID who (w.updateCallSession x) := by
  refine ⟨hw.bot, fun r hr hcall hne => ?_, fun u hu c hc hid hmem => ?_⟩
  · obtain ⟨y, hy, rfl⟩ := Store.mem_updateCallSession.1 hr
    have hsame : (if y.id = x.id then Store.setSession y x else y).callID = y.callID ∧
        (if y.id = x.id then Store.setSession y x else y).userID = y.userID := by
      split <;> exact ⟨rfl, rfl⟩
    rw [hsame.1] at hcall
    rw [hsame.2] at hne ⊢
    exact hw.present y hy hcall hne
  · obtain ⟨y, hy, hcall, huser⟩ := hw.seen u hu c hc hid hmem
    refine ⟨_, Store.mem_updateCallSession.2 ⟨y, hy, rfl⟩, ?_, ?_⟩
    · split <;> exact hcall
    · split <;> exact huser

/-! ## The end of a call -/

/-- A write of the end of the call as it is stored. -/
theorem Recorded.ended {x : Call} (hw : Recorded callID botID who w) (he : x.endAt ≠ 0)
    (hends : x.id = callID → ∀ c ∈ w.calls, c.id = callID → EndsAsStored c x) :
    Recorded callID botID who (w.updateCall x) :=
  hw.updateCall fun hk c hc hid u => by
    have hend := hends hk c hc hid
    rw [recorded_ended he, recorded_ongoing hend.ongoing]
    exact hend.participants u

/-- Cleaning a call under the lock. -/
theorem cleanCallState_recorded {call : Call} (hh : h = .cleanUp)
    (hw : Recorded callID botID who w) :
    (cleanCallState env call).wp (recordRules callID botID who h)
      (fun _ w' => Recorded callID botID who w') w := by
  have hquiet : Lenient (KeepsRecord callID botID h) := keepsRecord_lenient _ _ _
  refine Code.wp_bind.2 ⟨trivial, fun ch hallow => ?_⟩
  -- the followed user is not recorded, so that the sessions may go
  have hnone : ∀ u, who = some u → ∀ c ∈ w.calls, c.id = callID → u ∉ recorded c :=
    fun u hu c hc hid => hw.not_recorded hu (hallow.unseen u hu) hc hid
  refine endedCall_rule (M := fun w' => Recorded callID botID who w' ∧
    ∀ u, who = some u → ∀ c ∈ w'.calls, c.id = callID → u ∉ recorded c) hquiet
    (fun ch w' o ho hM => ?_) ⟨hw, hnone⟩ ⟨?_, hnone⟩ fun w' hM => ?_
  · have hrows := ho.sameRows ch w'
    refine ⟨hM.1.congr hrows.1 hrows.2, ?_⟩
    rw [hrows.1]
    exact hM.2
  · exact hw.removeSessions hallow.unseen rfl fun r hr =>
      (Store.mem_deleteCallsSessions.1 hr).1
  · refine store_rule_allowed (fun _ => .inl (.inl hh)) (fun _ _ _ _ => hM.1)
      fun c a hc _ ha => ?_
    simp only [StoreOp.exec] at ha ⊢
    split at ha
    · cases ha
    · exact hM.1.ended (cleanCall_ended env call) fun hk => hc.ends (.inl hh) _ rfl hk

/-- A forced end writes while nobody has the lock. -/
theorem forceEnd_recorded {id : String} (hh : h = .forceEnd id) {holder : Holder}
    {ch : Choice} {o : Op} (ho : o.EndsCall)
    (hallow : RecordAllow callID who h holder ch w o) :
    (exec ch w o).2 = w ∨ holder = .nobody ∧
      (Recorded callID botID who w → Recorded callID botID who (exec ch w o).2) := by
  cases o with
  | store so =>
      by_cases hwrite : so.isWrite = true
      · refine .inr ⟨hallow.forceEnd id so hh rfl hwrite, fun hw => ?_⟩
        show Recorded callID botID who (attempt ch.storeFails w so).2
        unfold attempt
        split
        · exact hw
        obtain ⟨c, rfl, hend⟩ | ⟨id, rfl⟩ | ⟨j, rfl⟩ := ho.write_cases hwrite
        · simp only [StoreOp.exec]
          split
          · exact hw
          · exact hw.ended hend fun hk => hallow.ends (.inr ⟨_, hh⟩) c rfl hk
        · exact hw.removeSessions hallow.unseen rfl fun r hr =>
            (Store.mem_deleteCallsSessions.1 hr).1
        · simp only [StoreOp.exec]
          split
          · exact hw
          · exact hw.congr rfl rfl
      · exact .inl (attempt_read (Bool.not_eq_true _ ▸ hwrite) ch.storeFails w)
  | reach pt => exact ho.elim
  | _ => exact .inl rfl

/-- Every request keeps the rows fitting together. -/
theorem record_callRule (hbot : p.botID = botID) :
    CallRule (RecordAllow callID who h) (KeepsRecord callID botID h)
      (Recorded callID botID who) p env
      channelID h := by
  have hquiet : Lenient (KeepsRecord callID botID h) := keepsRecord_lenient _ _ _
  exact
    { quiet := hquiet
      jobs := fun ch w o ho hw => hw.congr (ho.sameRows ch w).1 (ho.sameRows ch w).2
      joins := fun w hw => by
        have hstate : RecordedState callID botID who (storedState w channelID) w := by
          cases hst : storedState w channelID with
          | none => exact hw
          | some st => exact hw.sync hst
        exact Code.wp_mono (addSessionsToCall_rule _ (fun j hj _ _ hst =>
          (recordedJoin_rule (List.ne_nil_of_mem hj) hbot).addSessionToCall hquiet hst)
            _ w hstate)
          fun _ _ ⟨_, hst⟩ => hst.recorded
      leaves := fun w hw => by
        have hstate : RecordedLeaving callID botID who (storedState w channelID) w := by
          cases hst : storedState w channelID with
          | none => exact hw
          | some st => exact ⟨hw, fun _ => hw.sync hst⟩
        exact Code.wp_mono (removeSessionsFromCall_rule _ (fun l hl _ _ hst =>
          (recordedLeave_rule (List.ne_nil_of_mem hl)).removeUserSession hquiet
            (R := RecordedLeaving callID botID who) (fun _ _ => Iff.rfl) hst) _ w
              hstate)
          fun _ _ ⟨_, hst⟩ => hst.recorded
      screen := fun us turnOn _ w hw =>
        screenMessage_keeps hquiet hw fun st hst => (hw.sync hst).adjustable
      session :=
        fun us msg _ w hw => sessionMessage_keeps hquiet hw hw.updateCallSession
      changeHost := fun _ _ _ w hw =>
        hostChanged_keeps hquiet hw fun st hst =>
          (hw.sync hst).adjustable.mono fun _ hadj => hadj.toAdjusted
      dismiss := fun _ _ w hw =>
        notificationDismissed_keeps hquiet hw fun st hst =>
          (hw.sync hst).adjustable.mono fun _ hadj => hadj.toAdjusted
      cleanUp := fun hh call w hw => cleanCallState_recorded hh hw
      forceEnd :=
        fun id hh holder ch w o ho _ hallow => forceEnd_recorded hh ho hallow }

end Rules

end CallsPlugin.Ports
