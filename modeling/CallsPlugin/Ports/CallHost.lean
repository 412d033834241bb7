import CallsPlugin.Ports.ActiveCall
import CallsPlugin.Ports.Handlers

/-!
# The host of a call

The host is computed anew on each join, and when the host's user leaves; a choice by
`changeHost` is written to the call and locked.  The scan of `getHostID` keeps the
locked user, then the present host, then the earliest user that is not the bot.
-/

namespace CallsPlugin.Ports

open CallsPlugin.Verified
open CallsPlugin.Ports.Public CallsPlugin.Ports.Db

/-! ## The scan -/

section Scan

variable {botID cur : String}

/-- The present host is found wherever it stands. -/
theorem hostLoop_of_mem {l : List CallSession} (h : ∃ x ∈ l, x.userID = cur) :
    ∀ (acc : String) (joinAt : Int), hostLoop botID cur l acc joinAt = cur := by
  induction l with
  | nil => exact absurd h (by simp)
  | cons x rest ih =>
      intro acc joinAt
      unfold hostLoop
      by_cases hx : x.userID = cur
      · rw [if_pos hx]
      · rw [if_neg hx]
        have hrest : ∃ y ∈ rest, y.userID = cur := by
          obtain ⟨y, hy, hcur⟩ := h
          rcases List.mem_cons.1 hy with rfl | hy
          · exact absurd hcur hx
          · exact ⟨y, hy, hcur⟩
        split
        · exact ih hrest acc joinAt
        split
        · exact ih hrest _ _
        split <;> exact ih hrest _ _

/-- Without the present host the scan keeps its candidate or takes a user of the list
that is not the bot; it goes without one only if the list has the bot alone. -/
theorem hostLoop_of_not_mem {l : List CallSession} (h : ∀ x ∈ l, x.userID ≠ cur)
    (hne : ∀ x ∈ l, x.userID ≠ "") : ∀ (acc : String) (joinAt : Int),
    hostLoop botID cur l acc joinAt = acc ∧ (acc = "" → ∀ x ∈ l, x.userID = botID) ∨
      hostLoop botID cur l acc joinAt ≠ botID ∧
        ∃ x ∈ l, x.userID = hostLoop botID cur l acc joinAt := by
  induction l with
  | nil =>
      exact fun acc joinAt => .inl ⟨rfl, fun _ x hx => absurd hx (List.not_mem_nil)⟩
  | cons x rest ih =>
      intro acc joinAt
      have hrest := ih (fun y hy => h y (List.mem_cons_of_mem _ hy))
        fun y hy => hne y (List.mem_cons_of_mem _ hy)
      have hx := hne x (List.mem_cons_self ..)
      unfold hostLoop
      rw [if_neg (h x (List.mem_cons_self ..))]
      -- a candidate from the rest is one from the list
      have hlater : ∀ acc' at', hostLoop botID cur rest acc' at' ≠ botID ∧
          (∃ y ∈ rest, y.userID = hostLoop botID cur rest acc' at') →
          hostLoop botID cur rest acc' at' ≠ botID ∧
            ∃ y ∈ x :: rest, y.userID = hostLoop botID cur rest acc' at' :=
        fun _ _ ⟨hb, y, hy, he⟩ => ⟨hb, y, List.mem_cons_of_mem _ hy, he⟩
      by_cases hbot : x.userID = botID
      · rw [if_pos hbot]
        rcases hrest acc joinAt with ⟨hacc, hall⟩ | hlate
        · refine .inl ⟨hacc, fun h0 y hy => ?_⟩
          rcases List.mem_cons.1 hy with rfl | hy
          · exact hbot
          · exact hall h0 y hy
        · exact .inr (hlater _ _ hlate)
      rw [if_neg hbot]
      have htaken : hostLoop botID cur rest x.userID x.joinAt ≠ botID ∧
          ∃ y ∈ x :: rest, y.userID = hostLoop botID cur rest x.userID x.joinAt := by
        rcases hrest x.userID x.joinAt with ⟨hacc, -⟩ | hlate
        · rw [hacc]
          exact ⟨hbot, x, List.mem_cons_self .., rfl⟩
        · exact hlater _ _ hlate
      split
      · exact .inr htaken
      next hacc0 =>
        split
        · exact .inr htaken
        · rcases hrest acc joinAt with ⟨hacc, -⟩ | hlate
          · exact .inl ⟨hacc, fun h0 => absurd h0 hacc0⟩
          · exact .inr (hlater _ _ hlate)

end Scan

/-- The users with a session in the state. -/
def Attends (cs : CallState) (u : String) : Prop := ∃ x ∈ cs.sessions, x.userID = u

theorem isUserIDInCall_iff {cs : CallState} {u : String} :
    cs.isUserIDInCall u = true ↔ Attends cs u := by
  unfold CallState.isUserIDInCall Attends
  simp only [List.any_eq_true, decide_eq_true_eq, Table.mem_def]

/-- Whom `getHostID` chooses. -/
theorem getHostID_cases {env : Env} {cs : CallState} {botID : String}
    (hne : ∀ x ∈ cs.sessions, x.userID ≠ "") :
    (Attends cs cs.call.props.hostLockedUserID ∧
      cs.getHostID env botID = cs.call.props.hostLockedUserID) ∨
    ¬ Attends cs cs.call.props.hostLockedUserID ∧
      (Attends cs cs.call.getHostID ∧ cs.getHostID env botID = cs.call.getHostID ∨
        (¬ Attends cs cs.call.getHostID ∧
          (cs.getHostID env botID = "" ∧ (∀ x ∈ cs.sessions, x.userID = botID) ∨
            cs.getHostID env botID ≠ botID ∧
              Attends cs (cs.getHostID env botID)))) := by
  have hiter : ∀ x, x ∈ env.iter cs.sessions.rows ↔ x ∈ cs.sessions :=
    fun x => (env.iter_perm _).mem_iff
  unfold CallState.getHostID
  by_cases hlocked : Attends cs cs.call.props.hostLockedUserID
  · left
    have hsome : cs.call.props.hostLockedUserID ≠ "" := by
      obtain ⟨x, hx, hu⟩ := hlocked
      exact hu ▸ hne x hx
    exact ⟨hlocked, if_pos ⟨hsome, isUserIDInCall_iff.2 hlocked⟩⟩
  right
  refine ⟨hlocked, ?_⟩
  rw [if_neg fun h => hlocked (isUserIDInCall_iff.1 h.2)]
  by_cases hcur : Attends cs cs.call.getHostID
  · left
    obtain ⟨x, hx, hu⟩ := hcur
    exact ⟨⟨x, hx, hu⟩, hostLoop_of_mem ⟨x, (hiter x).2 hx, hu⟩ _ _⟩
  · right
    refine ⟨hcur, ?_⟩
    have hscan := @hostLoop_of_not_mem botID _ (env.iter cs.sessions.rows)
      (fun x hx hu => hcur ⟨x, (hiter x).1 hx, hu⟩)
      (fun x hx => hne x ((hiter x).1 hx)) "" 0
    rcases hscan with ⟨hnone, hall⟩ | ⟨hbot, x, hx, hu⟩
    · exact .inl ⟨hnone, fun x hx => hall rfl x ((hiter x).2 hx)⟩
    · exact .inr ⟨hbot, x, (hiter x).1 hx, hu⟩

/-! ## The invariant -/

/-- The user has a session in the call. -/
def InCall (t : Table CallSession.id) (callID u : String) : Prop :=
  ∃ r ∈ t, r.callID = callID ∧ r.userID = u

/-- The host among the users of a call: none only if there is nobody but the bot, else a
user who is not the bot, and the locked one if that one is there. -/
structure HostFine (botID : String) (users : String → Prop) (c : Call) : Prop where
  none : c.getHostID = "" ↔ ∀ u, users u → u = botID
  host : c.getHostID ≠ "" → users c.getHostID ∧ c.getHostID ≠ botID
  locked : users c.props.hostLockedUserID → c.getHostID = c.props.hostLockedUserID
  lockable : c.props.hostLockedUserID = "" ∨ c.props.hostLockedUserID ≠ botID

/-- Two calls have the same hosts. -/
structure SameHost (c c' : Call) : Prop where
  hosts : c'.props.hosts = c.props.hosts
  locked : c'.props.hostLockedUserID = c.props.hostLockedUserID

theorem SameHost.refl (c : Call) : SameHost c c := ⟨rfl, rfl⟩

theorem SameHost.symm {c c' : Call} (h : SameHost c c') : SameHost c' c :=
  ⟨h.hosts.symm, h.locked.symm⟩

theorem SameHost.trans {c c' c'' : Call} (h : SameHost c c') (h' : SameHost c' c'') :
    SameHost c c'' :=
  ⟨h'.hosts.trans h.hosts, h'.locked.trans h.locked⟩

theorem SameHost.getHostID {c c' : Call} (h : SameHost c c') :
    c'.getHostID = c.getHostID := by
  unfold Call.getHostID
  rw [h.hosts]

theorem HostFine.congr {botID : String} {users users' : String → Prop} {c c' : Call}
    (h : HostFine botID users c) (hu : ∀ u, users' u ↔ users u) (hc : SameHost c c') :
    HostFine botID users' c' := by
  have hhost := hc.getHostID
  refine ⟨?_, ?_, ?_, ?_⟩
  · rw [hhost, h.none]
    exact forall_congr' fun u => imp_congr_left (hu u).symm
  · rw [hhost, hu]
    exact h.host
  · rw [hhost, hc.locked, hu]
    exact h.locked
  · rw [hc.locked]
    exact h.lockable

/-- The host that `getHostID` chooses is fine, whoever it was before. -/
theorem HostFine.chosen {botID : String} {env : Env} {cs : CallState} {c : Call}
    (hne : ∀ x ∈ cs.sessions, x.userID ≠ "")
    (hlockable : cs.call.props.hostLockedUserID = "" ∨
      cs.call.props.hostLockedUserID ≠ botID)
    (hcur : Attends cs cs.call.getHostID → cs.call.getHostID ≠ botID)
    (hhost : c.getHostID = cs.getHostID env botID)
    (hlocked : c.props.hostLockedUserID = cs.call.props.hostLockedUserID) :
    HostFine botID (Attends cs) c := by
  have hsome : ∀ {u}, Attends cs u → u ≠ "" := by
    rintro u ⟨x, hx, rfl⟩
    exact hne x hx
  -- a host who attends and is not the bot
  have hfine : ∀ {u}, cs.getHostID env botID = u → Attends cs u → u ≠ botID →
      (Attends cs cs.call.props.hostLockedUserID → u = cs.call.props.hostLockedUserID) →
      HostFine botID (Attends cs) c := by
    intro u hu hatt hbot hlock
    rw [hu] at hhost
    refine ⟨⟨fun h0 => ?_, fun hall => ?_⟩, fun _ => ?_, ?_, ?_⟩
    · exact absurd (hhost.symm.trans h0) (hsome hatt)
    · exact absurd (hall u hatt) hbot
    · rw [hhost]
      exact ⟨hatt, hbot⟩
    · rw [hlocked, hhost]
      exact hlock
    · rw [hlocked]
      exact hlockable
  rcases @getHostID_cases env _ botID hne with
    ⟨hatt, hu⟩ | ⟨hno, ⟨hatt, hu⟩ | ⟨-, ⟨hu, hall⟩ | ⟨hbot, hatt⟩⟩⟩
  · exact hfine hu hatt (hlockable.resolve_left (hsome hatt)) fun _ => rfl
  · exact hfine hu hatt (hcur hatt) fun h => absurd h hno
  · rw [hu] at hhost
    refine ⟨⟨fun _ u ⟨x, hx, hxu⟩ => hxu ▸ hall x hx, fun _ => hhost⟩,
      fun h0 => absurd hhost h0, ?_, ?_⟩
    · rw [hlocked]
      exact fun h => absurd h hno
    · rw [hlocked]
      exact hlockable
  · exact hfine rfl hatt hbot fun h => absurd h hno

/-- A user other than the host leaves. -/
theorem HostFine.without {botID u : String} {users users' : String → Prop} {c : Call}
    (h : HostFine botID users c) (hu : c.getHostID ≠ u) (hsub : ∀ v, users' v → users v)
    (hstay : ∀ v, users v → v ≠ u → users' v) : HostFine botID users' c where
  none := by
    refine ⟨fun h0 v hv => h.none.1 h0 v (hsub v hv), fun hall => ?_⟩
    by_contra hne
    obtain ⟨hatt, hbot⟩ := h.host hne
    exact hbot (hall _ (hstay _ hatt hu))
  host hne := ⟨hstay _ (h.host hne).1 hu, (h.host hne).2⟩
  locked hl := h.locked (hsub _ hl)
  lockable := h.lockable

/-- The rows the requests leave: each session belongs to a call and to the user of its
connection. -/
structure Known (userOf : String → String) (s : Store) : Prop where
  user : ∀ r ∈ s.sessions, r.userID ≠ "" ∧ r.userID = userOf r.id
  call : ∀ r ∈ s.sessions, ∃ c ∈ s.calls, c.id = r.callID

/-- The host of each ongoing call of the channel is fine. -/
structure HostOk (botID channelID : String) (userOf : String → String) (s : Store) :
    Prop extends Known userOf s where
  fine : ∀ c ∈ s.calls, c.channelID = channelID → c.endAt = 0 →
    HostFine botID (InCall s.sessions c.id) c

theorem Known.sameRows {userOf : String → String} {s s' : Store} (h : Known userOf s)
    (hrows : SameRows s s') : Known userOf s' := by
  refine ⟨?_, ?_⟩
  · rw [hrows.2]
    exact h.user
  · rw [hrows.1, hrows.2]
    exact h.call

theorem Known.updateCall {userOf : String → String} {s : Store}
    (h : Known userOf s) (c : Call) :
    Known userOf (s.updateCall c) where
  user := h.user
  call r hr := by
    obtain ⟨x, hx, hk⟩ := h.call r hr
    refine ⟨_, Store.mem_updateCall.2 ⟨x, hx, rfl⟩, ?_⟩
    split <;> exact hk

theorem Known.createCall {userOf : String → String} {s : Store} {c : Call}
    {t : Table Call.id} (h : Known userOf s) (hi : s.calls.insert? c = some t) :
    Known userOf { s with calls := t } where
  user := h.user
  call r hr := by
    obtain ⟨x, hx, hk⟩ := h.call r hr
    exact ⟨x, (Table.mem_of_insert? hi).2 (.inl hx), hk⟩

theorem Known.deleteCallSession {userOf : String → String} {s : Store}
    (h : Known userOf s) (id : String) : Known userOf (s.deleteCallSession id) where
  user r hr := h.user r (Store.mem_deleteCallSession.1 hr).1
  call r hr := h.call r (Store.mem_deleteCallSession.1 hr).1

/-! ## The state in memory -/

/-- What the state shared by a batch says about the store. -/
structure HostTracked (botID channelID : String) (userOf : String → String)
    (st : CallState) (s : Store) : Prop where
  known : Known userOf s
  others : ∀ c ∈ s.calls, c.channelID = channelID → c.endAt = 0 → c.id ≠ st.call.id →
    HostFine botID (InCall s.sessions c.id) c
  row : ∃ c ∈ s.calls, c.id = st.call.id
  stored : ∀ c ∈ s.calls, c.id = st.call.id → SameHost st.call c

/-- The state between the requests of a batch. -/
structure HostSync (botID channelID : String) (userOf : String → String)
    (st : CallState) (s : Store) :
    Prop extends HostTracked botID channelID userOf st s where
  sync : ∀ r, r ∈ st.sessions ↔ r ∈ s.sessions ∧ r.callID = st.call.id
  fine : HostFine botID (Attends st) st.call

/-- The state in the course of a leave of the user `u`: its session is gone, and the
host is what it was. -/
structure HostLeaving (botID channelID : String) (userOf : String → String) (u : String)
    (st : CallState) (s : Store) :
    Prop extends HostTracked botID channelID userOf st s where
  sync : ∀ r, r ∈ st.sessions ↔ r ∈ s.sessions ∧ r.callID = st.call.id
  before : HostFine botID (fun v => v = u ∨ Attends st v) st.call

/-- The state in the course of a join: the call is stored, the session `r` is not. -/
structure HostJoining (botID channelID : String) (userOf : String → String)
    (r : CallSession) (st : CallState) (s : Store) :
    Prop extends HostTracked botID channelID userOf st s where
  sync : ∀ x, x ∈ st.sessions ↔ x ∈ s.sessions ∧ x.callID = st.call.id ∨ x = r
  fine : r.userID ≠ "" → HostFine botID (Attends st) st.call

section State

variable {botID channelID : String} {userOf : String → String} {st st' : CallState}
  {s s' : Store}

theorem HostTracked.congr (h : HostTracked botID channelID userOf st s)
    (hid : st'.call.id = st.call.id) (hcall : SameHost st.call st'.call)
    (hrows : SameRows s s') :
    HostTracked botID channelID userOf st' s' where
  known := h.known.sameRows hrows
  others := by
    rw [hid, hrows.1, hrows.2]
    exact h.others
  row := by
    rw [hid, hrows.1]
    exact h.row
  stored := by
    rw [hid, hrows.1]
    exact fun c hc hcid => hcall.symm.trans (h.stored c hc hcid)

/-- The call is written as the state has it. -/
theorem HostTracked.updateCall (h : HostTracked botID channelID userOf st s)
    (hid : st'.call.id = st.call.id) :
    HostTracked botID channelID userOf st' (s.updateCall st'.call) where
  known := h.known.updateCall _
  others c hc hcc he hne := by
    obtain ⟨r, hr, rfl⟩ := Store.mem_updateCall.1 hc
    by_cases hk : r.id = st'.call.id
    · rw [if_pos hk] at hne
      exact absurd hk hne
    · rw [if_neg hk] at hcc he ⊢
      exact h.others r hr hcc he (hid ▸ hk)
  row := by
    obtain ⟨c, hc, hcid⟩ := h.row
    refine ⟨_, Store.mem_updateCall.2 ⟨c, hc, rfl⟩, ?_⟩
    split <;> exact hcid.trans hid.symm
  stored c hc hcid := by
    obtain ⟨r, hr, rfl⟩ := Store.mem_updateCall.1 hc
    by_cases hk : r.id = st'.call.id
    · rw [if_pos hk]
      exact ⟨rfl, rfl⟩
    · rw [if_neg hk] at hcid
      exact absurd hcid hk

theorem HostSync.attends_iff (h : HostSync botID channelID userOf st s) (u : String) :
    InCall s.sessions st.call.id u ↔ Attends st u := by
  constructor
  · rintro ⟨r, hr, hrc, hu⟩
    exact ⟨r, (h.sync r).2 ⟨hr, hrc⟩, hu⟩
  · rintro ⟨r, hr, hu⟩
    obtain ⟨hr, hrc⟩ := (h.sync r).1 hr
    exact ⟨r, hr, hrc, hu⟩

theorem HostSync.ok (h : HostSync botID channelID userOf st s) :
    HostOk botID channelID userOf s where
  toKnown := h.known
  fine c hc hcc he := by
    by_cases hid : c.id = st.call.id
    · exact h.fine.congr (fun u => hid ▸ h.attends_iff u) (h.stored c hc hid)
    · exact h.others c hc hcc he hid

/-- The state read under the lock is in step with the store. -/
theorem HostOk.sync (h : HostOk botID channelID userOf s)
    (hst : storedState s channelID = some st) :
    HostSync botID channelID userOf st s := by
  obtain ⟨hc, hcc, hact⟩ := storedState_active hst
  have hsync : ∀ r, r ∈ st.sessions ↔ r ∈ s.sessions ∧ r.callID = st.call.id :=
    fun r => mem_storedState_sessions hst
  refine ⟨⟨h.toKnown, fun c hc hcc he _ => h.fine c hc hcc he, ⟨st.call, hc, rfl⟩,
    fun c hmem hid => ?_⟩, hsync, ?_⟩
  · rw [storedState_row hst hmem hid]
    exact .refl _
  · refine (h.fine st.call hc hcc hact.1).congr (fun u => ?_) (.refl _)
    constructor
    · rintro ⟨r, hr, hu⟩
      exact ⟨r, ((hsync r).1 hr).1, ((hsync r).1 hr).2, hu⟩
    · rintro ⟨r, hr, hrc, hu⟩
      exact ⟨r, (hsync r).2 ⟨hr, hrc⟩, hu⟩

theorem HostSync.congr (h : HostSync botID channelID userOf st s)
    (hid : st'.call.id = st.call.id) (hcall : SameHost st.call st'.call)
    (hsess : st'.sessions = st.sessions) (hrows : SameRows s s') :
    HostSync botID channelID userOf st' s' where
  toHostTracked := h.toHostTracked.congr hid hcall hrows
  sync := by
    rw [hsess, hid, hrows.2]
    exact h.sync
  fine := h.fine.congr (fun u => by unfold Attends; rw [hsess]) hcall

/-- A call whose host is fine is written. -/
theorem HostSync.updateCall (h : HostSync botID channelID userOf st s)
    (hid : st'.call.id = st.call.id) (hsess : st'.sessions = st.sessions)
    (hfine : HostFine botID (Attends st') st'.call) :
    HostSync botID channelID userOf st' (s.updateCall st'.call) where
  toHostTracked := h.toHostTracked.updateCall hid
  sync := by
    rw [hsess, hid]
    exact h.sync
  fine := hfine

end State

/-! ## Leaves -/

/-- No join and no leave gives up on a failed store call. -/
def NotGivenUp (_ : Choice) (_ : Store) (o : Op) : Prop := o ≠ .reach .gaveUp

theorem not_givesUp {w : Store} : ¬ GivesUp NotGivenUp w := by
  rintro ⟨_, _, _, _, _, _, hgave⟩
  exact hgave rfl

section Leave

variable {channelID : String} {userOf : String → String} {p : Plugin} {env : Env}
  {r : LeaveRequest} {st : CallState} {s : Store}

theorem HostSync.user (h : HostSync p.botID channelID userOf st s) {x : CallSession}
    (hx : x ∈ st.sessions) : x.userID ≠ "" ∧ x.userID = userOf x.id :=
  h.known.user x ((h.sync x).1 hx).1

theorem hostLeftCall_getHostID {r : LeaveRequest} (hhost : st.call.getHostID = r.userID)
    (hne : st.sessions.rows ≠ []) :
    (hostLeftCall p env r st).getHostID = st.getHostID env p.botID := by
  unfold hostLeftCall
  by_cases hnew : st.getHostID env p.botID ≠ r.userID
  · rw [if_pos ⟨hhost, hne, hnew⟩]
    by_cases hnone : st.getHostID env p.botID = ""
    · rw [if_pos hnone, hnone]
      rfl
    · rw [if_neg hnone]
      rfl
  · rw [if_neg fun h => hnew h.2.2]
    exact hhost.trans (not_not.1 hnew).symm

theorem hostLeftCall_locked (r : LeaveRequest) :
    (hostLeftCall p env r st).props.hostLockedUserID =
    st.call.props.hostLockedUserID := by
  unfold hostLeftCall
  split <;> rfl

theorem hostLeftCall_of_ne {r : LeaveRequest} (hhost : st.call.getHostID ≠ r.userID) :
    hostLeftCall p env r st = st.call := if_neg fun h => hhost h.1

/-- The host of what a leave stores is fine. -/
theorem HostLeaving.left_fine (h : HostLeaving p.botID channelID userOf r.userID st s) :
    HostFine p.botID (Attends st) (left p env r st).call := by
  have huser : ∀ x ∈ st.sessions, x.userID ≠ "" := fun x hx =>
    (h.known.user x ((h.sync x).1 hx).1).1
  by_cases hnil : st.sessions.rows = []
  · -- the call ends
    have hcall : (left p env r st).call = setCallEnded env _ := if_pos hnil
    have hnobody : ∀ u, ¬ Attends st u := by
      rintro u ⟨x, hx, -⟩
      rw [Table.mem_def, hnil] at hx
      cases hx
    have hlocked : (left p env r st).call.props.hostLockedUserID =
        st.call.props.hostLockedUserID := by
      rw [hcall]
      exact hostLeftCall_locked r
    have hnone : (left p env r st).call.getHostID = "" := by
      rw [hcall]
      rfl
    refine ⟨⟨fun _ u hu => absurd hu (hnobody u), fun _ => hnone⟩,
      fun hne => absurd hnone hne, fun hu => absurd hu (hnobody _), ?_⟩
    rw [hlocked]
    exact h.before.lockable
  have hcall : (left p env r st).call = hostLeftCall p env r st := if_neg hnil
  rw [hcall]
  by_cases hhost : st.call.getHostID = r.userID
  · refine .chosen huser h.before.lockable (fun hatt => ?_)
      (hostLeftCall_getHostID hhost hnil) (hostLeftCall_locked r)
    obtain ⟨x, hx, hu⟩ := hatt
    exact (h.before.host (hu ▸ huser x hx)).2
  · rw [hostLeftCall_of_ne hhost]
    refine h.before.without hhost (fun v hv => .inr hv) fun v hv hne => ?_
    exact hv.resolve_left hne

theorem withoutSession_call (r : LeaveRequest) :
    (withoutSession env r st).call.id = st.call.id ∧
    SameHost st.call (withoutSession env r st).call := by
  unfold withoutSession screenLeftCall
  dsimp only
  split <;> exact ⟨rfl, rfl, rfl⟩

/-- A leave keeps the host fine. -/
theorem hostLeft_rule (huser : r.userID = userOf r.originalConnID) :
    LeaveRule NotGivenUp (fun _ _ => True) p env r (HostSync p.botID channelID userOf)
      (HostLeaving p.botID channelID userOf r.userID) where
  jobs :=
    { op c st w o ho h := by
        have hrows := ho.sameRows c w
        exact ⟨h.toHostTracked.congr rfl (.refl _) hrows, by rw [hrows.2]; exact h.sync,
          h.before⟩
      mem st st' w hsame h := by
        obtain ⟨hcall, hsess⟩ := hsame
        refine ⟨h.toHostTracked.congr (congrArg Call.id hcall) (hcall ▸ .refl _)
          (.refl w), ?_, ?_⟩
        · rw [hsess, hcall]
          exact h.sync
        · rw [hcall]
          exact h.before.congr (fun u => by unfold Attends; rw [hsess]) (.refl _) }
  deleted st us w _ h hus _ _ := by
    obtain ⟨hmem, hid⟩ := Table.find?_eq_some.1 hus
    have ⟨hcid, hcall⟩ : (withoutSession env r st).call.id = st.call.id ∧
        SameHost st.call (withoutSession env r st).call := withoutSession_call r
    have husUser : us.userID = r.userID := by
      rw [(h.user hmem).2, hid, huser]
    have hsync : ∀ x, x ∈ (withoutSession env r st).sessions ↔
        x ∈ (w.deleteCallSession r.originalConnID).sessions ∧
          x.callID = (withoutSession env r st).call.id := by
      intro x
      rw [withoutSession, Table.mem_erase, Store.mem_deleteCallSession, h.sync]
      exact (hcid ▸ and_right_comm)
    refine ⟨⟨h.known.deleteCallSession _, fun c hc hcc he hne => ?_, ?_, ?_⟩, hsync, ?_⟩
    · -- the session that left is none of another call
      rw [hcid] at hne
      refine (h.others c hc hcc he hne).congr (fun u => ?_) (.refl _)
      constructor
      · rintro ⟨x, hx, hxc⟩
        exact ⟨x, (Store.mem_deleteCallSession.1 hx).1, hxc⟩
      · rintro ⟨x, hx, hxc, hxu⟩
        refine ⟨x, Store.mem_deleteCallSession.2 ⟨hx, fun hxid => hne ?_⟩, hxc, hxu⟩
        have hsame : x = us :=
          w.sessions.eq_of_key_eq hx ((h.sync us).1 hmem).1 (hxid.trans hid.symm)
        rw [← hxc, hsame]
        exact ((h.sync us).1 hmem).2
    · rw [hcid]
      exact h.row
    · rw [hcid]
      exact fun c hc hcc => hcall.symm.trans (h.stored c hc hcc)
    · refine h.fine.congr (fun u => ?_) hcall
      constructor
      · rintro (rfl | ⟨x, hx, hxu⟩)
        · exact ⟨us, hmem, husUser⟩
        · exact ⟨x, (Table.mem_erase.1 hx).1, hxu⟩
      · rintro ⟨x, hx, hxu⟩
        by_cases hxid : x.id = r.originalConnID
        · left
          rw [← hxu, ← husUser]
          exact congrArg CallSession.userID
            (st.sessions.eq_of_key_eq hx hmem (hxid.trans hid.symm))
        · exact .inr ⟨x, Table.mem_erase.2 ⟨hx, hxid⟩, hxu⟩
  gaveUp _ _ _ hgave := absurd hgave not_givesUp
  unsaved _ _ _ hgave := absurd hgave not_givesUp
  saved st w h _ :=
    { toHostTracked := h.toHostTracked.updateCall (left_id r)
      sync := by
        rw [left_id]
        exact h.sync
      fine := h.left_fine }
  update _ _ _ := trivial

end Leave

/-! ## Joins -/

/-- The state shared by a batch of joins. -/
def HostState (botID channelID : String) (userOf : String → String) :
    Option CallState → Store → Prop
  | none, s => HostOk botID channelID userOf s
  | some st, s => HostSync botID channelID userOf st s

section Join

variable {channelID : String} {userOf : String → String} {p : Plugin} {env : Env}
  {r : JoinRequest} {state : Option CallState} {st : CallState} {s : Store}

theorem HostState.ok (h : HostState p.botID channelID userOf state s) :
    HostOk p.botID channelID userOf s := by
  cases state with
  | none => exact h
  | some st => exact HostSync.ok h

theorem mem_joined_sessions (hcheck : checkJoin p st r.connID = .ok ())
    {x : CallSession} :
    x ∈ (joined p env st r).sessions ↔ x ∈ st.sessions ∨
    x = newSession env st r.userID r.connID := by
  rw [Table.mem_def, joined_sessions env hcheck, List.mem_append, List.mem_singleton]
  exact Iff.rfl

theorem newSession_joined : newSession env (joined p env st r) r.userID r.connID =
    newSession env st r.userID r.connID := by
  unfold newSession
  rw [joined_call]

theorem attends_joined (u : String) :
    Attends (joined p env st r) u ↔ Attends (withSession env st r) u := by
  have hput : (withSession env st r).sessions = (joined p env st r).sessions := by
    unfold withSession joined admitted
    dsimp only
    rw [withJobs_sessions]
    unfold newSession
    rw [withJobs_call]
  unfold Attends
  rw [hput]

/-- The host a join chooses is fine, with the new session and the old ones. -/
theorem joined_fine (huser : ∀ x ∈ (joined p env st r).sessions, x.userID ≠ "")
    (hlockable : st.call.props.hostLockedUserID = "" ∨
      st.call.props.hostLockedUserID ≠ p.botID)
    (hhost : st.call.getHostID ≠ "" → st.call.getHostID ≠ p.botID) :
    HostFine p.botID (Attends (joined p env st r)) (joined p env st r).call := by
  have hput : ∀ x ∈ (withSession env st r).sessions, x.userID ≠ "" := by
    intro x hx hu
    obtain ⟨y, hy, hyu⟩ := (attends_joined (p := p) x.userID).2 ⟨x, hx, rfl⟩
    exact huser y hy (hyu.trans hu)
  have hnew : (joined p env st r).call.getHostID =
      (withSession env st r).getHostID env p.botID := by
    rw [joined_call]
    unfold Call.getHostID
    dsimp only
    split
    · rfl
    next hsame => exact (not_not.1 hsame).symm
  have hlocked : (joined p env st r).call.props.hostLockedUserID =
      (withSession env st r).call.props.hostLockedUserID := by
    rw [joined_call]
    rfl
  have hfine : HostFine p.botID (Attends (withSession env st r))
      (joined p env st r).call := by
    refine .chosen hput hlockable (fun hatt => hhost ?_) hnew hlocked
    obtain ⟨x, hx, hu⟩ := hatt
    exact fun h0 => hput x hx (hu.trans h0)
  exact hfine.congr attends_joined (.refl _)

theorem joined_id : (joined p env st r).call.id = st.call.id := by
  rw [joined_call]

/-- A join keeps the host fine. -/
theorem hostJoin_rule (huser : r.userID = userOf r.connID) :
    JoinRule NotGivenUp (fun _ _ => True) p env r channelID
      (HostState p.botID channelID userOf)
      (fun _ st => HostJoining p.botID channelID userOf
        (newSession env st r.userID r.connID) st) where
  jobs c state w o ho h := by
    have hrows := ho.sameRows c w
    cases state with
    | none =>
        have h : HostOk p.botID channelID userOf w := h
        refine ⟨h.toKnown.sameRows hrows, ?_⟩
        rw [hrows.1, hrows.2]
        exact h.fine
    | some st => exact HostSync.congr h rfl (.refl _) rfl hrows
  created state st w t h hcall hcheck hlen hv hi := by
    obtain ⟨hfresh, hrows⟩ := Table.insert?_eq_some.1 hi
    have hok := h.ok
    -- a call that is stored already cannot be inserted
    obtain ⟨host, rfl⟩ : ∃ host, st = newCallState p env r.userID channelID host := by
      rcases callToJoin_eq_ok hcall with rfl | ⟨-, hst⟩
      · obtain ⟨c, hc, hcid⟩ := HostTracked.row (HostSync.toHostTracked h)
        exact absurd (hcid.trans joined_id.symm) (hfresh c hc)
      · exact hst
    refine ⟨⟨hok.toKnown.createCall hi, fun c hc hcc he hne => ?_, ?_,
      fun c hc hcid => ?_⟩,
      fun x => ?_, fun hsome => joined_fine (fun x hx => ?_) (.inl rfl) fun h0 =>
        absurd rfl h0⟩
    · rcases (Table.mem_of_insert? hi).1 hc with hc | rfl
      · exact hok.fine c hc hcc he
      · exact absurd rfl hne
    · exact ⟨_, (Table.mem_of_insert? hi).2 (.inr rfl), rfl⟩
    · rcases (Table.mem_of_insert? hi).1 hc with hc | rfl
      · exact absurd hcid (hfresh c hc)
      · exact .refl _
    · -- the id of the call is new, so it has no session yet
      rw [mem_joined_sessions hcheck, newSession_joined]
      have hnone : ¬ (x ∈ w.sessions ∧ x.callID = (joined p env
          (newCallState p env r.userID channelID host) r).call.id) := by
        rintro ⟨hx, hxc⟩
        obtain ⟨c, hc, hcid⟩ := hok.call x hx
        exact hfresh c hc (hcid.trans hxc)
      exact or_congr_left ⟨fun hx => absurd hx (Table.not_mem_empty x),
        fun hx => absurd hx hnone⟩
    · rcases (mem_joined_sessions hcheck).1 hx with hx | rfl
      · exact absurd hx (Table.not_mem_empty x)
      · exact hsome
  updated state st w h hcall hcheck hlen hv := by
    obtain rfl := callToJoin_of_length hcall hcheck hlen
    have h : HostSync p.botID channelID userOf st w := h
    refine ⟨h.toHostTracked.updateCall joined_id, fun x => ?_, fun hsome =>
      joined_fine (fun x hx => ?_) h.fine.lockable fun h0 => (h.fine.host h0).2⟩
    · rw [mem_joined_sessions hcheck, h.sync, joined_id, newSession_joined]
      exact Iff.rfl
    · rcases (mem_joined_sessions hcheck).1 hx with hx | rfl
      · exact (h.user hx).1
      · exact hsome
  create _ _ _ _ _ _ _ := trivial
  update _ _ _ _ _ _ _ := trivial
  gaveUp _ _ _ _ hgave := absurd hgave not_givesUp
  session _ _ _ _ := trivial
  entered state st w t h hv hi := by
    have hsome : r.userID ≠ "" := (CallSession.isValid_ok.1 hv).2.2.1
    have hmem : ∀ x, x ∈ t ↔ x ∈ w.sessions ∨ x = newSession env st r.userID r.connID :=
      fun x => Table.mem_of_insert? hi
    refine ⟨⟨⟨fun x hx => ?_, fun x hx => ?_⟩, fun c hc hcc he hne => ?_, h.row,
      h.stored⟩, fun x => ?_, h.fine hsome⟩
    · rcases (hmem x).1 hx with hx | rfl
      · exact h.known.user x hx
      · exact ⟨hsome, huser⟩
    · rcases (hmem x).1 hx with hx | rfl
      · exact h.known.call x hx
      · exact h.row
    · refine (h.others c hc hcc he hne).congr (fun u => ?_) (.refl _)
      constructor
      · rintro ⟨x, hx, hxc, hxu⟩
        rcases (hmem x).1 hx with hx | rfl
        · exact ⟨x, hx, hxc, hxu⟩
        · exact absurd hxc.symm hne
      · rintro ⟨x, hx, hxc, hxu⟩
        exact ⟨x, (hmem x).2 (.inl hx), hxc, hxu⟩
    · rw [h.sync, hmem]
      constructor
      · rintro (⟨hx, hxc⟩ | rfl)
        · exact ⟨.inl hx, hxc⟩
        · exact ⟨.inr rfl, rfl⟩
      · rintro ⟨hx | rfl, hxc⟩
        · exact .inl ⟨hx, hxc⟩
        · exact .inr rfl
  unposted st w postID threadID h _ _ := HostSync.congr h rfl ⟨rfl, rfl⟩ rfl (.refl w)
  posted st w postID threadID h _ _ _ := by
    have h : HostSync p.botID channelID userOf st w := h
    have hfine : HostFine p.botID (Attends (withPost st postID threadID))
        (withPost st postID threadID).call := h.fine.congr (fun _ => Iff.rfl) ⟨rfl, rfl⟩
    exact h.updateCall rfl rfl hfine
  post _ _ _ _ _ _ _ := trivial

end Join

/-! ## Choices of a host -/

/-- The rules of joins, leaves and choices of a host. -/
abbrev hostLogic (botID channelID : String) (userOf : String → String) :
    Logic Op Op.Resp Store Choice :=
  callRules (fun _ => NotGivenUp) (fun _ _ => True) (HostOk botID channelID userOf) True

theorem lenient_true : Lenient fun _ _ => True := fun _ _ _ => trivial

section Choose

variable {channelID : String} {userOf : String → String} {p : Plugin} {env : Env}
  {st st' : CallState} {w : Store}

/-- Writing a call whose host is fine. -/
theorem updateCallOf_host {α : Type} {c : Except String Unit → Body α}
    (h : HostSync p.botID channelID userOf st w) (hid : st'.call.id = st.call.id)
    (hsess : st'.sessions = st.sessions)
    (hfine : HostFine p.botID (Attends st') st'.call)
    (hc : ∀ res, (c res).Only Op.Silent) :
    (updateCallOf st' >>= c).wp (hostLogic p.botID channelID userOf)
      (fun _ w' => HostOk p.botID channelID userOf w') w := by
  have hnext : ∀ res w', HostOk p.botID channelID userOf w' →
      (c res).wp (hostLogic p.botID channelID userOf)
        (fun _ w' => HostOk p.botID channelID userOf w') w' := fun res w' hw' =>
    silent_rule lenient_true (hc res) (R := fun _ => True)
      (Code.all_of_forall (fun _ => trivial) _) fun _ _ => hw'
  refine Code.wp_bind.2
    (Code.wp_bind.2 (store_rule trivial (fun _ e _ _ => hnext _ w h.ok) fun a ha => ?_))
  simp only [StoreOp.exec] at ha ⊢
  split at ha
  · cases ha
  · exact hnext _ _ (h.updateCall hid hsess hfine).ok

/-- `changeHost` keeps the host fine. -/
theorem hostChanged_rule {requesterID newHostID : String} {state : Option CallState}
    (h : HostState p.botID channelID userOf state w) :
    (hostChanged p env requesterID channelID newHostID state).wp
      (hostLogic p.botID channelID userOf)
      (fun _ w' => HostOk p.botID channelID userOf w') w := by
  have hok := h.ok
  cases state with
  | none => exact hok
  | some st =>
      have h : HostSync p.botID channelID userOf st w := h
      unfold hostChanged
      dsimp only
      split
      · exact hok
      split
      · exact hok
      next hbot =>
        split
        next hhost =>
          -- the host stays, and is locked if nobody was
          split
          · rw [← Code.bind_ret (updateCallOf _)]
            refine updateCallOf_host h rfl rfl ⟨?_, ?_, fun _ => hhost, .inr hbot⟩
              fun _ => trivial
            · exact h.fine.none
            · exact h.fine.host
          · exact hok
        next =>
          split
          · exact hok
          next hcall =>
            have hatt : Attends st newHostID := isUserIDInCall_iff.1 (not_not.1 hcall)
            have hsome : newHostID ≠ "" := by
              obtain ⟨x, hx, hu⟩ := hatt
              exact hu ▸ (h.user hx).1
            refine updateCallOf_host h rfl rfl ⟨⟨fun h0 => ?_, fun hall => ?_⟩,
              fun _ => ⟨hatt, hbot⟩, fun _ => rfl, .inr hbot⟩ fun res => ?_
            · exact absurd h0 hsome
            · exact absurd (hall newHostID hatt) hbot
            · cases res with
              | error e => trivial
              | ok _ => exact ⟨trivial, fun _ => trivial⟩

end Choose

/-! ## Runs -/

/-- A join or a leave by the user of its connection, or a choice of a host. -/
def Handler.MovesHost (userOf : String → String) : Handler → Prop
  | .join j => j.req.userID = userOf j.req.connID
  | .joinBatch js => ∀ j ∈ js, j.req.userID = userOf j.req.connID
  | .leave l => l.req.userID = userOf l.req.originalConnID
  | .leaveBatch ls => ∀ l ∈ ls, l.req.userID = userOf l.req.originalConnID
  | .changeHost _ _ => True
  | _ => False

section Runs

variable {channelID : String} {userOf : String → String}

/-- Every such request meets its precondition. -/
theorem movesHost_wp {h : Handler} (hh : h.MovesHost userOf) (p : Plugin)
    (env : Env) (w : Store) :
    wp (hostLogic p.botID channelID userOf) false (h.code p env channelID)
      (fun h _ _ => h = false) w := by
  have hstate : ∀ {w : Store}, HostOk p.botID channelID userOf w →
      HostState p.botID channelID userOf (storedState w channelID) w := by
    intro w hok
    cases hst : storedState w channelID with
    | none => exact hok
    | some st => exact hok.sync hst
  have hjoin : ∀ j : Join, j.req.userID = userOf j.req.connID → ∀ state w,
      HostState p.botID channelID userOf state w →
        (addSessionToCall p j.env j.req channelID state).wp
          (hostLogic p.botID channelID userOf)
          (fun res w' => HostState p.botID channelID userOf res.1 w') w :=
    fun j hj state w hw => (hostJoin_rule hj).addSessionToCall lenient_true hw
  have hleave : ∀ l : Leave, l.req.userID = userOf l.req.originalConnID → ∀ state w,
      HostState p.botID channelID userOf state w →
        (removeUserSession p l.env l.req channelID state).wp
          (hostLogic p.botID channelID userOf)
          (fun res w' => HostState p.botID channelID userOf res.1 w') w :=
    fun l hl state w hw => (hostLeft_rule hl).removeUserSession lenient_true
      (R := HostState p.botID channelID userOf) (fun _ _ => Iff.rfl) hw
  cases h with
  | join j =>
      refine discard_rule (underLock_rule lenient_true fun w hok => ?_)
      exact Code.wp_bind.2
        (Code.wp_mono (hjoin j hh _ w (hstate hok)) fun _ _ hw => hw.ok)
  | joinBatch js =>
      refine discard_rule (underLock_rule lenient_true fun w hok => ?_)
      exact Code.wp_mono (addSessionsToCall_rule js (fun j hj => hjoin j (hh j hj)) _ w
        (hstate hok)) fun _ _ ⟨_, hw⟩ => hw.ok
  | leave l =>
      refine discard_rule (underLock_rule lenient_true fun w hok => ?_)
      exact Code.wp_bind.2
        (Code.wp_mono (hleave l hh _ w (hstate hok)) fun _ _ hw => hw.ok)
  | leaveBatch ls =>
      refine discard_rule (underLock_rule lenient_true fun w hok => ?_)
      exact Code.wp_mono (removeSessionsFromCall_rule ls
        (fun l hl => hleave l (hh l hl)) _ w (hstate hok)) fun _ _ ⟨_, hw⟩ => hw.ok
  | changeHost requesterID newHostID =>
      exact discard_rule (underLock_rule lenient_true fun w hok =>
        hostChanged_rule (hstate hok))
  | _ => exact hh.elim

variable {T N : Type} [DecidableEq T] [DecidableEq N]

/-- No join and no leave gives up on a failed store call. -/
def NoneGivesUp (_ : List (Event T Choice)) (s : Sys Op Op.Resp Store T N) (t : T)
    (_ : Act Choice) :
    Prop := ∀ k, s.code t ≠ .op (.reach .gaveUp) k

/-- In every run of joins, leaves and choices of a host in which none fails half-way:
whenever the lock is free, an ongoing call has no host exactly if nobody but the bot has
a session in it, its host is a user with a session in it and not the bot, and the locked
user is its host if that user has a session in it. -/
theorem host_of_runs (node : T → N) (p : T → Plugin) (env : T → Env)
    (channelID botID : String) (hbot : ∀ t, (p t).botID = botID)
    (userOf : String → String) (store : Store) (h : T → Handler)
    (hh : ∀ t, (h t).MovesHost userOf) (h0 : HostOk botID channelID userOf store)
    {tr : List (Event T Choice)} {s : Sys Op Op.Resp Store T N}
    (hr : Runs exec node NoneGivesUp (requests p env channelID store h) tr s)
    (hfree : s.owner = none) (c : Call) (hc : c ∈ s.world.calls)
    (hcc : c.channelID = channelID) (he : c.endAt = 0) :
    (c.getHostID = "" ↔ ¬ ∃ r ∈ s.world.sessions, r.callID = c.id ∧ r.userID ≠ botID) ∧
    (c.getHostID ≠ "" → c.getHostID ≠ botID ∧
      ∃ r ∈ s.world.sessions, r.callID = c.id ∧ r.userID = c.getHostID) ∧
    ∀ r ∈ s.world.sessions, r.callID = c.id → r.userID = c.props.hostLockedUserID →
      c.getHostID = c.props.hostLockedUserID := by
  have hok := hr.monitor (L := hostLogic botID channelID userOf)
    (m := fun _ => (hostLogic botID channelID userOf).terms)
    (Sys.OkFor.start (start_unlocked _ _) h0 fun t w =>
      hbot t ▸ movesHost_wp (hh t) (p t) (env t) w)
    (fun _ s t c o k hok hk ho => by subst ho; exact hok k hk) (fun _ _ _ _ => trivial)
    (fun hf => hf.elim)
  have hfine : HostFine botID (InCall s.world.sessions c.id) c :=
    HostOk.fine (hok.free hfree) c hc hcc he
  refine ⟨?_, fun hne => ⟨(hfine.host hne).2, (hfine.host hne).1⟩, fun r hr hrc hu =>
    hfine.locked ⟨r, hr, hrc, hu⟩⟩
  rw [hfine.none]
  constructor
  · rintro hall ⟨r, hr, hrc, hne⟩
    exact hne (hall _ ⟨r, hr, hrc, rfl⟩)
  · rintro hno u ⟨r, hr, hrc, rfl⟩
    by_contra hne
    exact hno ⟨r, hr, hrc, hne⟩

end Runs

/-! ## Instances -/

theorem noneGivesUp_of_checked {T N : Type} (tr : List (Event T Choice))
    (s : Sys Op Op.Resp Store T N) (t : T) (a : Act Choice)
    (h : checkNoneGivesUp tr s t a = true) :
    NoneGivesUp tr s t a := by
  intro k hk
  simp [checkNoneGivesUp, hk] at h

theorem emptyStore_hostOk (botID channelID : String) (userOf : String → String) :
    HostOk botID channelID userOf emptyStore where
  user r hr := absurd hr (Table.not_mem_empty r)
  call r hr := absurd hr (Table.not_mem_empty r)
  fine c hc := absurd hc (Table.not_mem_empty c)

/-- Bob starts a call, carol joins it, and bob leaves. -/
def comeAndGo : Fin 3 → Handler
  | 0 => bobsJoin
  | 1 => .join ⟨carolJoins, .sample 30⟩
  | 2 => .leave ⟨⟨"bob", "s2", "s2"⟩, .sample 40⟩

/-- The users of the two connections. -/
def connUser (connID : String) : String := if connID = "s2" then "bob" else "carol"

/-- The host leaves, and the other user is the host. -/
theorem host_of_comeAndGo : ∃ (tr : List (Event (Fin 3) Choice))
    (s : Sys Op Op.Resp Store (Fin 3) Unit),
    Runs exec (fun _ => ()) NoneGivesUp
      (requests (fun _ => .sample) (fun _ => .sample 20) "chan" emptyStore comeAndGo) tr
      s ∧
    s.owner = none ∧ ∃ c ∈ s.world.calls, c.channelID = "chan" ∧ c.endAt = 0 ∧
      c.getHostID = "carol" ∧
      (c.getHostID ≠ "" → c.getHostID ≠ "bot" ∧
        ∃ r ∈ s.world.sessions, r.callID = c.id ∧ r.userID = c.getHostID) := by
  have hsched : ((requests (fun _ => .sample) (fun _ => .sample 20) "chan" emptyStore
      comeAndGo).sched exec (fun _ => ()) checkNoneGivesUp []
      (inTurn 0 9 Choice.works ++ inTurn 1 8 Choice.works ++
        inTurn 2 7 Choice.works)).map
      (fun r => (r.2.owner, r.2.world.calls.rows.map fun c =>
        (c.channelID, c.endAt, c.getHostID))) =
      some (none, [("chan", 0, "carol")]) := by
    decide
  obtain ⟨tr, s, hr, hf⟩ := Runs.exists_of_sched noneGivesUp_of_checked hsched
  obtain ⟨hfree, hcalls⟩ := Prod.mk.inj hf
  have hrow : ("chan", (0 : Int), "carol") ∈ s.world.calls.rows.map
      fun c => (c.channelID, c.endAt, c.getHostID) := by
    rw [hcalls]
    exact List.mem_singleton_self _
  obtain ⟨c, hc, heq⟩ := List.mem_map.1 hrow
  simp only [Prod.mk.injEq] at heq
  obtain ⟨hcc, he, hhost⟩ := heq
  have hh : ∀ t, (comeAndGo t).MovesHost connUser := fun t => by
    match t with
    | 0 => rfl
    | 1 => rfl
    | 2 => rfl
  have hfine :=
    host_of_runs _ _ _ "chan" "bot" (fun _ => rfl) connUser emptyStore comeAndGo hh
    (emptyStore_hostOk _ _ _) hr hfree c hc hcc he
  exact ⟨tr, s, hr, hfree, c, hc, hcc, he, hhost, hfine.2.1⟩

end CallsPlugin.Ports
