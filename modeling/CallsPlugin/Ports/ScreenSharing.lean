import CallsPlugin.Ports.Requests

/-!
# Who shares the screen

The call row names the session that shares its screen.  That session exists as long as
each request to share comes to its write while the session has a row, and only a request
of that session, or the end of the call, takes the name away.
-/

namespace CallsPlugin.Ports

open CallsPlugin.Verified
open CallsPlugin.Ports.Public CallsPlugin.Ports.Db

/-! ## The invariant -/

/-- The session that shares its screen in the call; empty for none. -/
def sharer (c : Call) : String := c.props.screenSharingSessionID

/-- The session that shares its screen, if any, is one of the call. -/
def Shares (t : Table CallSession.id) (c : Call) : Prop :=
  sharer c = "" ∨ ∃ r ∈ t, r.id = sharer c ∧ r.callID = c.id

/-- In the calls of the channel that have not ended the sharing session exists. -/
def ScreenOk (channelID : String) (s : Store) : Prop :=
  ∀ c ∈ s.calls, c.channelID = channelID → c.endAt = 0 → Shares s.sessions c

theorem Shares.congr {t : Table CallSession.id} {c c' : Call} (h : Shares t c)
    (hid : c'.id = c.id) (hs : sharer c' = sharer c) : Shares t c' := by
  unfold Shares
  rw [hid, hs]
  exact h

theorem Shares.mono {t t' : Table CallSession.id} {c : Call} (h : Shares t c)
    (ht : ∀ r ∈ t, r ∈ t') : Shares t' c :=
  h.imp_right fun ⟨r, hr, hrc⟩ => ⟨r, ht r hr, hrc⟩

theorem ScreenOk.congr {channelID : String} {s s' : Store} (h : ScreenOk channelID s)
    (hrows : SameRows s s') : ScreenOk channelID s' := by
  unfold ScreenOk
  rw [hrows.1, hrows.2]
  exact h

/-- After an update of a call, if the sharing session of what was written exists. -/
theorem ScreenOk.updateCall {channelID : String} {s : Store} {c' : Call}
    (h : ∀ c ∈ s.calls, c.channelID = channelID → c.endAt = 0 → c.id ≠ c'.id →
      Shares s.sessions c)
    (hc' : c'.endAt = 0 → Shares s.sessions c') :
    ScreenOk channelID (s.updateCall c') := by
  intro x hx hxc hxe
  obtain ⟨r, hr, rfl⟩ := Store.mem_updateCall.1 hx
  by_cases hk : r.id = c'.id
  · rw [if_pos hk] at hxe ⊢
    exact (hc' hxe).congr hk rfl
  · rw [if_neg hk] at hxc hxe ⊢
    exact h r hr hxc hxe hk

theorem ScreenOk.createCall {channelID : String} {s : Store} {c' : Call}
    {t : Table Call.id} (h : ScreenOk channelID s)
    (hc' : c'.endAt = 0 → Shares s.sessions c')
    (hi : s.calls.insert? c' = some t) : ScreenOk channelID { s with calls := t } := by
  intro x hx hxc hxe
  rcases (Table.mem_of_insert? hi).1 hx with hx | rfl
  · exact h x hx hxc hxe
  · exact hc' hxe

/-! ## The state in memory -/

/-- What the state shared by a batch says about the store: the stored row of its call
names the same session, and its sessions are those of its call. -/
structure ScreenTracked (channelID : String) (st : CallState) (s : Store) : Prop where
  channel : st.call.channelID = channelID ∧
    ∀ c ∈ s.calls, c.id = st.call.id → c.channelID = channelID
  shares : st.call.endAt = 0 → Shares s.sessions st.call
  mine : ∀ r ∈ st.sessions, ∀ r' ∈ s.sessions, r'.id = r.id → r'.callID = st.call.id

/-- The state between the requests of a batch. -/
structure ScreenSync (channelID : String) (st : CallState) (s : Store) : Prop
    extends ScreenTracked channelID st s where
  ok : ScreenOk channelID s
  stored : ∀ c ∈ s.calls, c.id = st.call.id → c.endAt = 0 → sharer c = sharer st.call

/-- The state in the course of a leave of the session `id`: its row is gone, while the
stored call may still name it. -/
structure ScreenLeaving (channelID id : String) (st : CallState) (s : Store) : Prop
    extends ScreenTracked channelID st s where
  others : ∀ c ∈ s.calls, c.channelID = channelID → c.endAt = 0 → c.id ≠ st.call.id →
    Shares s.sessions c
  stored : ∀ c ∈ s.calls, c.id = st.call.id → c.endAt = 0 →
    sharer c = sharer st.call ∨ sharer c = id ∧ sharer st.call = ""
  gone : ∀ r ∈ s.sessions, r.id ≠ id

/-- Two calls differ at most in what sharing a screen does not depend on. -/
structure SameScreen (c c' : Call) : Prop where
  id : c'.id = c.id
  channelID : c'.channelID = c.channelID
  sharer : sharer c' = Ports.sharer c
  endAt : c'.endAt = 0 → c.endAt = 0

theorem ScreenTracked.congr {channelID : String} {st st' : CallState} {s s' : Store}
    (h : ScreenTracked channelID st s) (hcall : SameScreen st.call st'.call)
    (hsess : st'.sessions = st.sessions) (hrows : SameRows s s') :
    ScreenTracked channelID st' s' where
  channel := by
    rw [hcall.channelID, hcall.id, hrows.1]
    exact h.channel
  shares he := by
    rw [hrows.2]
    exact (h.shares (hcall.endAt he)).congr hcall.id hcall.sharer
  mine := by
    rw [hsess, hcall.id, hrows.2]
    exact h.mine

theorem ScreenSync.congr {channelID : String} {st st' : CallState} {s s' : Store}
    (h : ScreenSync channelID st s) (hcall : SameScreen st.call st'.call)
    (hsess : st'.sessions = st.sessions) (hrows : SameRows s s') :
    ScreenSync channelID st' s' where
  toScreenTracked := h.toScreenTracked.congr hcall hsess hrows
  ok := h.ok.congr hrows
  stored := by
    rw [hcall.id, hcall.sharer, hrows.1]
    exact h.stored

theorem ScreenLeaving.congr {channelID id : String} {st st' : CallState} {s s' : Store}
    (h : ScreenLeaving channelID id st s) (hcall : SameScreen st.call st'.call)
    (hsess : st'.sessions = st.sessions) (hrows : SameRows s s') :
    ScreenLeaving channelID id st' s' where
  toScreenTracked := h.toScreenTracked.congr hcall hsess hrows
  others := by
    rw [hcall.id, hrows.1, hrows.2]
    exact h.others
  stored := by
    rw [hcall.id, hcall.sharer, hrows.1]
    exact h.stored
  gone := by
    rw [hrows.2]
    exact h.gone

theorem SameScreen.refl (c : Call) : SameScreen c c := ⟨rfl, rfl, rfl, fun h => h⟩

theorem SameCall.sameScreen {st st' : CallState} (h : SameCall st st') :
    SameScreen st.call st'.call := h.1 ▸ .refl _

/-- The call is written as the state has it. -/
theorem ScreenTracked.updateCall {channelID : String} {st : CallState} {s : Store}
    (h : ScreenTracked channelID st s)
      (hothers : ∀ c ∈ s.calls, c.channelID = channelID →
      c.endAt = 0 → c.id ≠ st.call.id → Shares s.sessions c) :
    ScreenSync channelID st (s.updateCall st.call) where
  channel := by
    refine ⟨h.channel.1, fun c hc hid => ?_⟩
    obtain ⟨r, hr, rfl⟩ := Store.mem_updateCall.1 hc
    split at hid
    · next hk =>
        rw [if_pos hk]
        exact h.channel.2 r hr hk
    · next hk => exact absurd hid hk
  shares := h.shares
  mine := h.mine
  ok := .updateCall hothers h.shares
  stored c hc hid _ := by
    obtain ⟨r, hr, rfl⟩ := Store.mem_updateCall.1 hc
    split at hid
    · next hk =>
        rw [if_pos hk]
        rfl
    · next hk => exact absurd hid hk

/-- A leave that gives up while the sharing session exists has not touched it. -/
theorem ScreenLeaving.sync {channelID id : String} {st : CallState} {s : Store}
    (h : ScreenLeaving channelID id st s) (hok : ScreenOk channelID s) :
    ScreenSync channelID st s where
  toScreenTracked := h.toScreenTracked
  ok := hok
  stored c hc hid he := by
    rcases h.stored c hc hid he with hs | ⟨hs, hmem⟩
    · exact hs
    · rcases hok c hc (h.channel.2 c hc hid) he with hnone | ⟨r, hr, hrid, -⟩
      · rw [hnone, hmem]
      · exact absurd (hrid.trans hs) (h.gone r hr)

/-- The state read under the lock is in step with the store. -/
theorem ScreenOk.sync {channelID : String} {s : Store} (h : ScreenOk channelID s)
    {st : CallState} (hst : storedState s channelID = some st) :
    ScreenSync channelID st s := by
  obtain ⟨hc, hcc, -⟩ := storedState_active hst
  have hrow : ∀ c ∈ s.calls, c.id = st.call.id → c = st.call := fun c hmem hid =>
    storedState_row hst hmem hid
  refine ⟨⟨⟨hcc, fun c hmem hid => ?_⟩, h st.call hc hcc, fun r hr r' hr' hid => ?_⟩, h,
    fun c hmem hid _ => ?_⟩
  · rw [hrow c hmem hid]
    exact hcc
  · obtain ⟨hmem, hcall⟩ := (mem_storedState_sessions hst).1 hr
    rw [s.sessions.eq_of_key_eq hr' hmem hid]
    exact hcall
  · exact congrArg sharer (hrow c hmem hid)

/-! ## What a write of a call may change -/

/-- A write of a call takes the name of the sharing session away only where `clears`
permits it, or when the call ends. -/
def KeepsSharer (clears : String → Prop) (s : Store) : Op → Prop
  | .store (.updateCall c') =>
      ∀ c ∈ s.calls, c.id = c'.id → c.endAt = 0 → sharer c ≠ "" →
      sharer c' ≠ sharer c → c'.endAt ≠ 0 ∨ clears (sharer c)
  | _ => True

theorem keepsSharer_lenient (clears : String → Prop) :
    Lenient (KeepsSharer clears) := by
  intro w o ho
  cases o with
  | store o =>
      cases o with
      | updateCall c => exact absurd trivial ho
      | _ => trivial
  | _ => trivial

theorem ScreenSync.keepsSharer {channelID : String} {st : CallState} {s : Store}
    {c' : Call} (clears : String → Prop) (h : ScreenSync channelID st s)
    (hid : c'.id = st.call.id) (hs : sharer c' = sharer st.call) :
    KeepsSharer clears s (.store (.updateCall c')) :=
  fun c hc hcid he _ hne =>
    absurd (hs.trans (h.stored c hc (hcid.trans hid) he).symm) hne

/-! ## Leaves and joins -/

section Rules

variable {channelID : String} {p : Plugin} {env : Env}

/-- The choices of a request: it does not give up, and no update of a call fails, while
the sharing session does not exist. -/
def FailsWhileShared (channelID : String) (c : Choice) (s : Store) (o : Op) : Prop :=
  (o = .reach .gaveUp → ScreenOk channelID s) ∧
    ∀ call e, o = .store (.updateCall call) →
      (exec c s (.store (.updateCall call))).1 = .error e → ScreenOk channelID s

theorem GivesUp.screenOk {allow : Choice → Store → Op → Prop} {s : Store}
    (hallow : ∀ c o, allow c s o → FailsWhileShared channelID c s o)
    (h : GivesUp allow s) :
    ScreenOk channelID s := by
  obtain ⟨_, _, c', _, _, _, hgave⟩ := h
  exact (hallow c' _ hgave).1 rfl

theorem hostLeftCall_sameScreen (r : LeaveRequest) (st : CallState) :
    SameScreen st.call (hostLeftCall p env r st) := by
  unfold hostLeftCall
  split <;> exact ⟨rfl, rfl, rfl, fun h => h⟩

theorem left_sameScreen (r : LeaveRequest) (st : CallState) :
    SameScreen st.call (left p env r st).call := by
  have hhost : SameScreen st.call (hostLeftCall p env r st) :=
    hostLeftCall_sameScreen r st
  unfold left callLeft
  dsimp only
  split
  · exact ⟨hhost.id, hhost.channelID, hhost.sharer,
      fun he => absurd he (env.now_pos _).ne'⟩
  · exact hhost

theorem screenLeft_rule {allow : Choice → Store → Op → Prop} {clears : String → Prop}
    {r : LeaveRequest} (hallow : ∀ c s o, allow c s o →
      FailsWhileShared channelID c s o)
    (hclears : clears r.originalConnID) :
    LeaveRule allow (KeepsSharer clears) p env r (ScreenSync channelID)
      (ScreenLeaving channelID r.originalConnID) where
  jobs :=
    { op c st w o ho h := h.congr (.refl _) rfl (ho.sameRows c w)
      mem st st' w hsame h := h.congr hsame.sameScreen hsame.2 (.refl w) }
  deleted st us w _ h hus _ _ := by
    obtain ⟨hmem, hid⟩ := Table.find?_eq_some.1 hus
    -- only the session that leaves is gone, and it is one of this call
    have hkeep : ∀ c : Call, c.id ≠ st.call.id ∨ sharer c ≠ r.originalConnID →
        Shares w.sessions c →
        Shares (w.deleteCallSession r.originalConnID).sessions c := by
      intro c hc hs
      refine hs.imp_right fun ⟨x, hx, hxid, hxc⟩ => ⟨x, ?_, hxid, hxc⟩
      refine Store.mem_deleteCallSession.2 ⟨hx, fun hxr => ?_⟩
      rcases hc with hc | hc
      · exact hc (hxc.symm.trans (h.mine us hmem x hx (hxr.trans hid.symm)))
      · exact hc (hxid.symm.trans hxr)
    have hcall : (withoutSession env r st).call.id = st.call.id ∧
        (withoutSession env r st).call.channelID = st.call.channelID ∧
        (withoutSession env r st).call.endAt = st.call.endAt ∧
        (sharer st.call = r.originalConnID ∧
          sharer (withoutSession env r st).call = "" ∨
          sharer st.call ≠ r.originalConnID ∧
            sharer (withoutSession env r st).call = sharer st.call) := by
      unfold withoutSession screenLeftCall
      dsimp only
      split
      next heq => exact ⟨rfl, rfl, rfl, .inl ⟨heq, rfl⟩⟩
      next hne => exact ⟨rfl, rfl, rfl, .inr ⟨hne, rfl⟩⟩
    obtain ⟨hcid, hcch, hcend, hshare⟩ := hcall
    refine ⟨⟨?_, fun he => ?_, fun x hx x' hx' hxid => ?_⟩, fun c hc hcc he hne => ?_,
      fun c hc hid he => ?_, fun x hx => (Store.mem_deleteCallSession.1 hx).2⟩
    · rw [hcch, hcid]
      exact h.channel
    · rw [hcend] at he
      rcases hshare with ⟨-, hnone⟩ | ⟨hne, hsame⟩
      · exact .inl hnone
      · exact (hkeep st.call (.inr hne) (h.shares he)).congr hcid hsame
    · rw [hcid]
      exact h.mine x (Table.mem_erase.1 hx).1 x'
        (Store.mem_deleteCallSession.1 hx').1 hxid
    · rw [hcid] at hne
      exact hkeep c (.inl hne) (h.ok c hc hcc he)
    · rw [h.stored c hc (hid.trans hcid) he]
      rcases hshare with ⟨heq, hnone⟩ | ⟨-, hsame⟩
      · exact .inr ⟨heq, hnone⟩
      · exact .inl hsame.symm
  gaveUp st w h hgave := h.sync (hgave.screenOk fun c o => hallow c w o)
  unsaved st w h hgave := (h.sync (hgave.screenOk fun c o => hallow c w o)).congr
    (left_sameScreen r st) rfl (.refl w)
  saved st w h _ := by
    have hleft : SameScreen st.call (left p env r st).call := left_sameScreen r st
    refine (h.toScreenTracked.congr hleft rfl (.refl w)).updateCall
      fun c hc hcc he hne => ?_
    rw [hleft.id] at hne
    exact h.others c hc hcc he hne
  update st w h := by
    intro c hc hid he _ hne
    have hleft : SameScreen st.call (left p env r st).call := left_sameScreen r st
    rw [hleft.sharer] at hne
    rcases h.stored c hc (hid.trans hleft.id) he with hs | ⟨hs, -⟩
    · exact absurd hs.symm hne
    · exact .inr (hs ▸ hclears)

/-- The state shared by a batch of joins. -/
def ScreenState (channelID : String) : Option CallState → Store → Prop
  | none, s => ScreenOk channelID s
  | some st, s => ScreenSync channelID st s

theorem ScreenState.ok {state : Option CallState} {s : Store}
    (h : ScreenState channelID state s) :
    ScreenOk channelID s := by
  cases state with
  | none => exact h
  | some st => exact ScreenSync.ok h

theorem joined_sameScreen (st : CallState) (r : JoinRequest) :
    SameScreen st.call (joined p env st r).call ∧
    SameScreen (joined p env st r).call st.call := by
  rw [joined_call]
  exact ⟨⟨rfl, rfl, rfl, fun h => h⟩, rfl, rfl, rfl, fun h => h⟩

theorem joined_mem {st : CallState} {r : JoinRequest}
    (hcheck : checkJoin p st r.connID = .ok ())
    {x : CallSession} (hx : x ∈ (joined p env st r).sessions) : x ∈ st.sessions ∨
    x.id = r.connID := by
  rw [Table.mem_def, joined_sessions env hcheck, List.mem_append,
    List.mem_singleton] at hx
  rcases hx with hx | rfl
  · exact .inl hx
  · exact .inr rfl

/-- The state in the course of a join: the call is stored, its session is not. -/
structure ScreenJoining (channelID connID : String) (state : Option CallState)
    (st : CallState) (s : Store) : Prop where
  before : ScreenState channelID state s
  channel : st.call.channelID = channelID ∧
    ∀ c ∈ s.calls, c.id = st.call.id → c.channelID = channelID
  shares : st.call.endAt = 0 → Shares s.sessions st.call
  mine : ∀ r ∈ st.sessions, r.id = connID ∨
    ∀ r' ∈ s.sessions, r'.id = r.id → r'.callID = st.call.id
  stored : ∀ c ∈ s.calls, c.id = st.call.id → c.endAt = 0 → sharer c = sharer st.call

/-- What a join goes on with shares no screen but that of one of its sessions. -/
theorem ScreenState.callToJoin {state : Option CallState} {s : Store} {r : JoinRequest}
    {st : CallState} (h : ScreenState channelID state s)
    (hcall : callToJoin p env state r channelID = .ok st) :
      st.call.channelID = channelID ∧
      (st.call.endAt = 0 → Shares s.sessions st.call) ∧
      ∀ x ∈ st.sessions, ∀ x' ∈ s.sessions, x'.id = x.id → x'.callID = st.call.id := by
  rcases callToJoin_eq_ok hcall with rfl | ⟨rfl, host, rfl⟩
  · exact ⟨h.channel.1, h.shares, h.mine⟩
  · exact ⟨rfl, fun _ => .inl rfl, fun x hx => absurd hx (Table.not_mem_empty x)⟩

theorem screenJoin_rule {allow : Choice → Store → Op → Prop} {clears : String → Prop}
    {r : JoinRequest} :
    JoinRule allow (KeepsSharer clears) p env r channelID (ScreenState channelID)
      (ScreenJoining channelID r.connID) where
  jobs c state w o ho h := by
    cases state with
    | none => exact ScreenOk.congr h (ho.sameRows c w)
    | some st => exact ScreenSync.congr h (.refl _) rfl (ho.sameRows c w)
  created state st w t h hcall hcheck _ _ hi := by
    obtain ⟨hch, hshares, hmine⟩ := h.callToJoin hcall
    have ⟨hsame, hback⟩ : SameScreen st.call (joined p env st r).call ∧
        SameScreen (joined p env st r).call st.call := joined_sameScreen st r
    have hshares' : (joined p env st r).call.endAt = 0 →
        Shares w.sessions (joined p env st r).call := fun he =>
      (hshares (hsame.endAt he)).congr hsame.id hsame.sharer
    -- the inserted row is the only one with its id
    have hrow : ∀ c ∈ t, c.id = (joined p env st r).call.id →
        c = (joined p env st r).call := by
      intro c hc hid
      rcases (Table.mem_of_insert? hi).1 hc with hc | rfl
      · exact absurd hid ((Table.insert?_eq_some.1 hi).1 c hc)
      · rfl
    have hchannel : ∀ c ∈ t, c.id = (joined p env st r).call.id →
        c.channelID = channelID :=
      fun c hc hid => by rw [hrow c hc hid, hsame.channelID]; exact hch
    have hstored : ∀ c ∈ t, c.id = (joined p env st r).call.id → c.endAt = 0 →
        sharer c = sharer (joined p env st r).call := fun c hc hid _ =>
      congrArg sharer (hrow c hc hid)
    have hok : ScreenOk channelID { w with calls := t } := h.ok.createCall hshares' hi
    refine ⟨?_, ⟨hsame.channelID.trans hch, hchannel⟩, hshares',
      fun x hx => ?_, hstored⟩
    · rcases callToJoin_eq_ok hcall with rfl | ⟨rfl, host, rfl⟩
      · refine ⟨⟨⟨hch, ?_⟩, hshares, hmine⟩, hok, ?_⟩
        · rw [← hsame.id]
          exact hchannel
        · rw [← hsame.id, ← hsame.sharer]
          exact hstored
      · exact hok
    · rw [hsame.id]
      exact (joined_mem hcheck hx).symm.imp_right fun hx => hmine x hx
  updated state st w h hcall hcheck hlen _ := by
    obtain rfl := callToJoin_of_length hcall hcheck hlen
    have h : ScreenSync channelID st w := h
    have ⟨hsame, hback⟩ : SameScreen st.call (joined p env st r).call ∧
        SameScreen (joined p env st r).call st.call := joined_sameScreen st r
    have hsync : ScreenSync channelID { st with call := (joined p env st r).call }
        (w.updateCall (joined p env st r).call) :=
      ScreenTracked.updateCall
        (h.toScreenTracked.congr hsame rfl (.refl w)) fun c hc hcc he _ =>
        h.ok c hc hcc he
    refine ⟨hsync.congr hback rfl (.refl _), hsync.channel, hsync.shares,
      fun x hx => ?_, hsync.stored⟩
    exact (joined_mem hcheck hx).symm.imp_right fun hx => hsync.mine x hx
  create _ _ _ _ _ _ _ := trivial
  update state st w h hcall hcheck hlen := by
    obtain rfl := callToJoin_of_length hcall hcheck hlen
    have hsame : SameScreen st.call (joined p env st r).call :=
      (joined_sameScreen st r).1
    exact ScreenSync.keepsSharer clears h hsame.id hsame.sharer
  gaveUp state st w h _ := h.before
  session _ _ _ _ := trivial
  entered state st w t h _ hi := by
    have hgrow : ∀ x ∈ w.sessions, x ∈ t :=
      fun x hx => (Table.mem_of_insert? hi).2 (.inl hx)
    refine ⟨⟨h.channel, fun he => (h.shares he).mono hgrow, fun x hx x' hx' hid => ?_⟩,
      fun c hc hcc he => (h.before.ok c hc hcc he).mono hgrow, h.stored⟩
    rcases (Table.mem_of_insert? hi).1 hx' with hx' | rfl
    · rcases h.mine x hx with hnew | hold
      · exact absurd (hid.trans hnew) ((Table.insert?_eq_some.1 hi).1 x' hx')
      · exact hold x' hx' hid
    · rfl
  unposted st w postID threadID h _ _ :=
    ScreenSync.congr h ⟨rfl, rfl, rfl, fun h => h⟩ rfl (.refl w)
  posted st w postID threadID h _ _ _ := by
    have h : ScreenSync channelID st w := h
    have hpost : ScreenTracked channelID (withPost st postID threadID) w :=
      h.toScreenTracked.congr ⟨rfl, rfl, rfl, fun h => h⟩ rfl (.refl w)
    exact hpost.updateCall fun c hc hcc he _ => h.ok c hc hcc he
  post st w postID threadID h _ _ := ScreenSync.keepsSharer clears h rfl rfl

end Rules

/-! ## The requests -/

/-- The requests that may take the name of the sharing session `id` away: its own
request to stop, its removal, and the forced end of the call. -/
def Handler.Clears (id : String) : Handler → Prop
  | .screen us false => us.originalConnID = id
  | .leave l => l.req.originalConnID = id
  | .leaveBatch ls => ∃ l ∈ ls, l.req.originalConnID = id
  | .forceEnd _ => True
  | _ => False

/-- No call with this id that shares a screen is ongoing. -/
def NotSharing (s : Store) (callID : String) : Prop :=
  ∀ c ∈ s.calls, c.id = callID → c.endAt = 0 → sharer c = ""

/-- The conditions on an operation of a request. -/
structure ScreenAllow (channelID : String) (h : Handler) (holder : Holder) (c : Choice)
    (s : Store) (o : Op) : Prop where
  fails : FailsWhileShared channelID c s o
  member : ∀ us call, h = .screen us true → o = .store (.updateCall call) →
    ∃ r ∈ s.sessions, r.id = us.originalConnID ∧ r.callID = call.id
  forceEnd : ∀ callID so, h = .forceEnd callID → o = .store so → so.isWrite = true →
    holder = .nobody ∧ ∀ id, so = .deleteCallsSessions id → NotSharing s id

section Handlers

variable {channelID : String} {p : Plugin} {env : Env} {h : Handler}

/-- The terms of a request. -/
@[reducible]
def screenTerms (channelID : String) (h : Handler) : Terms Op Store Choice where
  allow := ScreenAllow channelID h
  pre := KeepsSharer fun id => h.Clears id

/-- The rules of a request on the channel. -/
abbrev screenRules (channelID : String) (h : Handler) : Logic Op Op.Resp Store Choice :=
  callRules (ScreenAllow channelID h) (KeepsSharer fun id => h.Clears id)
    (ScreenOk channelID) True

theorem screenSilent_rule {α : Type} {c : Body α} {w : Store} (hc : c.Only Op.Silent)
    (hok : ScreenOk channelID w) :
    c.wp (screenRules channelID h) (fun _ w' => ScreenOk channelID w') w :=
  silent_rule (keepsSharer_lenient _) hc (R := fun _ => True)
    (Code.all_of_forall (fun _ => trivial) c) fun _ _ => hok

/-- Storing a call, and telling the clients. -/
theorem updateCallOf_rule {α : Type} {st : CallState} {w : Store}
    {c : Except String Unit → Body α} (hok : ScreenOk channelID w)
    (hpre : KeepsSharer (fun id => h.Clears id) w (.store (.updateCall st.call)))
    (htracked : ∀ ch, ScreenAllow channelID h .self ch w
      (.store (.updateCall st.call)) →
      ScreenTracked channelID st w)
    (hnext : ∀ res, (c res).Only Op.Silent) :
    (updateCallOf st >>= c).wp (screenRules channelID h)
      (fun _ w' => ScreenOk channelID w') w := by
  refine Code.wp_bind.2 (Code.wp_bind.2 (Code.wp_perform.2 ⟨hpre, fun ch hch => ?_⟩))
  have hwritten : ScreenOk channelID (exec ch w (.store (.updateCall st.call))).2 := by
    simp only [exec_store, attempt, StoreOp.exec]
    split
    · exact hok
    split
    · exact hok
    · exact ((htracked ch hch).updateCall fun c hc hcc he _ => hok c hc hcc he).ok
  split
  · exact screenSilent_rule (hnext _) hwritten
  · exact screenSilent_rule (hnext _) hwritten

/-- A change of the call that leaves the screen alone. -/
theorem sameScreen_rule {α : Type} {st st' : CallState} {w : Store}
    {c : Except String Unit → Body α} (hst : ScreenSync channelID st w)
    (hcall : SameScreen st.call st'.call) (hsess : st'.sessions = st.sessions)
    (hnext : ∀ res, (c res).Only Op.Silent) :
    (updateCallOf st' >>= c).wp (screenRules channelID h)
      (fun _ w' => ScreenOk channelID w') w :=
  updateCallOf_rule hst.ok (hst.keepsSharer _ hcall.id hcall.sharer)
    (fun _ _ => hst.toScreenTracked.congr hcall hsess (.refl w)) hnext

/-- What follows the update changes nothing that is stored. -/
theorem tellScreen_silent (us : UserSession) (turnOn : Bool) (st : CallState)
    (res : Except String Unit) :
    (match res with
      | .error e => (pure (.error e) : Body (Except String Unit))
      | .ok _ => tellScreen env us channelID turnOn st).Only Op.Silent := by
  cases res with
  | error e => trivial
  | ok _ => exact tellScreen_only rfl fun _ _ => trivial

/-- A message to start or stop sharing. -/
theorem screenMessage_rule {us : UserSession} {turnOn : Bool} {state : Option CallState}
    {w : Store} (hh : h = .screen us turnOn) (hok : ScreenOk channelID w)
    (hst : ∀ st, state = some st → ScreenSync channelID st w) :
    (screenMessage env us channelID turnOn state).wp (screenRules channelID h)
      (fun _ w' => ScreenOk channelID w') w := by
  cases state with
  | none => exact hok
  | some st =>
      have hsync := hst st rfl
      unfold screenMessage
      dsimp only
      split
      · exact hok
      next hbusy =>
        split
        · exact hok
        next hother =>
          cases turnOn with
          | true =>
              have hnone : sharer st.call = "" := by
                by_contra hne
                exact hbusy ⟨rfl, hne⟩
              refine updateCallOf_rule hok ?_ (fun ch hch => ?_)
                (tellScreen_silent _ _ _)
              · intro c hc hid he hne
                exact absurd ((hsync.stored c hc hid he).trans hnone) hne
              · exact ⟨hsync.channel,
                  fun _ => .inr (hch.member us _ hh rfl), hsync.mine⟩
          | false =>
              have hmine : sharer st.call = us.originalConnID := by
                by_contra hne
                exact hother ⟨by simp, hne⟩
              have hcall : (unshareScreen env st.call).id = st.call.id ∧
                  (unshareScreen env st.call).channelID = st.call.channelID ∧
                  sharer (unshareScreen env st.call) = "" := by
                unfold unshareScreen
                split <;> exact ⟨rfl, rfl, rfl⟩
              obtain ⟨hid, hch, hshare⟩ := hcall
              refine updateCallOf_rule hok ?_ (fun ch _ => ?_) (tellScreen_silent _ _ _)
              · intro c hc hcid he _ _
                refine .inr ?_
                rw [hh]
                exact ((hsync.stored c hc (hcid.trans hid) he).trans hmine).symm
              · exact ⟨by simpa [hch, hid] using hsync.channel, fun _ => .inl hshare,
                  by simpa [hid] using hsync.mine⟩

/-- A message that changes a session row. -/
theorem sessionMessage_screen {us : UserSession} {msg : SessionMessage}
    {state : Option CallState} {w : Store} (hok : ScreenOk channelID w) :
    (sessionMessage env us channelID msg state).wp (screenRules channelID h)
      (fun _ w' => ScreenOk channelID w') w := by
  cases state with
  | none => exact hok
  | some st =>
      unfold sessionMessage
      dsimp only
      split
      · exact hok
      next session _ =>
        have hupdate : ∀ r, ScreenOk channelID (w.updateCallSession r) := by
          intro r c hc hcc he
          refine (hok c hc hcc he).imp_right fun ⟨x, hx, hxid, hxc⟩ => ?_
          refine ⟨_, Store.mem_updateCallSession.2 ⟨x, hx, rfl⟩, ?_, ?_⟩
          · split <;> exact hxid
          · split <;> exact hxc
        refine Code.wp_bind.2 (store_rule trivial (fun _ e _ _ => hok) fun a ha => ?_)
        simp only [StoreOp.exec] at ha ⊢
        split at ha
        · cases ha
        · exact screenSilent_rule
            (c := publish _ _ >>= fun _ => (pure (.ok ()) : Body (Except String Unit)))
            ⟨trivial, fun _ => trivial⟩ (hupdate _)

/-- The choice of a host. -/
theorem hostChanged_screen {requesterID newHostID : String} {state : Option CallState}
    {w : Store} (hok : ScreenOk channelID w)
    (hst : ∀ st, state = some st → ScreenSync channelID st w) :
    (hostChanged p env requesterID channelID newHostID state).wp
      (screenRules channelID h) (fun _ w' => ScreenOk channelID w') w := by
  cases state with
  | none => exact hok
  | some st =>
      have hsync := hst st rfl
      unfold hostChanged
      dsimp only
      split
      · exact hok
      split
      · exact hok
      split
      · split
        · rw [← Code.bind_ret (updateCallOf _)]
          exact sameScreen_rule hsync ⟨rfl, rfl, rfl, fun h => h⟩ rfl fun _ => trivial
        · exact hok
      split
      · exact hok
      · refine sameScreen_rule hsync ⟨rfl, rfl, rfl, fun h => h⟩ rfl fun res => ?_
        cases res with
        | error e => trivial
        | ok _ => exact ⟨trivial, fun _ => trivial⟩

/-- Dismissing the notification. -/
theorem notificationDismissed_screen {userID : String} {state : Option CallState}
    {w : Store} (hok : ScreenOk channelID w)
    (hst : ∀ st, state = some st → ScreenSync channelID st w) :
    (notificationDismissed userID state).wp (screenRules channelID h)
      (fun _ w' => ScreenOk channelID w') w := by
  cases state with
  | none => exact hok
  | some st =>
      refine sameScreen_rule (hst st rfl) ⟨rfl, rfl, rfl, fun h => h⟩ rfl fun res => ?_
      cases res with
      | error e => trivial
      | ok _ => exact ⟨trivial, fun _ => trivial⟩

/-! ### The end of a call -/

/-- In the ongoing calls of the channel but `callID` the sharing session exists. -/
def ScreenBut (channelID callID : String) (s : Store) : Prop :=
  ∀ c ∈ s.calls, c.channelID = channelID → c.endAt = 0 → c.id ≠ callID →
    Shares s.sessions c

theorem ScreenBut.sameRows {callID : String} {s s' : Store}
    (hbut : ScreenBut channelID callID s)
    (hrows : SameRows s s') : ScreenBut channelID callID s' := by
  unfold ScreenBut
  rw [hrows.1, hrows.2]
  exact hbut

theorem ScreenOk.deleteCallsSessions {s : Store} (hok : ScreenOk channelID s)
    (callID : String) :
    ScreenBut channelID callID (s.deleteCallsSessions callID) := by
  intro c hc hcc he hne
  refine (hok c hc hcc he).imp_right fun ⟨r, hr, hrid, hrc⟩ => ⟨r, ?_, hrid, hrc⟩
  exact Store.mem_deleteCallsSessions.2 ⟨hr, fun hrcall => hne (hrc.symm.trans hrcall)⟩

theorem ScreenBut.updateEnded {s : Store} {call : Call}
    (hbut : ScreenBut channelID call.id s)
    (he : call.endAt ≠ 0) : ScreenOk channelID (s.updateCall call) :=
  .updateCall hbut fun h0 => absurd h0 he

/-- Cleaning a call under the lock. -/
theorem cleanCallState_screen {call : Call} {w : Store} (hok : ScreenOk channelID w) :
    (cleanCallState env call).wp (screenRules channelID h)
      (fun _ w' => ScreenOk channelID w') w := by
  refine cleanCallState_rule (M := ScreenBut channelID call.id) (keepsSharer_lenient _)
    (fun ch w o ho hw => hw.sameRows (ho.sameRows ch w))
    (fun c hc hcc he _ => hok c hc hcc he)
    (hok.deleteCallsSessions call.id) fun call' hid hended _ w' hbut => ?_
  rw [← hid] at hbut
  refine Code.wp_perform.2 ⟨fun _ _ _ _ _ _ => .inl hended, fun ch hch => ?_⟩
  have hfails := fun e => hch.fails.2 _ e rfl
  simp only [exec_store, attempt, StoreOp.exec] at hfails ⊢
  split
  next hf => exact hfails _ (by rw [if_pos hf])
  next hf =>
    split
    next e hv => exact hfails _ (by rw [if_neg hf, hv])
    · exact hbut.updateEnded hended

/-- A forced end writes while nobody has the lock, and leaves the sessions of a call
that shares a screen. -/
theorem forceEnd_screen {callID : String} (hh : h = .forceEnd callID) {holder : Holder}
    {ch : Choice} {w : Store} {o : Op} (ho : o.EndsCall)
    (hallow : ScreenAllow channelID h holder ch w o) :
    (exec ch w o).2 = w ∨
      holder = .nobody ∧
      (ScreenOk channelID w → ScreenOk channelID (exec ch w o).2) := by
  have hforce : ∀ so, o = .store so → so.isWrite = true → holder = .nobody ∧
      ∀ id, so = .deleteCallsSessions id → NotSharing w id :=
    fun so => hallow.forceEnd callID so hh
  cases o with
  | store so =>
      by_cases hread : so.isWrite = true
      · obtain ⟨hfree, hsharing⟩ := hforce so rfl hread
        refine .inr ⟨hfree, fun hok => ?_⟩
        show ScreenOk channelID (attempt ch.storeFails w so).2
        unfold attempt
        split
        · exact hok
        obtain ⟨c, rfl, hend⟩ | ⟨id, rfl⟩ | ⟨j, rfl⟩ := ho.write_cases hread
        · simp only [StoreOp.exec]
          split
          · exact hok
          · exact ScreenBut.updateEnded (fun x hx hxc he _ => hok x hx hxc he) hend
        · intro c hc hcc he
          by_cases hcid : c.id = id
          · exact .inl (hsharing id rfl c hc hcid he)
          · exact hok.deleteCallsSessions id c hc hcc he hcid
        · simp only [StoreOp.exec]
          split <;> exact hok
      · exact .inl (attempt_read (Bool.not_eq_true _ ▸ hread) ch.storeFails w)
  | reach pt => exact ho.elim
  | _ => exact .inl rfl

end Handlers

/-! ## Runs -/

section Runs

variable {channelID : String}

/-- The removals of a request may take the name of their session away. -/
theorem Handler.clears_leaves {h : Handler} {l : Leave} (hl : l ∈ h.leaves) :
    h.Clears l.req.originalConnID := by
  cases h with
  | leave l' =>
      obtain rfl := List.mem_singleton.1 hl
      rfl
  | leaveBatch ls => exact ⟨l, hl, rfl⟩
  | _ => cases hl

/-- Every request keeps the sharing session. -/
theorem screen_callRule (channelID : String) (p : Plugin) (env : Env) (h : Handler) :
    CallRule (ScreenAllow channelID h) (KeepsSharer fun id => h.Clears id)
      (ScreenOk channelID) p env
      channelID h := by
  have hquiet : Lenient (KeepsSharer fun id => h.Clears id) := keepsSharer_lenient _
  have hstate : ∀ {w : Store}, ScreenOk channelID w →
      ScreenState channelID (storedState w channelID) w := by
    intro w hok
    cases hst : storedState w channelID with
    | none => exact hok
    | some st => exact hok.sync hst
  exact
    { quiet := hquiet
      jobs := fun ch w o ho hok => hok.congr (ho.sameRows ch w)
      joins :=
          fun w hok => Code.wp_mono (addSessionsToCall_rule _ (fun j _ state w hw =>
        screenJoin_rule.addSessionToCall hquiet hw) _ w (hstate hok))
          fun _ _ ⟨_, hw⟩ => hw.ok
      leaves := fun w hok => by
        refine Code.wp_mono (removeSessionsFromCall_rule _ (fun l hl state w hw => ?_) _
          w (hstate hok)) fun _ _ ⟨_, hw⟩ => hw.ok
        have hrule : LeaveRule (ScreenAllow channelID h .self)
            (KeepsSharer fun id => h.Clears id) p
            l.env l.req (ScreenSync channelID)
            (ScreenLeaving channelID l.req.originalConnID) :=
          screenLeft_rule (fun _ _ _ hallow => hallow.fails) (Handler.clears_leaves hl)
        exact hrule.removeUserSession hquiet (R := ScreenState channelID)
          (fun _ _ => Iff.rfl) hw
      screen :=
        fun us turnOn hh w hok => screenMessage_rule hh hok fun st hst => hok.sync hst
      session := fun us msg _ w hok => sessionMessage_screen hok
      changeHost := fun _ _ _ w hok => hostChanged_screen hok fun st hst => hok.sync hst
      dismiss :=
        fun _ _ w hok => notificationDismissed_screen hok fun st hst => hok.sync hst
      cleanUp := fun _ call w hok => cleanCallState_screen hok
      forceEnd :=
        fun callID hh holder ch w o ho _ hallow => forceEnd_screen hh ho hallow }

variable {T N : Type} [DecidableEq T] [DecidableEq N]

/-- A request to share writes the call while its session has a row in it; no request
gives up, and no update of a call fails, while the sharing session has no row; a forced
end writes while nobody has the lock, and leaves the sessions of a call that shares a
screen. -/
def SharesProperly (channelID : String) (h : T → Handler) (_ : List (Event T Choice))
    (s : Sys Op Op.Resp Store T N) (t : T) (a : Act Choice) : Prop :=
  ∀ c o k, a = .op c → s.code t = .op o k →
    ScreenAllow channelID (h t) (s.holder t) c s.world o

/-- What the requests share. -/
@[reducible]
def screenLogic (channelID : String) : Logic Op Op.Resp Store Choice :=
  callRules (fun _ _ _ _ => True) (fun _ _ => True) (ScreenOk channelID) True

/-- A permitted step takes the name of the sharing session away on its own request, on
its removal, or with the end of the call. -/
theorem sharer_kept {node : T → N} {h : T → Handler} {s s' : Sys Op Op.Resp Store T N}
    (hok : s.OkFor (screenLogic channelID) (fun t => screenTerms channelID (h t)) node)
    {tr : List (Event T Choice)} {t : T} {a : Act Choice}
    (hallow : SharesProperly channelID h tr s t a) (hs : s.step exec node t a = some s')
    {c c' : Call} (hc : c ∈ s.world.calls) (hc' : c' ∈ s'.world.calls)
    (hid : c'.id = c.id) (he : c.endAt = 0) (hshare : sharer c ≠ "")
    (hne : sharer c' ≠ sharer c) :
    c'.endAt ≠ 0 ∨ (h t).Clears (sharer c) := by
  have hsame : s'.world.calls = s.world.calls →
      c'.endAt ≠ 0 ∨ (h t).Clears (sharer c) := by
    intro hcalls
    rw [hcalls] at hc'
    have hcc : c' = c := s.world.calls.eq_of_key_eq hc' hc hid
    rw [hcc] at hne
    exact absurd rfl hne
  obtain ⟨k, rfl, hk, hp, hn, rfl⟩ | ⟨k, rfl, hk, hp, ho, rfl⟩ | ⟨k, rfl, hk, hp, rfl⟩ |
    ⟨k, rfl, hk, rfl⟩ | ⟨ch, o, k, rfl, hk, rfl⟩ := Sys.step_cases hs
  · exact hsame rfl
  · exact hsame rfl
  · exact hsame rfl
  · refine hsame ?_
    unfold Sys.release
    split <;> rfl
  · have hop := hallow ch o k rfl hk
    by_cases hown : s.owner = some t
    · have hpre : KeepsSharer (fun id => (h t).Clears id) s.world o :=
        hok.pre_of_op hown hk
      rcases exec_call_eq hc hc' hid with heq | ⟨x, rfl, hx, heq⟩
      · rw [heq] at hne
        exact absurd rfl hne
      · rw [heq] at hne ⊢
        exact hpre c hc hx.symm he hshare hne
    · -- only a forced end writes without the lock
      by_cases hforce : ∃ callID, h t = .forceEnd callID
      · obtain ⟨callID, hforce⟩ := hforce
        rw [hforce]
        exact .inr trivial
      · have hother : ScreenAllow channelID (h t) .other ch s.world o :=
          ⟨hop.fails, hop.member, fun callID _ hh => absurd ⟨callID, hh⟩ hforce⟩
        rcases hok.harmless hown hk (by simp) hother with hw | ⟨hno, -⟩
        · exact hsame (congrArg Store.calls hw)
        · cases hno

end Runs

/-! ## Instances -/

/-- The sample call with bob in it too. -/
def sharingStore : Store where
  calls := sampleStore.calls
  sessions := ⟨[sampleSession, ⟨"s2", "call", "bob", 15, false, 0, false⟩], by decide⟩
  jobs := .empty

/-- Alice's session asks to share its screen, and leaves. -/
def sharesAndLeaves : Bool → Handler
  | true => .screen ⟨"alice", "s1"⟩ true
  | false => .leave ⟨⟨"alice", "s1", "s1"⟩, .sample 20⟩

/-- A check that a step is proper: no request gives up, each update of a call succeeds,
and one that shares comes while the session is in the call. -/
def checkSharesProperly (_ : List (Event Bool Choice))
    (s : Sys Op Op.Resp Store Bool Unit) (t : Bool) (a : Act Choice) : Bool :=
  match a, s.code t with
  | .op _, .op (.reach .gaveUp) _ => false
  | .op c, .op (.store (.updateCall call)) _ =>
      (exec c s.world (.store (.updateCall call))).1.isOk &&
        (!t || s.world.sessions.rows.any fun r => r.id = "s1" ∧ r.callID = call.id)
  | _, _ => true

theorem sharesProperly_of_check (tr : List (Event Bool Choice))
    (s : Sys Op Op.Resp Store Bool Unit)
    (t : Bool) (a : Act Choice) (h : checkSharesProperly tr s t a = true) :
    SharesProperly "chan" sharesAndLeaves tr s t a := by
  rintro c o k rfl hk
  refine ⟨⟨fun ho => ?_, fun call e ho he => ?_⟩, fun us call hh ho => ?_,
    fun callID so hh => ?_⟩
  · subst ho
    simp [checkSharesProperly, hk] at h
  · subst ho
    simp only [checkSharesProperly, hk, Bool.and_eq_true] at h
    rw [he] at h
    cases h.1
  · subst ho
    cases t with
    | false => cases hh
    | true =>
        cases hh
        simp only [checkSharesProperly, hk, Bool.and_eq_true, Bool.not_true,
          Bool.false_or, List.any_eq_true, decide_eq_true_eq] at h
        exact h.2
  · cases t <;> cases hh

theorem sharingStore_screenOk : ScreenOk "chan" sharingStore := by
  intro c hc _ _
  obtain rfl := List.mem_singleton.1 hc
  exact .inl rfl

end CallsPlugin.Ports
