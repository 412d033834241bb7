import CallsPlugin.Verified.Sums
import CallsPlugin.Ports.Handlers

/-!
# Host controls (`server/host_controls.go`)

The host of a call may mute others, end their screen sharing, lower their hands and
remove them.  These requests read the state of the call without the lock and ask the
clients to act.  Whatever else happens to the call in the meantime, what they publish
was allowed by the state they read, and only the client of the session that is named
acts on it.
-/

namespace CallsPlugin.Ports.HostControls

open CallsPlugin.Verified
open CallsPlugin.Ports CallsPlugin.Ports.Public CallsPlugin.Ports.Db

/-! ## The code -/

/-- The events of host controls, with their payload. -/
inductive HostEvent where
  | hostMute (channelID sessionID : String)
  | hostScreenOff (channelID sessionID : String)
  | hostLowerHand (callID channelID sessionID hostID : String)
  | hostRemoved (callID channelID sessionID userID : String)
  deriving DecidableEq, Repr

/-- What host controls do besides reading the store.  The error of closing a session is
only logged. -/
inductive HostOp where
  | publish (ev : HostEvent) (broadcast : WebSocketBroadcast)
  | sleep (seconds : Nat)
  | closeRTCSession (userID sessionID channelID nodeID callID : String)
  deriving DecidableEq

/-- The answers. -/
@[reducible] def HostOp.Resp : HostOp → Type
  | .publish _ _ => Unit
  | .sleep _ => Unit
  | .closeRTCSession _ _ _ _ _ => Unit

/-- The operations of host controls and of all other handlers. -/
abbrev AllOps := Op ⊕ HostOp

/-- Their answers. -/
abbrev AllResp : AllOps → Type := Sum.elim Op.Resp HostOp.Resp

/-- The code of host controls. -/
abbrev HostCode := Code AllOps AllResp

/-- The errors of `host_controls.go`, and those of the store. -/
inductive HostError where
  | noCallOngoing
  | noPermissions
  | notInCall
  | notAllowed
  | other (text : String)
  deriving DecidableEq, Repr

def publishHost (ev : HostEvent) (broadcast : WebSocketBroadcast) : HostCode Unit :=
  Code.perform (Sum.inr (HostOp.publish ev broadcast) : AllOps)

/-- The audience of what is asked of one user. -/
def toUser (userID : String) : WebSocketBroadcast :=
  { userID := userID, reliableClusterSend := true }

/-- `p.getCallState(channelID, false)` -/
def readState (channelID : String) : HostCode (Except String (Option CallState)) :=
  (getCallState channelID).inl

/-- What all host controls do first: the state is read, and the requester has to be the
host or a system admin. -/
def asHost (p : Plugin) (requesterID channelID : String)
    (f : CallState → HostCode (Except HostError Unit)) :
    HostCode (Except HostError Unit) := do
  match ← readState channelID with
  | .error e => return .error (.other e)
  | .ok none => return .error .noCallOngoing
  | .ok (some state) =>
      if requesterID ≠ state.call.getHostID ∧ ¬ p.isSysadmin requesterID then
        return .error .noPermissions
      else f state

/-- `muteSession` -/
def muteSession (p : Plugin) (requesterID channelID sessionID : String) :
    HostCode (Except HostError Unit) :=
  asHost p requesterID channelID fun state =>
    match state.sessions.find? sessionID with
    | none => return .error .notInCall
    | some ust =>
        if ¬ ust.unmuted then return .ok ()
        else do
          publishHost (.hostMute channelID sessionID) (toUser ust.userID)
          return .ok ()

/-- The loop of `muteOthers`. -/
def muteAll (requesterID channelID : String) : List CallSession → HostCode Unit
  | [] => return ()
  | s :: rest =>
      if s.unmuted ∧ s.userID ≠ requesterID then do
        publishHost (.hostMute channelID s.id) (toUser s.userID)
        muteAll requesterID channelID rest
      else muteAll requesterID channelID rest

/-- `muteOthers` -/
def muteOthers (p : Plugin) (env : Env) (requesterID channelID : String) :
    HostCode (Except HostError Unit) :=
  asHost p requesterID channelID fun state => do
    muteAll requesterID channelID (env.iter state.sessions.rows)
    return .ok ()

/-- `screenOff` -/
def screenOff (p : Plugin) (requesterID channelID sessionID : String) :
    HostCode (Except HostError Unit) :=
  asHost p requesterID channelID fun state =>
    if state.call.props.screenSharingSessionID ≠ sessionID then return .ok ()
    else
      match state.sessions.find? sessionID with
      | none => return .error .notInCall
      | some ust => do
          publishHost (.hostScreenOff channelID sessionID) (toUser ust.userID)
          return .ok ()

/-- `lowerHand` -/
def lowerHand (p : Plugin) (requesterID channelID sessionID : String) :
    HostCode (Except HostError Unit) :=
  asHost p requesterID channelID fun state =>
    match state.sessions.find? sessionID with
    | none => return .error .notInCall
    | some ust =>
        if ust.raisedHand = 0 then return .ok ()
        else do
          publishHost (.hostLowerHand state.call.id channelID sessionID requesterID)
            (toUser ust.userID)
          return .ok ()

/-- The goroutine of `hostRemoveSession`: it looks at the state anew, and does nothing
where that fails. -/
def forceRemove (channelID sessionID : String) : HostCode Unit := do
  Code.perform (Sum.inr (HostOp.sleep 3) : AllOps)
  match ← readState channelID with
  | .error _ => return ()
  | .ok none => return ()
  | .ok (some state) =>
      match state.sessions.find? sessionID with
      | none => return ()
      | some ust =>
          Code.perform (Sum.inr (HostOp.closeRTCSession ust.userID sessionID channelID
            state.call.props.nodeID state.call.id) : AllOps)

/-- `hostRemoveSession`, up to the goroutine. -/
def hostRemoveSession (p : Plugin) (env : Env)
    (requesterID channelID sessionID : String) :
    HostCode (Except HostError Unit) :=
  asHost p requesterID channelID fun state =>
    match state.sessions.find? sessionID with
    | none => return .error .notInCall
    | some ust => do
        publishHost (.hostRemoved state.call.id channelID sessionID ust.userID)
          (state.audience env channelID)
        return .ok ()

/-- A request, by the user `requesterID`. -/
inductive HostControl where
  | muteSession (sessionID : String)
  | muteOthers
  | screenOff (sessionID : String)
  | lowerHand (sessionID : String)
  | removeSession (sessionID : String)

/-- What is done for a request, the goroutine it starts included. -/
def HostControl.code (p : Plugin) (env : Env) (requesterID channelID : String) :
    HostControl → HostCode Unit
  | .muteSession sessionID => do
      let _ ← HostControls.muteSession p requesterID channelID sessionID
  | .muteOthers => do
      let _ ← HostControls.muteOthers p env requesterID channelID
  | .screenOff sessionID => do
      let _ ← HostControls.screenOff p requesterID channelID sessionID
  | .lowerHand sessionID => do
      let _ ← HostControls.lowerHand p requesterID channelID sessionID
  | .removeSession sessionID => do
      match ← hostRemoveSession p env requesterID channelID sessionID with
      | .error _ => return ()
      | .ok _ => forceRemove channelID sessionID

/-- The meaning of all operations. -/
def hostSem : Choice → Store → (o : AllOps) → AllResp o × Store :=
  sumSem exec fun _ s => fun
    | .publish _ _ => ((), s)
    | .sleep _ => ((), s)
    | .closeRTCSession _ _ _ _ _ => ((), s)

/-! ## The clients -/

/-- What a client does on an event. -/
inductive Reaction where
  | mute
  | unshareScreen
  | unraiseHand
  | disconnect
  deriving DecidableEq, Repr

/-- The channel and the session of a client in a call. -/
structure CallsClient where
  channelID : String
  sessionID : String
  deriving DecidableEq, Repr

/-- The check of the handlers in `websocket_handlers.ts`: the event is about the session
of the client. -/
def ifOwn (client : Option CallsClient) (channelID sessionID : String) (r : Reaction) :
    Option Reaction :=
  match client with
  | none => none
  | some client =>
      if client.channelID ≠ channelID then none
      else if client.sessionID ≠ sessionID then none
      else some r

/-- `handleHostMute`, `handleHostScreenOff`, `handleHostLowerHand` and
`handleHostRemoved`, but for the notices they show. -/
def react (client : Option CallsClient) : HostEvent → Option Reaction
  | .hostMute channelID sessionID => ifOwn client channelID sessionID .mute
  | .hostScreenOff channelID sessionID =>
      ifOwn client channelID sessionID .unshareScreen
  | .hostLowerHand _ channelID sessionID _ =>
      ifOwn client channelID sessionID .unraiseHand
  | .hostRemoved _ channelID sessionID _ => ifOwn client channelID sessionID .disconnect

theorem ifOwn_eq_some {client : Option CallsClient} {channelID sessionID : String}
    {r r' : Reaction} (h : ifOwn client channelID sessionID r = some r') :
    client = some ⟨channelID, sessionID⟩ ∧ r' = r := by
  unfold ifOwn at h
  cases client with
  | none => cases h
  | some client =>
      simp only [ne_eq, ite_not] at h
      split at h
      next hchannel =>
        split at h
        next hsession =>
          obtain ⟨channel, session⟩ := client
          cases hchannel
          cases hsession
          exact ⟨rfl, (Option.some.inj h).symm⟩
        next => cases h
      next => cases h

/-! ## The policy -/

/-- What a request may ask of which session, in a state of the call. -/
def HostControl.MayAsk (requesterID : String) (st : CallState) (us : CallSession) :
    HostControl → Reaction → Prop
  | .muteSession sessionID, r => r = .mute ∧ us.id = sessionID ∧ us.unmuted
  | .muteOthers, r => r = .mute ∧ us.unmuted ∧ us.userID ≠ requesterID
  | .screenOff sessionID, r =>
      r = .unshareScreen ∧ us.id = sessionID ∧
        st.call.props.screenSharingSessionID = us.id
  | .lowerHand sessionID, r => r = .unraiseHand ∧ us.id = sessionID ∧ us.raisedHand ≠ 0
  | .removeSession sessionID, r => r = .disconnect ∧ us.id = sessionID

section Policy

variable {T : Type} (p : Plugin) (requesterID channelID : String) (req : HostControl)
  (t : T)

/-- The deeds of a run over all operations. -/
abbrev Did (T : Type) := Deed AllOps Store Choice T

/-- The thread has read the call and its sessions. -/
structure HasRead (st : CallState) (l : List (Did T)) : Prop where
  call : ∃ d ∈ l, d.thread = t ∧
    d.op = .inl (.store (.getActiveCallByChannelID channelID)) ∧
    d.world.getActiveCallByChannelID channelID = some st.call
  sessions : ∃ d ∈ l, d.thread = t ∧
    d.op = .inl (.store (.getCallSessions st.call.id)) ∧
    d.world.getCallSessions st.call.id = st.sessions

/-- The event was allowed by a state that was read: the requester was host or is a
system admin, and each client that acts on it has a session of the call of which this
may be asked, and is the user's whom it is sent to. -/
def AllowedEvent (l : List (Did T)) (ev : HostEvent) (b : WebSocketBroadcast) : Prop :=
  ∃ st, HasRead channelID t st l ∧
    (requesterID = st.call.getHostID ∨ p.isSysadmin requesterID = true) ∧
    ∃ us ∈ st.sessions, (b = toUser us.userID ∨ ∃ env : Env,
      b = st.audience env channelID) ∧
      ∀ client r, react client ev = some r →
        client = some ⟨channelID, us.id⟩ ∧ req.MayAsk requesterID st us r

/-- The removal of a session has been announced. -/
def Announced (sessionID : String) (l : List (Did T)) : Prop :=
  ∃ d ∈ l, d.thread = t ∧ ∃ callID userID b,
    d.op = .inr (.publish (.hostRemoved callID channelID sessionID userID) b)

/-- A session is closed only where its removal was announced and a later read has found
it in a call of the channel. -/
def AllowedClose (l : List (Did T)) (userID sessionID callID : String) : Prop :=
  req = .removeSession sessionID ∧ ∃ l₁ l₂, l = l₁ ++ l₂ ∧
    Announced channelID t sessionID l₁ ∧
    ∃ st, HasRead channelID t st l₂ ∧ st.call.id = callID ∧
      ∃ us ∈ st.sessions, us.id = sessionID ∧ us.userID = userID

/-- What a host control may do, after what has been done. -/
def Permitted (l : List (Did T)) : AllOps → Prop
  | .inl (.store (.getActiveCallByChannelID _)) => True
  | .inl (.store (.getCallSessions _)) => True
  | .inl (.store (.getActiveCallJobs _)) => True
  | .inl _ => False
  | .inr (.publish ev b) => AllowedEvent p requesterID channelID req t l ev b
  | .inr (.sleep _) => True
  | .inr (.closeRTCSession userID sessionID _ _ callID) =>
      AllowedClose channelID req t l userID sessionID callID

end Policy

section Meets

variable {T : Type} {p : Plugin} {env : Env} {requesterID channelID : String}
  {req : HostControl} {t : T} {l l' : List (Did T)} {st : CallState}

theorem HasRead.mono (h : HasRead channelID t st l) (hl : l ⊆ l') :
    HasRead channelID t st l' where
  call := by
    obtain ⟨d, hd, hcall⟩ := h.call
    exact ⟨d, hl hd, hcall⟩
  sessions := by
    obtain ⟨d, hd, hsessions⟩ := h.sessions
    exact ⟨d, hl hd, hsessions⟩

/-- The thread is held to the policy. -/
abbrev policy (p : Plugin) (requesterID channelID : String)
    (req : HostControl) (t : T) :
    Rely AllOps AllResp (List (Did T)) :=
  deedRely hostSem (fun _ => True) t (Permitted p requesterID channelID req t)

/-- A read is known from then on. -/
theorem read_meets {o : StoreOp} {α : Type}
    {k : Except String o.Result → Prog AllOps AllResp α} {Q : α → List (Did T) → Prop}
    (ho : ∀ l, Permitted p requesterID channelID req t l (.inl (.store o)))
    (hk : ∀ res l₂, (∀ a, res = .ok a → ∃ d ∈ l₂, d.thread = t ∧
        d.op = .inl (.store o) ∧ (o.exec d.world).1 = .ok a) →
      (k res).Meets (policy p requesterID channelID req t) Q (l ++ l₂)) :
    (Prog.op (.inl (.store o) : AllOps) k).Meets
      (policy p requesterID channelID req t) Q l := by
  refine fun l₁ h₁ => ⟨ho l₁, ?_⟩
  rintro _ _ ⟨c, w, -, rfl, rfl⟩
  obtain ⟨l₂, rfl⟩ := h₁
  rw [List.append_assoc]
  refine hk _ _ fun a ha => ?_
  refine ⟨⟨t, c, w, .inl (.store o)⟩,
    List.mem_append_right _ (List.mem_singleton.2 rfl), rfl,
    rfl, ?_⟩
  have hread : (attempt c.storeFails w o).1 = .ok a := ha
  unfold attempt at hread
  split at hread
  · cases hread
  · exact hread

/-- Reading the state. -/
theorem readState_meets {α : Type} {k : Except String (Option CallState) → HostCode α}
    {Q : α → List (Did T) → Prop}
    (hk : ∀ res l₂, (∀ st, res = .ok (some st) → HasRead channelID t st l₂) →
      (Prog.lift (k res)).Meets (policy p requesterID channelID req t) Q (l ++ l₂)) :
    (Prog.lift (readState channelID >>= k)).Meets
      (policy p requesterID channelID req t) Q l := by
  refine read_meets (o := .getActiveCallByChannelID channelID) (fun _ => trivial)
    fun res l₁ hres => ?_
  rcases res with e | _ | call
  · exact hk _ _ fun st h => by cases h
  · exact hk _ _ fun st h => by cases h
  refine read_meets (o := .getCallSessions call.id) (fun _ => trivial)
    fun res l₂ hres' => ?_
  rw [List.append_assoc]
  cases res with
  | error e => exact hk _ _ fun st h => by cases h
  | ok sessions =>
      refine read_meets (o := .getActiveCallJobs call.id) (fun _ => trivial)
        fun res l₃ _ => ?_
      rw [List.append_assoc]
      cases res with
      | error e => exact hk _ _ fun st h => by cases h
      | ok jobs =>
          refine hk _ _ fun st h => ?_
          obtain ⟨d, hd, ht, hop, hcall⟩ := hres _ rfl
          obtain ⟨d', hd', ht', hop', hsessions⟩ := hres' _ rfl
          cases h
          refine ⟨⟨d, ?_, ht, hop, Except.ok.inj hcall⟩,
            ⟨d', ?_, ht', hop', Except.ok.inj hsessions⟩⟩
          · exact List.mem_append_left _ (List.mem_append_left _ hd)
          · exact List.mem_append_left _ (List.mem_append_right _ hd')

/-- An allowed event is announced from then on. -/
theorem publish_meets {α : Type} {ev : HostEvent} {b : WebSocketBroadcast}
    {k : Unit → HostCode α} {Q : α → List (Did T) → Prop}
    (hev : ∀ l', l <+: l' → AllowedEvent p requesterID channelID req t l' ev b)
    (hk : ∀ l', l <+: l' → (∃ d ∈ l', d.thread = t ∧ d.op = .inr (.publish ev b)) →
      (Prog.lift (k ())).Meets (policy p requesterID channelID req t) Q l') :
    (Prog.lift (publishHost ev b >>= k)).Meets
      (policy p requesterID channelID req t) Q l := by
  refine fun l₁ h₁ => ⟨hev l₁ h₁, ?_⟩
  rintro _ _ ⟨c, w, -, rfl, rfl⟩
  exact hk _ (h₁.trans (List.prefix_append ..)) ⟨⟨t, c, w, .inr (.publish ev b)⟩,
    List.mem_append_right _ (List.mem_singleton.2 rfl), rfl, rfl⟩

/-- What is done in the state that was read is done for the host or a system admin. -/
theorem asHost_meets {f : CallState → HostCode (Except HostError Unit)}
    {Q : Except HostError Unit → List (Did T) → Prop}
    (hf : ∀ st l', l <+: l' → HasRead channelID t st l' →
      (requesterID = st.call.getHostID ∨ p.isSysadmin requesterID = true) →
      (Prog.lift (f st)).Meets (policy p requesterID channelID req t) Q l')
    (hQ : ∀ e l', Q (.error e) l') :
    (Prog.lift (asHost p requesterID channelID f)).Meets
      (policy p requesterID channelID req t) Q l := by
  refine readState_meets fun res l₁ hres => ?_
  rcases res with e | _ | st
  · exact fun l₂ _ => hQ _ l₂
  · exact fun l₂ _ => hQ _ l₂
  dsimp only
  split
  next => exact fun l₂ _ => hQ _ l₂
  next hnot =>
    refine hf st (l ++ l₁) (List.prefix_append ..)
      ((hres st rfl).mono (List.subset_append_right ..)) ?_
    by_cases hhost : requesterID = st.call.getHostID
    · exact .inl hhost
    · exact .inr (by simpa [hhost] using hnot)

/-- The clients that act on an event about a session are that session's. -/
theorem allowedEvent_of_react {ev : HostEvent} {b : WebSocketBroadcast}
    {us : CallSession} {r : Reaction} (hread : HasRead channelID t st l)
    (hhost : requesterID = st.call.getHostID ∨ p.isSysadmin requesterID = true)
    (hus : us ∈ st.sessions)
    (hb : b = toUser us.userID ∨ ∃ env : Env, b = st.audience env channelID)
    (hreact : ∀ client, react client ev = ifOwn client channelID us.id r)
    (hask : req.MayAsk requesterID st us r) :
    AllowedEvent p requesterID channelID req t l ev b := by
  refine ⟨st, hread, hhost, us, hus, hb, fun client r' hr => ?_⟩
  obtain ⟨hclient, rfl⟩ := ifOwn_eq_some ((hreact client).symm.trans hr)
  exact ⟨hclient, hask⟩

theorem muteSession_meets (sessionID : String) :
    (Prog.lift (muteSession p requesterID channelID sessionID)).Meets
      (policy p requesterID channelID (.muteSession sessionID) t)
      (fun _ _ => True) l := by
  refine asHost_meets (fun st l₁ _ hread hhost => ?_) fun _ _ => trivial
  cases hfind : st.sessions.find? sessionID with
  | none => exact fun _ _ => trivial
  | some us =>
      obtain ⟨hus, rfl⟩ := Table.find?_eq_some.1 hfind
      dsimp only
      split
      next => exact fun _ _ => trivial
      next hunmuted =>
        refine publish_meets (fun l₂ h₂ => ?_) fun _ _ _ => fun _ _ => trivial
        exact allowedEvent_of_react (hread.mono h₂.subset) hhost hus (.inl rfl)
          (fun _ => rfl) ⟨rfl, rfl, by simpa using hunmuted⟩

theorem muteAll_meets (hread : HasRead channelID t st l)
    (hhost : requesterID = st.call.getHostID ∨ p.isSysadmin requesterID = true) :
    ∀ rows : List CallSession, (∀ us ∈ rows, us ∈ st.sessions) →
      (Prog.lift (muteAll requesterID channelID rows)).Meets
        (policy p requesterID channelID .muteOthers t) (fun _ _ => True) l := by
  intro rows hrows
  induction rows generalizing l with
  | nil => exact fun _ _ => trivial
  | cons us rows ih =>
      have hrest : ∀ us' ∈ rows, us' ∈ st.sessions :=
        fun us' h => hrows us' (List.mem_cons_of_mem _ h)
      unfold muteAll
      split
      next hother =>
        refine publish_meets (fun l₂ h₂ => ?_) fun l₂ h₂ _ =>
          ih (hread.mono h₂.subset) hrest
        exact allowedEvent_of_react (hread.mono h₂.subset) hhost
          (hrows us List.mem_cons_self) (.inl rfl) (fun _ => rfl) ⟨rfl, hother⟩
      next => exact ih hread hrest

theorem muteOthers_meets :
    (Prog.lift (muteOthers p env requesterID channelID)).Meets
      (policy p requesterID channelID .muteOthers t) (fun _ _ => True) l := by
  refine asHost_meets (fun st l₁ _ hread hhost => ?_) fun _ _ => trivial
  rw [Prog.lift_bind]
  refine (muteAll_meets hread hhost _ fun us hus => ?_).bind fun _ _ _ =>
    fun _ _ => trivial
  exact (env.iter_perm st.sessions.rows).mem_iff.1 hus

theorem screenOff_meets (sessionID : String) :
    (Prog.lift (screenOff p requesterID channelID sessionID)).Meets
      (policy p requesterID channelID (.screenOff sessionID) t)
      (fun _ _ => True) l := by
  refine asHost_meets (fun st l₁ _ hread hhost => ?_) fun _ _ => trivial
  split
  next => exact fun _ _ => trivial
  next hsharing =>
    cases hfind : st.sessions.find? sessionID with
    | none => exact fun _ _ => trivial
    | some us =>
        obtain ⟨hus, rfl⟩ := Table.find?_eq_some.1 hfind
        refine publish_meets (fun l₂ h₂ => ?_) fun _ _ _ => fun _ _ => trivial
        exact allowedEvent_of_react (hread.mono h₂.subset) hhost hus (.inl rfl)
          (fun _ => rfl) ⟨rfl, rfl, not_not.1 hsharing⟩

theorem lowerHand_meets (sessionID : String) :
    (Prog.lift (lowerHand p requesterID channelID sessionID)).Meets
      (policy p requesterID channelID (.lowerHand sessionID) t)
      (fun _ _ => True) l := by
  refine asHost_meets (fun st l₁ _ hread hhost => ?_) fun _ _ => trivial
  cases hfind : st.sessions.find? sessionID with
  | none => exact fun _ _ => trivial
  | some us =>
      obtain ⟨hus, rfl⟩ := Table.find?_eq_some.1 hfind
      dsimp only
      split
      next => exact fun _ _ => trivial
      next hraised =>
        refine publish_meets (fun l₂ h₂ => ?_) fun _ _ _ => fun _ _ => trivial
        exact allowedEvent_of_react (hread.mono h₂.subset) hhost hus (.inl rfl)
          (fun _ => rfl) ⟨rfl, rfl, hraised⟩

theorem hostRemoveSession_meets (sessionID : String) :
    (Prog.lift (hostRemoveSession p env requesterID channelID sessionID)).Meets
      (policy p requesterID channelID (.removeSession sessionID) t)
      (fun res l' => res = .ok () → Announced channelID t sessionID l') l := by
  refine asHost_meets (fun st l₁ _ hread hhost => ?_) fun _ _ h => by cases h
  cases hfind : st.sessions.find? sessionID with
  | none => exact fun _ _ h => by cases h
  | some us =>
      obtain ⟨hus, rfl⟩ := Table.find?_eq_some.1 hfind
      refine publish_meets (fun l₂ h₂ => ?_) fun l₂ h₂ hpub => fun l₃ h₃ _ => ?_
      · exact allowedEvent_of_react (hread.mono h₂.subset) hhost hus (.inr ⟨env, rfl⟩)
          (fun _ => rfl) ⟨rfl, rfl⟩
      · obtain ⟨d, hd, ht, hop⟩ := hpub
        exact ⟨d, h₃.subset hd, ht, _, _, _, hop⟩

theorem forceRemove_meets {sessionID : String}
    (hpub : Announced channelID t sessionID l) :
    (Prog.lift (forceRemove channelID sessionID)).Meets
      (policy p requesterID channelID (.removeSession sessionID) t)
      (fun _ _ => True) l := by
  refine fun l₁ h₁ => ⟨trivial, ?_⟩
  rintro _ _ ⟨c, w, -, rfl, rfl⟩
  refine readState_meets fun res l₂ hres => ?_
  rcases res with e | _ | st
  · exact fun _ _ => trivial
  · exact fun _ _ => trivial
  dsimp only
  cases hfind : st.sessions.find? sessionID with
  | none => exact fun _ _ => trivial
  | some us =>
      obtain ⟨hus, hid⟩ := Table.find?_eq_some.1 hfind
      refine fun l₃ h₃ => ⟨?_, fun _ _ _ _ _ => trivial⟩
      obtain ⟨d, hd, ht, hop⟩ := hpub
      obtain ⟨l₄, rfl⟩ := h₃
      refine ⟨rfl, _, l₂ ++ l₄, List.append_assoc .., ?_, st,
        (hres st rfl).mono (List.subset_append_left ..), rfl, us, hus, hid, rfl⟩
      exact ⟨d, (h₁.trans (List.prefix_append ..)).subset hd, ht, hop⟩

/-- What is done for a request is permitted. -/
theorem HostControl.code_meets :
    (Prog.lift (req.code p env requesterID channelID)).Meets
      (policy p requesterID channelID req t) (fun _ _ => True) l := by
  cases req with
  | muteSession sessionID =>
      unfold HostControl.code
      rw [Prog.lift_bind]
      exact (muteSession_meets sessionID).bind fun _ _ _ => fun _ _ => trivial
  | muteOthers =>
      unfold HostControl.code
      rw [Prog.lift_bind]
      exact muteOthers_meets.bind fun _ _ _ => fun _ _ => trivial
  | screenOff sessionID =>
      unfold HostControl.code
      rw [Prog.lift_bind]
      exact (screenOff_meets sessionID).bind fun _ _ _ => fun _ _ => trivial
  | lowerHand sessionID =>
      unfold HostControl.code
      rw [Prog.lift_bind]
      exact (lowerHand_meets sessionID).bind fun _ _ _ => fun _ _ => trivial
  | removeSession sessionID =>
      unfold HostControl.code
      rw [Prog.lift_bind]
      refine (hostRemoveSession_meets sessionID).bind fun res l₁ hres => ?_
      cases res with
      | error e => exact fun _ _ => trivial
      | ok u => exact forceRemove_meets (hres rfl)

end Meets

/-! ## Runs -/

section Runs

variable {T N : Type} [DecidableEq T] [DecidableEq N] {p : Plugin} {env : Env}
  {requesterID channelID : String} {req : HostControl} {t : T} {node : T → N}
  {ok : List (Event T Choice) → Sys AllOps AllResp Store T N → T → Act Choice → Prop}
  {s₀ s : Sys AllOps AllResp Store T N} {tr : List (Event T Choice)} {l : List (Did T)}

/-- **Host controls**: among whatever other code, a request writes nothing, and each
event it publishes and each session it closes was allowed by a state of the call that it
had read. -/
theorem hostControl_permitted (hr : Histories hostSem node ok AddsDeeds s₀ tr s l)
    (hcode : s₀.code t = .lift (req.code p env requesterID channelID)) :
    ∀ l₁ d l₂, l = l₁ ++ d :: l₂ → d.thread = t →
      Permitted p requesterID channelID req t l₁ d.op := by
  refine hr.own_deeds_good (I := fun _ => True) (fun _ _ _ => trivial) ?_
  rw [hcode]
  exact HostControl.code_meets

end Runs

/-- Alice removes her own session. -/
def aliceRemoved : Sys AllOps AllResp Store Unit Unit :=
  ⟨sampleStore, fun _ => none, none, fun _ => false, fun _ =>
    .lift ((HostControl.removeSession "s1").code .sample (.sample 30) "alice" "chan")⟩

/-- The session is closed. -/
def aliceClosed : AllOps := .inr (.closeRTCSession "alice" "s1" "chan" "node" "call")

/-- Her client does not react, and three seconds later the session is closed. -/
theorem hostControl_permitted_close : ∃ (tr : List (Event Unit Choice))
    (s : Sys AllOps AllResp Store Unit Unit) (l l₁ l₂ : List (Did Unit)) (d : Did Unit),
    Histories hostSem id (fun _ _ _ _ => True) AddsDeeds aliceRemoved tr s l ∧
    l = l₁ ++ d :: l₂ ∧ d.op = aliceClosed ∧
    Permitted .sample "alice" "chan" (.removeSession "s1") () l₁ d.op := by
  have hsched : (aliceRemoved.schedHistory hostSem id (fun _ _ _ _ => true)
      (fun s t a _ => s.deeds t a) [] [] (List.replicate 9 ((), .op .works))).map
      (fun r => decide (∃ d ∈ r.2.2, d.op = aliceClosed)) = some true := by
    decide
  have hadd (s : Sys AllOps AllResp Store Unit Unit) (t : Unit) (a : Act Choice)
      (s' : Sys AllOps AllResp Store Unit Unit) : AddsDeeds s t a s' (s.deeds t a) :=
      rfl
  obtain ⟨tr, s, l, hr, hf⟩ :=
    Histories.exists_of_sched (fun _ _ _ _ _ => trivial) hadd hsched
  obtain ⟨d, hd, hop⟩ := of_decide_eq_true hf
  obtain ⟨l₁, l₂, hl⟩ := List.append_of_mem hd
  exact ⟨tr, s, l, l₁, l₂, d, hr, hl, hop, hostControl_permitted hr rfl l₁ d l₂ hl rfl⟩

end CallsPlugin.Ports.HostControls
