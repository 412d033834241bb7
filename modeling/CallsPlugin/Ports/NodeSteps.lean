import CallsPlugin.Ports.Nodes
import CallsPlugin.Ports.HandlerSession

/-!
# What a step does to a node

A step of the cluster changes the sessions of a node without touching their identities,
or it stores one new session.
-/

namespace CallsPlugin.Ports

open CallsPlugin.Verified

/-! ## Claiming a session -/

/-- The session that a request takes for the old one. -/
def Node.previous (n : Node) (r : ReconnectRequest) : Option Slot :=
  (n.sessions.find? r.connID).or (n.sessions.find? r.prevConnID)

section Claim

variable {n n₁ : Node} {r : ReconnectRequest} {rtc : Bool}

theorem Node.claimSession_eq (n : Node) (r : ReconnectRequest) : n.claimSession r =
    match n.previous r with
    | none => .ok (false, n)
    | some slot =>
        if (n.heap slot.us).wsReconnected then .error "session already reconnected"
        else .ok ((n.heap slot.us).rtc, n.markReconnected slot.us) := rfl

/-- A claim succeeds if no session has to be claimed, or one that has not
reconnected. -/
theorem Node.claimSession_ok_iff : (∃ res, n.claimSession r = .ok res) ↔
    ∀ x, n.previous r = some x → (n.heap x.us).wsReconnected = false := by
  rw [Node.claimSession_eq]
  cases n.previous r with
  | none => exact iff_of_true ⟨_, rfl⟩ fun x h => nomatch h
  | some x =>
      dsimp only
      by_cases hmarked : (n.heap x.us).wsReconnected = true
      · rw [if_pos hmarked]
        refine iff_of_false (fun ⟨res, h⟩ => nomatch h) fun h => ?_
        rw [h x rfl] at hmarked
        cases hmarked
      · rw [if_neg hmarked]
        refine iff_of_true ⟨_, rfl⟩ fun y hy => ?_
        cases hy
        simpa using hmarked

/-- What a claim does to the node. -/
theorem Node.claimSession_ok (h : n.claimSession r = .ok (rtc, n₁)) :
    n.previous r = none ∧ rtc = false ∧ n₁ = n ∨
      ∃ x, n.previous r = some x ∧ (n.heap x.us).wsReconnected = false ∧
        rtc = (n.heap x.us).rtc ∧ n₁ = n.markReconnected x.us := by
  rw [Node.claimSession_eq] at h
  cases hp : n.previous r with
  | none =>
      rw [hp] at h
      cases h
      exact .inl ⟨rfl, rfl, rfl⟩
  | some x =>
      rw [hp] at h
      dsimp only at h
      split at h
      next => cases h
      next hopen =>
        cases h
        exact .inr ⟨x, rfl, by simpa using hopen, rfl, rfl⟩

/-- What is claimed is in the map, under the new connection id or under the previous
one. -/
theorem Node.previous_eq_some {x : Slot} (h : n.previous r = some x) :
    x ∈ n.sessions ∧ (x.key = r.connID ∨ n.sessions.find? r.connID = none ∧
      x.key = r.prevConnID) := by
  rcases Option.or_eq_some_iff.1 h with h | ⟨hnone, h⟩
  · obtain ⟨hmem, hk⟩ := Table.find?_eq_some.1 h
    exact ⟨hmem, .inl hk⟩
  · obtain ⟨hmem, hk⟩ := Table.find?_eq_some.1 h
    exact ⟨hmem, .inr ⟨hnone, hk⟩⟩

@[simp] theorem Node.markReconnected_self (n : Node) (us : Nat) :
    (n.markReconnected us).heap us = { n.heap us with wsReconnected := true } :=
  Function.update_self ..

theorem Node.markReconnected_of_ne {us us' : Nat} (h : us' ≠ us) :
    (n.markReconnected us).heap us' = n.heap us' := Function.update_of_ne h ..

end Claim

/-! ## Sessions keep their identities -/

/-- What every step but the storing of a session leaves alone: no slot and no routine is
new, a session keeps its identities, and its RTC channel stays closed. -/
structure Node.Evolves (n n' : Node) : Prop where
  slots : ∀ x ∈ n'.sessions, x ∈ n.sessions
  routines : ∀ r ∈ n'.readers, r ∈ n.readers
  next : n'.next = n.next
  userID : ∀ us, (n'.heap us).userID = (n.heap us).userID
  originalConnID : ∀ us, (n'.heap us).originalConnID = (n.heap us).originalConnID
  callID : ∀ us, (n'.heap us).callID = (n.heap us).callID
  channelID : ∀ us, (n'.heap us).channelID = (n.heap us).channelID
  rtc : ∀ us, (n'.heap us).rtc = (n.heap us).rtc
  connID : ∀ us, (n.heap us).rtc = false → (n'.heap us).connID = (n.heap us).connID
  rtcClosed : ∀ us, (n.heap us).rtcClosed = true → (n'.heap us).rtcClosed = true

section Node

variable {n n' n'' : Node}

theorem Node.Evolves.refl (n : Node) : n.Evolves n :=
  ⟨fun _ h => h, fun _ h => h, rfl, fun _ => rfl, fun _ => rfl, fun _ => rfl,
    fun _ => rfl, fun _ => rfl, fun _ _ => rfl, fun _ h => h⟩

theorem Node.Evolves.trans (h : n.Evolves n') (h' : n'.Evolves n'') :
    n.Evolves n'' where
  slots x hx := h.slots x (h'.slots x hx)
  routines r hr := h.routines r (h'.routines r hr)
  next := h'.next.trans h.next
  userID us := (h'.userID us).trans (h.userID us)
  originalConnID us := (h'.originalConnID us).trans (h.originalConnID us)
  callID us := (h'.callID us).trans (h.callID us)
  channelID us := (h'.channelID us).trans (h.channelID us)
  rtc us := (h'.rtc us).trans (h.rtc us)
  connID us hr := (h'.connID us ((h.rtc us).trans hr)).trans (h.connID us hr)
  rtcClosed us hc := h'.rtcClosed us (h.rtcClosed us hc)

/-- Changing a session of the node without touching its identities. -/
theorem Node.Evolves.set (n : Node) (us : Nat) {s : Session}
    (huser : s.userID = (n.heap us).userID)
    (horig : s.originalConnID = (n.heap us).originalConnID)
    (hcall : s.callID = (n.heap us).callID)
    (hchan : s.channelID = (n.heap us).channelID) (hrtc : s.rtc = (n.heap us).rtc)
    (hconn : (n.heap us).rtc = false → s.connID = (n.heap us).connID)
    (hclosed : (n.heap us).rtcClosed = true → s.rtcClosed = true) :
    n.Evolves (n.set us s) := by
  have hheap : ∀ us', us' ≠ us → (n.set us s).heap us' = n.heap us' := fun us' h =>
    Function.update_of_ne h ..
  have hself : (n.set us s).heap us = s := Function.update_self ..
  refine ⟨fun _ h => h, fun _ h => h, rfl, fun us' => ?_, fun us' => ?_, fun us' => ?_,
    fun us' => ?_,
    fun us' => ?_, fun us' hr => ?_, fun us' hc => ?_⟩ <;> by_cases h : us' = us
  · rw [h, hself, huser]
  · rw [hheap us' h]
  · rw [h, hself, horig]
  · rw [hheap us' h]
  · rw [h, hself, hcall]
  · rw [hheap us' h]
  · rw [h, hself, hchan]
  · rw [hheap us' h]
  · rw [h, hself, hrtc]
  · rw [hheap us' h]
  · rw [h, hself, hconn (h ▸ hr)]
  · rw [hheap us' h]
  · rw [h, hself, hclosed (h ▸ hc)]
  · rw [hheap us' h, hc]

theorem Node.Evolves.erase (n : Node) (k : String) :
    n.Evolves { n with sessions := n.sessions.erase k } :=
  { Node.Evolves.refl n with slots := fun _ hx => (Table.mem_erase.1 hx).1 }

theorem Node.Evolves.readers (n : Node) {l : List Reader}
    (hl : ∀ r ∈ l, r ∈ n.readers) :
    n.Evolves { n with readers := l } :=
  { Node.Evolves.refl n with routines := hl }

/-- Setting a flag of the session under a key. -/
theorem Node.Evolves.adjust (n : Node) (connID : String) {f : Session → Session}
    (hf : ∀ s, (f s).userID = s.userID ∧ (f s).originalConnID = s.originalConnID ∧
      (f s).callID = s.callID ∧ (f s).channelID = s.channelID ∧ (f s).rtc = s.rtc ∧
      (f s).connID = s.connID ∧ (s.rtcClosed = true → (f s).rtcClosed = true)) :
    n.Evolves (n.adjust connID f) := by
  unfold Node.adjust
  split
  next => exact .refl n
  next slot _ =>
    obtain ⟨h₁, h₂, h₃, h₄, h₅, h₆, h₇⟩ := hf (n.heap slot.us)
    exact .set n slot.us h₁ h₂ h₃ h₄ h₅ (fun _ => h₆) h₇

theorem Node.Evolves.markReconnected (n : Node) (us : Nat) :
    n.Evolves (n.markReconnected us) :=
  .set n us rfl rfl rfl rfl rfl (fun _ => rfl) fun h => h

theorem Node.Evolves.closeRTC (n : Node) (us : Nat) :
    n.Evolves (n.set us { n.heap us with rtcClosed := true }) :=
  .set n us rfl rfl rfl rfl rfl (fun _ => rfl) fun _ => rfl

theorem Node.Evolves.handleLeave (n : Node) (r : Reader) :
    n.Evolves (n.handleLeave r) := by
  refine { Node.Evolves.refl n with
    slots := fun x hx => ?_
    routines := fun r' hr => List.mem_of_mem_erase hr }
  change x ∈ (match n.sessions.find? r.connID with
    | none => n.sessions
    | some slot =>
        if slot.us = r.us ∧ (n.heap r.us).rtc = false then n.sessions.erase r.connID
        else n.sessions) at hx
  split at hx
  · exact hx
  · split at hx
    · exact (Table.mem_erase.1 hx).1
    · exact hx

/-- What a message about a reconnection does. -/
theorem Node.Evolves.reconnectEvent (n : Node) (msg : ReconnectMessage) :
    n.Evolves (handleReconnectEvent msg n).2 := by
  unfold handleReconnectEvent
  split
  next => exact .refl n
  next slot _ =>
    split
    next => exact .refl n
    next =>
      have hmark := Node.Evolves.markReconnected n slot.us
      dsimp only
      split
      next hrtc =>
        refine hmark.trans (.set _ slot.us rfl rfl rfl rfl rfl (fun h => ?_) fun h => h)
        rw [hrtc] at h
        cases h
      next => exact hmark.trans (.erase _ _)

/-- Claiming a session marks it at most. -/
theorem Node.Evolves.claimSession {r : ReconnectRequest} {rtc : Bool}
    (h : n.claimSession r = .ok (rtc, n')) : n.Evolves n' := by
  rcases Node.claimSession_ok h with ⟨-, -, rfl⟩ | ⟨x, -, -, -, rfl⟩
  · exact .refl _
  · exact .markReconnected n x.us

end Node

/-! ## The outcomes of a request to reconnect -/

/-- A request to reconnect is refused; or it fails for the jobs of a bot, when the old
session has been marked; or a session is stored. -/
theorem handleReconnect_cases (e : ReconnectEnv) (r : ReconnectRequest) (n : Node) :
    (∃ err, handleReconnect e r n = (.error err, n) ∧
      ∀ st, reconnectCall e r = .ok st → ∃ err', n.claimSession r = .error err') ∨
    (∃ st rtc n₁ err, reconnectCall e r = .ok st ∧ n.claimSession r = .ok (rtc, n₁) ∧
      e.isBot = true ∧ e.handleBotWSReconnect = .error err ∧
      handleReconnect e r n = (.error ("handleBotWSReconnect failed: " ++ err), n₁)) ∨
    ∃ st rtc n₁, reconnectCall e r = .ok st ∧ n.claimSession r = .ok (rtc, n₁) ∧
      (e.isBot = true → e.handleBotWSReconnect = .ok ()) ∧
      handleReconnect e r n = (.ok ⟨r.prevConnID, r.connID, r.userID, st.call.id⟩,
        n₁.storeSession r st.call.id rtc) := by
  cases hcall : reconnectCall e r with
  | error err =>
      refine .inl ⟨err, ?_, fun st h => nomatch h⟩
      simp only [handleReconnect, hcall]
  | ok st =>
      cases hclaim : n.claimSession r with
      | error err =>
          refine .inl ⟨err, ?_, fun _ _ => ⟨err, rfl⟩⟩
          simp only [handleReconnect, hcall, hclaim]
      | ok res =>
          obtain ⟨rtc, n₁⟩ := res
          by_cases hbot : e.isBot = true
          · cases hjobs : e.handleBotWSReconnect with
            | error err =>
                refine .inr (.inl ⟨st, rtc, n₁, err, rfl, rfl, hbot, rfl, ?_⟩)
                simp only [handleReconnect, hcall, hclaim, hbot, hjobs, if_true]
            | ok _ =>
                refine .inr (.inr ⟨st, rtc, n₁, rfl, rfl, fun _ => rfl, ?_⟩)
                simp only [handleReconnect, hcall, hclaim, hbot, hjobs, if_true]
          · refine .inr (.inr ⟨st, rtc, n₁, rfl, rfl, fun h => absurd h hbot, ?_⟩)
            simp only [handleReconnect, hcall, hclaim, hbot]
            rfl

/-- The request passes the checks of `handleReconnect`, the one for a session that has
already reconnected and the handling of a bot's jobs included. -/
def Node.Accepts (n : Node) (e : ReconnectEnv) (r : ReconnectRequest) : Prop :=
  (∃ st, reconnectCall e r = .ok st) ∧
    (∀ x, n.previous r = some x → (n.heap x.us).wsReconnected = false) ∧
    (e.isBot = true → e.handleBotWSReconnect = .ok ())

/-- A request to reconnect goes through when its checks do. -/
theorem handleReconnect_isOk_iff {n : Node} {e : ReconnectEnv} {r : ReconnectRequest} :
    (∃ msg, (handleReconnect e r n).1 = .ok msg) ↔ n.Accepts e r := by
  unfold Node.Accepts
  rw [← Node.claimSession_ok_iff]
  rcases handleReconnect_cases e r n with ⟨err, he, hno⟩ |
    ⟨st, rtc, n₁, err, hcall, hclaim, hbot, hjobs, he⟩ |
      ⟨st, rtc, n₁, hcall, hclaim, hjobs, he⟩ <;>
    rw [he]
  · refine iff_of_false (fun ⟨msg, h⟩ => nomatch h) ?_
    rintro ⟨⟨st, hcall⟩, ⟨res, hres⟩, -⟩
    obtain ⟨err', herr⟩ := hno st hcall
    rw [hres] at herr
    cases herr
  · refine iff_of_false (fun ⟨msg, h⟩ => nomatch h) ?_
    rintro ⟨-, -, h⟩
    rw [h hbot] at hjobs
    cases hjobs
  · exact iff_of_true ⟨_, rfl⟩ ⟨⟨st, hcall⟩, ⟨_, hclaim⟩, hjobs⟩

/-- What a request to reconnect tells the other nodes. -/
theorem handleReconnect_msg {n : Node} {e : ReconnectEnv} {r : ReconnectRequest}
    {msg : ReconnectMessage} (h : (handleReconnect e r n).1 = .ok msg) :
    ∃ callID, msg = ⟨r.prevConnID, r.connID, r.userID, callID⟩ := by
  rcases handleReconnect_cases e r n with ⟨err, he, -⟩ |
    ⟨st, rtc, n₁, err, -, -, -, -, he⟩ | ⟨st, rtc, n₁, -, -, -, he⟩ <;>
    rw [he] at h <;> cases h
  exact ⟨_, rfl⟩

/-- Of what was read of the call, the request's session is one of its user. -/
theorem reconnectCall_ok {e : ReconnectEnv} {r : ReconnectRequest} {st : CallState}
    (h : reconnectCall e r = .ok st) : e.state = .ok (some st) ∧
      ∃ row ∈ st.sessions, row.id = r.originalConnID ∧ row.userID = r.userID := by
  unfold reconnectCall at h
  split at h
  next => cases h
  next =>
    split at h
    next => cases h
    next => cases h
    next state hstate =>
      split at h
      next => cases h
      next row hrow =>
        split at h
        next => cases h
        next huser =>
          cases h
          obtain ⟨hmem, hid⟩ := Table.find?_eq_some.1 hrow
          exact ⟨hstate, row, hmem, hid, not_not.1 huser⟩

/-! ## Steps -/

section Step

variable {N : Type} [DecidableEq N] {d : Deployment N}

/-- The session that an action stores on a node, and its key. -/
inductive Stores : Action N → N → String → Session → Prop
  | join (n : N) (userID connID channelID callID : String) (queued ok rtc : Bool) :
      Stores (.join n userID connID channelID callID queued ok) n connID
        (newUserSession userID channelID connID callID rtc)
  | connect (n : N) (msg : ConnectMessage) (iter : List Slot → List Slot) :
      Stores (.handleEvent n (.connect msg) iter) n msg.connID
        (newUserSession msg.userID msg.channelID msg.connID msg.callID true)
  | reconnect (n : N) {e : ReconnectEnv} {r : ReconnectRequest} (told : Bool)
      {st : CallState} (hcall : reconnectCall e r = .ok st) (rtc : Bool) :
      Stores (.reconnect n e r told) n r.connID
        { newUserSession r.userID r.channelID r.connID st.call.id rtc with
          originalConnID := r.originalConnID }

/-- A node after a step: its sessions have kept their identities, and one may have been
stored, with a routine for it. -/
def Node.Follows (n n' : Node) (stores : String → Session → Prop) : Prop :=
  n.Evolves n' ∨ ∃ n₁ k s l, n.Evolves n₁ ∧ stores k s ∧
    (∀ r ∈ l, r ∈ n.readers ∨ r = ⟨k, n₁.next⟩) ∧
    n' = { n₁.insertSession k s with readers := l }

theorem Node.Follows.refl (n : Node) (stores : String → Session → Prop) :
    n.Follows n stores :=
  .inl (.refl n)

namespace Net

variable {c : Net N}

@[simp] theorem setNode_self (n : N) (node : Node) :
    (c.setNode n node).nodes n = node :=
  Function.update_self ..

theorem setNode_of_ne {n m : N} (h : m ≠ n) (node : Node) :
    (c.setNode n node).nodes m = c.nodes m :=
  Function.update_of_ne h ..

omit [DecidableEq N] in
@[simp] theorem send_nodes (targets : List N) (msg : ClusterMessage) :
    (c.send targets msg).nodes = c.nodes := rfl

omit [DecidableEq N] in
@[simp] theorem note_nodes (n : N) (kind : RtcKind)
    (sessionID originalConnID : String) :
    (c.note n kind sessionID originalConnID).nodes = c.nodes := rfl

@[simp] theorem closeRTCSession_nodes (handler : Option N) (n : N)
    (connID originalConnID : String) :
    (c.closeRTCSession handler n connID originalConnID).nodes = c.nodes := by
  unfold closeRTCSession
  cases handler with
  | none => rfl
  | some h => dsimp only; split <;> rfl

/-- What `closeRTCSession` may change. -/
theorem closeRTCSession_eq (handler : Option N) (n : N)
    (connID originalConnID : String) :
    c.closeRTCSession handler n connID originalConnID =
      { c with
        inFlight := (c.closeRTCSession handler n connID originalConnID).inFlight
        record := (c.closeRTCSession handler n connID originalConnID).record
        ending := originalConnID :: c.ending } := by
  unfold closeRTCSession
  cases handler with
  | none => rfl
  | some h => dsimp only; split <;> rfl

/-- What `removeSession` may change until the call is locked. -/
theorem removeSession_eq (n : N) (us : Nat) (how : Removal) :
    c.removeSession n us how =
      { c with
        nodes := (c.removeSession n us how).nodes
        removals := (c.removeSession n us how).removals
        removeSessionsBatchers :=
            (c.removeSession n us how).removeSessionsBatchers } := by
  unfold removeSession
  dsimp only
  split <;> rfl

/-- What `removeSessionFromCall` may change. -/
theorem removeSessionFromCall_eq (n : N) (us : Nat) :
    c.removeSessionFromCall n us =
      { c with
        nodes := (c.removeSessionFromCall n us).nodes
        addSessionsBatchers := (c.removeSessionFromCall n us).addSessionsBatchers
        removeSessionsBatchers := (c.removeSessionFromCall n us).removeSessionsBatchers
        live := c.live.filter (· ≠ (n, us)) } := by
  unfold removeSessionFromCall
  dsimp only
  split <;> rfl

section Frame

variable (n : N) (us : Nat) (how : Removal)

@[simp] theorem removeSession_inFlight :
    (c.removeSession n us how).inFlight = c.inFlight := by
  rw [removeSession_eq]

@[simp] theorem removeSession_joined :
    (c.removeSession n us how).joined = c.joined := by
  rw [removeSession_eq]

@[simp] theorem removeSessionFromCall_inFlight :
    (c.removeSessionFromCall n us).inFlight = c.inFlight := by
  rw [removeSessionFromCall_eq]

@[simp] theorem removeSessionFromCall_joined :
    (c.removeSessionFromCall n us).joined = c.joined := by
  rw [removeSessionFromCall_eq]

@[simp] theorem closeRTCSession_joined (handler : Option N)
    (connID originalConnID : String) :
    (c.closeRTCSession handler n connID originalConnID).joined = c.joined := by
  rw [closeRTCSession_eq]

/-- The messages after `closeRTCSession`. -/
theorem mem_closeRTCSession_inFlight {handler : Option N}
    {connID originalConnID : String} {x : N × ClusterMessage}
    (h : x ∈ (c.closeRTCSession handler n connID originalConnID).inFlight) :
    x ∈ c.inFlight ∨ handler = some x.1 ∧ x.2 = .disconnect connID := by
  unfold closeRTCSession at h
  cases handler with
  | none => exact .inl h
  | some m =>
      dsimp only at h
      split at h
      · exact .inl h
      · rcases List.mem_append.1 h with h | h
        · exact .inl h
        · cases List.mem_singleton.1 h
          exact .inr ⟨rfl, rfl⟩

end Frame

end Net

/-- Changing one node in such a way. -/
theorem Net.follows_setNode {c c' : Net N} (hc : c'.nodes = c.nodes) {n : N}
    {node : Node} {stores : N → String → Session → Prop}
    (h : (c.nodes n).Follows node (stores n)) (m : N) :
    (c.nodes m).Follows ((c'.setNode n node).nodes m) (stores m) := by
  rw [← hc] at h ⊢
  by_cases hm : m = n
  · subst hm
    rw [setNode_self]
    exact h
  · rw [setNode_of_ne hm]
    exact .refl _ _

theorem Net.evolves_removeSession (c : Net N) (n : N) (us : Nat)
    (how : Removal) (m : N) :
    (c.nodes m).Evolves ((c.removeSession n us how).nodes m) := by
  unfold Net.removeSession
  dsimp only
  split
  · exact .refl _
  · by_cases hm : m = n
    · subst hm
      rw [Net.setNode_self]
      exact .set _ us rfl rfl rfl rfl rfl (fun _ => rfl) fun h => h
    · rw [Net.setNode_of_ne hm]
      exact .refl _

theorem Net.evolves_removeSessionFromCall {c c' : Net N} (hc : c'.nodes = c.nodes)
    (n : N) (us : Nat) (m : N) :
    (c.nodes m).Evolves ((c'.removeSessionFromCall n us).nodes m) := by
  rw [← hc]
  clear hc
  have hnode : (c'.nodes m).Evolves ((c'.setNode n { c'.nodes n with
      sessions := (c'.nodes n).sessions.erase ((c'.nodes n).heap us).connID }).nodes
          m) := by
    by_cases hm : m = n
    · subst hm
      rw [Net.setNode_self]
      exact .erase _ _
    · rw [Net.setNode_of_ne hm]
      exact .refl _
  unfold Net.removeSessionFromCall
  dsimp only
  split
  · exact hnode
  · exact hnode

/-- The stored session of a request to reconnect that goes through. -/
theorem Node.follows_handleReconnect (n : Node) {e : ReconnectEnv}
    {r : ReconnectRequest} {stores : String → Session → Prop}
    (h : ∀ st, reconnectCall e r = .ok st → ∀ rtc, stores r.connID
      { newUserSession r.userID r.channelID r.connID st.call.id rtc with
        originalConnID := r.originalConnID }) :
    n.Follows (handleReconnect e r n).2 stores := by
  rcases handleReconnect_cases e r n with ⟨err, he, -⟩ |
    ⟨st, rtc, n₁, err, -, hclaim, -, -, he⟩ | ⟨st, rtc, n₁, hcall, hclaim, -, he⟩ <;>
    rw [he]
  · exact .refl _ _
  · exact .inl (.claimSession hclaim)
  · have hclaim' := Node.Evolves.claimSession hclaim
    refine .inr ⟨_, r.connID, _, _, hclaim'.trans (.erase _ _), h st hcall rtc,
      fun r' hr => ?_, rfl⟩
    rcases List.mem_cons.1 hr with rfl | hr
    · exact .inr rfl
    · exact .inl (hclaim'.routines r' hr)

/-- No routine is started. -/
theorem Node.Follows.unread {n n' : Node} {stores : String → Session → Prop}
    (h : n.Follows n' stores) : n.Follows { n' with readers := n.readers } stores := by
  rcases h with h | ⟨n₁, k, s, l, h₁, hs, -, rfl⟩
  · exact .inl { h with routines := fun _ hr => hr }
  · exact .inr ⟨n₁, k, s, n.readers, h₁, hs, fun _ hr => .inl hr, rfl⟩

/-- The nodes after a join: the session is stored whatever becomes of the RTC side. -/
theorem Net.addSessionToCall_nodes (c : Net N) (n : N)
    (userID connID channelID callID : String) (queued ok : Bool) :
      (c.addSessionToCall d n userID connID channelID callID queued ok).nodes =
      (c.setNode n ((c.nodes n).handleJoin userID connID channelID callID
        (d.handler callID = some n))).nodes := by
  unfold Net.addSessionToCall
  dsimp only
  split
  · split
    · rfl
    · split_ifs <;> rfl
  · split_ifs <;> rfl

theorem Net.follows_addSessionToCall (c : Net N) (n : N)
    (userID connID channelID callID : String) (queued ok : Bool) (m : N) :
    (c.nodes m).Follows
      ((c.addSessionToCall d n userID connID channelID callID queued ok).nodes m)
      (Stores (.join n userID connID channelID callID queued ok) m) := by
  rw [Net.addSessionToCall_nodes]
  refine Net.follows_setNode rfl
    (.inr ⟨_, connID, _, _, .refl _, .join .., fun r hr => ?_, rfl⟩) m
  exact (List.mem_cons.1 hr).symm

theorem Net.follows_handleEvent {c c' : Net N} (hc : c'.nodes = c.nodes) (n : N)
    (msg : ClusterMessage) (iter : List Slot → List Slot) (m : N) :
    (c.nodes m).Follows ((c'.handleEvent d n msg iter).nodes m)
      (Stores (.handleEvent n msg iter) m) := by
  rw [← hc]
  clear hc
  cases msg with
  | connect msg =>
      simp only [Net.handleEvent, handleConnectEvent]
      cases (c'.nodes n).sessions.find? msg.connID with
      | some slot => exact .refl _ _
      | none =>
          exact Net.follows_setNode rfl
            (.inr ⟨_, msg.connID, _, _, .refl _, .connect .., fun r hr => .inl hr, rfl⟩)
            m
  | reconnect msg => exact Net.follows_setNode rfl (.inl (.reconnectEvent _ _)) m
  | leave connID =>
      exact Net.follows_setNode rfl (.inl (.adjust _ _ fun s => by simp)) m
  | disconnect connID =>
      exact Net.follows_setNode rfl (.inl (.adjust _ _ fun s => by simp)) m
  | signaling connID =>
      simp only [Net.handleEvent]
      split
      · exact .refl _ _
      · split <;> exact .refl _ _

theorem Net.evolves_handleLeave (c : Net N) (n : N) (r : Reader) (exit : LeaveExit)
    (how : Removal) (m : N) :
    (c.nodes m).Evolves ((c.handleLeave d n r exit how).nodes m) := by
  have hset : ∀ node, (c.nodes n).Evolves node →
      (c.nodes m).Evolves ((c.setNode n node).nodes m) := by
    intro node h
    by_cases hm : m = n
    · subst hm
      rw [Net.setNode_self]
      exact h
    · rw [Net.setNode_of_ne hm]
      exact .refl _
  have hremove : (c.nodes m).Evolves
      ((({ c with leaving := c.leaving.erase (n, r) }.setNode n
      { c.nodes n with readers := (c.nodes n).readers.erase r }).closeRTCSession
        (d.handler ((c.nodes n).heap r.us).callID) n
          ((c.nodes n).heap r.us).originalConnID
        ((c.nodes n).heap r.us).originalConnID).removeSession n r.us
            how |>.nodes m) := by
    refine Node.Evolves.trans ?_ (Net.evolves_removeSession _ n r.us how m)
    rw [Net.closeRTCSession_nodes]
    exact hset _ (.readers _ fun r hr => List.mem_of_mem_erase hr)
  cases exit with
  | reconnected => exact hset _ (.handleLeave _ _)
  | rtcClosed => exact hset _ (.readers _ fun r hr => List.mem_of_mem_erase hr)
  | left => exact hremove
  | timeout => exact hremove

/-- The callback of an RTC session, here or from RTCD, closes a channel and removes. -/
theorem Net.evolves_close {c c' : Net N} (hc : c'.nodes = c.nodes) (n : N) (us : Nat)
    (how : Removal) (m : N) :
    (c.nodes m).Evolves (((c'.setNode n ((c.nodes n).set us
      { (c.nodes n).heap us with rtcClosed := true })).removeSession n us how).nodes
            m) := by
  rw [← hc]
  clear hc
  refine Node.Evolves.trans ?_ (Net.evolves_removeSession _ n us how m)
  by_cases hm : m = n
  · subst hm
    rw [Net.setNode_self]
    exact .set _ us rfl rfl rfl rfl rfl (fun _ => rfl) fun _ => rfl
  · rw [Net.setNode_of_ne hm]
    exact .refl _

/-- **What a step does to a node.** -/
theorem Net.nodes_step (d : Deployment N) (c : Net N) (a : Action N) (m : N) :
    (c.nodes m).Follows ((c.step d a).nodes m) (Stores a m) := by
  cases a with
  | queueJoin n channelID => exact .refl _ _
  | refuseJoin n channelID queued => simp only [Net.step]; split <;> exact .refl _ _
  | join n userID connID channelID callID queued ok =>
      exact c.follows_addSessionToCall n userID connID channelID callID queued ok m
  | reconnect n e r told =>
      have hstep : (c.step d (.reconnect n e r told)).nodes m =
          (c.setNode n (if (handleReconnect e r (c.nodes n)).1.toBool ∧
            told = false then
            { (handleReconnect e r (c.nodes n)).2 with readers := (c.nodes n).readers }
            else (handleReconnect e r (c.nodes n)).2)).nodes m := by
        simp only [Net.step]
        rcases handleReconnect e r (c.nodes n) with ⟨err | msg, node⟩
        · rfl
        · cases told <;> rfl
      rw [hstep]
      refine Net.follows_setNode rfl ?_ m
      have h : (c.nodes n).Follows (handleReconnect e r (c.nodes n)).2
          (Stores (.reconnect n e r told) n) :=
        (c.nodes n).follows_handleReconnect fun st hcall rtc =>
          .reconnect n told hcall rtc
      split
      · exact h.unread
      · exact h
  | handleEvent n msg iter => exact Net.follows_handleEvent (by rfl) n msg iter m
  | disconnect n connID =>
      exact Net.follows_setNode rfl (.inl (.adjust _ _ fun s => by simp)) m
  | leave n connID =>
      exact Net.follows_setNode rfl (.inl (.adjust _ _ fun s => by simp)) m
  | message n r =>
      simp only [Net.step, Net.relay]
      split
      · exact .refl _ _
      · split <;> exact .refl _ _
  | stopReading n r => exact .refl _ _
  | revoke n r =>
      simp only [Net.step, Net.closeRTCSession_nodes]
      exact .refl _ _
  | handleLeave n r exit how => exact .inl (c.evolves_handleLeave n r exit how m)
  | startSession n us ok =>
      simp only [Net.step]
      split <;> exact .refl _ _
  | endSession n us => exact .refl _ _
  | rtcClosed s how =>
      simp only [Net.step, Net.rtcCallback]
      split
      · exact .inl (Net.evolves_close (by rfl) s.node s.us how m)
      · exact Net.follows_setNode (by rfl) (.inl (.closeRTC (c.nodes s.node) s.us)) m
  | rtcdClosed n sessionID iter how =>
      simp only [Net.step, Net.rtcdCallback]
      split
      · exact .refl _ _
      · split
        · exact .refl _ _
        · exact .inl (Net.evolves_close (by rfl) n _ how m)
  | remove n us how ok =>
      simp only [Net.step]
      split
      · exact .inl (Net.evolves_removeSessionFromCall (by rfl) n us m)
      · exact .refl _ _
  | putOut n sessionID callID =>
      simp only [Net.step, Net.closeRTCSession_nodes]
      exact .refl _ _

theorem Node.Apart.follows {n n' : Node} {stores : String → Session → Prop}
    (h : n.Apart) (hf : n.Follows n' stores) : n'.Apart := by
  have hevolves : ∀ {n₁}, n.Evolves n₁ → n₁.Apart := fun he =>
    ⟨fun x hx => he.next ▸ h.slots x (he.slots x hx),
      fun r hr => he.next ▸ h.routines r (he.routines r hr),
      fun x hx y hy => h.apart x (he.slots x hx) y (he.slots y hy)⟩
  rcases hf with he | ⟨n₁, k, s, l, h₁, -, hl, rfl⟩
  · exact hevolves he
  · have hn₁ := hevolves h₁
    have hmem : ∀ x ∈ (n₁.insertSession k s).sessions, x ∈ n₁.sessions ∨
        x = ⟨k, n₁.next⟩ :=
      fun x hx => (Table.mem_put.1 hx).imp_left And.left
    refine ⟨fun x hx => ?_, fun r hr => ?_, fun x hx y hy hxy => ?_⟩
    · rcases hmem x hx with hx | rfl
      · exact Nat.lt_succ_of_lt (hn₁.slots x hx)
      · exact Nat.lt_succ_self _
    · rcases hl r hr with hr | rfl
      · exact Nat.lt_succ_of_lt (h₁.next ▸ h.routines r hr)
      · exact Nat.lt_succ_self _
    · rcases hmem x hx with hx | rfl <;> rcases hmem y hy with hy | rfl
      · exact hn₁.apart x hx y hy hxy
      · exact absurd hxy (hn₁.slots x hx).ne
      · exact absurd hxy (hn₁.slots y hy).ne'
      · rfl

/-- On every node the slots point to different sessions. -/
def Net.Apart (c : Net N) : Prop := ∀ n, (c.nodes n).Apart

/-- So it is in every run. -/
theorem Net.apart_of_runs {ok : Net N → Action N → Prop} {c : Net N}
    (hr : (Net.machine d).Runs ok .empty c) : c.Apart := by
  refine hr.inv (fun n => ⟨fun x hx => ?_, fun r hr => ?_, fun x hx => ?_⟩)
    fun c a _ _ h n => (h n).follows (Net.nodes_step d c a n)
  · cases hx
  · cases hr
  · cases hx

/-- The messages an action sends. -/
inductive Sends (d : Deployment N) (c : Net N) : Action N → N → ClusterMessage → Prop
  | join {n h : N} {userID connID channelID callID : String} {queued : Bool}
      (hh : d.handler callID = some h) (hne : h ≠ n) :
      Sends d c (.join n userID connID channelID callID queued true) h
        (.connect ⟨connID, userID, channelID, callID⟩)
  | reconnect {n m : N} {e : ReconnectEnv} {r : ReconnectRequest} {told : Bool}
      {msg : ReconnectMessage} (hok : (handleReconnect e r (c.nodes n)).1 = .ok msg)
      (hne : m ≠ n) (hm : m ∈ d.peers) :
      Sends d c (.reconnect n e r told) m (.reconnect msg)
  | leave {n m : N} {connID : String} (hne : m ≠ n) :
      Sends d c (.leave n connID) m (.leave connID)
  | message {n h : N} {r : Reader}
      (hh : d.handler ((c.nodes n).heap r.us).callID = some h) (hne : h ≠ n) :
      Sends d c (.message n r) h (.signaling ((c.nodes n).heap r.us).originalConnID)
  | revoke {n h : N} {r : Reader}
      (hh : d.handler ((c.nodes n).heap r.us).callID = some h) :
      Sends d c (.revoke n r) h (.disconnect ((c.nodes n).heap r.us).connID)
  | handleLeave {n h : N} {r : Reader} {exit : LeaveExit} {how : Removal}
      (hexit : exit = .left ∨ exit = .timeout)
      (hh : d.handler ((c.nodes n).heap r.us).callID = some h) :
      Sends d c (.handleLeave n r exit how) h
        (.disconnect ((c.nodes n).heap r.us).originalConnID)
  | putOut {n h : N} {sessionID callID : String} (hh : d.handler callID = some h) :
      Sends d c (.putOut n sessionID callID) h (.disconnect sessionID)

omit [DecidableEq N] in
theorem Net.mem_send {c : Net N} {targets : List N} {msg : ClusterMessage}
    {x : N × ClusterMessage} :
    x ∈ (c.send targets msg).inFlight ↔ x ∈ c.inFlight ∨ x.1 ∈ targets ∧ x.2 = msg := by
  obtain ⟨m, msg'⟩ := x
  simp only [Net.send, List.mem_append, List.mem_map, Prod.mk.injEq]
  constructor
  · rintro (h | ⟨m', hm, rfl, rfl⟩)
    · exact .inl h
    · exact .inr ⟨hm, rfl⟩
  · rintro (h | ⟨hm, rfl⟩)
    · exact .inl h
    · exact .inr ⟨m, hm, rfl, rfl⟩

/-! ### The actions that send -/

section Sending

variable {c : Net N} {n : N} {x : N × ClusterMessage}

theorem Net.inFlight_join {userID connID channelID callID : String} {queued ok : Bool}
    (hx : x ∈ (c.step d (.join n userID connID channelID callID queued ok)).inFlight) :
    x ∈ c.inFlight ∨ Sends d c
      (.join n userID connID channelID callID queued ok) x.1 x.2 := by
  simp only [Net.step, Net.addSessionToCall] at hx
  split at hx
  next hok =>
    subst hok
    split at hx
    next => exact .inl hx
    next h hh =>
      split at hx
      next => exact .inl hx
      next hne =>
        rcases Net.mem_send.1 hx with hx | ⟨hm, hmsg⟩
        · exact .inl hx
        · obtain ⟨m, msg⟩ := x
          cases List.mem_singleton.1 hm
          cases hmsg
          exact .inr (.join hh hne)
  next => split_ifs at hx <;> exact .inl hx

theorem Net.inFlight_reconnect {e : ReconnectEnv} {r : ReconnectRequest} {told : Bool}
    (hx : x ∈ (c.step d (.reconnect n e r told)).inFlight) :
    x ∈ c.inFlight ∨ Sends d c (.reconnect n e r told) x.1 x.2 := by
  simp only [Net.step] at hx
  split at hx
  next => exact .inl hx
  next msg node hok =>
    rcases Net.mem_send.1 hx with hx | ⟨hm, hmsg⟩
    · exact .inl hx
    · obtain ⟨m, msg'⟩ := x
      cases hmsg
      obtain ⟨hm, hne⟩ := List.mem_filter.1 hm
      exact .inr (.reconnect (by rw [hok]) (of_decide_eq_true hne) hm)

/-- A node that handles a message of the cluster sends none. -/
theorem Net.inFlight_handleEvent {msg : ClusterMessage} {iter : List Slot → List Slot}
    (hx : x ∈ (c.step d (.handleEvent n msg iter)).inFlight) : x ∈ c.inFlight := by
  have hsub : x ∈ c.inFlight.erase (n, msg) := by
    cases msg with
    | connect msg =>
        simp only [Net.step, Net.handleEvent] at hx
        split at hx <;> exact hx
    | reconnect msg => exact hx
    | leave connID => exact hx
    | disconnect connID => exact hx
    | signaling connID =>
        simp only [Net.step, Net.handleEvent] at hx
        split at hx
        · exact hx
        · split at hx <;> exact hx
  exact List.mem_of_mem_erase hsub

theorem Net.inFlight_message {r : Reader}
    (hx : x ∈ (c.step d (.message n r)).inFlight) :
    x ∈ c.inFlight ∨ Sends d c (.message n r) x.1 x.2 := by
  simp only [Net.step, Net.relay] at hx
  split at hx
  next => exact .inl hx
  next h hh =>
    split at hx
    next => exact .inl hx
    next hne =>
      rcases Net.mem_send.1 hx with hx | ⟨hm, hmsg⟩
      · exact .inl hx
      · obtain ⟨m, msg⟩ := x
        cases List.mem_singleton.1 hm
        cases hmsg
        exact .inr (.message hh hne)

/-- A client that has left, or does not come back, is taken off the RTC server. -/
theorem Net.inFlight_handleLeave {r : Reader} {exit : LeaveExit} {how : Removal}
    (hx : x ∈ (c.step d (.handleLeave n r exit how)).inFlight) :
    x ∈ c.inFlight ∨ Sends d c (.handleLeave n r exit how) x.1 x.2 := by
  have hremove : exit = .left ∨ exit = .timeout →
      x ∈ ((({ c with leaving := c.leaving.erase (n, r) }.setNode n
        { c.nodes n with readers := (c.nodes n).readers.erase r }).closeRTCSession
          (d.handler ((c.nodes n).heap r.us).callID) n
            ((c.nodes n).heap r.us).originalConnID
          ((c.nodes n).heap r.us).originalConnID).removeSession n r.us how).inFlight →
      x ∈ c.inFlight ∨ Sends d c (.handleLeave n r exit how) x.1 x.2 := by
    intro hexit h
    rw [Net.removeSession_inFlight] at h
    rcases Net.mem_closeRTCSession_inFlight n h with h | ⟨hh, hmsg⟩
    · exact .inl h
    · exact .inr (hmsg ▸ .handleLeave hexit hh)
  cases exit with
  | reconnected => exact .inl hx
  | rtcClosed => exact .inl hx
  | left => exact hremove (.inl rfl) hx
  | timeout => exact hremove (.inr rfl) hx

end Sending

/-- **What a step sends.** -/
theorem Net.inFlight_step {c : Net N} {a : Action N} {x : N × ClusterMessage}
    (hx : x ∈ (c.step d a).inFlight) : x ∈ c.inFlight ∨ Sends d c a x.1 x.2 := by
  cases a with
  | queueJoin n channelID => exact .inl hx
  | refuseJoin n channelID queued =>
      simp only [Net.step] at hx
      split at hx <;> exact .inl hx
  | join n userID connID channelID callID queued ok => exact Net.inFlight_join hx
  | reconnect n e r told => exact Net.inFlight_reconnect hx
  | handleEvent n msg iter => exact .inl (Net.inFlight_handleEvent hx)
  | disconnect n connID => exact .inl hx
  | leave n connID =>
      rcases Net.mem_send.1 hx with hx | ⟨hm, hmsg⟩
      · exact .inl hx
      · obtain ⟨m, msg⟩ := x
        cases hmsg
        exact .inr (.leave (of_decide_eq_true (List.mem_filter.1 hm).2))
  | message n r => exact Net.inFlight_message hx
  | stopReading n r => exact .inl hx
  | revoke n r =>
      rcases Net.mem_closeRTCSession_inFlight n hx with hx | ⟨hh, hmsg⟩
      · exact .inl hx
      · exact .inr (hmsg ▸ .revoke hh)
  | handleLeave n r exit how => exact Net.inFlight_handleLeave hx
  | startSession n us ok =>
      simp only [Net.step] at hx
      split at hx <;> exact .inl hx
  | endSession n us => exact .inl hx
  | rtcClosed s how =>
      simp only [Net.step, Net.rtcCallback] at hx
      split at hx
      · rw [Net.removeSession_inFlight] at hx
        exact .inl hx
      · exact .inl hx
  | rtcdClosed n sessionID iter how =>
      simp only [Net.step, Net.rtcdCallback] at hx
      split at hx
      · exact .inl hx
      · split at hx
        · exact .inl hx
        · rw [Net.removeSession_inFlight] at hx
          exact .inl hx
  | remove n us how ok =>
      simp only [Net.step] at hx
      split at hx
      · rw [Net.removeSessionFromCall_inFlight] at hx
        exact .inl hx
      · exact .inl hx
  | putOut n sessionID callID =>
      rcases Net.mem_closeRTCSession_inFlight n hx with hx | ⟨hh, hmsg⟩
      · exact .inl hx
      · exact .inr (hmsg ▸ .putOut hh)

end Step

end CallsPlugin.Ports
