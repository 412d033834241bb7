import CallsPlugin.Ports.SessionTable

/-!
# The session ids of RTC sessions

An RTC session is opened under the connection id its participant joined with.  The
session in the node's map has that id as well as the current connection id, and it is
the current one that the routine of `startSession` uses and that `wsReader` uses when
the login session was revoked.  This module says when all that is asked of the RTC
servers names the id of the join, and when the RTC session of a participant who is gone
has been asked to close.
-/

namespace CallsPlugin.Ports

open CallsPlugin.Verified

section Cluster

variable {N : Type} [DecidableEq N] {d : Deployment N} {c c' : Net N} {m n : N}
  {id : String}

/-! ## What has been asked to close -/

/-- What is open of the RTC session on the node, or will be, is served by a routine that
has been told to close it. -/
structure Net.Covers (c : Net N) (m : N) (id : String) (told : Nat → Prop) : Prop where
  connects : ∀ msg, (m, .connect msg) ∈ c.inFlight → msg.connID ≠ id
  spawned : ∀ us, (m, us) ∈ c.spawned →
    ((c.nodes m).heap us).originalConnID = id → told us
  serving : rtcOpen m id c.record = true →
    ∃ us, (m, us) ∈ c.serving ∧ ((c.nodes m).heap us).originalConnID = id ∧ told us

/-- The routine's channel was closed. -/
def Net.Told (c : Net N) (m : N) (us : Nat) : Prop :=
  ((c.nodes m).heap us).rtcClosed = true

/-- The node has been asked to close the RTC session, or will be by a message. -/
def Net.Asked (c : Net N) (m : N) (id : String) : Prop :=
  (m, .disconnect id) ∈ c.inFlight ∨ c.Covers m id (c.Told m)

/-- The RTC session is on the node that handles the call, where it was opened directly
if that is the node `n`; elsewhere it has been asked to close already. -/
def Net.Placed (d : Deployment N) (c : Net N) (n : N) (callID id : String) : Prop :=
  ∀ m, (d.handler callID = some m → m = n →
      (∀ msg, (m, .connect msg) ∈ c.inFlight → msg.connID ≠ id) ∧
        ∀ us, (m, us) ∈ c.spawned → ((c.nodes m).heap us).originalConnID = id →
          c.Told m us) ∧
    (d.handler callID ≠ some m → c.Asked m id)

/-- The session has the connection id it joined with. -/
def Session.Original (s : Session) : Prop := s.connID = s.originalConnID

/-- What keeps the ids together:
* `startSession` starts and returns, and `wsReader` finds the login session revoked,
    while the session has the connection id it joined with;
* a message is relayed to the session that joined with the id it names;
* a message to close finds the session that is served, or another such message follows;
* what is closed is where the call is handled. -/
def Net.Named (d : Deployment N) (c : Net N) : Action N → Prop
  | .startSession n us _ => ((c.nodes n).heap us).Original
  | .endSession n us => ((c.nodes n).heap us).Original
  | .handleEvent n (.signaling connID) iter =>
      ∀ us, (c.nodes n).getSessionByOriginalID iter connID = some us →
        us.originalConnID = connID
  | .handleEvent n (.disconnect connID) _ =>
      connID ∈ c.ending →
        (n, .disconnect connID) ∈ c.inFlight.erase (n, .disconnect connID) ∨
          c.Covers n connID fun us =>
            c.Told n us ∨ ((c.nodes n).sessions.find? connID).map Slot.us = some us
  | .revoke n r =>
      ((c.nodes n).heap r.us).Original ∧
        c.Placed d n ((c.nodes n).heap r.us).callID
          ((c.nodes n).heap r.us).originalConnID
  | .handleLeave n r exit _ =>
      exit = .left ∨ exit = .timeout →
        c.Placed d n ((c.nodes n).heap r.us).callID
          ((c.nodes n).heap r.us).originalConnID
  | .putOut n sessionID callID => c.Placed d n callID sessionID
  | _ => True

/-! ## The record of an RTC server -/

section Record

variable {kind : RtcKind} {sessionID originalConnID : String}

/-- Only opening a session opens it. -/
theorem Net.rtcOpen_note (hk : kind ≠ .initSession)
    (h : rtcOpen m id (c.note n kind sessionID originalConnID).record = true) :
    rtcOpen m id c.record = true := by
  simp only [Net.note, rtcOpen] at h
  split at h
  · cases kind with
    | initSession => exact absurd rfl hk
    | closeSession => cases h
    | closed => cases h
    | initFailed => exact h
    | message => exact h
    | disconnect => exact h
  · exact h

theorem Net.rtcOpen_init (hne : n = m → sessionID ≠ id) :
    rtcOpen m id (c.note n .initSession sessionID originalConnID).record =
    rtcOpen m id c.record := by
  simp only [Net.note, rtcOpen]
  exact if_neg fun h => hne h.1 h.2

theorem Net.rtcOpen_closeSession :
    rtcOpen n sessionID (c.note n .closeSession sessionID originalConnID).record =
    false := by
  simp only [Net.note, rtcOpen, and_self, if_true]

end Record

/-! ## Steps that start nothing -/

/-- No message to close the RTC session is lost, and nothing of it is started. -/
structure Net.Extends (c c' : Net N) (m : N) (id : String) : Prop where
  sends : (m, .disconnect id) ∈ c.inFlight → (m, .disconnect id) ∈ c'.inFlight
  connects : ∀ msg, (m, .connect msg) ∈ c'.inFlight → msg.connID = id →
    (m, .connect msg) ∈ c.inFlight
  spawned : ∀ us, (m, us) ∈ c'.spawned → (m, us) ∈ c.spawned
  serving : ∀ us, (m, us) ∈ c.serving → (m, us) ∈ c'.serving
  record : rtcOpen m id c'.record = true → rtcOpen m id c.record = true

/-- The sessions keep the id they joined with, and stay told. -/
def Net.Keeps (c c' : Net N) (m : N) : Prop :=
  ∀ us, us < (c.nodes m).next →
    ((c'.nodes m).heap us).originalConnID = ((c.nodes m).heap us).originalConnID ∧
      (c.Told m us → c'.Told m us)

theorem Net.Extends.refl (c : Net N) (m : N) (id : String) : c.Extends c m id :=
  ⟨fun h => h, fun _ h _ => h, fun _ h => h, fun _ h => h, fun h => h⟩

theorem Net.Extends.trans {c'' : Net N} (h : c.Extends c' m id)
    (h' : c'.Extends c'' m id) :
    c.Extends c'' m id where
  sends hx := h'.sends (h.sends hx)
  connects msg hmsg hid := h.connects msg (h'.connects msg hmsg hid) hid
  spawned us hus := h.spawned us (h'.spawned us hus)
  serving us hus := h'.serving us (h.serving us hus)
  record ho := h.record (h'.record ho)

/-- What else changes is of no account. -/
theorem Net.Extends.same (h : c.Extends c' m id) {c'' : Net N}
    (hf : c''.inFlight = c'.inFlight)
    (hs : c''.spawned = c'.spawned) (hv : c''.serving = c'.serving)
    (hr : c''.record = c'.record) : c.Extends c'' m id where
  sends hx := hf ▸ h.sends hx
  connects msg hmsg hid := h.connects msg (hf ▸ hmsg) hid
  spawned us hus := h.spawned us (hs ▸ hus)
  serving us hus := hv ▸ h.serving us hus
  record ho := h.record (hr ▸ ho)

theorem Net.Extends.note (h : c.Extends c' m id) (kind : RtcKind)
    (hk : kind ≠ .initSession) (n : N) (sessionID originalConnID : String) :
    c.Extends (c'.note n kind sessionID originalConnID) m id where
  sends := h.sends
  connects := h.connects
  spawned := h.spawned
  serving := h.serving
  record ho := h.record (Net.rtcOpen_note hk ho)

theorem Net.Extends.send (h : c.Extends c' m id) (targets : List N)
    (msg : ClusterMessage) (hmsg : ∀ msg', msg = .connect msg' → msg'.connID ≠ id) :
    c.Extends (c'.send targets msg) m id where
  sends hx := Net.mem_send.2 (.inl (h.sends hx))
  connects msg' hm hid := by
    rcases Net.mem_send.1 hm with hm | ⟨-, rfl⟩
    · exact h.connects msg' hm hid
    · exact absurd hid (hmsg msg' rfl)
  spawned := h.spawned
  serving := h.serving
  record := h.record

theorem Net.Extends.closeRTCSession (h : c.Extends c' m id) (handler : Option N) (n : N)
    (connID originalConnID : String) :
    c.Extends (c'.closeRTCSession handler n connID originalConnID) m id := by
  have hend : c.Extends { c' with ending := originalConnID :: c'.ending } m id :=
    h.same rfl rfl rfl rfl
  unfold Net.closeRTCSession
  cases handler with
  | none => exact hend
  | some k =>
      dsimp only
      split
      · exact hend.note .closeSession (by decide) _ _ _
      · exact (hend.send [k] (.disconnect connID) fun msg' hmsg => nomatch hmsg).note
          .disconnect (by decide) _ _ _

theorem Net.Extends.removeSession (h : c.Extends c' m id) (n : N) (us : Nat)
    (how : Removal) :
    c.Extends (c'.removeSession n us how) m id := by
  rw [Net.removeSession_eq]
  exact h.same rfl rfl rfl rfl

theorem Net.Extends.removeSessionFromCall (h : c.Extends c' m id) (n : N) (us : Nat) :
    c.Extends (c'.removeSessionFromCall n us) m id := by
  rw [Net.removeSessionFromCall_eq]
  exact h.same rfl rfl rfl rfl

/-- A step keeps the ids of the sessions, and those that were told. -/
theorem Net.keeps_step (d : Deployment N) (c : Net N) (a : Action N) (m : N) :
    c.Keeps (c.step d a) m := by
  intro us hus
  rcases Net.nodes_step d c a m with he | ⟨n₁, k, s, l, h₁, -, -, hn⟩
  · exact ⟨he.originalConnID us, he.rtcClosed us⟩
  · have hold : ((c.step d a).nodes m).heap us = n₁.heap us := by
      rw [hn]
      exact Function.update_of_ne (h₁.next ▸ hus.ne) ..
    unfold Net.Told
    rw [hold]
    exact ⟨h₁.originalConnID us, h₁.rtcClosed us⟩

theorem Net.Asked.extends (h : c.Asked m id) (hb : c.Bounded) (hext : c.Extends c' m id)
    (hkeep : c.Keeps c' m) : c'.Asked m id := by
  refine h.imp hext.sends fun hc =>
    ⟨fun msg hmsg hid => ?_, fun us hus ho => ?_, fun hopen => ?_⟩
  · exact hc.connects msg (hext.connects msg hmsg hid) hid
  · have hus := hext.spawned us hus
    obtain ⟨horig, htold⟩ := hkeep us (hb _ (Net.mem_pointers.2 (.inr (.inl hus))))
    exact htold (hc.spawned us hus (horig ▸ ho))
  · obtain ⟨us, hus, ho, ht⟩ := hc.serving (hext.record hopen)
    obtain ⟨horig, htold⟩ :=
      hkeep us (hb _ (Net.mem_pointers.2 (.inr (.inr (.inl hus)))))
    exact ⟨us, hext.serving us hus, horig.trans ho, htold ht⟩

/-- **Closing an RTC session** that is where its call is handled. -/
theorem Net.asked_closeRTCSession {c₀ : Net N} {callID : String} (hb : c.Bounded)
    (hp : c.Placed d n callID id) (hext₀ : c.Extends c₀ m id)
    (hext : (c₀.closeRTCSession (d.handler callID) n id id).Extends c' m id)
    (hkeep : c.Keeps c' m) : c'.Asked m id := by
  obtain ⟨hhere, helse⟩ := hp m
  by_cases hh : d.handler callID = some m
  · rw [hh] at hext
    simp only [Net.closeRTCSession] at hext
    by_cases hm : m = n
    · rw [if_pos hm] at hext
      obtain ⟨hconn, hspawned⟩ := hhere hh hm
      refine .inr ⟨fun msg hmsg hid => ?_, fun us hus ho => ?_, fun hopen => ?_⟩
      · exact hconn msg (hext₀.connects msg (hext.connects msg hmsg hid) hid) hid
      · have hus := hext₀.spawned us (hext.spawned us hus)
        obtain ⟨horig, htold⟩ := hkeep us (hb _ (Net.mem_pointers.2 (.inr (.inl hus))))
        exact htold (hspawned us hus (horig ▸ ho))
      · have hno := hext.record hopen
        rw [Net.rtcOpen_closeSession] at hno
        cases hno
    · rw [if_neg hm] at hext
      exact .inl (hext.sends (Net.mem_send.2 (.inr ⟨List.mem_singleton.2 rfl, rfl⟩)))
  · exact (helse hh).extends hb ((hext₀.closeRTCSession _ _ _ _).trans hext) hkeep

/-! ## Messages of other nodes -/

/-- A message other than to close. -/
theorem Net.Asked.handleEvent (h : c.Asked m id) (hb : c.Bounded) {msg : ClusterMessage}
    {iter : List Slot → List Slot} (hen : c.Enabled d (.handleEvent n msg iter))
    (hmsg : (n, msg) ≠ (m, .disconnect id)) :
    (c.step d (.handleEvent n msg iter)).Asked m id := by
  have hkeep := Net.keeps_step d c (.handleEvent n msg iter) m
  have herase : c.Extends { c with inFlight := c.inFlight.erase (n, msg) } m id :=
    ⟨fun hx => (List.mem_erase_of_ne hmsg.symm).2 hx,
      fun _ hx _ => List.mem_of_mem_erase hx,
      fun _ hx => hx, fun _ hx => hx, fun ho => ho⟩
  cases msg with
  | connect msg =>
      revert hkeep
      simp only [Net.step, Net.handleEvent]
      cases hf : (c.nodes n).sessions.find? msg.connID with
      | some slot =>
          simp only [handleConnectEvent, hf]
          intro hkeep
          exact h.extends hb herase hkeep
      | none =>
          simp only [handleConnectEvent, hf]
          intro hkeep
          refine h.imp herase.sends fun hc =>
            ⟨fun msg' hmsg' => ?_, fun us hus ho => ?_, fun hopen => ?_⟩
          · exact hc.connects msg' (List.mem_of_mem_erase hmsg')
          · rcases List.mem_cons.1 hus with he | hus
            · cases he
              have hnew :
                  ((c.setNode m ((c.nodes m).insertSession msg.connID (newUserSession
                  msg.userID msg.channelID msg.connID msg.callID true))).nodes m).heap
                    (c.nodes m).next =
                  newUserSession msg.userID msg.channelID msg.connID
                    msg.callID true := by
                rw [Net.setNode_self]
                exact Function.update_self ..
              have ho :
                  ((c.setNode m ((c.nodes m).insertSession msg.connID (newUserSession
                  msg.userID msg.channelID msg.connID msg.callID true))).nodes m |>.heap
                    (c.nodes m).next).originalConnID = id := ho
              rw [hnew] at ho
              exact absurd ho (hc.connects msg hen.1)
            · obtain ⟨horig, htold⟩ :=
                hkeep us (hb _ (Net.mem_pointers.2 (.inr (.inl hus))))
              exact htold (hc.spawned us hus (horig ▸ ho))
          · obtain ⟨us, hus, ho, ht⟩ := hc.serving hopen
            obtain ⟨horig, htold⟩ :=
              hkeep us (hb _ (Net.mem_pointers.2 (.inr (.inr (.inl hus)))))
            exact ⟨us, hus, horig.trans ho, htold ht⟩
  | reconnect msg => exact h.extends hb (herase.same rfl rfl rfl rfl) hkeep
  | leave connID => exact h.extends hb (herase.same rfl rfl rfl rfl) hkeep
  | disconnect connID => exact h.extends hb (herase.same rfl rfl rfl rfl) hkeep
  | signaling connID =>
      refine h.extends hb ?_ hkeep
      simp only [Net.step, Net.handleEvent]
      split
      · exact herase
      · split
        · exact herase
        · exact herase.note .message (by decide) _ _ _

/-- **A message to close** that finds the session it is for. -/
theorem Net.asked_handleDisconnect (hb : c.Bounded) {iter : List Slot → List Slot}
    (hok : (n, .disconnect id) ∈ c.inFlight.erase (n, .disconnect id) ∨
      c.Covers n id fun us => c.Told n us ∨
        ((c.nodes n).sessions.find? id).map Slot.us = some us) :
    (c.step d (.handleEvent n (.disconnect id) iter)).Asked n id := by
  have hkeep := Net.keeps_step d c (.handleEvent n (.disconnect id) iter) n
  refine hok.imp (fun hx => hx) fun hc => ?_
  -- what is found is told
  have htell : ∀ us, us < (c.nodes n).next →
      c.Told n us ∨ ((c.nodes n).sessions.find? id).map Slot.us = some us →
      (c.step d (.handleEvent n (.disconnect id) iter)).Told n us := by
    rintro us hlt (ht | hfound)
    · exact (hkeep us hlt).2 ht
    · obtain ⟨slot, hslot, rfl⟩ := Option.map_eq_some_iff.1 hfound
      have hnode : (c.step d (.handleEvent n (.disconnect id) iter)).nodes n =
          (c.nodes n).handleDisconnectEvent id := Function.update_self ..
      unfold Net.Told
      rw [hnode]
      simp only [Node.handleDisconnectEvent, Node.adjust, hslot, Node.set,
        Function.update_self]
  refine ⟨fun msg hmsg => ?_, fun us hus ho => ?_, fun hopen => ?_⟩
  · exact hc.connects msg (List.mem_of_mem_erase hmsg)
  · have hlt := hb _ (Net.mem_pointers.2 (.inr (.inl hus)))
    exact htell us hlt (hc.spawned us hus ((hkeep us hlt).1 ▸ ho))
  · obtain ⟨us, hus, ho, ht⟩ := hc.serving hopen
    have hlt := hb _ (Net.mem_pointers.2 (.inr (.inr (.inl hus))))
    exact ⟨us, hus, (hkeep us hlt).1.trans ho, htell us hlt ht⟩

/-! ## Every step -/

theorem Net.Asked.startSession (h : c.Asked m id) (hb : c.Bounded) {us : Nat}
    {ok : Bool} (hen : c.Enabled d (.startSession n us ok))
    (hok : c.Named d (.startSession n us ok)) :
    (c.step d (.startSession n us ok)).Asked m id := by
  have hkeep := Net.keeps_step d c (.startSession n us ok) m
  have hok : ((c.nodes n).heap us).connID = ((c.nodes n).heap us).originalConnID := hok
  have herase : c.Extends { c with spawned := c.spawned.erase (n, us) } m id :=
    ⟨fun hx => hx, fun _ hx _ => hx, fun _ hx => List.mem_of_mem_erase hx,
      fun _ hx => hx, fun ho => ho⟩
  cases ok with
  | false => exact h.extends hb (herase.note .initFailed (by decide) _ _ _) hkeep
  | true =>
      refine h.imp (fun hx => hx) fun hc =>
        ⟨hc.connects, fun us' hus ho => ?_, fun hopen => ?_⟩
      · have hus := List.mem_of_mem_erase hus
        obtain ⟨horig, htold⟩ := hkeep us' (hb _ (Net.mem_pointers.2 (.inr (.inl hus))))
        exact htold (hc.spawned us' hus (horig ▸ ho))
      · by_cases hmine : n = m ∧ ((c.nodes n).heap us).originalConnID = id
        · obtain ⟨rfl, ho⟩ := hmine
          have hlt := hb _ (Net.mem_pointers.2 (.inr (.inl hen)))
          obtain ⟨horig, htold⟩ := hkeep us hlt
          exact ⟨us, List.mem_cons_self .., horig.trans ho,
            htold (hc.spawned us hen ho)⟩
        · have hold : rtcOpen m id c.record = true := by
            have hne : n = m → ((c.nodes n).heap us).connID ≠ id := by
              intro hm he
              exact hmine ⟨hm, hok ▸ he⟩
            exact (Net.rtcOpen_init (c := c) hne).symm.trans hopen
          obtain ⟨us', hus, ho, ht⟩ := hc.serving hold
          obtain ⟨horig, htold⟩ :=
            hkeep us' (hb _ (Net.mem_pointers.2 (.inr (.inr (.inl hus)))))
          exact ⟨us', List.mem_cons_of_mem _ hus, horig.trans ho, htold ht⟩

theorem Net.Asked.endSession (h : c.Asked m id) (hb : c.Bounded) {us : Nat}
    (hok : c.Named d (.endSession n us)) :
    (c.step d (.endSession n us)).Asked m id := by
  have hkeep := Net.keeps_step d c (.endSession n us) m
  have hok : ((c.nodes n).heap us).connID = ((c.nodes n).heap us).originalConnID := hok
  refine h.imp (fun hx => hx) fun hc =>
    ⟨hc.connects, fun us' hus ho => ?_, fun hopen => ?_⟩
  · obtain ⟨horig, htold⟩ := hkeep us' (hb _ (Net.mem_pointers.2 (.inr (.inl hus))))
    exact htold (hc.spawned us' hus (horig ▸ ho))
  · have hold : rtcOpen m id c.record = true :=
      Net.rtcOpen_note (c := c) (by decide) hopen
    obtain ⟨us', hus, ho, ht⟩ := hc.serving hold
    obtain ⟨horig, htold⟩ :=
      hkeep us' (hb _ (Net.mem_pointers.2 (.inr (.inr (.inl hus)))))
    refine ⟨us', (List.mem_erase_of_ne ?_).2 hus, horig.trans ho, htold ht⟩
    -- otherwise the session has just been closed
    intro he
    cases he
    have hno : rtcOpen m id (c.note m .closeSession id id).record = false :=
      Net.rtcOpen_closeSession
    have hopen : rtcOpen m id (c.note m .closeSession ((c.nodes m).heap us).connID
      ((c.nodes m).heap us).originalConnID).record = true := hopen
    rw [hok, ho, hno] at hopen
    cases hopen

/-- A join, whose participant is not gone. -/
theorem Net.Extends.addSessionToCall {userID connID channelID callID : String}
    {queued ok : Bool} (hne : id ≠ connID) :
    c.Extends (c.addSessionToCall d n userID connID channelID callID queued ok) m
      id := by
  have hinit : c.Extends (c.note n .initSession connID connID) m id :=
    ⟨fun hx => hx, fun _ hx _ => hx, fun _ hx => hx, fun _ hx => hx, fun ho => by
      rwa [Net.rtcOpen_init fun _ => hne.symm] at ho⟩
  have hfailed : c.Extends (c.note n .initFailed connID connID) m id :=
    (Net.Extends.refl c m id).note .initFailed (by decide) _ _ _
  have hsend : ∀ h, c.Extends
      (c.send [h] (.connect ⟨connID, userID, channelID, callID⟩)) m id := by
    intro h
    refine (Net.Extends.refl c m id).send _ _ fun msg' hmsg => ?_
    cases hmsg
    exact hne.symm
  unfold Net.addSessionToCall
  dsimp only
  split
  · split
    · exact (Net.Extends.refl c m id).same rfl rfl rfl rfl
    next h _ =>
      split
      · exact hinit.same rfl rfl rfl rfl
      · exact (hsend h).same rfl rfl rfl rfl
  · by_cases hh : d.handler callID = some n
    · simp only [if_pos hh]
      exact hfailed.same rfl rfl rfl rfl
    · simp only [if_neg hh]
      exact (Net.Extends.refl c m id).same rfl rfl rfl rfl

/-- Who is gone after a join. -/
theorem Net.addSessionToCall_ending (c : Net N) (n : N)
    (userID connID channelID callID : String) (queued ok : Bool) :
    (c.addSessionToCall d n userID connID channelID callID queued ok).ending =
      c.ending.filter (· ≠ connID) := by
  unfold Net.addSessionToCall
  dsimp only
  split
  · split
    · rfl
    · split <;> rfl
  · split_ifs <;> rfl

/-- What a routine that ends asks. -/
theorem Net.asked_handleLeave (hb : c.Bounded) (h : ∀ id ∈ c.ending, ∀ m, c.Asked m id)
    {r : Reader} {exit : LeaveExit} {how : Removal}
    (hok : c.Named d (.handleLeave n r exit how)) :
    ∀ id ∈ (c.step d (.handleLeave n r exit how)).ending, ∀ m,
      (c.step d (.handleLeave n r exit how)).Asked m id := by
  intro id hid m
  have hkeep := Net.keeps_step d c (.handleLeave n r exit how) m
  have hbase : ∀ id, c.Extends ({ c with leaving := c.leaving.erase (n, r) }.setNode n
      { c.nodes n with readers := (c.nodes n).readers.erase r }) m id := fun id =>
    (Net.Extends.refl c m id).same rfl rfl rfl rfl
  have hgone : exit = .left ∨ exit = .timeout →
      c.step d (.handleLeave n r exit how) =
        ((({ c with leaving := c.leaving.erase (n, r) }.setNode n
        { c.nodes n with readers := (c.nodes n).readers.erase r }).closeRTCSession
          (d.handler ((c.nodes n).heap r.us).callID) n
            ((c.nodes n).heap r.us).originalConnID
          ((c.nodes n).heap r.us).originalConnID).removeSession n r.us how) := by
    rintro (rfl | rfl) <;> rfl
  have hremove : exit = .left ∨ exit = .timeout →
      (c.step d (.handleLeave n r exit how)).Asked m id := by
    intro hexit
    have hstep := hgone hexit
    rw [hstep] at hid hkeep ⊢
    by_cases hmine : id = ((c.nodes n).heap r.us).originalConnID
    · subst hmine
      exact Net.asked_closeRTCSession hb (hok hexit) (hbase _)
        (.removeSession (.refl _ _ _) _ _ _) hkeep
    · rw [Net.removeSession_eq, Net.closeRTCSession_eq] at hid
      have hid : id ∈ c.ending := (List.mem_cons.1 hid).resolve_left hmine
      exact (h id hid m).extends hb
        (((hbase id).closeRTCSession _ _ _ _).removeSession _ _ _) hkeep
  cases exit with
  | reconnected =>
      exact (h id hid m).extends hb
        ((Net.Extends.refl c m id).same rfl rfl rfl rfl) hkeep
  | rtcClosed =>
      exact (h id hid m).extends hb
        ((Net.Extends.refl c m id).same rfl rfl rfl rfl) hkeep
  | left => exact hremove (.inl rfl)
  | timeout => exact hremove (.inr rfl)

/-- With the action nobody goes, and what the RTC servers were asked stays asked. -/
def Net.Spares (d : Deployment N) (c : Net N) (a : Action N) : Prop :=
  (c.step d a).ending = c.ending ∧ ∀ m id, c.Extends (c.step d a) m id

theorem Net.spares_refuseJoin {channelID : String} {queued : Bool} :
    c.Spares d (.refuseJoin n channelID queued) := by
  cases queued with
  | true => exact ⟨rfl, fun m id => (Net.Extends.refl c m id).same rfl rfl rfl rfl⟩
  | false => exact ⟨rfl, fun m id => .refl c m id⟩

theorem Net.spares_reconnect {e : ReconnectEnv} {r : ReconnectRequest} {told : Bool} :
    c.Spares d (.reconnect n e r told) := by
  simp only [Net.Spares, Net.step]
  split
  · exact ⟨rfl, fun m id => (Net.Extends.refl c m id).same rfl rfl rfl rfl⟩
  next msg node _ =>
    refine ⟨rfl, fun m id => ?_⟩
    have hsent : c.Extends (c.send (d.peers.filter (· ≠ n)) (.reconnect msg)) m id :=
      (Net.Extends.refl c m id).send _ _ fun msg' hmsg => by cases hmsg
    exact hsent.same rfl rfl rfl rfl

theorem Net.spares_leave {connID : String} : c.Spares d (.leave n connID) := by
  refine ⟨rfl, fun m id => ?_⟩
  have hsent : c.Extends (c.send (d.peers.filter (· ≠ n)) (.leave connID)) m id :=
    (Net.Extends.refl c m id).send _ _ fun msg' hmsg => by cases hmsg
  exact hsent.same rfl rfl rfl rfl

theorem Net.spares_message {r : Reader} : c.Spares d (.message n r) := by
  simp only [Net.Spares, Net.step, Net.relay]
  split
  · exact ⟨rfl, fun m id => .refl c m id⟩
  · split
    · exact ⟨rfl, fun m id => (Net.Extends.refl c m id).note .message (by decide) _ _ _⟩
    · exact ⟨rfl, fun m id => (Net.Extends.refl c m id).send _ _
        fun msg' hmsg => by cases hmsg⟩

theorem Net.spares_rtcClosed {o : RtcSession N} {how : Removal} :
    c.Spares d (.rtcClosed o how) := by
  have hnote : ∀ m id,
      c.Extends ({ c with opened := c.opened.erase o }.note o.node .closed
      o.sessionID ((c.nodes o.node).heap o.us).originalConnID) m id := by
    intro m id
    refine Net.Extends.note ?_ .closed (by decide) _ _ _
    exact (Net.Extends.refl c m id).same rfl rfl rfl rfl
  simp only [Net.Spares, Net.step, Net.rtcCallback]
  split
  · refine ⟨by rw [Net.removeSession_eq]; rfl,
      fun m id => Net.Extends.removeSession ?_ _ _ _⟩
    exact (hnote m id).same rfl rfl rfl rfl
  · exact ⟨rfl, fun m id => (hnote m id).same rfl rfl rfl rfl⟩

theorem Net.spares_rtcdClosed {sessionID : String} {iter : List Slot → List Slot}
    {how : Removal} : c.Spares d (.rtcdClosed n sessionID iter how) := by
  simp only [Net.Spares, Net.step, Net.rtcdCallback]
  split
  · exact ⟨rfl, fun m id => .refl c m id⟩
  · split
    · exact ⟨rfl, fun m id => .refl c m id⟩
    · refine ⟨by rw [Net.removeSession_eq]; rfl,
        fun m id => Net.Extends.removeSession ?_ _ _ _⟩
      exact (Net.Extends.refl c m id).same rfl rfl rfl rfl

theorem Net.spares_remove {us : Nat} {how : Removal} {ok : Bool} :
    c.Spares d (.remove n us how ok) := by
  simp only [Net.Spares, Net.step]
  split
  · refine ⟨by rw [Net.removeSessionFromCall_eq],
      fun m id => Net.Extends.removeSessionFromCall ?_ _ _⟩
    exact (Net.Extends.refl c m id).same rfl rfl rfl rfl
  · exact ⟨rfl, fun m id => (Net.Extends.refl c m id).same rfl rfl rfl rfl⟩

theorem Net.asked_of_spares (hb : c.Bounded) (h : ∀ id ∈ c.ending, ∀ m, c.Asked m id)
    {a : Action N} (hs : c.Spares d a) : ∀ id ∈ (c.step d a).ending, ∀ m,
      (c.step d a).Asked m id :=
  fun id hid m => (h id (hs.1 ▸ hid) m).extends hb (hs.2 m id) (Net.keeps_step d c a m)

/-- Who joins is not gone. -/
theorem Net.asked_join (hb : c.Bounded) (h : ∀ id ∈ c.ending, ∀ m, c.Asked m id)
    {userID connID channelID callID : String} {queued ok : Bool} :
    ∀ id ∈ (c.step d (.join n userID connID channelID callID queued ok)).ending, ∀ m,
      (c.step d (.join n userID connID channelID callID queued ok)).Asked m id := by
  intro id hid m
  have hid' : id ∈ c.ending.filter (· ≠ connID) :=
    Net.addSessionToCall_ending (d := d) c n userID connID channelID callID
      queued ok ▸ hid
  obtain ⟨hid, hne⟩ := List.mem_filter.1 hid'
  exact (h id hid m).extends hb (.addSessionToCall (of_decide_eq_true hne))
    (Net.keeps_step d c _ m)

/-- A message of the cluster has nobody go; one that says so is the request itself. -/
theorem Net.asked_handleEvent (hb : c.Bounded) (h : ∀ id ∈ c.ending, ∀ m, c.Asked m id)
    {msg : ClusterMessage} {iter : List Slot → List Slot}
    (hen : c.Enabled d (.handleEvent n msg iter))
    (hok : c.Named d (.handleEvent n msg iter)) :
    ∀ id ∈ (c.step d (.handleEvent n msg iter)).ending, ∀ m,
      (c.step d (.handleEvent n msg iter)).Asked m id := by
  intro id hid m
  have hending : (c.step d (.handleEvent n msg iter)).ending = c.ending := by
    cases msg with
    | connect msg =>
        simp only [Net.step, Net.handleEvent]
        split <;> rfl
    | reconnect msg => rfl
    | leave connID => rfl
    | disconnect connID => rfl
    | signaling connID =>
        simp only [Net.step, Net.handleEvent]
        split
        · rfl
        · split <;> rfl
  rw [hending] at hid
  by_cases hmine : (n, msg) = (m, .disconnect id)
  · cases hmine
    exact Net.asked_handleDisconnect hb (hok hid)
  · exact (h id hid m).handleEvent hb hen hmine

/-- Closing the RTC session of one who goes, and what was asked before. -/
theorem Net.asked_closed (hb : c.Bounded) (h : ∀ id ∈ c.ending, ∀ m, c.Asked m id)
    {a : Action N} {callID connID : String}
    (hending : (c.step d a).ending = connID :: c.ending)
    (hp : c.Placed d n callID connID)
    (hext : ∀ m id, (c.closeRTCSession (d.handler callID) n connID connID).Extends
      (c.step d a) m id) :
    ∀ id ∈ (c.step d a).ending, ∀ m, (c.step d a).Asked m id := by
  intro id hid m
  have hrefl := Net.Extends.refl c m id
  by_cases hmine : id = connID
  · subst hmine
    exact Net.asked_closeRTCSession hb hp hrefl (hext m _) (Net.keeps_step d c a m)
  · rw [hending] at hid
    exact (h id ((List.mem_cons.1 hid).resolve_left hmine) m).extends hb
      ((hrefl.closeRTCSession _ _ _ _).trans (hext m id)) (Net.keeps_step d c a m)

theorem Net.asked_revoke (hb : c.Bounded) (h : ∀ id ∈ c.ending, ∀ m, c.Asked m id)
    {r : Reader} (hok : c.Named d (.revoke n r)) :
    ∀ id ∈ (c.step d (.revoke n r)).ending, ∀ m,
    (c.step d (.revoke n r)).Asked m id := by
  have horig : ((c.nodes n).heap r.us).connID =
      ((c.nodes n).heap r.us).originalConnID := hok.1
  refine Net.asked_closed hb h ?_ hok.2 fun m id => ?_
  · simp only [Net.step]
    rw [Net.closeRTCSession_eq]
  · simp only [Net.step, horig]
    exact (Net.Extends.refl _ m id).same rfl rfl rfl rfl

theorem Net.asked_putOut (hb : c.Bounded) (h : ∀ id ∈ c.ending, ∀ m, c.Asked m id)
    {sessionID callID : String} (hok : c.Named d (.putOut n sessionID callID)) :
    ∀ id ∈ (c.step d (.putOut n sessionID callID)).ending, ∀ m,
      (c.step d (.putOut n sessionID callID)).Asked m id := by
  refine Net.asked_closed hb h ?_ hok fun m id => .refl _ _ _
  simp only [Net.step]
  rw [Net.closeRTCSession_eq]

/-- **Every step**: the RTC sessions of those who are gone have been asked to close. -/
theorem Net.asked_step (hb : c.Bounded) (h : ∀ id ∈ c.ending, ∀ m, c.Asked m id)
    {a : Action N} (hen : c.Enabled d a) (hok : c.Named d a) :
    ∀ id ∈ (c.step d a).ending, ∀ m, (c.step d a).Asked m id := by
  cases a with
  | join n userID connID channelID callID queued ok => exact Net.asked_join hb h
  | handleEvent n msg iter => exact Net.asked_handleEvent hb h hen hok
  | revoke n r => exact Net.asked_revoke hb h hok
  | handleLeave n r exit how => exact Net.asked_handleLeave hb h hok
  | startSession n us ok =>
      have hending : (c.step d (.startSession n us ok)).ending = c.ending := by
        simp only [Net.step]
        split <;> rfl
      exact fun id hid m => (h id (hending ▸ hid) m).startSession hb hen hok
  | endSession n us => exact fun id hid m => (h id hid m).endSession hb hok
  | putOut n sessionID callID => exact Net.asked_putOut hb h hok
  | refuseJoin n channelID queued =>
      exact Net.asked_of_spares hb h Net.spares_refuseJoin
  | reconnect n e r told => exact Net.asked_of_spares hb h Net.spares_reconnect
  | leave n connID => exact Net.asked_of_spares hb h Net.spares_leave
  | message n r => exact Net.asked_of_spares hb h Net.spares_message
  | rtcClosed o how => exact Net.asked_of_spares hb h Net.spares_rtcClosed
  | rtcdClosed n sessionID iter how =>
      exact Net.asked_of_spares hb h Net.spares_rtcdClosed
  | remove n us how ok => exact Net.asked_of_spares hb h Net.spares_remove
  | queueJoin n channelID | disconnect n connID | stopReading n r =>
      exact Net.asked_of_spares hb h
        ⟨rfl, fun m id => (Net.Extends.refl c m id).same rfl rfl rfl rfl⟩

/-! ## The ids that are named -/

/-- The request names the id its participant joined with. -/
def RtcEvent.Named (ev : RtcEvent N) : Prop :=
  ev.kind ≠ .closed → ev.sessionID = ev.originalConnID

/-- So do those of the record. -/
def Net.RecordNamed (c : Net N) : Prop := ∀ ev ∈ c.record, ev.Named

omit [DecidableEq N] in
theorem Net.RecordNamed.note (h : c.RecordNamed) {kind : RtcKind}
    {sessionID originalConnID : String}
    (hid : kind ≠ .closed → sessionID = originalConnID) (n : N) :
    (c.note n kind sessionID originalConnID).RecordNamed := by
  intro ev hev
  rcases List.mem_cons.1 hev with rfl | hev
  · exact hid
  · exact h ev hev

theorem Net.RecordNamed.closeRTCSession (h : c.RecordNamed) (handler : Option N) (n : N)
    (id : String) : (c.closeRTCSession handler n id id).RecordNamed := by
  unfold Net.closeRTCSession
  cases handler with
  | none => exact h
  | some k =>
      dsimp only
      split
      · exact Net.RecordNamed.note h (fun _ => rfl) k
      · exact Net.RecordNamed.note h (fun _ => rfl) k

theorem Net.RecordNamed.removeSession (h : c.RecordNamed) (n : N) (us : Nat)
    (how : Removal) :
    (c.removeSession n us how).RecordNamed := by
  rw [Net.removeSession_eq]
  exact h

/-- **Every step** names the ids of the joins. -/
theorem Net.RecordNamed.step (h : c.RecordNamed) {a : Action N} (hok : c.Named d a) :
    (c.step d a).RecordNamed := by
  cases a with
  | queueJoin n channelID => exact h
  | refuseJoin n channelID queued =>
      simp only [Net.step]
      split <;> exact h
  | join n userID connID channelID callID queued ok =>
      simp only [Net.step, Net.addSessionToCall]
      split
      · split
        · exact h
        · split
          · exact Net.RecordNamed.note h (fun _ => rfl) n
          · exact h
      · by_cases hh : d.handler callID = some n
        · simp only [if_pos hh]
          exact Net.RecordNamed.note h (fun _ => rfl) n
        · simp only [if_neg hh]
          exact h
  | reconnect n e r told =>
      simp only [Net.step]
      split <;> exact h
  | handleEvent n msg iter =>
      cases msg with
      | connect msg =>
          simp only [Net.step, Net.handleEvent]
          split <;> exact h
      | reconnect msg => exact h
      | leave connID => exact h
      | disconnect connID => exact h
      | signaling connID =>
          simp only [Net.step, Net.handleEvent]
          split
          · exact h
          next us hus =>
            split
            · exact h
            · exact Net.RecordNamed.note h (fun _ => hok us hus) n
  | disconnect n connID => exact h
  | leave n connID => exact h
  | message n r =>
      simp only [Net.step, Net.relay]
      split
      · exact h
      · split
        · exact Net.RecordNamed.note h (fun _ => rfl) n
        · exact h
  | stopReading n r => exact h
  | revoke n r =>
      have horig : ((c.nodes n).heap r.us).connID =
          ((c.nodes n).heap r.us).originalConnID := hok.1
      simp only [Net.step, horig]
      exact h.closeRTCSession _ _ _
  | handleLeave n r exit how =>
      cases exit with
      | reconnected => exact h
      | rtcClosed => exact h
      | left =>
          refine Net.RecordNamed.removeSession
            (Net.RecordNamed.closeRTCSession ?_ _ _ _) _ _ _
          exact h
      | timeout =>
          refine Net.RecordNamed.removeSession
            (Net.RecordNamed.closeRTCSession ?_ _ _ _) _ _ _
          exact h
  | startSession n us ok =>
      have hok : ((c.nodes n).heap us).connID = ((c.nodes n).heap us).originalConnID :=
        hok
      simp only [Net.step]
      split
      · exact Net.RecordNamed.note h (fun _ => hok) n
      · exact Net.RecordNamed.note h (fun _ => hok) n
  | endSession n us => exact Net.RecordNamed.note h (fun _ => hok) n
  | rtcClosed s how =>
      have hnote :
          ({ c with opened := c.opened.erase s }.note s.node .closed s.sessionID
          ((c.nodes s.node).heap s.us).originalConnID).RecordNamed :=
        Net.RecordNamed.note h (fun hk => absurd rfl hk) s.node
      simp only [Net.step, Net.rtcCallback]
      split
      · refine Net.RecordNamed.removeSession ?_ _ _ _
        exact hnote
      · exact hnote
  | rtcdClosed n sessionID iter how =>
      simp only [Net.step, Net.rtcdCallback]
      split
      · exact h
      · split
        · exact h
        · exact Net.RecordNamed.removeSession (c := Net.setNode _ _ _) h _ _ _
  | remove n us how ok =>
      simp only [Net.step]
      split
      · rw [Net.removeSessionFromCall_eq]
        exact h
      · exact h
  | putOut n sessionID callID => exact h.closeRTCSession _ _ _

/-! ## Runs -/

/-- In every run whose steps keep the ids together: every request names the id of the
join, and nothing is left open of those who are gone that was not asked to close. -/
structure Net.Traced (c : Net N) : Prop where
  apart : c.Apart
  bounded : c.Bounded
  asked : ∀ id ∈ c.ending, ∀ m, c.Asked m id
  named : c.RecordNamed

theorem Net.Traced.step (h : c.Traced) {a : Action N} (hen : c.Enabled d a)
    (hok : c.Named d a) :
    (c.step d a).Traced where
  apart n := (h.apart n).follows (Net.nodes_step d c a n)
  bounded := h.bounded.step h.apart hen
  asked := Net.asked_step h.bounded h.asked hen hok
  named := h.named.step hok

/-- **RTC sessions by the ids of the joins**: in every run whose steps keep the ids
together, whatever is asked of an RTC server, or of another node on its behalf, names
the id with which the participant joined; and when a participant is gone and the
messages to close have been handled, the RTC session is closed or its routine has been
told to close it. -/
theorem Net.rtc_of_runs (hr : (Net.machine d).Runs (Net.Named d) .empty c) :
    (∀ ev ∈ c.record, ev.kind ≠ .closed → ev.sessionID = ev.originalConnID) ∧
      ∀ id ∈ c.ending, ∀ m, (m, .disconnect id) ∉ c.inFlight →
        rtcOpen m id c.record = true →
        ∃ us, (m, us) ∈ c.serving ∧ ((c.nodes m).heap us).originalConnID = id ∧
          ((c.nodes m).heap us).rtcClosed = true := by
  have h : c.Traced := by
    refine hr.inv ⟨fun n => ⟨fun x hx => ?_, fun r hr => ?_, fun x hx => ?_⟩,
      fun x hx => ?_,
      fun id hid => ?_, fun ev hev => ?_⟩ fun s a hen hok h => h.step hen hok
    · cases hx
    · cases hr
    · cases hx
    · cases hx
    · cases hid
    · cases hev
  refine ⟨h.named, fun id hid m hno hopen => ?_⟩
  exact ((h.asked id hid m).resolve_left hno).serving hopen

end Cluster

/-! ## Alice leaves -/

/-- She has joined and reconnected through the node that does not handle the RTC; the
other has opened her RTC session and has not heard of her new connection.  She is about
to leave. -/
def aliceLeaving : Net Bool :=
  ((((aloneReconnected false).step twoUsers
    (.handleEvent true (.connect ⟨"a0", "alice", "chan", sampleCall.id⟩) id)).step
    twoUsers (.startSession true 0 true)).step twoUsers (.leave false "a1")).step
    twoUsers (.stopReading false ⟨"a1", 1⟩)

theorem aliceLeaving_runs :
    (Net.machine twoUsers).Runs (Net.Named twoUsers) .empty aliceLeaving := by
  have hr : (Net.machine twoUsers).Runs (Net.Named twoUsers) .empty
      (aloneReconnected false) :=
    aloneReconnected_runs false trivial trivial
  have hr :=
    hr.step (Action.handleEvent true
      (.connect ⟨"a0", "alice", "chan", sampleCall.id⟩) id)
    ⟨by decide, fun l => .refl l⟩ trivial
  have hr := hr.step (Action.startSession true 0 true) (by
    show (true, 0) ∈ Net.spawned _
    decide) rfl
  have hr := hr.step (Action.leave false "a1") trivial trivial
  exact hr.step (Action.stopReading false ⟨"a1", 1⟩)
    ⟨by decide, by decide, .inr (.inr (.inr (by decide)))⟩ trivial

/-- Nothing was asked of her own node. -/
theorem aliceLeaving_named :
    aliceLeaving.Named twoUsers (.handleLeave false ⟨"a1", 1⟩ .left .direct) := by
  refine fun _ m => ⟨fun hhere hm => ?_,
    fun helse => .inr ⟨fun msg hmsg => ?_, fun us hus => ?_,
    fun hopen => ?_⟩⟩
  · cases hm
    cases hhere
  · have hflight : aliceLeaving.inFlight =
        [(true, .reconnect ⟨"a0", "a1", "alice", sampleCall.id⟩),
          (true, .leave "a1")] := by decide
    rw [hflight] at hmsg
    simp at hmsg
  · have hspawned : aliceLeaving.spawned = [] := by decide
    rw [hspawned] at hus
    cases hus
  · cases m with
    | true => exact absurd rfl helse
    | false => cases hopen

/-- She has left. -/
def aliceGone : Net Bool :=
  aliceLeaving.step twoUsers (.handleLeave false ⟨"a1", 1⟩ .left .direct)

/-- The node that handles the RTC finds the session it serves. -/
theorem aliceGone_covers : aliceGone.Covers true "a0" fun us => aliceGone.Told true us ∨
    ((aliceGone.nodes true).sessions.find? "a0").map Slot.us = some us := by
  refine ⟨fun msg hmsg => ?_, fun us hus => ?_, fun _ => ⟨0, ?_, rfl, .inr (by decide)⟩⟩
  · have hflight : aliceGone.inFlight =
        [(true, .reconnect ⟨"a0", "a1", "alice", sampleCall.id⟩),
        (true, .leave "a1"), (true, .disconnect "a0")] := by decide
    rw [hflight] at hmsg
    simp at hmsg
  · have hspawned : aliceGone.spawned = [] := by decide
    rw [hspawned] at hus
    cases hus
  · show (true, 0) ∈ aliceGone.serving
    decide

/-- What she opened is closed: the message to close finds the session that is served. -/
theorem aliceLeft_closed : ∃ c : Net Bool,
    (Net.machine twoUsers).Runs (Net.Named twoUsers) .empty c ∧ "a0" ∈ c.ending ∧
    (∃ ev ∈ c.record, ev = ⟨true, .closeSession, "a0", "a0"⟩) ∧
    rtcOpen true "a0" c.record = false := by
  have hr : (Net.machine twoUsers).Runs (Net.Named twoUsers) .empty aliceGone :=
    aliceLeaving_runs.step (Action.handleLeave false ⟨"a1", 1⟩ .left .direct)
      ⟨by decide, by decide⟩ aliceLeaving_named
  have hr := hr.step (Action.handleEvent true (.disconnect "a0") id)
    ⟨by decide, fun l => .refl l⟩ fun _ => .inr aliceGone_covers
  have hr := hr.step (Action.endSession true 0) ⟨by decide, by decide⟩ rfl
  have hr :=
    hr.step (Action.handleEvent true
      (.reconnect ⟨"a0", "a1", "alice", sampleCall.id⟩) id)
    ⟨by decide, fun l => .refl l⟩ trivial
  refine ⟨_, hr, by decide, ⟨_, by decide, rfl⟩, ?_⟩
  have hclosed := (Net.rtc_of_runs hr).2 "a0" (by decide) true (by decide)
  refine Bool.eq_false_iff.2 fun hopen => ?_
  obtain ⟨us, hus, -⟩ := hclosed hopen
  cases hus

/-- After a reconnection to another node her RTC session stays open: the routine that
serves it closes one of the new connection id. -/
theorem rtc_left_open : ∃ c : Net Bool,
    (Net.machine twoUsers).Runs Machine.Always .empty c ∧
      (∃ ev ∈ c.record, ev.kind = .closeSession ∧ ev.sessionID ≠ ev.originalConnID) ∧
      "a0" ∈ c.ending ∧ (true, .disconnect "a0") ∉ c.inFlight ∧
      rtcOpen true "a0" c.record = true ∧ c.serving = [] := by
  have hr : (Net.machine twoUsers).Runs Machine.Always .empty
      (aloneReconnected false) :=
    aloneReconnected_runs false trivial trivial
  have hr :=
    hr.step (Action.handleEvent true
      (.connect ⟨"a0", "alice", "chan", sampleCall.id⟩) id)
    ⟨by decide, fun l => .refl l⟩ trivial
  have hr := hr.step (Action.startSession true 0 true) (by
    show (true, 0) ∈ Net.spawned _
    decide) trivial
  have hr :=
    hr.step (Action.handleEvent true
      (.reconnect ⟨"a0", "a1", "alice", sampleCall.id⟩) id)
    ⟨by decide, fun l => .refl l⟩ trivial
  have hr := hr.step (Action.leave false "a1") trivial trivial
  have hr := hr.step (Action.stopReading false ⟨"a1", 1⟩)
    ⟨by decide, by decide, .inr (.inr (.inr (by decide)))⟩ trivial
  have hr := hr.step (Action.handleLeave false ⟨"a1", 1⟩ .left .direct)
    ⟨by decide, by decide⟩ trivial
  have hr := hr.step (Action.handleEvent true (.disconnect "a0") id)
    ⟨by decide, fun l => .refl l⟩ trivial
  have hr := hr.step (Action.endSession true 0) ⟨by decide, by decide⟩ trivial
  refine ⟨_, hr, ⟨⟨true, .closeSession, "a1", "a0"⟩, by decide,
    rfl, by decide⟩, by decide, by decide,
    by decide, by decide⟩

end CallsPlugin.Ports
