import CallsPlugin.Ports.NodeSteps

/-!
# Reconnections and the sessions of others

A request to reconnect names two ids: the session id it must be in the call with, which
is checked, and the previous connection id, by which the old session is found here and
on the other nodes, which is not.  What the request does to the sessions of other users
is settled by whom the session found under the latter belongs to.
-/

namespace CallsPlugin.Ports

open CallsPlugin.Verified

/-! ## Whose a session is -/

/-- The node's sessions are kept under connection ids of their users, who have also
joined with their own connections. -/
structure Node.Owned (owner : String → String) (n : Node) : Prop where
  slots : ∀ x ∈ n.sessions, x.us < n.next
  keys : ∀ x ∈ n.sessions, (n.heap x.us).userID = owner x.key
  originals : ∀ x ∈ n.sessions, (n.heap x.us).userID =
    owner (n.heap x.us).originalConnID
  plain : ∀ x ∈ n.sessions, (n.heap x.us).rtc = false → (n.heap x.us).connID = x.key

section Node

variable {n n' : Node} {owner : String → String}

theorem Node.Owned.evolves (h : n.Owned owner) (he : n.Evolves n') :
    n'.Owned owner where
  slots x hx := he.next ▸ h.slots x (he.slots x hx)
  keys x hx := (he.userID x.us).trans (h.keys x (he.slots x hx))
  originals x hx := by
    rw [he.userID, he.originalConnID]
    exact h.originals x (he.slots x hx)
  plain x hx hr := by
    rw [he.rtc] at hr
    rw [he.connID _ hr]
    exact h.plain x (he.slots x hx) hr

/-- Storing a session of the user under a connection of the user. -/
theorem Node.Owned.insertSession (h : n.Owned owner) {connID : String} {us : Session}
    (hkey : us.userID = owner connID) (horig : us.userID = owner us.originalConnID)
    (hconn : us.connID = connID) : (n.insertSession connID us).Owned owner := by
  have hold : ∀ x ∈ n.sessions, (n.insertSession connID us).heap x.us = n.heap x.us :=
      fun x hx =>
    Function.update_of_ne (h.slots x hx).ne ..
  have hself : (n.insertSession connID us).heap n.next = us := Function.update_self ..
  have hmem : ∀ x ∈ (n.insertSession connID us).sessions,
      x ∈ n.sessions ∨ x = ⟨connID, n.next⟩ := fun x hx =>
    (Table.mem_put.1 hx).imp_left And.left
  refine ⟨fun x hx => ?_, fun x hx => ?_, fun x hx => ?_, fun x hx hr => ?_⟩ <;>
    rcases hmem x hx with hx | rfl
  · exact Nat.lt_succ_of_lt (h.slots x hx)
  · exact Nat.lt_succ_self _
  · rw [hold x hx]; exact h.keys x hx
  · rw [hself]; exact hkey
  · rw [hold x hx]; exact h.originals x hx
  · rw [hself]; exact horig
  · rw [hold x hx] at hr ⊢; exact h.plain x hx hr
  · rw [hself]; exact hconn

theorem Node.Owned.follows {stores : String → Session → Prop} (h : n.Owned owner)
    (hf : n.Follows n' stores)
    (hs : ∀ k s, stores k s → s.userID = owner k ∧ s.userID = owner s.originalConnID ∧
      s.connID = k) : n'.Owned owner := by
  rcases hf with he | ⟨n₁, k, s, l, h₁, hstore, -, rfl⟩
  · exact h.evolves he
  · obtain ⟨hkey, horig, hconn⟩ := hs k s hstore
    have hstored := (h.evolves h₁).insertSession hkey horig hconn
    exact ⟨hstored.slots, hstored.keys, hstored.originals, hstored.plain⟩

end Node

/-! ## In every run -/

section Cluster

variable {N : Type} [DecidableEq N] {d : Deployment N} {c : Net N}

/-- Every session is one of its user, and so are the joins that have not arrived. -/
structure Net.Owned (d : Deployment N) (c : Net N) : Prop where
  nodes : ∀ n, (c.nodes n).Owned d.owner
  joined : ∀ j ∈ c.joined, j.userID = d.owner j.id
  connects : ∀ n msg, (n, .connect msg) ∈ c.inFlight → msg.userID = d.owner msg.connID

/-- Who has joined after a step. -/
theorem Net.joined_step {a : Action N} {j : Joined} (hj : j ∈ (c.step d a).joined) :
    j ∈ c.joined ∨ ∃ n channelID queued ok,
      a = .join n j.userID j.id channelID j.callID queued ok := by
  cases a with
  | join n userID connID channelID callID queued ok =>
      have hmem : j ∈ ⟨connID, userID, callID⟩ :: c.joined := by
        have heq :
            (c.step d (.join n userID connID channelID callID queued ok)).joined =
            ⟨connID, userID, callID⟩ :: c.joined := by
          simp only [Net.step, Net.addSessionToCall]
          split
          · split
            · rfl
            · split_ifs <;> rfl
          · split_ifs <;> rfl
        exact heq ▸ hj
      rcases List.mem_cons.1 hmem with rfl | hmem
      · exact .inr ⟨n, channelID, queued, ok, rfl⟩
      · exact .inl hmem
  | queueJoin n channelID => exact .inl hj
  | refuseJoin n channelID queued =>
      simp only [Net.step] at hj
      split at hj <;> exact .inl hj
  | reconnect n e r told =>
      simp only [Net.step] at hj
      split at hj <;> exact .inl hj
  | handleEvent n msg iter =>
      refine .inl ?_
      cases msg with
      | connect msg =>
          simp only [Net.step, Net.handleEvent] at hj
          split at hj <;> exact hj
      | reconnect msg => exact hj
      | leave connID => exact hj
      | disconnect connID => exact hj
      | signaling connID =>
          simp only [Net.step, Net.handleEvent] at hj
          split at hj
          · exact hj
          · split at hj <;> exact hj
  | disconnect n connID => exact .inl hj
  | leave n connID => exact .inl hj
  | message n r =>
      simp only [Net.step, Net.relay] at hj
      split at hj
      · exact .inl hj
      · split at hj <;> exact .inl hj
  | stopReading n r => exact .inl hj
  | revoke n r =>
      simp only [Net.step, Net.closeRTCSession_joined] at hj
      exact .inl hj
  | handleLeave n r exit how =>
      refine .inl ?_
      cases exit with
      | reconnected => exact hj
      | rtcClosed => exact hj
      | left =>
          simp only [Net.step, Net.handleLeave, Net.removeSession_joined,
            Net.closeRTCSession_joined] at hj
          exact hj
      | timeout =>
          simp only [Net.step, Net.handleLeave, Net.removeSession_joined,
            Net.closeRTCSession_joined] at hj
          exact hj
  | startSession n us ok =>
      simp only [Net.step] at hj
      split at hj <;> exact .inl hj
  | endSession n us => exact .inl hj
  | rtcClosed s how =>
      simp only [Net.step, Net.rtcCallback] at hj
      split at hj
      · rw [Net.removeSession_joined] at hj
        exact .inl hj
      · exact .inl hj
  | rtcdClosed n sessionID iter how =>
      simp only [Net.step, Net.rtcdCallback] at hj
      split at hj
      · exact .inl hj
      · split at hj
        · exact .inl hj
        · rw [Net.removeSession_joined] at hj
          exact .inl hj
  | remove n us how ok =>
      simp only [Net.step] at hj
      split at hj
      · rw [Net.removeSessionFromCall_joined] at hj
        exact .inl hj
      · exact .inl hj
  | putOut n sessionID callID =>
      simp only [Net.step, Net.closeRTCSession_joined] at hj
      exact .inl hj

/-- A step keeps every session with its user. -/
theorem Net.Owned.step (h : c.Owned d) {a : Action N} (hen : c.Enabled d a) :
    (c.step d a).Owned d where
  nodes m := by
    refine (h.nodes m).follows (Net.nodes_step d c a m) fun k s hs => ?_
    cases hs with
    | join =>
        exact ⟨hen.1.symm, hen.1.symm, rfl⟩
    | connect _ msg =>
        have hm := h.connects m msg hen.1
        exact ⟨hm, hm, rfl⟩
    | reconnect _ _ hcall =>
        obtain ⟨hst, row, hrow, hid, huser⟩ := reconnectCall_ok hcall
        have hj := h.joined _ ((hen.2 _ hst).2.1 row hrow)
        refine ⟨hen.1.symm, ?_, rfl⟩
        change row.userID = d.owner row.id at hj
        rw [hid, huser] at hj
        exact hj
  joined j hj := by
    rcases Net.joined_step hj with hj | ⟨n, channelID, queued, ok, rfl⟩
    · exact h.joined j hj
    · exact hen.1.symm
  connects n msg hmsg := by
    rcases Net.inFlight_step hmsg with hmsg | hs
    · exact h.connects n msg hmsg
    · generalize hx : ClusterMessage.connect msg = x at hs
      cases hs with
      | join hh hne =>
          cases hx
          exact hen.1.symm
      | _ => cases hx

/-- In every run each node keeps every session with its user. -/
theorem Net.owned_of_runs (hr : (Net.machine d).Runs Machine.Always .empty c) :
    c.Owned d := by
  refine hr.inv ⟨fun n => ⟨fun x hx => ?_, fun x hx => ?_, fun x hx => ?_,
    fun x hx => ?_⟩, fun j hj => ?_, fun n msg hmsg => ?_⟩ fun s a hen _ h => h.step hen
  · cases hx
  · cases hx
  · cases hx
  · cases hx
  · cases hj
  · cases hmsg

end Cluster

/-! ## What a request does to the sessions of others -/

/-- The user's sessions are as before: the entries of the map, what the map has for the
user's ids, the routines, and the sessions themselves. -/
structure Node.Spares (owner : String → String) (n n' : Node) (userID : String) :
    Prop where
  entries : ∀ x, x.us < n.next → (n.heap x.us).userID = userID →
    (x ∈ n'.sessions ↔ x ∈ n.sessions)
  find : ∀ id, owner id = userID → n'.sessions.find? id = n.sessions.find? id
  originals : ∀ id, owner id = userID → ∀ x,
    (x ∈ n'.sessions ∧ (n'.heap x.us).originalConnID = id) ↔
      (x ∈ n.sessions ∧ (n.heap x.us).originalConnID = id)
  routines : ∀ r : Reader, r.us < n.next → (r ∈ n'.readers ↔ r ∈ n.readers)
  objects : ∀ us, us < n.next → (n.heap us).userID = userID → n'.heap us = n.heap us

/-- Under the request's previous connection id the node has another user's session,
which has not reconnected. -/
def Node.HoldsOther (n : Node) (r : ReconnectRequest) : Prop :=
  ∃ x ∈ n.sessions, x.key = r.prevConnID ∧ (n.heap x.us).userID ≠ r.userID ∧
    (n.heap x.us).wsReconnected = false

section Spares

variable {n n' n'' : Node} {owner : String → String} {userID : String}

theorem Node.Spares.refl (owner : String → String) (n : Node) (userID : String) :
    n.Spares owner n userID :=
  ⟨fun _ _ _ => .rfl, fun _ _ => rfl, fun _ _ _ => .rfl, fun _ _ => .rfl,
    fun _ _ _ => rfl⟩

/-- Marking another user's session. -/
theorem Node.Spares.set (owner : String → String) (n : Node) {us : Nat} {s : Session}
    (huser : (n.heap us).userID ≠ userID)
    (horig : s.originalConnID = (n.heap us).originalConnID) :
    n.Spares owner (n.set us s) userID where
  entries x _ _ := .rfl
  find id _ := rfl
  originals id _ x := by
    have hx : ((n.set us s).heap x.us).originalConnID =
        (n.heap x.us).originalConnID := by
      by_cases h : x.us = us
      · rw [h, ← horig]
        exact congrArg Session.originalConnID (Function.update_self ..)
      · exact congrArg Session.originalConnID (Function.update_of_ne h ..)
    rw [hx]
    exact .rfl
  routines r _ := .rfl
  objects us' _ hu := by
    refine Function.update_of_ne ?_ ..
    rintro rfl
    exact huser hu

theorem Node.Spares.trans (h : n.Spares owner n' userID)
    (h' : n'.Spares owner n'' userID)
    (hnext : n.next ≤ n'.next) : n.Spares owner n'' userID where
  entries x hx hu := by
    have hu' : (n'.heap x.us).userID = userID := (h.objects x.us hx hu).symm ▸ hu
    exact (h'.entries x (hx.trans_le hnext) hu').trans (h.entries x hx hu)
  find id hid := (h'.find id hid).trans (h.find id hid)
  originals id hid x := (h'.originals id hid x).trans (h.originals id hid x)
  routines r hr := (h'.routines r (hr.trans_le hnext)).trans (h.routines r hr)
  objects us hus hu := by
    have hu' : (n'.heap us).userID = userID := (h.objects us hus hu).symm ▸ hu
    exact (h'.objects us (hus.trans_le hnext) hu').trans (h.objects us hus hu)

/-- Deleting what is under another user's connection. -/
theorem Node.Spares.erase (h : n.Owned owner) {k : String} (hk : owner k ≠ userID) :
    n.Spares owner { n with sessions := n.sessions.erase k } userID where
  entries x _ hu := by
    refine ⟨fun hx => (Table.mem_erase.1 hx).1, fun hx => Table.mem_erase.2 ⟨hx, ?_⟩⟩
    rintro rfl
    exact hk ((h.keys x hx).symm.trans hu)
  find id hid := by
    show (n.sessions.erase k).find? id = _
    rw [Table.find?_erase, if_neg]
    rintro rfl
    exact hk hid
  originals id hid x := by
    refine ⟨fun hx => ⟨(Table.mem_erase.1 hx.1).1, hx.2⟩,
      fun hx => ⟨Table.mem_erase.2 ⟨hx.1, ?_⟩, hx.2⟩⟩
    rintro rfl
    have hown := h.originals x hx.1
    rw [hx.2, hid] at hown
    exact hk ((h.keys x hx.1).symm.trans hown)
  routines r _ := .rfl
  objects us _ _ := rfl

/-- Storing another user's session, with a routine for it. -/
theorem Node.Spares.insertSession (h : n.Owned owner) {connID : String} {us : Session}
    (hk : owner connID ≠ userID) (ho : owner us.originalConnID ≠ userID) :
    n.Spares owner
      { n.insertSession connID us with readers := ⟨connID, n.next⟩ :: n.readers } userID
            where
  entries x hlt hu := by
    refine ⟨fun hx => ?_, fun hx => Table.mem_put.2 (.inl ⟨hx, ?_⟩)⟩
    · rcases Table.mem_put.1 hx with hx | rfl
      · exact hx.1
      · exact absurd hlt (lt_irrefl _)
    · intro hkey
      have hown := (h.keys x hx).symm.trans hu
      rw [hkey] at hown
      exact hk hown
  find id hid := by
    show (n.sessions.put ⟨connID, n.next⟩).find? id = _
    rw [Table.find?_put, if_neg]
    rintro rfl
    exact hk hid
  originals id hid x := by
    constructor
    · rintro ⟨hx, horig⟩
      rcases Table.mem_put.1 hx with ⟨hx, -⟩ | rfl
      · have hold : (n.insertSession connID us).heap x.us = n.heap x.us :=
          Function.update_of_ne (h.slots x hx).ne ..
        rw [hold] at horig
        exact ⟨hx, horig⟩
      · have hself : (n.insertSession connID us).heap n.next = us :=
          Function.update_self ..
        rw [hself] at horig
        exact absurd (horig ▸ hid) ho
    · rintro ⟨hx, horig⟩
      have hold : (n.insertSession connID us).heap x.us = n.heap x.us :=
        Function.update_of_ne (h.slots x hx).ne ..
      refine ⟨Table.mem_put.2 (.inl ⟨hx, fun hkey => ?_⟩), hold ▸ horig⟩
      have hown := h.originals x hx
      rw [horig, hid] at hown
      have hkeys := (h.keys x hx).symm.trans hown
      rw [hkey] at hkeys
      exact hk hkeys
  routines r hlt := by
    show r ∈ ⟨connID, n.next⟩ :: n.readers ↔ r ∈ n.readers
    rw [List.mem_cons, or_iff_right]
    rintro rfl
    exact absurd hlt (lt_irrefl _)
  objects us' hlt _ := Function.update_of_ne hlt.ne ..

/-- A session that has been marked is not as before. -/
theorem Node.Spares.not_marked {us : Nat} (h : n.Spares owner n' userID)
    (hlt : us < n.next) (huser : (n.heap us).userID = userID)
    (hopen : (n.heap us).wsReconnected = false) :
    (n'.heap us).wsReconnected = false :=
  (h.objects us hlt huser) ▸ hopen

/-- What the user does next to a session over one of the user's connections comes to the
same on both nodes. -/
theorem Node.Spares.adjust (h : n.Spares owner n' userID) (hown : n.Owned owner)
    {connID : String} (hk : owner connID = userID) {f : Session → Session}
    (hf : ∀ s, (f s).userID = s.userID ∧ (f s).originalConnID = s.originalConnID) :
    (n.adjust connID f).Spares owner (n'.adjust connID f) userID := by
  unfold Node.adjust
  rw [h.find connID hk]
  cases hx : n.sessions.find? connID with
  | none => exact h
  | some x =>
      obtain ⟨hmem, hkey⟩ := Table.find?_eq_some.1 hx
      have hmine : (n.heap x.us).userID = userID := by rw [hown.keys x hmem, hkey, hk]
      have hsame := h.objects x.us (hown.slots x hmem) hmine
      have hfield : ∀ {β : Type} (g : Session → β), (∀ s, g (f s) = g s) →
          ∀ m : Node, ∀ us,
          g ((m.set x.us (f (m.heap x.us))).heap us) = g (m.heap us) := by
        intro β g hg m us
        by_cases hus : us = x.us
        · subst hus
          exact (congrArg g (Function.update_self ..)).trans (hg _)
        · exact congrArg g (Function.update_of_ne hus ..)
      have huser := hfield Session.userID fun s => (hf s).1
      have horig := hfield Session.originalConnID fun s => (hf s).2
      refine ⟨fun y hy hu => ?_, h.find, fun id hid y => ?_, h.routines,
        fun us hus hu => ?_⟩
      · exact h.entries y hy (huser n y.us ▸ hu)
      · rw [horig n', horig n]
        exact h.originals id hid y
      · show Function.update n'.heap x.us _ us = Function.update n.heap x.us _ us
        by_cases hu' : us = x.us
        · rw [hu', Function.update_self, Function.update_self, hsame]
        · rw [Function.update_of_ne hu', Function.update_of_ne hu']
          exact h.objects us hus (huser n us ▸ hu)

end Spares

/-! ## On the node of the request -/

section Request

variable {n n₁ : Node} {owner : String → String} {e : ReconnectEnv}
  {r : ReconnectRequest} {rtc : Bool}

/-- The request would claim another user's session. -/
def Node.Claims (n : Node) (e : ReconnectEnv) (r : ReconnectRequest) : Prop :=
  (∃ st, reconnectCall e r = .ok st) ∧ n.sessions.find? r.connID = none ∧ n.HoldsOther r

/-- What is claimed is the user's own, if no one else's can be. -/
theorem Node.Owned.claim_own (h : n.Owned owner) (hconn : owner r.connID = r.userID)
    (hclaim : n.claimSession r = .ok (rtc, n₁))
    (hown : n.sessions.find? r.connID = none → ¬ n.HoldsOther r) :
    n₁ = n ∨ ∃ us, (n.heap us).userID = r.userID ∧ n₁ = n.markReconnected us := by
  rcases Node.claimSession_ok hclaim with ⟨-, -, rfl⟩ | ⟨x, hx, hopen, -, rfl⟩
  · exact .inl rfl
  · refine .inr ⟨x.us, ?_, rfl⟩
    obtain ⟨hmem, hk | ⟨hnone, hk⟩⟩ := Node.previous_eq_some hx
    · rw [h.keys x hmem, hk, hconn]
    · by_contra hu
      exact hown hnone ⟨x, hmem, hk, hu, hopen⟩

/-- Another user's session that can be claimed is claimed. -/
theorem Node.claim_other (hnone : n.sessions.find? r.connID = none) {x : Slot}
    (hx : x ∈ n.sessions) (hk : x.key = r.prevConnID)
    (hopen : (n.heap x.us).wsReconnected = false) :
    n.claimSession r = .ok ((n.heap x.us).rtc, n.markReconnected x.us) := by
  have hprev : n.sessions.find? r.prevConnID = some x := Table.find?_eq_some.2 ⟨hx, hk⟩
  rw [Node.claimSession, hnone, Option.none_or, hprev]
  dsimp only
  rw [hopen, if_neg Bool.false_ne_true]

/-- **The node of the request** leaves the sessions of the others alone unless it claims
one of them. -/
theorem handleReconnect_spares_iff (h : n.Owned owner)
    (hconn : owner r.connID = r.userID)
    (horig : ∀ st, reconnectCall e r = .ok st → owner r.originalConnID = r.userID) :
    (∀ userID, userID ≠ r.userID → n.Spares owner (handleReconnect e r n).2 userID) ↔
      ¬ n.Claims e r := by
  constructor
  · rintro hspares ⟨⟨st, hcall⟩, hnone, x, hx, hk, hu, hopen⟩
    have hclaim := Node.claim_other hnone hx hk hopen
    have hkept := (hspares _ hu).not_marked (h.slots x hx) rfl hopen
    have hmarked : ((n.markReconnected x.us).heap x.us).wsReconnected = true := by
      rw [Node.markReconnected_self]
    have hafter : ((handleReconnect e r n).2.heap x.us).wsReconnected = true := by
      rcases handleReconnect_cases e r n with ⟨err, he, hno⟩ |
        ⟨st', rtc', n₁', err, -, hclaim', -, -, he⟩ |
          ⟨st', rtc', n₁', -, hclaim', -, he⟩
      · obtain ⟨err', herr⟩ := hno st hcall
        rw [hclaim] at herr
        cases herr
      · rw [hclaim] at hclaim'
        cases hclaim'
        rw [he]
        exact hmarked
      · rw [hclaim] at hclaim'
        cases hclaim'
        rw [he]
        have hold : ((n.markReconnected x.us).storeSession r st'.call.id
            (n.heap x.us).rtc).heap x.us =
            (n.markReconnected x.us).heap x.us :=
          Function.update_of_ne (h.slots x hx).ne ..
        rw [hold]
        exact hmarked
    rw [hafter] at hkept
    cases hkept
  · intro hno userID hne
    rcases handleReconnect_cases e r n with ⟨err, he, -⟩ |
      ⟨st, rtc, n₁, err, hcall, hclaim, -, -, he⟩ |
        ⟨st, rtc, n₁, hcall, hclaim, -, he⟩ <;> rw [he]
    · exact .refl _ _ _
    all_goals
      have hmark : n.Spares owner n₁ userID ∧ n₁.next = n.next := by
        rcases h.claim_own hconn hclaim fun hnone hother =>
            hno ⟨⟨st, hcall⟩, hnone, hother⟩ with
          rfl | ⟨us, hu, rfl⟩
        · exact ⟨.refl _ _ _, rfl⟩
        · exact ⟨.set owner n (hu ▸ hne.symm) rfl, rfl⟩
      obtain ⟨hmark, hnext⟩ := hmark
    · exact hmark
    · have h₁ : n₁.Owned owner := h.evolves (.claimSession hclaim)
      have herase :
          n₁.Spares owner { n₁ with sessions := n₁.sessions.erase r.originalConnID }
          userID := .erase h₁ (horig st hcall ▸ hne.symm)
      have hstore :
          Node.Spares owner { n₁ with sessions := n₁.sessions.erase r.originalConnID }
          (n₁.storeSession r st.call.id rtc) userID :=
        .insertSession (h₁.evolves (.erase _ _)) (hconn ▸ hne.symm)
          (horig st hcall ▸ hne.symm)
      exact (hmark.trans herase hnext.ge).trans hstore hnext.ge

end Request

/-! ## On the other nodes -/

/-- **Another node** leaves the sessions of the others alone unless it has one of them
under the previous connection id. -/
theorem handleReconnectEvent_spares_iff {n : Node} {owner : String → String}
    (h : n.Owned owner) {r : ReconnectRequest} (callID : String) :
    (∀ userID, userID ≠ r.userID → n.Spares owner
      (handleReconnectEvent ⟨r.prevConnID, r.connID, r.userID, callID⟩ n).2 userID) ↔
      ¬ n.HoldsOther r := by
  constructor
  · rintro hspares ⟨x, hx, hk, hu, hopen⟩
    have hfind : n.sessions.find? r.prevConnID = some x :=
      Table.find?_eq_some.2 ⟨hx, hk⟩
    have hkept := (hspares _ hu).not_marked (h.slots x hx) rfl hopen
    have hmarked : ((n.markReconnected x.us).heap x.us).wsReconnected = true := by
      rw [Node.markReconnected_self]
    unfold handleReconnectEvent at hkept
    dsimp only at hkept
    rw [hfind] at hkept
    dsimp only at hkept
    rw [hopen, if_neg Bool.false_ne_true] at hkept
    split at hkept
    · unfold Node.set at hkept
      dsimp only at hkept
      rw [Function.update_self, hmarked] at hkept
      cases hkept
    · dsimp only at hkept
      rw [hmarked] at hkept
      cases hkept
  · intro hno userID hne
    unfold handleReconnectEvent
    split
    next => exact .refl _ _ _
    next x hfind =>
      obtain ⟨hx, hk⟩ := Table.find?_eq_some.1 hfind
      split
      next => exact .refl _ _ _
      next hopen =>
        have hu : (n.heap x.us).userID = r.userID := by
          by_contra hu
          exact hno ⟨x, hx, hk, hu, by simpa using hopen⟩
        have hother : (n.heap x.us).userID ≠ userID := hu ▸ hne.symm
        have hmark : n.Spares owner (n.markReconnected x.us) userID :=
          .set owner n hother rfl
        have hmark' : (n.markReconnected x.us).Owned owner :=
          h.evolves (.markReconnected n x.us)
        dsimp only
        split
        next =>
          refine hmark.trans (.set owner _ ?_ rfl) le_rfl
          rw [Node.markReconnected_self]
          exact hother
        next hrtc =>
          refine hmark.trans (.erase hmark' ?_) le_rfl
          have hplain := hmark'.plain x hx (by simpa using hrtc)
          rw [hplain, ← h.keys x hx]
          exact hother

/-! ## Both -/

section Both

variable {N : Type} [DecidableEq N] {d : Deployment N} {c later : Net N}

/-- **Reconnecting without harm to others.**  In every run, a request to reconnect over
one of its user's connections leaves the sessions of all other users alone, on its node
and, by the message it sends, on every other one at any later time, if and only if it
claims nobody else's session, and no other node has one under the previous connection id
it names when the message comes. -/
theorem reconnect_spares_iff (hc : (Net.machine d).Runs Machine.Always .empty c)
    (hlater : (Net.machine d).Runs Machine.Always .empty later) {n : N}
    {e : ReconnectEnv} {r : ReconnectRequest} {told : Bool}
    (hen : c.Enabled d (.reconnect n e r told)) :
    ((∀ userID, userID ≠ r.userID →
        (c.nodes n).Spares d.owner (handleReconnect e r (c.nodes n)).2 userID) ∧
      ∀ msg, (handleReconnect e r (c.nodes n)).1 = .ok msg → ∀ m, m ∈ d.peers → m ≠ n →
        ∀ userID, userID ≠ r.userID →
          (later.nodes m).Spares d.owner
            (handleReconnectEvent msg (later.nodes m)).2 userID) ↔
      ¬ (c.nodes n).Claims e r ∧
        ((c.nodes n).Accepts e r → ∀ m, m ∈ d.peers → m ≠ n →
          ¬ (later.nodes m).HoldsOther r) := by
  have hown := Net.owned_of_runs hc
  have howned := Net.owned_of_runs hlater
  have horig : ∀ st, reconnectCall e r = .ok st →
      d.owner r.originalConnID = r.userID := by
    intro st hcall
    obtain ⟨hst, row, hrow, hid, huser⟩ := reconnectCall_ok hcall
    have hj := hown.joined _ ((hen.2 _ hst).2.1 row hrow)
    change row.userID = d.owner row.id at hj
    rw [← hid, ← hj, huser]
  rw [handleReconnect_spares_iff (hown.nodes n) hen.1 horig]
  refine and_congr_right fun _ => ?_
  have haccept : (∃ msg, (handleReconnect e r (c.nodes n)).1 = .ok msg) ↔
      (c.nodes n).Accepts e r := handleReconnect_isOk_iff
  constructor
  · intro h hacc m hm hne
    obtain ⟨msg, hmsg⟩ := haccept.2 hacc
    obtain ⟨callID, rfl⟩ := handleReconnect_msg hmsg
    exact (handleReconnectEvent_spares_iff (howned.nodes m) callID).1
      (h _ hmsg m hm hne)
  · intro h msg hmsg m hm hne
    obtain ⟨callID, rfl⟩ := handleReconnect_msg hmsg
    exact (handleReconnectEvent_spares_iff (howned.nodes m) callID).2
      (h (haccept.1 ⟨_, hmsg⟩) m hm hne)

end Both

/-! ## Runs with two users

Alice and Mallory join through the node `false`; the node `true` handles the RTC. -/

/-- Alice has the connections `a0` and `a1`. -/
def twoUsers : Deployment Bool where
  peers := [false, true]
  owner id := if id = "a0" ∨ id = "a1" then "alice" else "mallory"
  channel _ := "chan"
  handler _ := some true

/-- Both have joined. -/
def bothJoined : Net Bool :=
  ((Net.empty : Net Bool).step twoUsers
    (.join false "alice" "a0" "chan" sampleCall.id false true)).step twoUsers
    (.join false "mallory" "m0" "chan" sampleCall.id false true)

theorem bothJoined_runs :
    (Net.machine twoUsers).Runs Machine.Always (.empty : Net Bool) bothJoined := by
  refine .step (Action.join false "mallory" "m0" "chan" sampleCall.id false true)
    (.step (Action.join false "alice" "a0" "chan" sampleCall.id false true)
      .refl ?_ trivial) ?_
    trivial
  · exact ⟨by decide, rfl, fun h => nomatch h⟩
  · exact ⟨by decide, rfl, fun h => nomatch h⟩

/-- The call has both sessions. -/
def bothInCall : ReconnectEnv where
  hasPermission := true
  isBot := false
  state := .ok (some ⟨sampleCall, ⟨[⟨"a0", sampleCall.id, "alice", 10, false, 0, false⟩,
    ⟨"m0", sampleCall.id, "mallory", 10, false, 0, false⟩], by decide⟩,
      none, none, none⟩)
  handleBotWSReconnect := .ok ()

/-- Mallory's request, with the previous connection id she likes. -/
def malloryReconnects (prevConnID : String) : ReconnectRequest :=
  ⟨"mallory", "m1", "chan", "m0", prevConnID⟩

theorem bothJoined_enabled (prevConnID : String) :
    bothJoined.Enabled twoUsers
      (.reconnect false bothInCall (malloryReconnects prevConnID) true) := by
  have howner : twoUsers.owner "m1" = "mallory" := by decide
  refine ⟨howner, fun st hst => ?_⟩
  cases hst
  exact ⟨rfl, by decide, fun h => nomatch h⟩

/-- With her own previous connection she does no harm to Alice. -/
theorem reconnect_spares_own : (bothJoined.nodes false).Spares twoUsers.owner
    (handleReconnect bothInCall (malloryReconnects "m0") (bothJoined.nodes false)).2
    "alice" := by
  have hiff :=
    reconnect_spares_iff bothJoined_runs bothJoined_runs (bothJoined_enabled "m0")
  refine (hiff.2 ⟨?_, fun _ m hm hne => ?_⟩).1 "alice" (by decide)
  · rintro ⟨-, -, x, hx, hk, hu, -⟩
    have hno : ∀ x ∈ (bothJoined.nodes false).sessions.rows, x.key = "m0" →
        ((bothJoined.nodes false).heap x.us).userID = "mallory" := by decide
    exact hu (hno x hx hk)
  · rintro ⟨x, hx, -⟩
    cases m with
    | false => exact hne rfl
    | true => cases hx

/-- With Alice's, Alice's session is taken to have reconnected. -/
theorem reconnect_takes_other : ∃ (c : Net Bool) (r : ReconnectRequest) (us : Nat),
    (Net.machine twoUsers).Runs Machine.Always .empty c ∧
      c.Enabled twoUsers (.reconnect false bothInCall r true) ∧ r.userID = "mallory" ∧
      us < (c.nodes false).next ∧ ((c.nodes false).heap us).userID = "alice" ∧
      ((c.nodes false).heap us).wsReconnected = false ∧
      ((handleReconnect bothInCall r (c.nodes false)).2.heap us).wsReconnected = true ∧
      ¬ (c.nodes false).Spares twoUsers.owner
        (handleReconnect bothInCall r (c.nodes false)).2 "alice" := by
  refine ⟨bothJoined, malloryReconnects "a0", 0, bothJoined_runs,
    bothJoined_enabled "a0", rfl,
    by decide, by decide, by decide, by decide, fun h => ?_⟩
  have hopen := h.not_marked (show 0 < (bothJoined.nodes false).next by decide)
    (by decide) (by decide)
  have hmarked : ((handleReconnect bothInCall (malloryReconnects "a0")
      (bothJoined.nodes false)).2.heap 0).wsReconnected = true := by decide
  rw [hmarked] at hopen
  cases hopen

end CallsPlugin.Ports
