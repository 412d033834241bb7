import CallsPlugin.Ports.NodeSteps

/-!
# The sessions that routines have in hand

Routines, RTC sessions and removals point to sessions of their node that may have left
the map.  They always point to a session that was stored.
-/

namespace CallsPlugin.Ports

open CallsPlugin.Verified

section Pointers

variable {N : Type} [DecidableEq N] {d : Deployment N} {c c' : Net N}

/-- The sessions that are not only pointed to by the maps and by routines that read. -/
def Net.pointers (c : Net N) : List (N × Nat) :=
  c.leaving.map (fun x => (x.1, x.2.us)) ++ c.spawned ++ c.serving ++
    c.opened.map (fun s => (s.node, s.us)) ++ c.removals.map fun x => (x.1, x.2.1)

omit [DecidableEq N] in
theorem Net.mem_pointers {x : N × Nat} : x ∈ c.pointers ↔
    (∃ y ∈ c.leaving, (y.1, y.2.us) = x) ∨ x ∈ c.spawned ∨ x ∈ c.serving ∨
      (∃ s ∈ c.opened, (s.node, s.us) = x) ∨ ∃ y ∈ c.removals, (y.1, y.2.1) = x := by
  simp only [Net.pointers, List.mem_append, List.mem_map, or_assoc]

omit [DecidableEq N] in
theorem Net.pointers_subset (hleaving : c'.leaving ⊆ c.leaving)
    (hspawned : c'.spawned ⊆ c.spawned)
    (hserving : c'.serving ⊆ c.serving) (hopened : c'.opened ⊆ c.opened)
    (hremovals : c'.removals ⊆ c.removals) : c'.pointers ⊆ c.pointers := by
  intro x hx
  rw [Net.mem_pointers] at hx ⊢
  rcases hx with ⟨y, hy, he⟩ | hx | hx | ⟨s, hs, he⟩ | ⟨y, hy, he⟩
  · exact .inl ⟨y, hleaving hy, he⟩
  · exact .inr (.inl (hspawned hx))
  · exact .inr (.inr (.inl (hserving hx)))
  · exact .inr (.inr (.inr (.inl ⟨s, hopened hs, he⟩)))
  · exact .inr (.inr (.inr (.inr ⟨y, hremovals hy, he⟩)))

@[simp] theorem Net.closeRTCSession_pointers (handler : Option N) (n : N)
    (connID orig : String) :
    (c.closeRTCSession handler n connID orig).pointers = c.pointers := by
  rw [Net.closeRTCSession_eq]
  rfl

/-- A removal that starts points to its session. -/
theorem Net.mem_removeSession_pointers {n : N} {us : Nat} {how : Removal} {x : N × Nat}
    (hx : x ∈ (c.removeSession n us how).pointers) : x ∈ c.pointers ∨ x = (n, us) := by
  unfold Net.removeSession at hx
  dsimp only at hx
  split at hx
  · exact .inl hx
  · rw [Net.mem_pointers] at hx ⊢
    rcases hx with hx | hx | hx | hx | ⟨y, hy, he⟩
    · exact .inl (.inl hx)
    · exact .inl (.inr (.inl hx))
    · exact .inl (.inr (.inr (.inl hx)))
    · exact .inl (.inr (.inr (.inr (.inl hx))))
    · rcases List.mem_cons.1 hy with rfl | hy
      · exact .inr he.symm
      · exact .inl (.inr (.inr (.inr (.inr ⟨y, hy, he⟩))))

theorem Net.removeSessionFromCall_pointers (n : N) (us : Nat) :
    (c.removeSessionFromCall n us).pointers = c.pointers := by
  rw [Net.removeSessionFromCall_eq]
  rfl

/-- A step keeps the sessions, and stores new ones at the end. -/
theorem Net.next_le_step (d : Deployment N) (c : Net N) (a : Action N) (n : N) :
    (c.nodes n).next ≤ ((c.step d a).nodes n).next := by
  rcases Net.nodes_step d c a n with he | ⟨n₁, k, s, l, h₁, -, -, hn⟩
  · exact he.next.ge
  · rw [hn, ← h₁.next]
    exact Nat.le_succ _

/-- Where a step finds the sessions it points to: among those pointed to before, in a
routine that reads, in the map of the node, or newly stored. -/
def Net.Reached (c c' : Net N) (x : N × Nat) : Prop :=
  x ∈ c.pointers ∨ (∃ r ∈ (c.nodes x.1).readers, r.us = x.2) ∨
    (∃ y ∈ (c.nodes x.1).sessions, y.us = x.2) ∨ x.2 < (c'.nodes x.1).next

/-! ### The actions that point to a session -/

section Actions

variable {n : N} {r : Reader} {us : Nat} {how : Removal} {x : N × Nat}

omit [DecidableEq N] in
/-- A routine that is about to leave points to its session. -/
theorem Net.pointers_leaving
    (hx : x ∈ Net.pointers { c with leaving := (n, r) :: c.leaving }) :
    x ∈ c.pointers ∨ x = (n, r.us) := by
  rcases Net.mem_pointers.1 hx with ⟨y, hy, he⟩ | hx
  · rcases List.mem_cons.1 hy with rfl | hy
    · exact .inr he.symm
    · exact .inl (Net.mem_pointers.2 (.inl ⟨y, hy, he⟩))
  · exact .inl (Net.mem_pointers.2 (.inr hx))

omit [DecidableEq N] in
/-- An RTC session points to its session. -/
theorem Net.pointers_opened {o : RtcSession N}
    (hx : x ∈ Net.pointers { c with opened := o :: c.opened }) :
    x ∈ c.pointers ∨ x = (o.node, o.us) := by
  rcases Net.mem_pointers.1 hx with hx | hx | hx | ⟨y, hy, he⟩ | hx
  · exact .inl (Net.mem_pointers.2 (.inl hx))
  · exact .inl (Net.mem_pointers.2 (.inr (.inl hx)))
  · exact .inl (Net.mem_pointers.2 (.inr (.inr (.inl hx))))
  · rcases List.mem_cons.1 hy with rfl | hy
    · exact .inr he.symm
    · exact .inl (Net.mem_pointers.2 (.inr (.inr (.inr (.inl ⟨y, hy, he⟩)))))
  · exact .inl (Net.mem_pointers.2 (.inr (.inr (.inr (.inr hx)))))

/-- A join points to the session it stores. -/
theorem Net.pointers_join {userID connID channelID callID : String} {queued ok : Bool}
    (hx : x ∈ (c.step d (.join n userID connID channelID callID queued ok)).pointers) :
    c.Reached (c.step d (.join n userID connID channelID callID queued ok)) x := by
  have hnew : x = (n, (c.nodes n).next) →
      c.Reached (c.step d (.join n userID connID channelID callID queued ok)) x := by
    rintro rfl
    refine .inr (.inr (.inr ?_))
    simp only [Net.step, Net.addSessionToCall_nodes, Net.setNode_self]
    exact Nat.lt_succ_self _
  simp only [Net.step, Net.addSessionToCall] at hx
  split at hx
  · split at hx
    · exact .inl hx
    · split at hx
      · exact (Net.pointers_opened hx).elim .inl hnew
      · exact .inl hx
  · split_ifs at hx <;> exact (Net.pointers_leaving hx).elim .inl hnew

/-- A connect message of the cluster points to the session it stores. -/
theorem Net.pointers_connect {msg : ConnectMessage} {iter : List Slot → List Slot}
    (hx : x ∈ (c.step d (.handleEvent n (.connect msg) iter)).pointers) :
    c.Reached (c.step d (.handleEvent n (.connect msg) iter)) x := by
  have hnext : ∀ node, handleConnectEvent msg (c.nodes n) = (.ok (), node) →
      node.next = (c.nodes n).next + 1 := by
    intro node hok
    unfold handleConnectEvent at hok
    split at hok <;> cases hok
    rfl
  simp only [Net.step, Net.handleEvent, Net.Reached] at hx ⊢
  split at hx
  next => exact .inl hx
  next _ node hok =>
    have hok : handleConnectEvent msg (c.nodes n) = (.ok (), node) := hok
    rcases Net.mem_pointers.1 hx with hx | hx | hx
    · exact .inl (Net.mem_pointers.2 (.inl hx))
    · rcases List.mem_cons.1 hx with rfl | hx
      · refine .inr (.inr (.inr ?_))
        show _ < ((Net.setNode _ n node).nodes n).next
        rw [Net.setNode_self, hnext node hok]
        exact Nat.lt_succ_self _
      · exact .inl (Net.mem_pointers.2 (.inr (.inl hx)))
    · exact .inl (Net.mem_pointers.2 (.inr (.inr hx)))

/-- A routine that leaves hands its session on to the removal. -/
theorem Net.pointers_handleLeave {exit : LeaveExit}
    (hen : c.Enabled d (.handleLeave n r exit how))
    (hx : x ∈ (c.step d (.handleLeave n r exit how)).pointers) : x ∈ c.pointers := by
  have hleft : ∀ c' : Net N, c'.leaving = c.leaving.erase (n, r) →
      c'.spawned = c.spawned →
      c'.serving = c.serving → c'.opened = c.opened → c'.removals = c.removals →
      c'.pointers ⊆ c.pointers := by
    intro c' h₁ h₂ h₃ h₄ h₅
    exact Net.pointers_subset (h₁ ▸ List.erase_subset) (h₂ ▸ List.Subset.refl _)
      (h₃ ▸ List.Subset.refl _) (h₄ ▸ List.Subset.refl _) (h₅ ▸ List.Subset.refl _)
  have hremove : exit = .left ∨ exit = .timeout → x ∈ c.pointers := by
    intro hexit
    have hmem : x ∈ (({ c with leaving := c.leaving.erase (n, r) }.setNode n
        { c.nodes n with readers := (c.nodes n).readers.erase r }).closeRTCSession
          (d.handler ((c.nodes n).heap r.us).callID) n
            ((c.nodes n).heap r.us).originalConnID
          ((c.nodes n).heap r.us).originalConnID |>.removeSession n r.us
              how).pointers := by
      rcases hexit with rfl | rfl <;> exact hx
    rcases Net.mem_removeSession_pointers hmem with hmem | rfl
    · rw [Net.closeRTCSession_pointers] at hmem
      exact hleft _ (by rfl) (by rfl) (by rfl) (by rfl) (by rfl) hmem
    · exact Net.mem_pointers.2 (.inl ⟨_, hen.1, rfl⟩)
  cases exit with
  | reconnected => exact hleft _ (by rfl) (by rfl) (by rfl) (by rfl) (by rfl) hx
  | rtcClosed => exact hleft _ (by rfl) (by rfl) (by rfl) (by rfl) (by rfl) hx
  | left => exact hremove (.inl rfl)
  | timeout => exact hremove (.inr rfl)

/-- An RTC session is started for the session of a connect message. -/
theorem Net.pointers_startSession {ok : Bool}
    (hen : c.Enabled d (.startSession n us ok))
    (hx : x ∈ (c.step d (.startSession n us ok)).pointers) : x ∈ c.pointers := by
  have hspawned : (n, us) ∈ c.pointers := Net.mem_pointers.2 (.inr (.inl hen))
  have herased : Net.pointers { c with spawned := c.spawned.erase (n, us) } ⊆
      c.pointers :=
    Net.pointers_subset (List.Subset.refl _) List.erase_subset (List.Subset.refl _)
      (List.Subset.refl _) (List.Subset.refl _)
  simp only [Net.step] at hx
  split at hx
  · rcases Net.pointers_opened (c := { c with
        spawned := c.spawned.erase (n, us), serving := (n, us) :: c.serving })
          hx with hx | rfl
    · rcases Net.mem_pointers.1 hx with hx | hx | hx | hx
      · exact Net.mem_pointers.2 (.inl hx)
      · exact Net.mem_pointers.2 (.inr (.inl (List.mem_of_mem_erase hx)))
      · rcases List.mem_cons.1 hx with rfl | hx
        · exact hspawned
        · exact Net.mem_pointers.2 (.inr (.inr (.inl hx)))
      · exact Net.mem_pointers.2 (.inr (.inr (.inr hx)))
    · exact hspawned
  · exact herased hx

/-- An RTC session that closes hands its session on to the removal. -/
theorem Net.pointers_rtcClosed {o : RtcSession N} (hen : c.Enabled d (.rtcClosed o how))
    (hx : x ∈ (c.step d (.rtcClosed o how)).pointers) : x ∈ c.pointers := by
  have hclosed : Net.pointers { c with opened := c.opened.erase o } ⊆ c.pointers :=
    Net.pointers_subset (List.Subset.refl _) (List.Subset.refl _) (List.Subset.refl _)
      List.erase_subset (List.Subset.refl _)
  simp only [Net.step, Net.rtcCallback] at hx
  split at hx
  · rcases Net.mem_removeSession_pointers hx with hx | rfl
    · exact hclosed hx
    · exact Net.mem_pointers.2 (.inr (.inr (.inr (.inl ⟨o, hen, rfl⟩))))
  · exact hclosed hx

/-- A session that rtcd closes is found in the map of the node. -/
theorem Net.pointers_rtcdClosed {sessionID : String} {iter : List Slot → List Slot}
    (hen : c.Enabled d (.rtcdClosed n sessionID iter how))
    (hx : x ∈ (c.step d (.rtcdClosed n sessionID iter how)).pointers) :
    x ∈ c.pointers ∨ ∃ y ∈ (c.nodes x.1).sessions, y.us = x.2 := by
  simp only [Net.step, Net.rtcdCallback] at hx
  split at hx
  next => exact .inl hx
  next slot hslot =>
    split at hx
    · exact .inl hx
    · rcases Net.mem_removeSession_pointers hx with hx | rfl
      · exact .inl hx
      · exact .inr ⟨slot, (Node.slotByOriginalID_eq_some hen hslot).1, rfl⟩

/-- A removal that is done points to its session no more. -/
theorem Net.pointers_remove {ok : Bool}
    (hx : x ∈ (c.step d (.remove n us how ok)).pointers) :
    x ∈ c.pointers := by
  have hremoved : Net.pointers { c with removals := c.removals.erase (n, us, how) } ⊆
      c.pointers :=
    Net.pointers_subset (List.Subset.refl _) (List.Subset.refl _) (List.Subset.refl _)
      (List.Subset.refl _) List.erase_subset
  simp only [Net.step] at hx
  split at hx
  · rw [Net.removeSessionFromCall_pointers] at hx
    exact hremoved hx
  · exact hremoved hx

end Actions

/-- What is pointed to after a step was pointed to before, or has just been stored. -/
theorem Net.pointers_step {a : Action N} (hen : c.Enabled d a) {x : N × Nat}
    (hx : x ∈ (c.step d a).pointers) : c.Reached (c.step d a) x := by
  cases a with
  | queueJoin n channelID => exact .inl hx
  | refuseJoin n channelID queued =>
      simp only [Net.step] at hx
      split at hx <;> exact .inl hx
  | join n userID connID channelID callID queued ok => exact Net.pointers_join hx
  | reconnect n e r told =>
      simp only [Net.step] at hx
      split at hx <;> exact .inl hx
  | handleEvent n msg iter =>
      cases msg with
      | connect msg => exact Net.pointers_connect hx
      | reconnect msg => exact .inl hx
      | leave connID => exact .inl hx
      | disconnect connID => exact .inl hx
      | signaling connID =>
          simp only [Net.step, Net.handleEvent] at hx
          split at hx
          · exact .inl hx
          · split at hx <;> exact .inl hx
  | disconnect n connID => exact .inl hx
  | leave n connID => exact .inl hx
  | message n r =>
      simp only [Net.step, Net.relay] at hx
      split at hx
      · exact .inl hx
      · split at hx <;> exact .inl hx
  | stopReading n r =>
      rcases Net.pointers_leaving hx with hx | rfl
      · exact .inl hx
      · exact .inr (.inl ⟨r, hen.1, rfl⟩)
  | revoke n r =>
      simp only [Net.step] at hx
      rw [Net.closeRTCSession_eq] at hx
      rcases Net.pointers_leaving (c := c) hx with hx | rfl
      · exact .inl hx
      · exact .inr (.inl ⟨r, hen.1, rfl⟩)
  | handleLeave n r exit how => exact .inl (Net.pointers_handleLeave hen hx)
  | startSession n us ok => exact .inl (Net.pointers_startSession hen hx)
  | endSession n us =>
      have hended : Net.pointers { c with serving := c.serving.erase (n, us) } ⊆
          c.pointers :=
        Net.pointers_subset (List.Subset.refl _) (List.Subset.refl _) List.erase_subset
          (List.Subset.refl _) (List.Subset.refl _)
      exact .inl (hended hx)
  | rtcClosed o how => exact .inl (Net.pointers_rtcClosed hen hx)
  | rtcdClosed n sessionID iter how =>
      exact (Net.pointers_rtcdClosed hen hx).imp_right fun h => .inr (.inl h)
  | remove n us how ok => exact .inl (Net.pointers_remove hx)
  | putOut n sessionID callID =>
      simp only [Net.step, Net.closeRTCSession_pointers] at hx
      exact .inl hx

/-- Everything that is pointed to has been stored. -/
def Net.Bounded (c : Net N) : Prop := ∀ x ∈ c.pointers, x.2 < (c.nodes x.1).next

theorem Net.Bounded.step (h : c.Bounded) (happ : c.Apart) {a : Action N}
    (hen : c.Enabled d a) :
    (c.step d a).Bounded := by
  intro x hx
  have hle := Net.next_le_step d c a x.1
  rcases Net.pointers_step hen hx with hx | ⟨r, hr, hus⟩ | ⟨y, hy, hus⟩ | hlt
  · exact (h x hx).trans_le hle
  · exact hus ▸ ((happ x.1).routines r hr).trans_le hle
  · exact hus ▸ ((happ x.1).slots y hy).trans_le hle
  · exact hlt

end Pointers

end CallsPlugin.Ports
