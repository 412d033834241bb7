import CallsPlugin.Ports.Pointers
import CallsPlugin.Ports.Interference

/-!
# The map of sessions of a node

The map is keyed by connection ids, the sessions in it have connection ids of their own,
and what joins and reconnections leave in it of a participant's earlier session is
cleared by that session's routine.  This module says when the map has one entry for each
live session and no other, and keeps the batchers of a channel only as long as they are
of use.
-/

namespace CallsPlugin.Ports

open CallsPlugin.Verified

/-! ## One node -/

/-- A session that has reconnected and is about to be cleared by its routine. -/
def Node.Finishing (n : Node) (x : Slot) : Prop :=
  (n.heap x.us).rtc = false ∧ (n.heap x.us).wsReconnected = true ∧
    ⟨x.key, x.us⟩ ∈ n.readers

/-- The map has the live sessions and those that are about to be cleared, each under its
connection id; a participant has one live session; and a batcher of a channel has work
to do unless a live session of the channel is there. -/
structure Node.Orderly (channel : String → String) (n : Node) (live : Nat → Prop)
    (idle : String → Prop) : Prop extends n.Apart where
  connID : ∀ x ∈ n.sessions, (n.heap x.us).connID = x.key
  entries : ∀ x ∈ n.sessions, live x.us ∨ n.Finishing x
  tracked : ∀ us, live us → ∃ x ∈ n.sessions, x.us = us
  open_ : ∀ us, live us → (n.heap us).rtc = false → (n.heap us).wsReconnected = false
  one : ∀ us us', live us → live us' →
    (n.heap us).originalConnID = (n.heap us').originalConnID → us = us'
  channels : ∀ us, us < n.next → channel (n.heap us).callID = (n.heap us).channelID
  batchers : ∀ channelID, idle channelID →
    ∃ us, live us ∧ (n.heap us).channelID = channelID

section Node

variable {channel : String → String} {n n' : Node} {live live' : Nat → Prop}
  {idle idle' : String → Prop}

theorem Node.Finishing.not_live (h : n.Orderly channel live idle) {x : Slot}
    (hx : n.Finishing x) :
    ¬ live x.us := by
  intro hlive
  have hopen := h.open_ _ hlive hx.1
  rw [hx.2.1] at hopen
  cases hopen

/-- The entry of a live session. -/
theorem Node.Orderly.slot (h : n.Orderly channel live idle) {us : Nat}
    (hlive : live us) :
    (⟨(n.heap us).connID, us⟩ : Slot) ∈ n.sessions := by
  obtain ⟨x, hx, rfl⟩ := h.tracked us hlive
  rw [h.connID x hx]
  exact hx

/-- Steps that touch nothing of this. -/
theorem Node.Orderly.frame (h : n.Orderly channel live idle)
    (hs : n'.sessions = n.sessions)
    (hr : n'.readers = n.readers) (hnext : n'.next = n.next)
    (hheap : ∀ us, (n'.heap us).connID = (n.heap us).connID ∧
      (n'.heap us).originalConnID = (n.heap us).originalConnID ∧
      (n'.heap us).callID = (n.heap us).callID ∧
      (n'.heap us).channelID = (n.heap us).channelID ∧
      (n'.heap us).rtc = (n.heap us).rtc ∧
      ((n.heap us).rtc = false →
        (n'.heap us).wsReconnected = (n.heap us).wsReconnected))
    (hidle : ∀ channelID, idle' channelID →
      idle channelID ∨ ∃ us, live us ∧ (n.heap us).channelID = channelID) :
    n'.Orderly channel live idle' where
  slots x hx := hnext ▸ h.slots x (hs ▸ hx)
  routines r hr' := hnext ▸ h.routines r (hr ▸ hr')
  apart x hx y hy := h.apart x (hs ▸ hx) y (hs ▸ hy)
  connID x hx := (hheap x.us).1.trans (h.connID x (hs ▸ hx))
  entries x hx := by
    refine (h.entries x (hs ▸ hx)).imp_right fun hfin => ?_
    obtain ⟨-, -, -, -, hrtc, hrec⟩ := hheap x.us
    exact ⟨hrtc.trans hfin.1, (hrec hfin.1).trans hfin.2.1, hr ▸ hfin.2.2⟩
  tracked us hlive := hs ▸ h.tracked us hlive
  open_ us hlive hrtc := by
    obtain ⟨-, -, -, -, hrtc', hrec⟩ := hheap us
    have hrtc := hrtc'.symm.trans hrtc
    exact (hrec hrtc).trans (h.open_ us hlive hrtc)
  one us us' hlive hlive' ho := by
    rw [(hheap us).2.1, (hheap us').2.1] at ho
    exact h.one us us' hlive hlive' ho
  channels us hlt := by
    obtain ⟨-, -, hcall, hchan, -⟩ := hheap us
    rw [hcall, hchan]
    exact h.channels us (hnext ▸ hlt)
  batchers channelID hi := by
    have hb : ∃ us, live us ∧ (n.heap us).channelID = channelID :=
      (hidle channelID hi).elim (h.batchers channelID) id
    obtain ⟨us, hlive, hchan⟩ := hb
    exact ⟨us, hlive, (hheap us).2.2.2.1.trans hchan⟩

/-- Flags of a session other than the reconnection mark. -/
theorem Node.Orderly.set (h : n.Orderly channel live idle) {us : Nat} {s : Session}
    (hs : s.connID = (n.heap us).connID ∧
      s.originalConnID = (n.heap us).originalConnID ∧
      s.callID = (n.heap us).callID ∧ s.channelID = (n.heap us).channelID ∧
      s.rtc = (n.heap us).rtc ∧
      ((n.heap us).rtc = false → s.wsReconnected = (n.heap us).wsReconnected))
    (hidle : ∀ channelID, idle' channelID →
      idle channelID ∨ ∃ us, live us ∧ (n.heap us).channelID = channelID) :
    (n.set us s).Orderly channel live idle' := by
  refine h.frame rfl rfl rfl (fun us' => ?_) hidle
  by_cases hus : us' = us
  · subst hus
    have hself : (n.set us' s).heap us' = s := Function.update_self ..
    rw [hself]
    exact hs
  · have hother : (n.set us s).heap us' = n.heap us' := Function.update_of_ne hus ..
    rw [hother]
    exact ⟨rfl, rfl, rfl, rfl, rfl, fun _ => rfl⟩

theorem Node.Orderly.adjust (h : n.Orderly channel live idle) {connID : String}
    {f : Session → Session}
    (hf : ∀ s, (f s).connID = s.connID ∧ (f s).originalConnID = s.originalConnID ∧
      (f s).callID = s.callID ∧ (f s).channelID = s.channelID ∧ (f s).rtc = s.rtc ∧
      (f s).wsReconnected = s.wsReconnected) :
      (n.adjust connID f).Orderly channel live idle := by
  unfold Node.adjust
  split
  · exact h
  next x _ =>
    obtain ⟨h₁, h₂, h₃, h₄, h₅, h₆⟩ := hf (n.heap x.us)
    exact h.set ⟨h₁, h₂, h₃, h₄, h₅, fun _ => h₆⟩ fun _ hi => .inl hi

/-! ### Storing a session -/

/-- What a session that is stored under the key `k` for the participant `o` may find of
others: sessions of the same participant and channel that it replaces in the map or that
it has claimed and whose routine will clear them, and sessions that are about to be
cleared. -/
def Node.Replaces (n : Node) (k o channelID : String) (claimed : Option Slot) : Prop :=
  ∀ x ∈ n.sessions, x.key = k ∨ x.key = o ∨ (n.heap x.us).originalConnID = o ∨
    claimed = some x → n.Finishing x ∨
      (n.heap x.us).originalConnID = o ∧ (n.heap x.us).channelID = channelID ∧
        (x.key = k ∨ x.key = o ∨
          claimed = some x ∧ (n.heap x.us).rtc = false ∧ ⟨x.key, x.us⟩ ∈ n.readers)

/-- The node after a session was stored: what it has claimed is marked. -/
structure Node.Renewed (n n' : Node) (k o : String) (s : Session)
    (claimed : Option Slot) :
    Prop where
  sessions : ∀ x, x ∈ n'.sessions ↔ (x ∈ n.sessions ∧ x.key ≠ k ∧ x.key ≠ o) ∨
    x = ⟨k, n.next⟩
  next : n'.next = n.next + 1
  routines : ∀ r ∈ n'.readers, r ∈ n.readers ∨ r = ⟨k, n.next⟩
  readers : ∀ r ∈ n.readers, r ∈ n'.readers
  new : n'.heap n.next = s
  old : ∀ us, us < n.next → n'.heap us = n.heap us ∨
    ∃ x, claimed = some x ∧ x.us = us ∧
    n'.heap us = { n.heap us with wsReconnected := true }
  claimed : ∀ x, claimed = some x → x ∈ n.sessions ∧
    (n.heap x.us).wsReconnected = false ∧
    n'.heap x.us = { n.heap x.us with wsReconnected := true }

/-- **A session is stored** and takes the place of the participant's live one. -/
theorem Node.Orderly.renew (h : n.Orderly channel live idle) {k o : String}
    {s : Session} {claimed : Option Slot} (hren : n.Renewed n' k o s claimed)
    (hrep : n.Replaces k o s.channelID claimed) (hconn : s.connID = k)
    (horig : s.originalConnID = o)
    (hopen : s.wsReconnected = false) (hchan : channel s.callID = s.channelID)
    (hlive : ∀ us, live' us ↔ us = n.next ∨ live us ∧ (n.heap us).originalConnID ≠ o)
    (hidle : ∀ channelID, idle' channelID → idle channelID ∨ channelID = s.channelID) :
    n'.Orderly channel live' idle' := by
  have hlt : ∀ us, live us → us < n.next := fun us hl => by
    obtain ⟨x, hx, rfl⟩ := h.tracked us hl
    exact h.slots x hx
  have hids : ∀ us, us < n.next → (n'.heap us).connID = (n.heap us).connID ∧
      (n'.heap us).originalConnID = (n.heap us).originalConnID ∧
      (n'.heap us).callID = (n.heap us).callID ∧
      (n'.heap us).channelID = (n.heap us).channelID ∧
      (n'.heap us).rtc = (n.heap us).rtc := by
    intro us hus
    rcases hren.old us hus with he | ⟨x, -, -, he⟩ <;> rw [he] <;>
      exact ⟨rfl, rfl, rfl, rfl, rfl⟩
  -- a session that stays live was not claimed
  have hkept : ∀ us, live us → (n.heap us).originalConnID ≠ o →
      n'.heap us = n.heap us := by
    intro us hl ho
    rcases hren.old us (hlt us hl) with he | ⟨x, hx, rfl, -⟩
    · exact he
    · obtain ⟨hmem, hwas, -⟩ := hren.claimed x hx
      rcases hrep x hmem (.inr (.inr (.inr hx))) with hfin | ⟨ho', -⟩
      · exact absurd hl (hfin.not_live h)
      · exact absurd ho' ho
  refine ⟨⟨fun x hx => ?_, fun r hr => ?_, fun x hx y hy hxy => ?_⟩, fun x hx => ?_,
    fun x hx => ?_,
    fun us hl => ?_, fun us hl hrtc => ?_, fun us us' hl hl' ho => ?_, fun us hus => ?_,
    fun channelID hi => ?_⟩
  · rcases (hren.sessions x).1 hx with ⟨hx, -⟩ | rfl
    · rw [hren.next]
      exact Nat.lt_succ_of_lt (h.slots x hx)
    · rw [hren.next]
      exact Nat.lt_succ_self _
  · rw [hren.next]
    rcases hren.routines r hr with hr | rfl
    · exact Nat.lt_succ_of_lt (h.routines r hr)
    · exact Nat.lt_succ_self _
  · rcases (hren.sessions x).1 hx with ⟨hx, -⟩ | rfl <;>
      rcases (hren.sessions y).1 hy with ⟨hy, -⟩ | rfl
    · exact h.apart x hx y hy hxy
    · exact absurd hxy (h.slots x hx).ne
    · exact absurd hxy (h.slots y hy).ne'
    · rfl
  · rcases (hren.sessions x).1 hx with ⟨hx, -⟩ | rfl
    · rw [(hids x.us (h.slots x hx)).1]
      exact h.connID x hx
    · rw [hren.new]
      exact hconn
  · rcases (hren.sessions x).1 hx with ⟨hx, hk, ho⟩ | rfl
    · have hfinishing : n.Finishing x → n'.Finishing x := by
        rintro ⟨hrtc, hrec, hreader⟩
        refine ⟨(hids x.us (h.slots x hx)).2.2.2.2.trans hrtc, ?_,
          hren.readers _ hreader⟩
        rcases hren.old x.us (h.slots x hx) with he | ⟨y, -, -, he⟩ <;> rw [he]
        exact hrec
      rcases h.entries x hx with hl | hfin
      · by_cases horig' : (n.heap x.us).originalConnID = o
        · rcases hrep x hx (.inr (.inr (.inl horig'))) with hfin |
            ⟨-, -, hk' | ho' | hclaim⟩
          · exact .inr (hfinishing hfin)
          · exact absurd hk' hk
          · exact absurd ho' ho
          · obtain ⟨hclaim, hrtc, hreader⟩ := hclaim
            obtain ⟨-, -, he⟩ := hren.claimed x hclaim
            refine .inr ⟨(hids x.us (h.slots x hx)).2.2.2.2.trans hrtc, ?_,
              hren.readers _ hreader⟩
            rw [he]
        · exact .inl ((hlive x.us).2 (.inr ⟨hl, horig'⟩))
      · exact .inr (hfinishing hfin)
    · exact .inl ((hlive _).2 (.inl rfl))
  · rcases (hlive us).1 hl with rfl | ⟨hl, ho⟩
    · exact ⟨⟨k, n.next⟩, (hren.sessions _).2 (.inr rfl), rfl⟩
    · obtain ⟨x, hx, rfl⟩ := h.tracked us hl
      refine ⟨x, (hren.sessions x).2 (.inl ⟨hx, fun hk => ?_, fun hk => ?_⟩), rfl⟩
      · rcases hrep x hx (.inl hk) with hfin | ⟨ho', -⟩
        · exact hfin.not_live h hl
        · exact ho ho'
      · rcases hrep x hx (.inr (.inl hk)) with hfin | ⟨ho', -⟩
        · exact hfin.not_live h hl
        · exact ho ho'
  · rcases (hlive us).1 hl with rfl | ⟨hl, ho⟩
    · rw [hren.new]
      exact hopen
    · rw [hkept us hl ho] at hrtc ⊢
      exact h.open_ us hl hrtc
  · rcases (hlive us).1 hl with rfl | ⟨hl, hne⟩ <;>
      rcases (hlive us').1 hl' with rfl | ⟨hl', hne'⟩
    · rfl
    · rw [hren.new, hkept us' hl' hne', horig] at ho
      exact absurd ho.symm hne'
    · rw [hren.new, hkept us hl hne, horig] at ho
      exact absurd ho hne
    · rw [hkept us hl hne, hkept us' hl' hne'] at ho
      exact h.one us us' hl hl' ho
  · rw [hren.next] at hus
    rcases Nat.lt_succ_iff_lt_or_eq.1 hus with hus | rfl
    · obtain ⟨-, -, hcall, hch, -⟩ := hids us hus
      rw [hcall, hch]
      exact h.channels us hus
    · rw [hren.new]
      exact hchan
  · have hnew : channelID = s.channelID →
        ∃ us, live' us ∧ (n'.heap us).channelID = channelID := by
      rintro rfl
      exact ⟨n.next, (hlive _).2 (.inl rfl), by rw [hren.new]⟩
    rcases hidle channelID hi with hi | hi
    · obtain ⟨us, hl, hch⟩ := h.batchers channelID hi
      by_cases ho : (n.heap us).originalConnID = o
      · obtain ⟨x, hx, rfl⟩ := h.tracked us hl
        rcases hrep x hx (.inr (.inr (.inl ho))) with hfin | ⟨-, hch', -⟩
        · exact absurd hl (hfin.not_live h)
        · exact hnew (hch.symm.trans hch')
      · refine ⟨us, (hlive us).2 (.inr ⟨hl, ho⟩), ?_⟩
        rw [hkept us hl ho]
        exact hch
    · exact hnew hi

/-- A session of a new participant is stored. -/
theorem Node.Renewed.insert (n : Node) (k : String) (s : Session) {l : List Reader}
    (hl : ∀ r ∈ l, r ∈ n.readers ∨ r = ⟨k, n.next⟩) (hsub : ∀ r ∈ n.readers, r ∈ l) :
    n.Renewed { n.insertSession k s with readers := l } k k s none where
  sessions x := by
    have hmem : x ∈ n.sessions.put ⟨k, n.next⟩ ↔ _ := Table.mem_put
    refine hmem.trans (or_congr_left (and_congr_right fun _ => ?_))
    exact (and_self_iff ..).symm
  next := rfl
  routines := hl
  readers := hsub
  new := Function.update_self ..
  old us hus := .inl (Function.update_of_ne hus.ne ..)
  claimed x hx := nomatch hx

/-- A session takes the place of the one that was claimed for it. -/
theorem Node.Renewed.store {r : ReconnectRequest} {rtc : Bool} {n₁ : Node}
    (hclaim : n.claimSession r = .ok (rtc, n₁)) (callID : String) {l : List Reader}
    (hl : ∀ x ∈ l, x ∈ n.readers ∨ x = ⟨r.connID, n.next⟩)
    (hsub : ∀ x ∈ n.readers, x ∈ l) (hslots : ∀ x ∈ n.sessions, x.us < n.next) :
    n.Renewed { n₁.storeSession r callID rtc with readers := l } r.connID
      r.originalConnID { newUserSession r.userID r.channelID r.connID callID rtc with
        originalConnID := r.originalConnID } (n.previous r) := by
  have hbase : n₁.sessions = n.sessions ∧ n₁.next = n.next := by
    rcases Node.claimSession_ok hclaim with ⟨-, -, rfl⟩ | ⟨x, -, -, -, rfl⟩ <;>
      exact ⟨rfl, rfl⟩
  have hold : ∀ us, us < n.next →
      (n₁.storeSession r callID rtc).heap us = n₁.heap us := fun us hus =>
    Function.update_of_ne (hbase.2 ▸ hus.ne) ..
  refine ⟨fun x => ?_, congrArg (· + 1) hbase.2, hl, hsub, ?_, fun us hus => ?_,
    fun x hx => ?_⟩
  · have hmem : x ∈ (n₁.sessions.erase r.originalConnID).put ⟨r.connID, n₁.next⟩ ↔ _ :=
      Table.mem_put
    refine hmem.trans ?_
    rw [Table.mem_erase, hbase.1, hbase.2]
    exact or_congr_left (and_assoc.trans (and_congr_right fun _ => and_comm))
  · rw [← hbase.2]
    exact Function.update_self ..
  · show (n₁.storeSession r callID rtc).heap us = _ ∨ _
    rcases Node.claimSession_ok hclaim with ⟨-, -, rfl⟩ | ⟨x, hp, -, -, rfl⟩
    · exact .inl (hold us hus)
    · by_cases hx : x.us = us
      · refine .inr ⟨x, hp, hx, (hold us hus).trans ?_⟩
        rw [← hx]
        exact Node.markReconnected_self ..
      · exact .inl ((hold us hus).trans (Node.markReconnected_of_ne (Ne.symm hx)))
  · obtain ⟨hmem, -⟩ := Node.previous_eq_some hx
    rcases Node.claimSession_ok hclaim with ⟨hp, -, -⟩ | ⟨y, hp, hopen, -, rfl⟩
    · rw [hp] at hx
      cases hx
    · rw [hp] at hx
      cases hx
      exact ⟨hmem, hopen, (hold x.us (hslots x hmem)).trans
        (Node.markReconnected_self ..)⟩

/-! ### Clearing a session -/

/-- What is under a key is deleted, and with it a session that has no entry
elsewhere. -/
theorem Node.Orderly.erase (h : n.Orderly channel live idle) {k : String} {us : Nat}
    (hk : ∀ x ∈ n.sessions, x.key = k → x.us = us ∨ n.Finishing x)
    (hus : ∀ x ∈ n.sessions, x.us = us → x.key = k)
    (hidle : ∀ channelID, idle' channelID →
      ∃ us', live us' ∧ us' ≠ us ∧ (n.heap us').channelID = channelID) :
    Node.Orderly channel { n with sessions := n.sessions.erase k }
      (fun us' => live us' ∧ us' ≠ us)
      idle' := by
  refine ⟨⟨fun x hx => h.slots x (Table.mem_erase.1 hx).1, h.routines,
    fun x hx y hy => h.apart x (Table.mem_erase.1 hx).1 y (Table.mem_erase.1 hy).1⟩,
    fun x hx => h.connID x (Table.mem_erase.1 hx).1, fun x hx => ?_, fun us' hl => ?_,
    fun us' hl => h.open_ us' hl.1, fun us' us'' hl hl' => h.one us' us'' hl.1 hl'.1,
    h.channels, fun channelID hi => ?_⟩
  · obtain ⟨hx, hne⟩ := Table.mem_erase.1 hx
    exact (h.entries x hx).imp_left fun hl => ⟨hl, fun he => hne (hus x hx he)⟩
  · obtain ⟨x, hx, rfl⟩ := h.tracked us' hl.1
    refine ⟨x, Table.mem_erase.2 ⟨hx, fun he => ?_⟩, rfl⟩
    rcases hk x hx he with hxus | hfin
    · exact hl.2 hxus
    · exact hfin.not_live h hl.1
  · obtain ⟨us', hl, hne, hch⟩ := hidle channelID hi
    exact ⟨us', ⟨hl, hne⟩, hch⟩

/-- A session that is neither live nor in the map may change. -/
theorem Node.Orderly.set_cleared (h : n.Orderly channel live idle) {us : Nat}
    {s : Session} (hlive : ¬ live us) (hno : ∀ x ∈ n.sessions, x.us ≠ us)
    (hs : s.callID = (n.heap us).callID ∧ s.channelID = (n.heap us).channelID) :
    (n.set us s).Orderly channel live idle := by
  have hother : ∀ us', us' ≠ us → (n.set us s).heap us' = n.heap us' := fun us' hne =>
    Function.update_of_ne hne ..
  have hl : ∀ us', live us' → (n.set us s).heap us' = n.heap us' := fun us' hl =>
    hother us' fun he => hlive (he ▸ hl)
  have hm : ∀ x ∈ n.sessions, (n.set us s).heap x.us = n.heap x.us := fun x hx =>
    hother x.us (hno x hx)
  refine ⟨⟨h.slots, h.routines, h.apart⟩, fun x hx => ?_, fun x hx => ?_, h.tracked,
    fun us' hl' hr => ?_, fun us' us'' hl' hl'' ho => ?_, fun us' hlt => ?_,
    fun channelID hi => ?_⟩
  · rw [hm x hx]
    exact h.connID x hx
  · refine (h.entries x hx).imp_right fun hfin => ?_
    unfold Node.Finishing
    rw [hm x hx]
    exact hfin
  · rw [hl us' hl'] at hr ⊢
    exact h.open_ us' hl' hr
  · rw [hl us' hl', hl us'' hl''] at ho
    exact h.one us' us'' hl' hl'' ho
  · by_cases hne : us' = us
    · have hself : (n.set us s).heap us' =
          s := by rw [hne]; exact Function.update_self ..
      rw [hself, hs.1, hs.2, ← hne]
      exact h.channels us' hlt
    · rw [hother us' hne]
      exact h.channels us' hlt
  · obtain ⟨us', hl', hch⟩ := h.batchers channelID hi
    exact ⟨us', hl', (hl us' hl').symm ▸ hch⟩

/-- A routine ends that had nothing left to clear. -/
theorem Node.Orderly.erase_reader (h : n.Orderly channel live idle) {r : Reader}
    (hr : ∀ x ∈ n.sessions, n.Finishing x → (⟨x.key, x.us⟩ : Reader) ≠ r) :
    Node.Orderly channel { n with readers := n.readers.erase r } live idle := by
  refine { h with
    routines := fun r' hr' => h.routines r' (List.mem_of_mem_erase hr')
    entries := fun x hx => (h.entries x hx).imp_right fun hfin => ?_ }
  exact ⟨hfin.1, hfin.2.1, (List.mem_erase_of_ne (hr x hx hfin)).2 hfin.2.2⟩

/-- The routine of a session that has reconnected clears it. -/
theorem Node.Orderly.handleLeave (h : n.Orderly channel live idle) {r : Reader}
    (hrec : (n.heap r.us).wsReconnected = true) :
    (n.handleLeave r).Orderly channel live idle := by
  unfold Node.handleLeave
  cases hf : n.sessions.find? r.connID with
  | none =>
      refine h.erase_reader (r := r) fun x hx _ he => ?_
      exact Table.find?_eq_none.1 hf x hx (congrArg Reader.connID he)
  | some slot =>
      obtain ⟨hslot, hkey⟩ := Table.find?_eq_some.1 hf
      dsimp only
      split
      next hmine =>
        obtain ⟨hus, hrtc⟩ := hmine
        have hdead : ¬ live r.us := fun hl => by
          rw [h.open_ r.us hl hrtc] at hrec
          cases hrec
        have hsame : (fun us' => live us' ∧ us' ≠ r.us) = live := by
          funext us'
          exact propext ⟨And.left, fun hl => ⟨hl, fun he => hdead (he ▸ hl)⟩⟩
        have herase :
            Node.Orderly channel { n with sessions := n.sessions.erase r.connID }
            (fun us' => live us' ∧ us' ≠ r.us) idle := by
          refine h.erase (fun x hx hk => .inl ?_) (fun x hx he => ?_)
            fun channelID hi => ?_
          · rw [n.sessions.eq_of_key_eq hx hslot (hk.trans hkey.symm), hus]
          · rw [h.apart x hx slot hslot (he.trans hus.symm), hkey]
          · obtain ⟨us', hl, hch⟩ := h.batchers channelID hi
            exact ⟨us', hl, fun he => hdead (he ▸ hl), hch⟩
        rw [hsame] at herase
        refine herase.erase_reader (r := r) fun x hx _ he => ?_
        exact (Table.mem_erase.1 hx).2 (congrArg Reader.connID he)
      next hother =>
        refine h.erase_reader (r := r) fun x hx hfin he => hother ?_
        have hxslot : x = slot :=
          n.sessions.eq_of_key_eq hx hslot ((congrArg Reader.connID he).trans hkey.symm)
        have hxus : x.us = r.us := congrArg Reader.us he
        exact ⟨hxslot ▸ hxus, hxus ▸ hfin.1⟩

/-- The node hears that a session has reconnected elsewhere. -/
theorem Node.Orderly.reconnectEvent (h : n.Orderly channel live idle)
    {msg : ReconnectMessage} (hlive : ∀ us, live' us ↔ live us ∧
      ¬ ((n.sessions.find? msg.connID).map Slot.us = some us ∧ (n.heap us).rtc = false))
    (hok : ∀ x, n.sessions.find? msg.connID = some x →
      (n.heap x.us).wsReconnected = false →
      ((n.heap x.us).rtc = true → msg.newConnID = msg.connID) ∧
      ((n.heap x.us).rtc = false → ∀ channelID, idle channelID →
        ∃ us', live us' ∧ us' ≠ x.us ∧ (n.heap us').channelID = channelID)) :
    (handleReconnectEvent msg n).2.Orderly channel live' idle := by
  have hsame : (∀ x, n.sessions.find? msg.connID = some x →
      ¬ (live x.us ∧ (n.heap x.us).rtc = false)) →
      live' = live := by
    intro hno
    funext us
    refine propext ((hlive us).trans ⟨And.left, fun hl => ⟨hl, ?_⟩⟩)
    rintro ⟨hfound, hrtc⟩
    obtain ⟨x, hx, rfl⟩ := Option.map_eq_some_iff.1 hfound
    exact hno x hx ⟨hl, hrtc⟩
  unfold handleReconnectEvent
  cases hf : n.sessions.find? msg.connID with
  | none =>
      rw [hsame fun x hx => by rw [hf] at hx; cases hx]
      exact h
  | some x =>
      obtain ⟨hx, hk⟩ := Table.find?_eq_some.1 hf
      dsimp only
      split
      next hrec =>
        rw [hsame fun y hy ⟨hl, hrtc⟩ => ?_]
        · exact h
        · rw [hf] at hy
          cases hy
          rw [h.open_ _ hl hrtc] at hrec
          cases hrec
      next hrec =>
        have hrec : (n.heap x.us).wsReconnected = false := by simpa using hrec
        obtain ⟨hhandles, hgoes⟩ := hok x hf hrec
        rw [Node.markReconnected_self]
        dsimp only
        split
        next hrtc =>
          rw [hsame fun y hy ⟨_, hno⟩ => ?_]
          · have hnot : (n.heap x.us).rtc = false → False := fun hno => by
              rw [hrtc] at hno
              cases hno
            have hmark : (n.markReconnected x.us).Orderly channel live idle :=
              h.set ⟨rfl, rfl, rfl, rfl, rfl, fun hno => (hnot hno).elim⟩
                fun _ hi => .inl hi
            refine hmark.set ⟨?_, ?_⟩ fun _ hi => .inl hi
            · rw [Node.markReconnected_self, hhandles hrtc, h.connID x hx, hk]
            · rw [Node.markReconnected_self]
              exact ⟨rfl, rfl, rfl, rfl, fun _ => rfl⟩
          · rw [hf] at hy
            cases hy
            rw [hrtc] at hno
            cases hno
        next hrtc =>
          have hrtc : (n.heap x.us).rtc = false := by simpa using hrtc
          have hlive' : live' = fun us => live us ∧ us ≠ x.us := by
            funext us
            refine propext ((hlive us).trans (and_congr_right fun _ => not_congr ?_))
            rw [hf, Option.map_some, Option.some.injEq]
            exact ⟨fun hh => hh.1.symm, fun he => ⟨he.symm, he ▸ hrtc⟩⟩
          have herase : Node.Orderly channel
              { n with sessions := n.sessions.erase (n.heap x.us).connID }
              (fun us => live us ∧ us ≠ x.us) idle :=
            h.erase (fun y hy hyk => .inl ?_) (fun y hy hyx => ?_) (hgoes hrtc)
          · rw [hlive']
            refine herase.set_cleared (fun hl => hl.2 rfl)
              (fun y hy hyx => ?_) ⟨rfl, rfl⟩
            refine (Table.mem_erase.1 hy).2 ?_
            rw [h.apart y (Table.mem_erase.1 hy).1 x hx hyx]
            exact (h.connID x hx).symm
          · rw [n.sessions.eq_of_key_eq hy hx (hyk.trans (h.connID x hx))]
          · rw [h.apart y hy x hx hyx]
            exact (h.connID x hx).symm

end Node

/-! ## The cluster -/

section Cluster

variable {N : Type} [DecidableEq N] {d : Deployment N} {c c' : Net N}

/-- A batcher of the channel is there with nothing to do. -/
def Net.Idle (c : Net N) (n : N) (channelID : String) : Prop :=
  c.addSessionsBatchers n channelID = some 0 ∨
    c.removeSessionsBatchers n channelID = some 0

/-- Every node is in order. -/
def Net.Sound (d : Deployment N) (c : Net N) : Prop :=
  ∀ n, (c.nodes n).Orderly d.channel (fun us => (n, us) ∈ c.live) (c.Idle n)

/-- Every node is in order, and joins on their way are to a call's own channel. -/
structure Net.Orderly (d : Deployment N) (c : Net N) : Prop where
  nodes : c.Sound d
  bounded : c.Bounded
  connects : ∀ n msg, (n, .connect msg) ∈ c.inFlight →
    d.channel msg.callID = msg.channelID

/-- The node has a session of the channel, other than the one of the slot. -/
def Node.Uses (n : Node) (channelID : String) (but : Option Slot) : Prop :=
  ∃ x ∈ n.sessions, some x ≠ but ∧ ¬ n.Finishing x ∧ (n.heap x.us).channelID = channelID

/-- What keeps the map in order:
* a session that is stored replaces those of its participant on the node, by its key or
    its original id or because it has claimed them and their routine will clear them,
    and nobody else's;
* a request to reconnect that fails for a bot's jobs has claimed no session;
* a session that handles RTC keeps its connection id when it is told of a reconnection,
    and one that does not is not the last of a channel with an idle batcher;
* the routine of a session that has reconnected finds that it has;
* when a session is removed, what is under its connection id or its original id is its
    own, and no other session of its call is about to be cleared;
* the last join that waits in a batcher is not refused with no session of the channel
    there. -/
def Net.InOrder (c : Net N) : Action N → Prop
  | .refuseJoin n channelID queued =>
      queued = true → c.addSessionsBatchers n channelID = some 1 →
        (c.nodes n).Uses channelID none
  | .join n _ connID channelID _ _ _ =>
      (c.nodes n).Replaces connID connID channelID none
  | .reconnect n e r _ =>
      (e.isBot = true → (∃ err, e.handleBotWSReconnect = .error err) →
        (c.nodes n).previous r = none) ∧
      ((c.nodes n).Accepts e r →
        (c.nodes n).Replaces r.connID r.originalConnID r.channelID
          ((c.nodes n).previous r))
  | .handleEvent n (.connect msg) _ =>
      (c.nodes n).sessions.find? msg.connID = none →
        (c.nodes n).Replaces msg.connID msg.connID msg.channelID none
  | .handleEvent n (.reconnect msg) _ =>
      ∀ x, (c.nodes n).sessions.find? msg.connID = some x →
        ((c.nodes n).heap x.us).wsReconnected = false →
        (((c.nodes n).heap x.us).rtc = true → msg.newConnID = msg.connID) ∧
        (((c.nodes n).heap x.us).rtc = false →
          c.Idle n ((c.nodes n).heap x.us).channelID →
          (c.nodes n).Uses ((c.nodes n).heap x.us).channelID (some x))
  | .handleLeave n r exit _ =>
      ((c.nodes n).heap r.us).wsReconnected = true →
        ((c.nodes n).heap r.us).rtc = false →
        exit = .reconnected
  | .remove n us _ ok =>
      ok = true → ∀ x ∈ (c.nodes n).sessions,
        (x.key = ((c.nodes n).heap us).connID ∨
          ((c.nodes n).heap x.us).originalConnID =
          ((c.nodes n).heap us).originalConnID →
          x.us = us) ∧
        (((c.nodes n).heap x.us).callID = ((c.nodes n).heap us).callID → x.us ≠ us →
          ¬ (c.nodes n).Finishing x)
  | _ => True

omit [DecidableEq N] in
/-- The maps do not change, and a batcher that becomes idle is of a channel in use. -/
theorem Net.Sound.same (h : c.Sound d) (hnodes : c'.nodes = c.nodes)
    (hlive : c'.live = c.live)
      (hidle : ∀ n channelID, c'.Idle n channelID → c.Idle n channelID ∨
      ∃ us, (n, us) ∈ c.live ∧ ((c.nodes n).heap us).channelID = channelID) :
      c'.Sound d := by
  intro n
  rw [hnodes, hlive]
  exact (h n).frame rfl rfl rfl
    (fun _ => ⟨rfl, rfl, rfl, rfl, rfl, fun _ => rfl⟩) (hidle n)

/-- One node changes, in its map or in its batchers. -/
theorem Net.Sound.update (h : c.Sound d) {n : N} {node : Node}
    (hnodes : c'.nodes = Function.update c.nodes n node)
    (hn : node.Orderly d.channel (fun us => (n, us) ∈ c'.live) (c'.Idle n))
    (hlive : ∀ m us, m ≠ n → ((m, us) ∈ c'.live ↔ (m, us) ∈ c.live))
    (hidle : ∀ m channelID, m ≠ n → c'.Idle m channelID → c.Idle m channelID) :
    c'.Sound d := by
  intro m
  rw [hnodes]
  by_cases hm : m = n
  · subst hm
    rw [Function.update_self]
    exact hn
  · have hsame : (fun us => (m, us) ∈ c'.live) = fun us => (m, us) ∈ c.live :=
      funext fun us => propext (hlive m us hm)
    rw [Function.update_of_ne hm, hsame]
    exact (h m).frame rfl rfl rfl (fun _ => ⟨rfl, rfl, rfl, rfl, rfl, fun _ => rfl⟩)
      fun channelID hi => .inl (hidle m channelID hm hi)

/-- A change of one node that keeps it in order. -/
theorem Net.Sound.setNode (h : c.Sound d) {n : N} {node : Node}
    (hn : node.Orderly d.channel (fun us => (n, us) ∈ c.live) (c.Idle n)) :
    (c.setNode n node).Sound d :=
  h.update rfl hn (fun _ _ _ => .rfl) fun _ _ _ hi => hi

/-- The messages of a step are about calls and their channels. -/
theorem Net.Orderly.connects_step (h : c.Orderly d) {a : Action N} (hen : c.Enabled d a)
    (m : N) (msg : ConnectMessage) (hmsg : (m, .connect msg) ∈ (c.step d a).inFlight) :
    d.channel msg.callID = msg.channelID := by
  rcases Net.inFlight_step hmsg with hmsg | hs
  · exact h.connects m msg hmsg
  · generalize hx : ClusterMessage.connect msg = x at hs
    cases hs with
    | join hh hne =>
        cases hx
        exact hen.2.1
    | _ => cases hx

section Batchers

variable {f : N → String → Option Nat} {n m : N} {channelID channelID' : String}

theorem Net.push_ne_zero : Net.push f n channelID n channelID ≠ some 0 := by
  unfold Net.push
  rw [Function.update_self, Function.update_self]
  exact fun h => nomatch h

theorem Net.push_of_ne (h : m ≠ n ∨ channelID' ≠ channelID) :
    Net.push f n channelID m channelID' = f m channelID' := by
  unfold Net.push
  by_cases hm : m = n
  · subst hm
    rw [Function.update_self, Function.update_of_ne (h.resolve_left fun h => h rfl)]
  · rw [Function.update_of_ne hm]

theorem Net.pop_self :
    Net.pop f n channelID n channelID = (f n channelID).map (· - 1) := by
  unfold Net.pop
  rw [Function.update_self, Function.update_self]

theorem Net.pop_of_ne (h : m ≠ n ∨ channelID' ≠ channelID) :
    Net.pop f n channelID m channelID' = f m channelID' := by
  unfold Net.pop
  by_cases hm : m = n
  · subst hm
    rw [Function.update_self, Function.update_of_ne (h.resolve_left fun h => h rfl)]
  · rw [Function.update_of_ne hm]

theorem Net.stopIfEmpty_self : Net.stopIfEmpty f n channelID n channelID ≠ some 0 := by
  unfold Net.stopIfEmpty
  rw [Function.update_self, Function.update_self]
  intro h
  have hno := (Option.filter_eq_some_iff.1 h).2
  exact absurd hno (by decide)

theorem Net.stopIfEmpty_of_ne (h : m ≠ n ∨ channelID' ≠ channelID) :
    Net.stopIfEmpty f n channelID m channelID' = f m channelID' := by
  unfold Net.stopIfEmpty
  by_cases hm : m = n
  · subst hm
    rw [Function.update_self, Function.update_of_ne (h.resolve_left fun h => h rfl)]
  · rw [Function.update_of_ne hm]

/-- Pushing leaves no batcher idle that was not. -/
theorem Net.push_zero (h : Net.push f n channelID m channelID' = some 0) :
    f m channelID' = some 0 := by
  by_cases hne : m ≠ n ∨ channelID' ≠ channelID
  · rwa [Net.push_of_ne hne] at h
  · obtain ⟨hm, hch⟩ := not_or.1 hne
    rw [not_not.1 hm, not_not.1 hch] at h
    exact absurd h Net.push_ne_zero

end Batchers

/-! ### Single steps -/

/-- `removeSession` sets a flag, and may fill a batcher. -/
theorem Net.Sound.removeSession (h : c.Sound d) (n : N) (us : Nat) (how : Removal) :
    (c.removeSession n us how).Sound d := by
  unfold Net.removeSession
  dsimp only
  split
  · exact h
  · have hidle : ∀ m channelID, (c.addSessionsBatchers m channelID = some 0 ∨
        (if how = .queued then Net.push c.removeSessionsBatchers n
          ((c.nodes n).heap us).channelID
          else c.removeSessionsBatchers) m channelID = some 0) →
          c.Idle m channelID := by
      intro m channelID hi
      refine hi.imp_right fun hr => ?_
      split at hr
      · exact Net.push_zero hr
      · exact hr
    refine h.update rfl ?_ (fun _ _ _ => .rfl) fun m channelID _ => hidle m channelID
    exact (h n).set ⟨rfl, rfl, rfl, rfl, rfl, fun _ => rfl⟩ fun channelID hi =>
      .inl (hidle n channelID hi)

/-- `closeRTCSession` touches no map. -/
theorem Net.Sound.closeRTCSession (h : c.Sound d) (handler : Option N) (n : N)
    (connID originalConnID : String) :
    (c.closeRTCSession handler n connID originalConnID).Sound d := by
  rw [Net.closeRTCSession_eq]
  exact h

/-- What `renew` leaves of the live sessions of a node. -/
theorem Net.mem_renew {n m : N} {us us' : Nat} {o : String} :
    (m, us') ∈ c.renew n us o ↔
      (m = n ∧ us' = us) ∨ (m, us') ∈ c.live ∧
        ¬ (m = n ∧ ((c.nodes m).heap us').originalConnID = o) := by
  unfold Net.renew
  rw [List.mem_cons, List.mem_filter, decide_eq_true_iff, Prod.mk.injEq]
  refine or_congr_right (and_congr_right fun _ => not_congr ⟨?_, ?_⟩)
  · rintro ⟨rfl, ho⟩
    exact ⟨rfl, ho⟩
  · rintro ⟨rfl, ho⟩
    exact ⟨rfl, ho⟩

/-- **A session is stored** on a node. -/
theorem Net.Sound.renew (h : c.Sound d) {n : N} {node : Node} {k o : String}
    {s : Session} {claimed : Option Slot}
    (hnodes : c'.nodes = Function.update c.nodes n node)
    (hlive : c'.live = c.renew n (c.nodes n).next o)
    (hren : (c.nodes n).Renewed node k o s claimed)
    (hrep : (c.nodes n).Replaces k o s.channelID claimed) (hconn : s.connID = k)
    (horig : s.originalConnID = o) (hopen : s.wsReconnected = false)
    (hchan : d.channel s.callID = s.channelID)
    (hidle : ∀ m channelID, c'.Idle m channelID →
      c.Idle m channelID ∨ m = n ∧ channelID = s.channelID) : c'.Sound d := by
  refine h.update hnodes ?_ (fun m us hm => ?_) fun m channelID hm hi => ?_
  · refine (h n).renew hren hrep hconn horig hopen hchan (fun us => ?_)
      fun channelID hi => ?_
    · rw [hlive, Net.mem_renew]
      exact or_congr (and_iff_right rfl)
        (and_congr_right fun _ => not_congr (and_iff_right rfl))
    · exact (hidle n channelID hi).imp_right And.right
  · rw [hlive, Net.mem_renew]
    refine ⟨?_, fun hl => .inr ⟨hl, fun hh => hm hh.1⟩⟩
    rintro (⟨rfl, -⟩ | ⟨hl, -⟩)
    · exact absurd rfl hm
    · exact hl
  · rcases hidle m channelID hi with hi | ⟨rfl, -⟩
    · exact hi
    · exact absurd rfl hm

omit [DecidableEq N] in
/-- A session that the node uses is live. -/
theorem Net.Sound.live_of_uses (h : c.Sound d) {n : N} {channelID : String}
    {but : Option Slot} (hu : (c.nodes n).Uses channelID but) :
      ∃ x ∈ (c.nodes n).sessions, some x ≠ but ∧
      (n, x.us) ∈ c.live ∧ ((c.nodes n).heap x.us).channelID = channelID := by
  obtain ⟨x, hx, hne, hfin, hch⟩ := hu
  exact ⟨x, hx, hne, ((h n).entries x hx).resolve_right hfin, hch⟩

/-- What a join does to the maps and the batchers. -/
theorem Net.addSessionToCall_frame (c : Net N) (n : N)
    (userID connID channelID callID : String) (queued ok : Bool) :
    (c.addSessionToCall d n userID connID channelID callID queued ok).live =
        c.renew n (c.nodes n).next connID ∧
      (c.addSessionToCall d n userID connID channelID callID queued
        ok).addSessionsBatchers =
        (if queued then Net.pop c.addSessionsBatchers n channelID
          else c.addSessionsBatchers) ∧
      (c.addSessionToCall d n userID connID channelID callID queued
        ok).removeSessionsBatchers =
        c.removeSessionsBatchers := by
  unfold Net.addSessionToCall
  dsimp only
  split
  · split
    · exact ⟨rfl, rfl, rfl⟩
    · split_ifs <;> exact ⟨rfl, rfl, rfl⟩
  · split_ifs <;> exact ⟨rfl, rfl, rfl⟩

theorem Net.Sound.join (h : c.Sound d) {n : N} {userID connID channelID callID : String}
    {queued ok : Bool}
    (hen : c.Enabled d (.join n userID connID channelID callID queued ok))
    (hok : c.InOrder (.join n userID connID channelID callID queued ok)) :
    (c.addSessionToCall d n userID connID channelID callID queued ok).Sound d := by
  obtain ⟨hlive, hadd, hremove⟩ :=
    c.addSessionToCall_frame (d := d) n userID connID channelID callID queued ok
  refine h.renew (Net.addSessionToCall_nodes ..) hlive
    (.insert _ _ _ (fun r hr => ?_) fun r hr => ?_)
    hok rfl rfl rfl hen.2.1 fun m ch hi => ?_
  · exact (List.mem_cons.1 hr).symm
  · exact List.mem_cons_of_mem _ hr
  · unfold Net.Idle at hi
    rw [hadd, hremove] at hi
    rcases hi with hi | hi
    · by_cases hne : m ≠ n ∨ ch ≠ channelID
      · refine .inl (.inl ?_)
        split at hi
        · rwa [Net.pop_of_ne hne] at hi
        · exact hi
      · obtain ⟨hm, hch⟩ := not_or.1 hne
        exact .inr ⟨not_not.1 hm, not_not.1 hch⟩
    · exact .inl (.inr hi)

theorem Net.Sound.reconnect (h : c.Sound d) {n : N} {e : ReconnectEnv}
    {r : ReconnectRequest} {told : Bool} (hen : c.Enabled d (.reconnect n e r told))
    (hok : c.InOrder (.reconnect n e r told)) :
    (c.step d (.reconnect n e r told)).Sound d := by
  simp only [Net.step]
  rcases handleReconnect_cases e r (c.nodes n) with ⟨err, he, -⟩ |
    ⟨st, rtc, n₁, err, -, hclaim, hbot, hjobs, he⟩ |
      ⟨st, rtc, n₁, hcall, hclaim, hjobs, he⟩
  · rw [he]
    exact h.setNode (h n)
  · rw [he]
    have hnone := hok.1 hbot ⟨err, hjobs⟩
    rcases Node.claimSession_ok hclaim with ⟨-, -, rfl⟩ | ⟨x, hx, -⟩
    · exact h.setNode (h n)
    · rw [hnone] at hx
      cases hx
  · have haccepts : (c.nodes n).Accepts e r :=
      handleReconnect_isOk_iff.1 ⟨_, by rw [he]⟩
    have hchan := (hen.2 st (reconnectCall_ok hcall).1).1
    have hbase : n₁.readers = (c.nodes n).readers ∧ n₁.next = (c.nodes n).next := by
      rcases Node.claimSession_ok hclaim with ⟨-, -, rfl⟩ | ⟨x, -, -, -, rfl⟩ <;>
        exact ⟨rfl, rfl⟩
    have hstore : ∀ l : List Reader,
        (∀ x ∈ l, x ∈ (c.nodes n).readers ∨ x = ⟨r.connID, (c.nodes n).next⟩) →
        (∀ x ∈ (c.nodes n).readers, x ∈ l) →
        ∀ c' : Net N, c'.nodes = Function.update c.nodes n
            { n₁.storeSession r st.call.id rtc with readers := l } →
          c'.live = c.renew n (c.nodes n).next r.originalConnID →
          c'.addSessionsBatchers = c.addSessionsBatchers →
          c'.removeSessionsBatchers = c.removeSessionsBatchers → c'.Sound d := by
      intro l hl hsub c' hnodes hlive hadd hremove
      refine h.renew hnodes hlive (.store hclaim st.call.id hl hsub (h n).slots)
        (hok.2 haccepts) rfl rfl rfl hchan fun m ch hi => .inl ?_
      unfold Net.Idle at hi ⊢
      rw [hadd, hremove] at hi
      exact hi
    rw [he]
    cases told with
    | true =>
        refine hstore (⟨r.connID, n₁.next⟩ :: n₁.readers) (fun x hx => ?_)
          (fun x hx => ?_) _ rfl rfl rfl rfl
        · rw [hbase.1, hbase.2] at hx
          exact (List.mem_cons.1 hx).symm
        · rw [hbase.1]
          exact List.mem_cons_of_mem _ hx
    | false => exact hstore _ (fun x hx => .inl hx) (fun x hx => hx) _ rfl rfl rfl rfl

/-- The messages of other nodes. -/
theorem Net.Sound.handleEvent (h : c.Sound d)
    (hconnects : ∀ n msg, (n, .connect msg) ∈ c.inFlight →
      d.channel msg.callID = msg.channelID)
    {n : N} {msg : ClusterMessage} {iter : List Slot → List Slot}
    (hen : c.Enabled d (.handleEvent n msg iter))
    (hok : c.InOrder (.handleEvent n msg iter)) :
    (c.step d (.handleEvent n msg iter)).Sound d := by
  cases msg with
  | connect msg =>
      simp only [Net.step, Net.handleEvent, handleConnectEvent]
      cases hf : (c.nodes n).sessions.find? msg.connID with
      | some slot => exact h.same rfl rfl fun _ _ hi => .inl hi
      | none =>
          have hins := Node.Renewed.insert (c.nodes n) msg.connID
            (newUserSession msg.userID msg.channelID msg.connID msg.callID true)
            (fun r hr => .inl hr) fun r hr => hr
          exact h.renew rfl rfl hins (hok hf) rfl rfl rfl (hconnects n msg hen.1)
            fun _ _ hi => .inl hi
  | reconnect msg =>
      refine h.update rfl ?_ (fun m us hm => ?_) fun _ _ _ hi => hi
      · refine (h n).reconnectEvent (fun us => ?_) fun x hx hopen => ?_
        · simp only [Net.step, Net.handleEvent, List.mem_filter, decide_eq_true_eq,
            true_and]
        · obtain ⟨hhandles, hgoes⟩ := hok x hx hopen
          refine ⟨hhandles, fun hrtc ch hi => ?_⟩
          by_cases hch : ch = ((c.nodes n).heap x.us).channelID
          · subst hch
            obtain ⟨y, hy, hne, hl, hych⟩ := h.live_of_uses (hgoes hrtc hi)
            refine ⟨y.us, hl, fun he => hne ?_, hych⟩
            rw [(h n).apart y hy x (Table.find?_eq_some.1 hx).1 he]
          · obtain ⟨us, hl, hus⟩ := (h n).batchers ch hi
            refine ⟨us, hl, ?_, hus⟩
            rintro rfl
            exact hch hus.symm
      · simp only [Net.step, Net.handleEvent, List.mem_filter, decide_eq_true_eq]
        exact and_iff_left fun hh => hm hh.1
  | leave connID => exact h.setNode ((h n).adjust fun s => by simp)
  | disconnect connID => exact h.setNode ((h n).adjust fun s => by simp)
  | signaling connID =>
      simp only [Net.step, Net.handleEvent]
      split
      · exact h.same rfl rfl fun _ _ hi => .inl hi
      · split <;> exact h.same rfl rfl fun _ _ hi => .inl hi

/-- A routine ends. -/
theorem Net.Sound.handleLeave (h : c.Sound d) {n : N} {r : Reader} {exit : LeaveExit}
    {how : Removal} (hen : c.Enabled d (.handleLeave n r exit how))
    (hok : c.InOrder (.handleLeave n r exit how)) :
    (c.handleLeave d n r exit how).Sound d := by
  have herase : exit ≠ .reconnected → Node.Orderly d.channel
      { c.nodes n with readers := (c.nodes n).readers.erase r }
          (fun us => (n, us) ∈ c.live)
      (c.Idle n) := by
    intro hexit
    refine (h n).erase_reader fun x hx hfin he => hexit ?_
    have hxus : x.us = r.us := congrArg Reader.us he
    exact hok (hxus ▸ hfin.2.1) (hxus ▸ hfin.1)
  have hremove : exit ≠ .reconnected →
      ((({ c with leaving := c.leaving.erase (n, r) }.setNode n
        { c.nodes n with readers := (c.nodes n).readers.erase r }).closeRTCSession
          (d.handler ((c.nodes n).heap r.us).callID) n
            ((c.nodes n).heap r.us).originalConnID
          ((c.nodes n).heap r.us).originalConnID).removeSession n r.us how).Sound
              d := by
    intro hexit
    refine Net.Sound.removeSession (Net.Sound.closeRTCSession ?_ _ _ _ _) _ _ _
    exact h.setNode (c := { c with leaving := c.leaving.erase (n, r) }) (herase hexit)
  cases exit with
  | reconnected =>
      exact h.setNode (c := { c with leaving := c.leaving.erase (n, r) })
        ((h n).handleLeave hen.2)
  | rtcClosed =>
      exact h.setNode (c := { c with leaving := c.leaving.erase (n, r) })
        (herase fun he => nomatch he)
  | left => exact hremove fun he => nomatch he
  | timeout => exact hremove fun he => nomatch he

/-- An RTC session has closed. -/
theorem Net.Sound.rtcClose (h : c.Sound d) (hnodes : c'.nodes = c.nodes)
    (hlive : c'.live = c.live) (hadd : c'.addSessionsBatchers = c.addSessionsBatchers)
    (hremove : c'.removeSessionsBatchers = c.removeSessionsBatchers)
    (n : N) (us : Nat) :
    (c'.setNode n ((c'.nodes n).set us
      { (c.nodes n).heap us with rtcClosed := true })).Sound d := by
  have hsame : c'.Sound d := by
    refine h.same hnodes hlive fun m ch hi => .inl ?_
    unfold Net.Idle at hi ⊢
    rw [hadd, hremove] at hi
    exact hi
  rw [← hnodes]
  exact hsame.setNode ((hsame n).set ⟨rfl, rfl, rfl, rfl, rfl, fun _ => rfl⟩
    fun _ hi => .inl hi)

/-- The entry of a session is deleted, and its batchers are dropped if it was the last
of its channel. -/
theorem Net.Sound.clear (h : c.Sound d) {n : N} {us : Nat}
    (hnodes : c'.nodes = Function.update c.nodes n { c.nodes n with
      sessions := (c.nodes n).sessions.erase ((c.nodes n).heap us).connID })
    (hlive : c'.live = c.live.filter (· ≠ (n, us)))
    (hown : ∀ x ∈ (c.nodes n).sessions, x.key = ((c.nodes n).heap us).connID →
      x.us = us)
    (hidle : ∀ m channelID, c'.Idle m channelID →
      c.Idle m channelID ∧ (m = n → channelID ≠ ((c.nodes n).heap us).channelID) ∨
        m = n ∧ ∃ us', (n, us') ∈ c.live ∧ us' ≠ us ∧
          ((c.nodes n).heap us').channelID = channelID) : c'.Sound d := by
  have hmem : ∀ m us', (m, us') ∈ c'.live ↔ (m, us') ∈ c.live ∧
      ¬ (m = n ∧ us' = us) := by
    intro m us'
    rw [hlive, List.mem_filter, decide_eq_true_iff]
    exact and_congr_right fun _ => not_congr (Prod.mk.injEq ..).to_iff
  refine h.update hnodes ?_ (fun m us' hm => ?_) fun m channelID hm hi => ?_
  · have hl : (fun us' => (n, us') ∈ c'.live) = fun us' => (n, us') ∈ c.live ∧
        us' ≠ us := by
      funext us'
      refine propext ((hmem n us').trans (and_congr_right fun _ => not_congr ?_))
      exact and_iff_right rfl
    rw [hl]
    have hown' : ∀ x ∈ (c.nodes n).sessions, x.key = ((c.nodes n).heap us).connID →
        x.us = us ∨ (c.nodes n).Finishing x := fun x hx hk => .inl (hown x hx hk)
    refine (h n).erase hown' (fun x hx hus => ?_) fun channelID hi => ?_
    · subst hus
      exact ((h n).connID x hx).symm
    · rcases hidle n channelID hi with ⟨hi, hne⟩ | ⟨-, hex⟩
      · obtain ⟨us', hl, hch⟩ := (h n).batchers channelID hi
        refine ⟨us', hl, ?_, hch⟩
        rintro rfl
        exact hne rfl hch.symm
      · exact hex
  · exact (hmem m us').trans (and_iff_left fun hh => hm hh.1)
  · rcases hidle m channelID hi with ⟨hi, -⟩ | ⟨rfl, -⟩
    · exact hi
    · exact absurd rfl hm

/-- **A removal** reaches the call. -/
theorem Net.Sound.remove (h : c.Sound d) {n : N} {us : Nat} {how : Removal}
    (hlt : us < (c.nodes n).next) (hok : c.InOrder (.remove n us how true)) :
    (c.step d (.remove n us how true)).Sound d := by
  have hok := hok rfl
  have hown : ∀ x ∈ (c.nodes n).sessions, x.key = ((c.nodes n).heap us).connID →
      x.us = us :=
    fun x hx hk => (hok x hx).1 (.inl hk)
  -- a batcher that an operation leaves idle is the session's own
  have hpop : ∀ m channelID, (if how = .queued then
      Net.pop c.removeSessionsBatchers n ((c.nodes n).heap us).channelID
        else c.removeSessionsBatchers) m channelID = some 0 →
      (m = n → channelID ≠ ((c.nodes n).heap us).channelID) →
      c.removeSessionsBatchers m channelID = some 0 := by
    intro m channelID hz hne
    split at hz
    · have hne' : m ≠ n ∨ channelID ≠ ((c.nodes n).heap us).channelID := by
        by_cases hm : m = n
        · exact .inr (hne hm)
        · exact .inl hm
      rwa [Net.pop_of_ne hne'] at hz
    · exact hz
  simp only [Net.step, if_true, Net.removeSessionFromCall]
  split
  next hmore =>
    -- another session of the call is there, and stays
    obtain ⟨x, hmem, hcall⟩ := List.any_eq_true.1 hmore
    obtain ⟨hx, hkey⟩ := Table.mem_erase.1 hmem
    have hcall : ((c.nodes n).heap x.us).callID = ((c.nodes n).heap us).callID := by
      simpa using hcall
    have hne : x.us ≠ us := by
      intro hus
      rw [← hus] at hkey
      exact hkey ((h n).connID x hx).symm
    have hl : (n, x.us) ∈ c.live :=
      ((h n).entries x hx).resolve_right ((hok x hx).2 hcall hne)
    have hch : ((c.nodes n).heap x.us).channelID = ((c.nodes n).heap us).channelID := by
      rw [← (h n).channels us hlt, ← (h n).channels x.us ((h n).slots x hx), hcall]
    refine h.clear rfl rfl hown fun m channelID hi => ?_
    by_cases hmine : m = n ∧ channelID = ((c.nodes n).heap us).channelID
    · exact .inr ⟨hmine.1, x.us, hl, hne, hch.trans hmine.2.symm⟩
    · have hmine : m = n → channelID ≠ ((c.nodes n).heap us).channelID :=
        fun hm hc => hmine ⟨hm, hc⟩
      exact .inl ⟨hi.imp_right fun hz => hpop m channelID hz hmine, hmine⟩
  next =>
    refine h.clear rfl rfl hown fun m channelID hi => .inl ?_
    have hmine : m = n → channelID ≠ ((c.nodes n).heap us).channelID := by
      rintro rfl rfl
      exact hi.elim Net.stopIfEmpty_self Net.stopIfEmpty_self
    have hne : m ≠ n ∨ channelID ≠ ((c.nodes n).heap us).channelID := by
      by_cases hm : m = n
      · exact .inr (hmine hm)
      · exact .inl hm
    refine ⟨hi.imp (fun hz => ?_) fun hz => ?_, hmine⟩
    · exact (Net.stopIfEmpty_of_ne hne).symm.trans hz
    · exact hpop m channelID ((Net.stopIfEmpty_of_ne hne).symm.trans hz) hmine

/-! ## Runs -/

/-- A step keeps the maps in order if it meets the condition. -/
theorem Net.Sound.step (h : c.Orderly d) {a : Action N} (hen : c.Enabled d a)
    (hok : c.InOrder a) :
    (c.step d a).Sound d := by
  have hs := h.nodes
  cases a with
  | queueJoin n channelID =>
      exact hs.same rfl rfl fun m ch hi => .inl (hi.imp_left Net.push_zero)
  | refuseJoin n channelID queued =>
      simp only [Net.step]
      split
      next hq =>
        refine hs.same rfl rfl fun m ch hi => ?_
        rcases hi with hz | hz
        · have hz : Net.pop c.addSessionsBatchers n channelID m ch = some 0 := hz
          by_cases hne : m ≠ n ∨ ch ≠ channelID
          · rw [Net.pop_of_ne hne] at hz
            exact .inl (.inl hz)
          · obtain ⟨hm, hch⟩ := not_or.1 hne
            obtain rfl := not_not.1 hm
            obtain rfl := not_not.1 hch
            obtain ⟨k, hk⟩ := hen hq
            rw [Net.pop_self, hk, Option.map_some, Option.some.injEq] at hz
            have hlast : c.addSessionsBatchers m ch = some 1 := by
              rw [hk, show k = 0 by omega]
            obtain ⟨x, -, -, hl, hch⟩ := hs.live_of_uses (hok hq hlast)
            exact .inr ⟨x.us, hl, hch⟩
        · exact .inl (.inr hz)
      next => exact hs
  | join n userID connID channelID callID queued ok => exact hs.join hen hok
  | reconnect n e r told => exact hs.reconnect hen hok
  | handleEvent n msg iter => exact hs.handleEvent h.connects hen hok
  | disconnect n connID => exact hs.setNode ((hs n).adjust fun s => by simp)
  | leave n connID => exact hs.setNode ((hs n).adjust fun s => by simp)
  | message n r =>
      simp only [Net.step, Net.relay]
      split
      · exact hs
      · split <;> exact hs
  | stopReading n r => exact hs
  | revoke n r => exact hs.closeRTCSession _ _ _ _
  | handleLeave n r exit how => exact hs.handleLeave hen hok
  | startSession n us ok =>
      simp only [Net.step]
      split <;> exact hs
  | endSession n us => exact hs
  | rtcClosed s how =>
      have hset :=
        @Net.Sound.rtcClose _ _ _ _ ({ c with opened := c.opened.erase s }.note s.node
        .closed s.sessionID ((c.nodes s.node).heap s.us).originalConnID) hs rfl rfl rfl
          rfl s.node s.us
      simp only [Net.step, Net.rtcCallback]
      split
      · exact hset.removeSession _ _ _
      · exact hset
  | rtcdClosed n sessionID iter how =>
      simp only [Net.step, Net.rtcdCallback]
      split
      · exact hs
      next slot _ =>
        split
        · exact hs
        · exact (hs.rtcClose rfl rfl rfl rfl n slot.us).removeSession _ _ _
  | remove n us how ok =>
      have hlt : us < (c.nodes n).next :=
        h.bounded _ (Net.mem_pointers.2 (.inr (.inr (.inr (.inr ⟨_, hen.1, rfl⟩)))))
      cases ok with
      | true => exact hs.remove hlt hok
      | false =>
          have hhow : how ≠ .queued := by
            rintro rfl
            exact absurd hen.2.1 Bool.false_ne_true
          simp only [Net.step, if_neg hhow]
          exact hs
  | putOut n sessionID callID => exact hs.closeRTCSession _ _ _ _

theorem Net.Orderly.step (h : c.Orderly d) {a : Action N} (hen : c.Enabled d a)
    (hok : c.InOrder a) : (c.step d a).Orderly d where
  nodes := Net.Sound.step h hen hok
  bounded := h.bounded.step (fun n => (h.nodes n).toApart) hen
  connects := h.connects_step hen

/-- In every run whose steps keep the maps in order, they are. -/
theorem Net.orderly_of_runs (hr : (Net.machine d).Runs Net.InOrder .empty c) :
    c.Orderly d := by
  refine hr.inv ⟨fun n => ?_, fun x hx => ?_, fun n msg hmsg => ?_⟩ fun s a hen hok h =>
    h.step hen hok
  · refine ⟨⟨fun x hx => ?_, fun r hr => ?_, fun x hx => ?_⟩, fun x hx => ?_,
      fun x hx => ?_,
      fun us hl => ?_, fun us hl => ?_, fun us us' hl => ?_, fun us hlt => ?_,
        fun ch hi => ?_⟩
    · cases hx
    · cases hr
    · cases hx
    · cases hx
    · cases hx
    · cases hl
    · cases hl
    · cases hl
    · cases hlt
    · rcases hi with hi | hi <;> cases hi
  · cases hx
  · cases hmsg

/-- No routine of a reconnected or removed session is still to finish on the node. -/
def Net.Quiet (c : Net N) (n : N) : Prop :=
  ∀ r ∈ (c.nodes n).readers,
    ((c.nodes n).heap r.us).wsReconnected = false ∧
    ((c.nodes n).heap r.us).removed = false

/-- The map of the node, and what is read off it, is right. -/
structure Net.TableRight (d : Deployment N) (c : Net N) (n : N) : Prop where
  /-- the session under a key has it as its connection id -/
  connID : ∀ x ∈ (c.nodes n).sessions, ((c.nodes n).heap x.us).connID = x.key
  /-- a participant has one entry -/
  one : c.Quiet n → ∀ x ∈ (c.nodes n).sessions, ∀ y ∈ (c.nodes n).sessions,
    ((c.nodes n).heap x.us).originalConnID = ((c.nodes n).heap y.us).originalConnID →
    x = y
  /-- the node has sessions for a call when a live one is there -/
  hasSessions : c.Quiet n → ∀ callID, (c.nodes n).hasSessionsForCall callID = true ↔
    ∃ us, (n, us) ∈ c.live ∧ ((c.nodes n).heap us).callID = callID
  /-- a batcher that has nothing to do is of a channel with a live session -/
  batchers : ∀ channelID, c.Idle n channelID →
    ∃ us, (n, us) ∈ c.live ∧ ((c.nodes n).heap us).channelID = channelID

omit [DecidableEq N] in
theorem Net.Orderly.tableRight (h : c.Orderly d) (n : N) : c.TableRight d n := by
  have hs := h.nodes n
  have hlive : c.Quiet n → ∀ x ∈ (c.nodes n).sessions, (n, x.us) ∈ c.live := by
    intro hq x hx
    refine (hs.entries x hx).resolve_right fun hfin => ?_
    have hrec := (hq _ hfin.2.2).1
    rw [hfin.2.1] at hrec
    cases hrec
  refine ⟨hs.connID, fun hq x hx y hy ho => ?_, fun hq callID => ?_, hs.batchers⟩
  · exact hs.apart x hx y hy (hs.one _ _ (hlive hq x hx) (hlive hq y hy) ho)
  · constructor
    · intro hmore
      obtain ⟨x, hx, hcall⟩ := List.any_eq_true.1 hmore
      exact ⟨x.us, hlive hq x hx, by simpa using hcall⟩
    · rintro ⟨us, hl, hcall⟩
      obtain ⟨x, hx, rfl⟩ := hs.tracked us hl
      exact List.any_eq_true.2 ⟨x, hx, by simpa using hcall⟩

/-- After a removal nothing is left of the session's participant on the node. -/
theorem Net.Orderly.removed (h : c.Orderly d) {n : N} {us : Nat} {how : Removal}
    (hok : c.InOrder (.remove n us how true)) :
    ∀ x ∈ ((c.step d (.remove n us how true)).nodes n).sessions,
      (((c.step d (.remove n us how true)).nodes n).heap x.us).originalConnID ≠
        ((c.nodes n).heap us).originalConnID := by
  have hnode : (c.step d (.remove n us how true)).nodes n = { c.nodes n with
      sessions := (c.nodes n).sessions.erase ((c.nodes n).heap us).connID } := by
    simp only [Net.step, if_true, Net.removeSessionFromCall]
    split <;> exact Function.update_self ..
  intro x hx ho
  rw [hnode] at hx ho
  obtain ⟨hx, hkey⟩ := Table.mem_erase.1 hx
  have hus : x.us = us := (hok rfl x hx).1 (.inr ho)
  rw [← hus] at hkey
  exact hkey ((h.nodes n).connID x hx).symm

/-- **The map of sessions** in runs that keep it in order: it is right on every node in
every state, and a removal leaves nothing of the participant behind. -/
theorem Net.sessions_of_runs (hr : (Net.machine d).Runs Net.InOrder .empty c) :
    (∀ n, c.TableRight d n) ∧
      ∀ n us how, c.Enabled d (.remove n us how true) →
        c.InOrder (.remove n us how true) →
        ∀ x ∈ ((c.step d (.remove n us how true)).nodes n).sessions,
          (((c.step d (.remove n us how true)).nodes n).heap x.us).originalConnID ≠
            ((c.nodes n).heap us).originalConnID := by
  have h := Net.orderly_of_runs hr
  exact ⟨h.tableRight, fun _ _ _ _ hok => h.removed hok⟩

end Cluster

/-! ## Alice reconnects

The node `true` handles the RTC of her call. -/

/-- The call has Alice's session. -/
def aloneInCall : ReconnectEnv where
  hasPermission := true
  isBot := false
  state :=
    .ok (some ⟨sampleCall, ⟨[⟨"a0", sampleCall.id, "alice", 10, false, 0, false⟩],
    by decide⟩, none, none, none⟩)
  handleBotWSReconnect := .ok ()

/-- She joins through a node and reconnects to it. -/
def aloneReconnected (n : Bool) : Net Bool :=
  ((Net.empty : Net Bool).step twoUsers
    (.join n "alice" "a0" "chan" sampleCall.id false true)).step twoUsers
    (.reconnect n aloneInCall ⟨"alice", "a1", "chan", "a0", "a0"⟩ true)

theorem aloneReconnected_runs {ok : Net Bool → Action Bool → Prop} (n : Bool)
    (hjoin : ok .empty (.join n "alice" "a0" "chan" sampleCall.id false true))
    (hrec : ok ((Net.empty : Net Bool).step twoUsers
      (.join n "alice" "a0" "chan" sampleCall.id false true))
      (.reconnect n aloneInCall ⟨"alice", "a1", "chan", "a0", "a0"⟩ true)) :
    (Net.machine twoUsers).Runs ok (.empty : Net Bool) (aloneReconnected n) := by
  refine .step (Action.reconnect n aloneInCall ⟨"alice", "a1", "chan", "a0", "a0"⟩ true)
    (.step (Action.join n "alice" "a0" "chan" sampleCall.id false true) .refl ?_
      hjoin) ?_ hrec
  · exact ⟨by decide, rfl, fun h => nomatch h⟩
  · refine ⟨by decide, fun st hst => ?_⟩
    cases hst
    refine ⟨rfl, fun row hrow => ?_, fun h => nomatch h⟩
    cases List.mem_singleton.1 hrow
    cases n <;> decide

/-- On the node that handles the RTC the map stays right. -/
theorem sessions_of_aloneReconnected :
    (aloneReconnected true).TableRight twoUsers true := by
  have hr : (Net.machine twoUsers).Runs Net.InOrder .empty (aloneReconnected true) := by
    refine aloneReconnected_runs true (fun x hx => nomatch hx)
      ⟨(fun hbot => nomatch hbot), fun _ => ?_⟩
    intro x hx _
    refine .inr ?_
    have hall : ∀ x ∈ (((Net.empty : Net Bool).step twoUsers
        (.join true "alice" "a0" "chan" sampleCall.id false true)).nodes
          true).sessions.rows,
        ((((Net.empty : Net Bool).step twoUsers
          (.join true "alice" "a0" "chan" sampleCall.id false true)).nodes true).heap
            x.us).originalConnID = "a0" ∧
        ((((Net.empty : Net Bool).step twoUsers
          (.join true "alice" "a0" "chan" sampleCall.id false true)).nodes true).heap
            x.us).channelID = "chan" ∧ x.key = "a0" := by decide
    obtain ⟨ho, hch, hk⟩ := hall x hx
    exact ⟨ho, hch, .inr (.inl hk)⟩
  exact (Net.sessions_of_runs hr).1 true

/-- Elsewhere the message of her reconnection gives the session a connection id that is
not its key. -/
theorem sessions_rekeyed : ∃ c : Net Bool,
    (Net.machine twoUsers).Runs Machine.Always .empty c ∧
      ∃ x ∈ (c.nodes true).sessions, ((c.nodes true).heap x.us).connID ≠ x.key := by
  have hr : (Net.machine twoUsers).Runs Machine.Always .empty
      (aloneReconnected false) :=
    aloneReconnected_runs false trivial trivial
  have hconnect :
      (true, ClusterMessage.connect ⟨"a0", "alice", "chan", sampleCall.id⟩) ∈
      (aloneReconnected false).inFlight := by decide
  have hr₁ :=
    hr.step (Action.handleEvent true
      (.connect ⟨"a0", "alice", "chan", sampleCall.id⟩) id)
    ⟨hconnect, fun l => .refl l⟩ trivial
  have hreconnect :
      (true, ClusterMessage.reconnect ⟨"a0", "a1", "alice", sampleCall.id⟩) ∈
      ((aloneReconnected false).step twoUsers (.handleEvent true
        (.connect ⟨"a0", "alice", "chan", sampleCall.id⟩) id)).inFlight := by decide
  have hr₂ := hr₁.step
    (Action.handleEvent true (.reconnect ⟨"a0", "a1", "alice", sampleCall.id⟩) id)
    ⟨hreconnect, fun l => .refl l⟩ trivial
  refine ⟨_, hr₂, ⟨"a0", 0⟩, ?_, ?_⟩
  · show (⟨"a0", 0⟩ : Slot) ∈ (Net.nodes _ true).sessions.rows
    decide
  · decide

end CallsPlugin.Ports
