import CallsPlugin.Ports.Webapp

/-!
# The events of a channel's calls

A call of a channel starts with its first session, sessions join and leave it,
and it ends with the last one; a host who ends it asks the clients to leave.
`Channel` is what the server knows of it and `Entries` what a client shows.

A client that follows every event shows what the server knows.  So does one
that starts from a snapshot of the server and then hears events that the
snapshot already has: a session has one connection and joins a call once, so
that what is heard a second time changes nothing in the end.
-/

namespace CallsPlugin.Ports

open CallsPlugin.Verified
open CallsPlugin.Ports.Public CallsPlugin.Ports.Db

/-- `call_start`, `user_joined`, `user_left` and `call_end`. -/
inductive CallEvent where
  | started (call : ClientCall) (postID hostID : String)
  | joined (userID sessionID : String)
  | left (userID sessionID : String)
  | ended
  deriving DecidableEq

/-- The event as it is published in the channel. -/
def CallEvent.publish (channelID : String) : CallEvent → WsEvent
  | .started call postID hostID =>
      .callStart call.id channelID call.startAt call.threadID postID call.ownerID hostID
  | .joined userID sessionID => .userJoined userID sessionID
  | .left userID sessionID => .userLeft userID sessionID
  | .ended => .callEnd

/-! ## What a client shows -/

/-- The call and the sessions a client shows for the channel. -/
@[ext] structure Entries where
  call : Option ClientCall
  sessions : SessionsMap
  deriving DecidableEq

namespace Entries

/-- Nothing is shown. -/
def none : Entries := ⟨.none, ∅⟩

/-- The entry of a session that joins. -/
abbrev joiner (userID sessionID : String) : UserSessionState :=
  Reducers.freshSession userID sessionID false false 0

/-- A client hears an event. -/
def after (e : Entries) : CallEvent → Entries
  | .started call _ _ => { e with call := some call }
  | .joined userID sessionID =>
      { e with sessions := e.sessions.insert sessionID (joiner userID sessionID) }
  | .left _ sessionID =>
      if e.sessions.erase sessionID = ∅ then none
      else { e with sessions := e.sessions.erase sessionID }
  | .ended => none

end Entries

/-- The entries of the client for the channel. -/
def ClientStore.entries (d : ClientStore) : Entries := ⟨d.calls, d.sessionsMap⟩

/-- The handlers of the webapp do to the entries what `Entries.after` says. -/
theorem ClientStore.entries_receive (d : ClientStore) (channelID : String)
    (ev : CallEvent) :
    (d.receive (ev.publish channelID)).entries = d.entries.after ev := by
  cases ev with
  | started call postID hostID => rfl
  | joined userID sessionID => rfl
  | left userID sessionID =>
    have hcalls : (d.userLeft userID sessionID).calls = _ := calls_userLeft
    have hsessions : (d.userLeft userID sessionID).sessionsMap = _ :=
      sessionsMap_userLeft
    show (⟨(d.userLeft userID sessionID).calls,
      (d.userLeft userID sessionID).sessionsMap⟩ : Entries) =
      if d.sessionsMap.erase sessionID = ∅ then Entries.none
      else ⟨d.calls, d.sessionsMap.erase sessionID⟩
    rw [hcalls, hsessions]
    by_cases hlast : d.sessionsMap.erase sessionID = ∅
    · rw [if_pos hlast, if_pos hlast, hlast]
      rfl
    · rw [if_neg hlast, if_neg hlast]
  | ended => rfl

/-! ## What the server knows -/

/-- A channel's call: its sessions by their ids, the ids of those that ever joined it,
whether its host has ended it and, of the channel, whether it was ever without a
call. -/
structure Channel where
  call : Option ClientCall
  sessions : SessionsMap
  used : List String
  ending : Bool
  idle : Bool
  deriving DecidableEq

namespace Channel

/-- What a client that knows everything shows. -/
def entries (g : Channel) : Entries := ⟨g.call, g.sessions⟩

/-- The event can happen. -/
def Allows (g : Channel) : CallEvent → Prop
  | .started call _ _ => g.call = none ∧ call.startAt ≠ 0
  | .joined _ sessionID => g.call ≠ none ∧ sessionID ∉ g.used
  | .left _ sessionID => sessionID ∈ g.sessions
  | .ended => g.call ≠ none

instance (g : Channel) (ev : CallEvent) : Decidable (g.Allows ev) := by
  cases ev <;> unfold Allows <;> infer_instance

/-- The channel after the event. -/
def after (g : Channel) : CallEvent → Channel
  | .started call _ _ => ⟨some call, ∅, [], false, true⟩
  | .joined userID sessionID =>
      { g with
        sessions := g.sessions.insert sessionID (Entries.joiner userID sessionID)
        used := sessionID :: g.used }
  | .left _ sessionID =>
      if g.sessions.erase sessionID = ∅ then ⟨none, ∅, [], false, true⟩
      else { g with sessions := g.sessions.erase sessionID }
  | .ended => { g with ending := true }

/-- The parts of a channel's state fit together. -/
structure Fits (g : Channel) : Prop where
  used : ∀ id, id ∈ g.sessions → id ∈ g.used
  without : g.call = none → g.sessions = ∅ ∧ g.ending = false ∧ g.idle = true

/-- Without a call there are no sessions. -/
theorem Fits.call_ne_none {g : Channel} (h : g.Fits) {id : String}
    (hid : id ∈ g.sessions) :
    g.call ≠ none := fun hnone => by
  rw [(h.without hnone).1] at hid
  exact Finmap.notMem_empty hid

theorem Fits.after {g : Channel} (h : g.Fits) {ev : CallEvent} (hallows : g.Allows ev) :
    (g.after ev).Fits := by
  cases ev with
  | started call postID hostID =>
    exact ⟨fun id hid => absurd hid Finmap.notMem_empty, fun hnone => nomatch hnone⟩
  | joined userID sessionID =>
    refine ⟨fun id hid => ?_, fun hnone => absurd hnone hallows.1⟩
    rcases Finmap.mem_insert.1 hid with rfl | hid
    · exact List.mem_cons_self
    · exact List.mem_cons_of_mem _ (h.used id hid)
  | left userID sessionID =>
    unfold Channel.after
    dsimp only
    split
    · exact ⟨fun id hid => absurd hid Finmap.notMem_empty, fun _ => ⟨rfl, rfl, rfl⟩⟩
    · exact ⟨fun id hid => h.used id (Finmap.mem_erase.1 hid).2,
        fun hnone => absurd hnone (h.call_ne_none hallows)⟩
  | ended => exact ⟨h.used, fun hnone => absurd hnone hallows⟩

/-- A channel that was without a call stays so. -/
theorem idle_after {g : Channel} (h : g.idle = true) (ev : CallEvent) :
    (g.after ev).idle = true := by
  cases ev with
  | left userID sessionID =>
    unfold Channel.after
    dsimp only
    split
    · rfl
    · exact h
  | _ => first | rfl | exact h

/-- The events lead from one state to another. -/
def Leads : Channel → List CallEvent → Channel → Prop
  | g, [], g' => g = g'
  | g, ev :: evs, g' => g.Allows ev ∧ (g.after ev).Leads evs g'

theorem idle_leads {evs : List CallEvent} : ∀ {g g' : Channel}, g.idle = true →
    g.Leads evs g' → g'.idle = true := by
  induction evs with
  | nil =>
    intro g g' h hleads
    obtain rfl : g = g' := hleads
    exact h
  | cons ev evs ih => exact fun h hleads => ih (idle_after h ev) hleads.2

/-- The call has a session. -/
def Populated (g : Channel) : Prop := g.call ≠ none → g.sessions ≠ ∅

theorem leads_append {evs evs' : List CallEvent} : ∀ {g g' g'' : Channel},
    g.Leads evs g' → g'.Leads evs' g'' → g.Leads (evs ++ evs') g'' := by
  induction evs with
  | nil =>
    intro g g' g'' h h'
    obtain rfl : g = g' := h
    exact h'
  | cons ev evs ih =>
    intro g g' g'' h h'
    exact ⟨h.1, ih h.2 h'⟩

theorem leads_split {evs evs' : List CallEvent} :
    ∀ {g g'' : Channel}, g.Leads (evs ++ evs') g'' →
    ∃ g', g.Leads evs g' ∧ g'.Leads evs' g'' := by
  induction evs with
  | nil =>
    intro g g'' h
    exact ⟨g, rfl, h⟩
  | cons ev evs ih =>
    intro g g'' h
    obtain ⟨g', hleads, hrest⟩ := ih h.2
    exact ⟨g', ⟨h.1, hleads⟩, hrest⟩

theorem Fits.leads {evs : List CallEvent} : ∀ {g g' : Channel}, g.Fits →
    g.Leads evs g' → g'.Fits := by
  induction evs with
  | nil =>
    intro g g' h hleads
    obtain rfl : g = g' := hleads
    exact h
  | cons ev evs ih =>
    intro g g' h hleads
    exact ih (h.after hleads.1) hleads.2

end Channel

/-! ## Following -/

/-- The client shows no session the server does not know, and no call where there is
none; it shows everything once it is informed, unless the host is ending the call. -/
structure Accords (informed : Prop) (e : Entries) (g : Channel) : Prop where
  loose : ∀ id, id ∈ e.sessions → id ∈ g.sessions
  without : g.call = none → e.call = none
  exact : g.ending = false → g.idle = true ∨ informed → e = g.entries

namespace Accords

variable {informed : Prop} {e : Entries} {g g' : Channel}

/-- A client that is informed of less. -/
theorem mono {informed' : Prop} (h : Accords informed e g)
    (himp : informed' → informed) :
    Accords informed' e g :=
  ⟨h.loose, h.without, fun hending hknown => h.exact hending (hknown.imp_right himp)⟩

/-- **One event**, heard by a client that has heard all before it. -/
theorem after (h : Accords informed e g) (hfits : g.Fits) {ev : CallEvent}
    (hallows : g.Allows ev) :
    Accords informed (e.after ev) (g.after ev) := by
  cases ev with
  | started call postID hostID =>
    have hempty : e.sessions = ∅ := by
      refine ClientStore.sessionsMap_eq_empty.2 fun id =>
        Finmap.lookup_eq_none.2 fun hid => ?_
      have hin := h.loose id hid
      rw [(hfits.without hallows.1).1] at hin
      exact absurd hin Finmap.notMem_empty
    refine ⟨fun id hid => ?_, fun hnone => (nomatch hnone), fun _ _ => ?_⟩
    · have hin : id ∈ e.sessions := hid
      rw [hempty] at hin
      exact absurd hin Finmap.notMem_empty
    · exact Entries.ext rfl hempty
  | joined userID sessionID =>
    refine ⟨fun id hid => ?_, fun hnone => absurd hnone hallows.1,
      fun hending hknown => ?_⟩
    · rcases Finmap.mem_insert.1 hid with rfl | hid
      · exact Finmap.mem_insert.2 (.inl rfl)
      · exact Finmap.mem_insert.2 (.inr (h.loose id hid))
    · rw [h.exact hending hknown]
      rfl
  | left userID sessionID =>
    by_cases hlast : g.sessions.erase sessionID = ∅
    · -- the last session leaves, and with it the last that the client shows
      have hempty : e.sessions.erase sessionID = ∅ := by
        refine ClientStore.sessionsMap_eq_empty.2 fun id =>
          Finmap.lookup_eq_none.2 fun hid => ?_
        obtain ⟨hne, hin⟩ := Finmap.mem_erase.1 hid
        have hmem : id ∈ g.sessions.erase sessionID :=
          Finmap.mem_erase.2 ⟨hne, h.loose id hin⟩
        rw [hlast] at hmem
        exact absurd hmem Finmap.notMem_empty
      have he : e.after (.left userID sessionID) = Entries.none := if_pos hempty
      have hg : g.after (.left userID sessionID) = ⟨none, ∅, [], false, true⟩ :=
        if_pos hlast
      rw [he, hg]
      exact ⟨fun id hid => hid, fun _ => rfl, fun _ _ => rfl⟩
    · have hg : g.after (.left userID sessionID) =
          { g with sessions := g.sessions.erase sessionID } :=
        if_neg hlast
      rw [hg]
      refine ⟨fun id hid => ?_, fun hnone => ?_, fun hending hknown => ?_⟩
      · show id ∈ g.sessions.erase sessionID
        unfold Entries.after at hid
        dsimp only at hid
        split at hid
        · exact absurd hid Finmap.notMem_empty
        · obtain ⟨hne, hin⟩ := Finmap.mem_erase.1 hid
          exact Finmap.mem_erase.2 ⟨hne, h.loose id hin⟩
      · exact absurd hnone (hfits.call_ne_none hallows)
      · rw [h.exact hending hknown]
        exact if_neg hlast
  | ended =>
    exact ⟨fun id hid => absurd hid Finmap.notMem_empty, fun _ => rfl,
      fun hending => nomatch hending⟩

/-- **Events in a row.** -/
theorem leads {evs : List CallEvent} :
    ∀ {e : Entries} {g : Channel}, Accords informed e g → g.Fits →
    g.Leads evs g' → Accords informed (evs.foldl Entries.after e) g' := by
  induction evs with
  | nil =>
    intro e g h _ hleads
    obtain rfl : g = g' := hleads
    exact h
  | cons ev evs ih =>
    intro e g h hfits hleads
    exact ih (h.after hfits hleads.1) (hfits.after hleads.1) hleads.2

end Accords

/-! ## Hearing again what a snapshot has -/

/-- The event starts a call. -/
def CallEvent.starts : CallEvent → Bool
  | .started _ _ _ => true
  | _ => false

/-- `n` is a later state of the same call: a session that has left does not come back,
one that stays has the same entry. -/
structure Later (g n : Channel) : Prop where
  call : n.call = g.call
  gone : ∀ id, id ∈ g.used → id ∉ g.sessions → id ∉ n.sessions
  stays : ∀ id, id ∈ g.sessions → id ∈ n.sessions →
    n.sessions.lookup id = g.sessions.lookup id
  ending : g.ending = true → n.ending = true

/-- As long as no call starts, the call there is at the end is the one there was. -/
theorem Later.of_leads {n : Channel} (hn : n.call ≠ none) {evs : List CallEvent} :
    ∀ {g : Channel},
    (∀ ev ∈ evs, ev.starts = false) → g.Fits → g.Leads evs n → Later g n := by
  induction evs with
  | nil =>
    intro g _ _ hleads
    obtain rfl : g = n := hleads
    exact ⟨rfl, fun _ _ h => h, fun _ _ _ => rfl, id⟩
  | cons ev evs ih =>
    intro g hno hfits hleads
    obtain ⟨hallows, hrest⟩ := hleads
    have hlater : Later (g.after ev) n :=
      ih (fun ev' hev' => hno ev' (List.mem_cons_of_mem _ hev'))
        (hfits.after hallows) hrest
    cases ev with
    | started call postID hostID =>
      exact absurd (hno _ List.mem_cons_self) (by simp [CallEvent.starts])
    | joined userID sessionID =>
      have hne : ∀ id, id ∈ g.used → id ≠ sessionID :=
        fun id hid h => hallows.2 (h ▸ hid)
      refine ⟨hlater.call, fun id hused hid => ?_, fun id hid hin => ?_, hlater.ending⟩
      · refine hlater.gone id (List.mem_cons_of_mem _ hused) fun hin => ?_
        rcases Finmap.mem_insert.1 hin with h | h
        · exact hne id hused h
        · exact hid h
      · have hstays := hlater.stays id (Finmap.mem_insert.2 (.inr hid)) hin
        rwa [show (g.after (.joined userID sessionID)).sessions.lookup id =
          g.sessions.lookup id from Finmap.lookup_insert_of_ne _
            (hne id (hfits.used id hid))] at hstays
    | left userID sessionID =>
      by_cases hlast : g.sessions.erase sessionID = ∅
      · -- then there is no call at the end
        have hg : g.after (.left userID sessionID) = ⟨none, ∅, [], false, true⟩ :=
          if_pos hlast
        rw [hg] at hlater
        exact absurd hlater.call hn
      · have hg : g.after (.left userID sessionID) =
            { g with sessions := g.sessions.erase sessionID } := if_neg hlast
        rw [hg] at hlater
        refine ⟨hlater.call, fun id hused hid => ?_, fun id hid hin => ?_,
          hlater.ending⟩
        · exact hlater.gone id hused fun h => hid (Finmap.mem_erase.1 h).2
        · have hne : id ≠ sessionID := fun h =>
            hlater.gone id (hfits.used id hid) (h ▸ Finmap.notMem_erase_self) hin
          have hstays := hlater.stays id (Finmap.mem_erase.2 ⟨hne, hid⟩) hin
          rwa [show ({ g with sessions := g.sessions.erase sessionID } :
            Channel).sessions.lookup id =
            g.sessions.lookup id from Finmap.lookup_erase_ne hne] at hstays
    | ended =>
        exact ⟨hlater.call, hlater.gone, hlater.stays, fun _ => hlater.ending rfl⟩

/-- The client has the snapshot of `n` and hears the events from `g` on: what it shows
beyond `n` is still known at `g`.  Within the call of `n` it shows that call, and each
of its sessions that has joined as `n` has it. -/
structure Overlaps (n : Channel) (evs : List CallEvent) (e : Entries) (g : Channel) :
    Prop where
  beyond : ∀ id, id ∈ e.sessions → id ∈ n.sessions ∨ id ∈ g.sessions
  within : n.ending = false → (∀ ev ∈ evs, ev.starts = false) →
    e.call = n.call ∧
      (∀ id, id ∈ g.sessions → id ∈ n.sessions →
        e.sessions.lookup id = n.sessions.lookup id) ∧
      ((∀ id, id ∈ g.sessions → id ∈ e.sessions) ∨ ∀ id, id ∈ n.sessions →
        id ∈ e.sessions)

namespace Overlaps

variable {n g : Channel} {evs : List CallEvent} {e : Entries}

/-- A map that is not empty has a key. -/
theorem exists_mem_of_ne {map : SessionsMap} (h : map ≠ ∅) : ∃ id, id ∈ map := by
  by_contra hno
  refine h (ClientStore.sessionsMap_eq_empty.2 fun id => Finmap.lookup_eq_none.2
    fun hid => ?_)
  exact hno ⟨id, hid⟩

/-- **One event.** -/
theorem after (hn : n.call ≠ none) (hsome : n.sessions ≠ ∅) {ev : CallEvent}
    (h : Overlaps n (ev :: evs) e g) (hfits : g.Fits) (hallows : g.Allows ev)
    (hleads : (g.after ev).Leads evs n) : Overlaps n evs (e.after ev) (g.after ev) := by
  have hlater : (∀ ev ∈ evs, ev.starts = false) → Later (g.after ev) n := fun hno =>
    .of_leads hn hno (hfits.after hallows) hleads
  have hwithin : n.ending = false → ev.starts = false →
      (∀ ev ∈ evs, ev.starts = false) → _ :=
    fun hending hev hno => h.within hending fun ev' hev' => by
      rcases List.mem_cons.1 hev' with rfl | hev'
      · exact hev
      · exact hno ev' hev'
  cases ev with
  | started call postID hostID =>
    refine ⟨fun id hid => ?_,
      fun _ hno => ⟨(hlater hno).call.symm, fun id hid => ?_, .inl ?_⟩⟩
    · rcases h.beyond id hid with hin | hin
      · exact .inl hin
      · exact absurd hallows.1 (hfits.call_ne_none hin)
    · exact absurd hid Finmap.notMem_empty
    · exact fun id hid => absurd hid Finmap.notMem_empty
  | joined userID sessionID =>
    refine ⟨fun id hid => ?_, fun hending hno => ?_⟩
    · rcases Finmap.mem_insert.1 hid with rfl | hid
      · exact .inr (Finmap.mem_insert.2 (.inl rfl))
      · exact (h.beyond id hid).imp_right fun hin => Finmap.mem_insert.2 (.inr hin)
    · obtain ⟨hcall, hentry, hshown⟩ := hwithin hending rfl hno
      refine ⟨hcall, fun id hid hin => ?_, ?_⟩
      · have hstays := (hlater hno).stays id hid hin
        show (e.sessions.insert sessionID (Entries.joiner userID sessionID)).lookup id =
          _
        by_cases hid' : id = sessionID
        · subst hid'
          rw [hstays]
          show _ = (g.sessions.insert id (Entries.joiner userID id)).lookup id
          rw [Finmap.lookup_insert, Finmap.lookup_insert]
        · rw [Finmap.lookup_insert_of_ne _ hid']
          exact hentry id ((Finmap.mem_insert.1 hid).resolve_left hid') hin
      · refine hshown.imp (fun hshown id hid => ?_) fun hshown id hid => ?_
        · rcases Finmap.mem_insert.1 hid with rfl | hid
          · exact Finmap.mem_insert.2 (.inl rfl)
          · exact Finmap.mem_insert.2 (.inr (hshown id hid))
        · exact Finmap.mem_insert.2 (.inr (hshown id hid))
  | left userID sessionID =>
    have hsessions : (g.after (.left userID sessionID)).sessions =
        g.sessions.erase sessionID := by
      unfold Channel.after
      dsimp only
      split
      · next hlast => exact hlast.symm
      · rfl
    refine ⟨fun id hid => ?_, fun hending hno => ?_⟩
    · rw [hsessions]
      unfold Entries.after at hid
      dsimp only at hid
      split at hid
      · exact absurd hid Finmap.notMem_empty
      · obtain ⟨hne, hin⟩ := Finmap.mem_erase.1 hid
        exact (h.beyond id hin).imp_right fun hin => Finmap.mem_erase.2 ⟨hne, hin⟩
    · obtain ⟨hcall, hentry, hshown⟩ := hwithin hending rfl hno
      have hlast : g.sessions.erase sessionID ≠ ∅ := fun hlast => by
        have hg : g.after (.left userID sessionID) = ⟨none, ∅, [], false, true⟩ :=
          if_pos hlast
        have hlater := hlater hno
        rw [hg] at hlater
        exact hn hlater.call
      have hused : (g.after (.left userID sessionID)).used = g.used := by
        rw [show g.after (.left userID sessionID) = _ from if_neg hlast]
      have hgone : sessionID ∉ n.sessions := by
        refine (hlater hno).gone sessionID ?_ ?_
        · rw [hused]
          exact hfits.used sessionID hallows
        · rw [hsessions]
          exact Finmap.notMem_erase_self
      have hleft : e.sessions.erase sessionID ≠ ∅ := by
        -- some session of the call is shown besides
        have hother : ∃ id, id ≠ sessionID ∧ id ∈ e.sessions := by
          rcases hshown with hshown | hshown
          · obtain ⟨id, hid⟩ := exists_mem_of_ne hlast
            obtain ⟨hne, hin⟩ := Finmap.mem_erase.1 hid
            exact ⟨id, hne, hshown id hin⟩
          · obtain ⟨id, hid⟩ := exists_mem_of_ne hsome
            exact ⟨id, fun h => hgone (h ▸ hid), hshown id hid⟩
        obtain ⟨id, hne, hin⟩ := hother
        intro hempty
        have hmem : id ∈ e.sessions.erase sessionID := Finmap.mem_erase.2 ⟨hne, hin⟩
        rw [hempty] at hmem
        exact Finmap.notMem_empty hmem
      have he : e.after (.left userID sessionID) =
          { e with sessions := e.sessions.erase sessionID } := if_neg hleft
      rw [he, hsessions]
      refine ⟨hcall, fun id hid hin => ?_,
        hshown.imp (fun hshown id hid => ?_) fun hshown id hid => ?_⟩
      · obtain ⟨hne, hin'⟩ := Finmap.mem_erase.1 hid
        show (e.sessions.erase sessionID).lookup id = _
        rw [Finmap.lookup_erase_ne hne]
        exact hentry id hin' hin
      · obtain ⟨hne, hin⟩ := Finmap.mem_erase.1 hid
        exact Finmap.mem_erase.2 ⟨hne, hshown id hin⟩
      · exact Finmap.mem_erase.2 ⟨fun h => hgone (h ▸ hid), hshown id hid⟩
  | ended =>
    refine ⟨fun id hid => absurd hid Finmap.notMem_empty, fun hending hno => ?_⟩
    have hended := (hlater hno).ending rfl
    rw [hending] at hended
    cases hended

/-- In the end the client follows. -/
theorem follows {informed : Prop} (hn : n.call ≠ none) (h : Overlaps n [] e n) :
    Accords informed e n := by
  refine ⟨fun id hid => (h.beyond id hid).elim (·) (·), fun hnone => absurd hnone hn,
    fun hending _ => ?_⟩
  obtain ⟨hcall, hentry, -⟩ :=
    h.within hending fun ev hev => absurd hev List.not_mem_nil
  refine Entries.ext hcall (Finmap.ext_lookup fun id => ?_)
  by_cases hid : id ∈ n.sessions
  · exact hentry id hid hid
  · have hnot : id ∉ e.sessions := fun h' => hid ((h.beyond id h').elim (·) (·))
    rw [Finmap.lookup_eq_none.2 hnot]
    exact (Finmap.lookup_eq_none.2 hid).symm

end Overlaps

/-- **A snapshot and the events before it**: a client that has the entries of a later
state and hears the events that lead there follows. -/
theorem Accords.of_snapshot {informed : Prop} {n : Channel} (hn : n.call ≠ none)
    (hsome : n.sessions ≠ ∅) {g : Channel} (hfits : g.Fits) {evs : List CallEvent}
    (hleads : g.Leads evs n) :
    Accords informed (evs.foldl Entries.after n.entries) n := by
  have hoverlaps : ∀ (evs : List CallEvent) {e : Entries} {g : Channel},
      Overlaps n evs e g → g.Fits →
      g.Leads evs n → Accords informed (evs.foldl Entries.after e) n := by
    intro evs
    induction evs with
    | nil =>
      intro e g h _ hleads
      obtain rfl : g = n := hleads
      exact h.follows hn
    | cons ev evs ih =>
      intro e g h hfits hleads
      exact ih (h.after hn hsome hfits hleads.1 hleads.2)
        (hfits.after hleads.1) hleads.2
  exact hoverlaps evs ⟨fun id hid => .inl hid,
    fun _ _ => ⟨rfl, fun _ _ _ => rfl, .inr fun _ => id⟩⟩ hfits hleads

/-- An event that starts no call leaves it with a session. -/
theorem Channel.populated_after {g : Channel} (h : g.Populated) {ev : CallEvent}
    (hev : ev.starts = false) : (g.after ev).Populated := by
  cases ev with
  | started call postID hostID => cases hev
  | joined userID sessionID =>
    intro _ hempty
    have hin : sessionID ∈ g.sessions.insert sessionID
        (Entries.joiner userID sessionID) :=
      Finmap.mem_insert.2 (.inl rfl)
    rw [show g.sessions.insert sessionID (Entries.joiner userID sessionID) =
      ∅ from hempty] at hin
    exact Finmap.notMem_empty hin
  | left userID sessionID =>
    unfold Channel.after
    dsimp only
    split
    · exact fun hcall => absurd rfl hcall
    · next hlast => exact fun _ => hlast
  | ended => exact h

end CallsPlugin.Ports
