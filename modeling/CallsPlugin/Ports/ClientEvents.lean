import CallsPlugin.Ports.ClientSessions
import CallsPlugin.Verified.Machine

/-!
# Events about the sessions of calls (`webapp/src/websocket_handlers.ts`)

What the webapp stores of sessions in the course of any events, those that come late or
for sessions it does not know among them.  Every entry has the id it is stored under and
a user, and a session that has left stays away, as long as no event about an attribute
names a session that its channel does not have.
-/

namespace CallsPlugin.Ports.ClientSessions

open CallsPlugin.Verified
open CallsPlugin.Ports.Public CallsPlugin.Ports.Db

/-! ## Handlers -/

/-- The sessions of a call as the server sends them. -/
structure Snapshot where
  sessions : List UserStateClient
  named : ∀ session ∈ sessions, session.userID ≠ ""

/-- A session as the server shows it. -/
def ofSession (session : UserStateClient) : UserSessionState where
  toUserSessionState := ClientStore.ofSession session

/-- `getSessionsMapFromSessions` -/
def getSessionsMapFromSessions (sessions : List UserStateClient) : SessionsMap :=
  sessions.foldl (fun map session => map.insert session.sessionID (ofSession session)) ∅

/-- What the webapp hears of.  A reaction counts only in the channel of the current
call. -/
inductive ClientEvent where
  | uninit
  | callEnd (channelID : String)
  | callState (channelID : String) (call : Snapshot)
  | userJoined (s : Subject)
  | userLeft (s : Subject)
  | userMuted (s : Subject)
  | userUnmuted (s : Subject)
  | userVoiceOn (s : Subject)
  | userVoiceOff (s : Subject)
  | userVideoOn (s : Subject)
  | userVideoOff (s : Subject)
  | userRaisedHand (s : Subject) (raisedHand : Int)
  | userUnraisedHand (s : Subject) (raisedHand : Int)
  | userReaction (s : Subject) (reaction : Reaction) (current : Bool)
  | userReactedTimeout (s : Subject) (reaction : Reaction)

/-- The action that the handler of an event dispatches first. -/
def ClientEvent.action : ClientEvent → Option SessionsAction
  | uninit => some .uninit
  | callEnd channelID => some (.callEnd channelID)
  | callState channelID call =>
      some (.usersStates channelID (getSessionsMapFromSessions call.sessions))
  | userJoined s => some (.userJoined s)
  | userLeft s => some (.userLeft s)
  | userMuted s => some (.attribute .userMuted s)
  | userUnmuted s => some (.attribute .userUnmuted s)
  | userVoiceOn s => some (.attribute .userVoiceOn s)
  | userVoiceOff s => some (.attribute .userVoiceOff s)
  | userVideoOn s => some (.attribute .userVideoOn s)
  | userVideoOff s => some (.attribute .userVideoOff s)
  | userRaisedHand s raisedHand =>
      some (.attribute (.userRaiseHand (some raisedHand)) s)
  | userUnraisedHand s raisedHand =>
      some (.attribute (.userLowerHand (some raisedHand)) s)
  | userReaction s reaction current =>
      if current then some (.attribute (.userReacted reaction) s) else none
  | userReactedTimeout s reaction => some (.userReactedTimeout (some reaction) s)

/-- `numSessionsInCallInChannel` -/
def numSessionsInCallInChannel (state : SessionsState) (channelID : String) : Nat :=
  ((state channelID).getD ∅).keys.card

/-- The state after the first action of an event. -/
def dispatched (state : SessionsState) (ev : ClientEvent) : SessionsState :=
  match ev.action with
  | some action => sessions state action
  | none => state

/-- The handlers; the call is over with its last session. -/
def receive (state : SessionsState) (ev : ClientEvent) : SessionsState :=
  match ev with
  | .userLeft s =>
      if numSessionsInCallInChannel (dispatched state ev) s.channelID = 0 then
        sessions (dispatched state ev) (.callEnd s.channelID)
      else dispatched state ev
  | _ => dispatched state ev

/-! ## What is expected -/

/-- What is stored, and which sessions have left and not been heard of as joined since,
while their channel had an entry. -/
structure Client where
  state : SessionsState
  gone : List (String × String)

namespace Client

/-- The sessions that are gone after an event. -/
def goneAfter (d : Client) : ClientEvent → List (String × String)
  | .uninit => []
  | .callEnd channelID => d.gone.filter fun p => p.1 ≠ channelID
  | .callState channelID _ => d.gone.filter fun p => p.1 ≠ channelID
  | .userJoined s => d.gone.filter fun p => p ≠ (s.channelID, s.sessionID)
  | .userLeft s =>
      if numSessionsInCallInChannel (sessions d.state (.userLeft s)) s.channelID =
          0 then
        d.gone.filter fun p => p.1 ≠ s.channelID
      else (s.channelID, s.sessionID) :: d.gone
  | _ => d.gone

def step (d : Client) (ev : ClientEvent) : Client :=
  ⟨receive d.state ev, d.goneAfter ev⟩

/-- A client that hears any events in any order. -/
def machine : Machine Client ClientEvent := ⟨fun _ _ => True, step⟩

instance (d : Client) (ev : ClientEvent) : Decidable (machine.Enabled d ev) :=
  inferInstanceAs (Decidable True)

/-- Nothing has been heard of any channel. -/
def initial : Client := ⟨noSessions, []⟩

end Client

/-- The record has this id and a user. -/
def Names (sessionID : String) (session : UserSessionState) : Prop :=
  session.sessionID = some sessionID ∧ ∃ userID, userID ≠ "" ∧
    session.userID = some userID

/-- Every entry has the id it is stored under and a user. -/
def Identified (map : SessionsMap) : Prop :=
  ∀ sessionID session, map.lookup sessionID = some session → Names sessionID session

/-- The channel has an entry, and the session is not in it. -/
def Away (state : SessionsState) (p : String × String) : Prop :=
  ∃ map, state p.1 = some map ∧ map.lookup p.2 = none

/-- Every entry is one of a session with a user, and none of a session that is gone. -/
structure Client.Sound (d : Client) : Prop where
  identified : ∀ channelID map, d.state channelID = some map → Identified map
  away : ∀ p ∈ d.gone, Away d.state p

/-- An event about an attribute names a session of its channel, if the channel has
any. -/
def Client.Knows (d : Client) (ev : ClientEvent) : Prop :=
  ∀ a s, ev.action = some (.attribute a s) → d.state s.channelID ≠ none →
    (d.state.entry s.channelID s.sessionID).isSome

/-! ## The actions -/

variable {state : SessionsState} {s : Subject} {session : UserSessionState}
  {a : AttributeAction}

theorem Subject.names_record (s : Subject) (unmuted voice video : Bool)
    (raisedHand : Option Int) (reaction : Option Reaction) :
    Names s.sessionID (s.record unmuted voice video raisedHand reaction) :=
  ⟨rfl, s.userID, s.named, rfl⟩

theorem Subject.names_fresh (s : Subject) (a : AttributeAction) :
    Names s.sessionID (a.fresh s) := by
  cases a <;> exact s.names_record ..

theorem Names.set {sessionID : String} (h : Names sessionID session)
    (a : AttributeAction) :
    Names sessionID (a.set session) := by
  cases a <;> exact h

theorem identified_empty : Identified ∅ := by
  intro sessionID session h
  rw [Finmap.lookup_empty] at h
  cases h

theorem Identified.insert {map : SessionsMap} {sessionID : String} (h : Identified map)
    (hNames : Names sessionID session) : Identified (map.insert sessionID session) := by
  intro id r hr
  by_cases hID : id = sessionID
  · rw [hID, Finmap.lookup_insert] at hr
    cases hr
    exact hID ▸ hNames
  · rw [Finmap.lookup_insert_of_ne _ hID] at hr
    exact h id r hr

theorem Identified.erase {map : SessionsMap} (h : Identified map) (sessionID : String) :
    Identified (map.erase sessionID) := by
  intro id r hr
  by_cases hID : id = sessionID
  · rw [hID, Finmap.lookup_erase] at hr
    cases hr
  · rw [Finmap.lookup_erase_ne hID] at hr
    exact h id r hr

/-- Sessions that the server sends are stored under their ids. -/
theorem identified_snapshot (sessions : List UserStateClient)
    (hNamed : ∀ x ∈ sessions, x.userID ≠ "") :
    Identified (getSessionsMapFromSessions sessions) := by
  have hFold : ∀ map, Identified map → Identified (sessions.foldl
      (fun map x => map.insert x.sessionID (ofSession x)) map) := by
    induction sessions with
    | nil => exact fun map hMap => hMap
    | cons x rest ih =>
        intro map hMap
        apply ih fun y hy => hNamed y (List.mem_cons_of_mem x hy)
        exact hMap.insert ⟨rfl, x.userID, hNamed x List.mem_cons_self, rfl⟩
  exact hFold ∅ identified_empty

/-- Every channel's entries are identified. -/
def AllIdentified (state : SessionsState) : Prop :=
  ∀ channelID map, state channelID = some map → Identified map

theorem AllIdentified.getD (h : AllIdentified state) (channelID : String) :
    Identified ((state channelID).getD ∅) := by
  cases hMap : state channelID with
  | none => exact identified_empty
  | some map => exact h channelID map hMap

theorem AllIdentified.put {channelID : String} {map : Option SessionsMap}
    (h : AllIdentified state) (hMap : ∀ m, map = some m → Identified m) :
    AllIdentified (state.put channelID map) := by
  intro channelID' m hm
  by_cases hChannel : channelID' = channelID
  · rw [hChannel, put_self] at hm
    exact hMap m hm
  · rw [put_of_ne hChannel] at hm
    exact h channelID' m hm

theorem AllIdentified.write (h : AllIdentified state)
    (hNames : Names s.sessionID session) :
    AllIdentified (state.write s session) := by
  apply h.put
  intro m hm
  cases hm
  exact (h.getD s.channelID).insert hNames

theorem Away.put {p : String × String} {channelID : String} {map : Option SessionsMap}
    (h : Away state p) (hNe : p.1 ≠ channelID) : Away (state.put channelID map) p := by
  obtain ⟨map', hMap, hNone⟩ := h
  exact ⟨map', (put_of_ne hNe).trans hMap, hNone⟩

theorem Away.entry {p : String × String} (h : Away state p) :
    state.entry p.1 p.2 = none := by
  obtain ⟨map, hMap, hNone⟩ := h
  rw [entry_of_some hMap, hNone]

theorem Away.write {p : String × String} (h : Away state p)
    (hNe : p ≠ (s.channelID, s.sessionID)) : Away (state.write s session) p := by
  by_cases hChannel : p.1 = s.channelID
  · have hID : p.2 ≠ s.sessionID := fun hID => hNe (Prod.ext hChannel hID)
    have hNone : ((state s.channelID).getD ∅).lookup p.2 = none := by
      rw [lookup_getD, ← hChannel]
      exact h.entry
    have hSelf : state.write s session p.1 =
        some (((state s.channelID).getD ∅).insert s.sessionID session) := by
      rw [hChannel]
      exact write_self
    refine ⟨_, hSelf, ?_⟩
    rw [Finmap.lookup_insert_of_ne _ hID]
    exact hNone
  · exact h.put hChannel

/-! ## One event -/

/-- What an event does to a channel: nothing, one record written, or the record that
leaves. -/
theorem sessions_attribute_write (hKnows : state s.channelID ≠ none →
    (state.entry s.channelID s.sessionID).isSome) (h : AllIdentified state) :
    ∃ session, Names s.sessionID session ∧
      sessions state (.attribute a s) = state.write s session := by
  cases hMap : state s.channelID with
  | none =>
      refine ⟨a.fresh s, s.names_fresh a, ?_⟩
      rw [sessions_of_none hMap]
      unfold SessionsState.write
      rw [hMap]
      rfl
  | some map =>
      obtain ⟨stored, hStored⟩ := Option.isSome_iff_exists.mp (hKnows (by
        rw [hMap]
        exact Option.some_ne_none map))
      have hNames : Names s.sessionID stored := by
        apply h s.channelID map hMap
        rw [← entry_of_some hMap]
        exact hStored
      refine ⟨a.set stored, hNames.set a, ?_⟩
      rw [sessions_of_some hMap, hStored]
      unfold SessionsState.write
      rw [hMap]
      rfl

/-- A reaction that times out changes a record that is stored, if any. -/
theorem sessions_timeout (reaction : Option Reaction) (h : AllIdentified state) :
    sessions state (.userReactedTimeout reaction s) = state ∨
      ∃ session, Names s.sessionID session ∧
        (state.entry s.channelID s.sessionID).isSome ∧
        sessions state (.userReactedTimeout reaction s) = state.write s session := by
  unfold sessions
  dsimp only
  split
  · exact .inl rfl
  · next stored hStored =>
      have hNames : Names s.sessionID stored := by
        apply h.getD s.channelID
        rw [lookup_getD]
        exact hStored
      split
      · split
        · exact .inl rfl
        · exact .inr ⟨{ stored with reaction := none }, hNames,
            Option.isSome_of_eq_some hStored, rfl⟩
      · exact .inl rfl

namespace Client

variable {d : Client} {ev : ClientEvent}

/-- A record written for a session that is not gone. -/
theorem Sound.write (h : d.Sound) (hNames : Names s.sessionID session)
    (hHere : (s.channelID, s.sessionID) ∉ d.gone) :
    Sound ⟨d.state.write s session, d.gone⟩ := by
  refine ⟨AllIdentified.write h.identified hNames, ?_⟩
  intro p hp
  have hNe : p ≠ (s.channelID, s.sessionID) := fun hEq => hHere (hEq ▸ hp)
  exact (h.away p hp).write hNe

/-- A session that is stored is not gone. -/
theorem Sound.here (h : d.Sound)
    (hSome : (d.state.entry s.channelID s.sessionID).isSome) :
    (s.channelID, s.sessionID) ∉ d.gone := by
  intro hGone
  rw [(h.away _ hGone).entry] at hSome
  cases hSome

theorem Sound.attribute (h : d.Sound) (hKnows : d.state s.channelID ≠ none →
    (d.state.entry s.channelID s.sessionID).isSome) :
    Sound ⟨sessions d.state (.attribute a s), d.gone⟩ := by
  obtain ⟨session, hNames, hWrite⟩ :=
    sessions_attribute_write (a := a) hKnows h.identified
  rw [hWrite]
  apply h.write hNames
  intro hGone
  obtain ⟨map, hMap, _⟩ := h.away _ hGone
  have hSome : d.state s.channelID ≠ none := by
    intro hNone
    rw [hMap] at hNone
    cases hNone
  exact h.here (hKnows hSome) hGone

theorem Sound.timeout (h : d.Sound) (reaction : Option Reaction) :
    Sound ⟨sessions d.state (.userReactedTimeout reaction s), d.gone⟩ := by
  cases sessions_timeout (s := s) reaction h.identified with
  | inl hSame =>
      rw [hSame]
      exact h
  | inr hWrite =>
      obtain ⟨session, hNames, hSome, hEq⟩ := hWrite
      rw [hEq]
      exact h.write hNames (h.here hSome)

/-- The sessions of a channel are replaced as a whole, and none of them is gone. -/
theorem Sound.put {channelID : String} {map : Option SessionsMap} (h : d.Sound)
    (hMap : ∀ m, map = some m → Identified m) :
    Sound ⟨d.state.put channelID map, d.gone.filter fun p => p.1 ≠ channelID⟩ := by
  refine ⟨AllIdentified.put h.identified hMap, ?_⟩
  intro p hp
  obtain ⟨hGone, hNe⟩ := List.mem_filter.mp hp
  exact (h.away p hGone).put (of_decide_eq_true hNe)

theorem Sound.joined (h : d.Sound) (s : Subject) :
    Sound ⟨sessions d.state (.userJoined s),
      d.gone.filter fun p => p ≠ (s.channelID, s.sessionID)⟩ := by
  have hWrite : sessions d.state (.userJoined s) = d.state.write s s.joined := rfl
  rw [hWrite]
  refine ⟨AllIdentified.write h.identified (s.names_record ..), ?_⟩
  intro p hp
  obtain ⟨hGone, hNe⟩ := List.mem_filter.mp hp
  exact (h.away p hGone).write (of_decide_eq_true hNe)

/-- A session leaves a channel that has others. -/
theorem Sound.left (h : d.Sound) {map : SessionsMap}
    (hMap : d.state s.channelID = some map) :
    Sound ⟨d.state.put s.channelID (some (map.erase s.sessionID)),
      (s.channelID, s.sessionID) :: d.gone⟩ := by
  constructor
  · apply AllIdentified.put h.identified
    intro m hm
    cases hm
    exact (h.identified _ _ hMap).erase _
  · intro p hp
    by_cases hSelf : p = (s.channelID, s.sessionID)
    · rw [hSelf]
      exact ⟨_, put_self, Finmap.lookup_erase _ _⟩
    · have hGone : p ∈ d.gone := (List.mem_cons.mp hp).resolve_left hSelf
      by_cases hChannel : p.1 = s.channelID
      · have hID : p.2 ≠ s.sessionID := fun hID => hSelf (Prod.ext hChannel hID)
        have hNone : map.lookup p.2 = none := by
          rw [← entry_of_some hMap, ← hChannel]
          exact (h.away p hGone).entry
        have hPut : d.state.put s.channelID (some (map.erase s.sessionID)) p.1 =
            some (map.erase s.sessionID) := by
          rw [hChannel]
          exact put_self
        refine ⟨_, hPut, ?_⟩
        rw [Finmap.lookup_erase_ne hID]
        exact hNone
      · exact (h.away p hGone).put hChannel

theorem receive_userLeft_some {map : SessionsMap}
    (hMap : state s.channelID = some map) :
    sessions state (.userLeft s) =
    state.put s.channelID (some (map.erase s.sessionID)) := by
  simp only [sessions, hMap]

theorem receive_userLeft_none (hMap : state s.channelID = none) :
    sessions state (.userLeft s) = state := by
  simp only [sessions, hMap]

/-- **One event**, if it names a session of its channel. -/
theorem Sound.step (h : d.Sound) (hKnows : d.Knows ev) : (d.step ev).Sound := by
  cases ev with
  | uninit =>
      refine ⟨?_, fun p hp => by cases hp⟩
      intro channelID map hMap
      cases hMap
  | callEnd channelID =>
      apply h.put
      intro m hm
      cases hm
  | callState channelID call =>
      apply h.put
      intro m hm
      cases hm
      exact identified_snapshot call.sessions call.named
  | userJoined s => exact h.joined s
  | userLeft s =>
      unfold Client.step receive goneAfter
      dsimp only
      show Sound ⟨if numSessionsInCallInChannel (sessions d.state (.userLeft s))
        s.channelID = 0 then
        sessions (sessions d.state (.userLeft s)) (.callEnd s.channelID)
        else sessions d.state (.userLeft s), _⟩
      split
      · -- with its last session the channel loses its entry
        have hPut : sessions (sessions d.state (.userLeft s)) (.callEnd s.channelID) =
            d.state.put s.channelID none := by
          cases hMap : d.state s.channelID with
          | none =>
              rw [receive_userLeft_none hMap]
              rfl
          | some map =>
              rw [receive_userLeft_some hMap]
              exact put_put
        rw [hPut]
        apply h.put
        intro m hm
        cases hm
      · next hOthers =>
          cases hMap : d.state s.channelID with
          | none =>
              rw [receive_userLeft_none hMap] at hOthers
              unfold numSessionsInCallInChannel at hOthers
              rw [hMap] at hOthers
              exact absurd rfl hOthers
          | some map =>
              rw [receive_userLeft_some hMap]
              exact h.left hMap
  | userMuted s => exact h.attribute (hKnows _ s rfl)
  | userUnmuted s => exact h.attribute (hKnows _ s rfl)
  | userVoiceOn s => exact h.attribute (hKnows _ s rfl)
  | userVoiceOff s => exact h.attribute (hKnows _ s rfl)
  | userVideoOn s => exact h.attribute (hKnows _ s rfl)
  | userVideoOff s => exact h.attribute (hKnows _ s rfl)
  | userRaisedHand s raisedHand => exact h.attribute (hKnows _ s rfl)
  | userUnraisedHand s raisedHand => exact h.attribute (hKnows _ s rfl)
  | userReaction s reaction current =>
      cases current with
      | true => exact h.attribute (hKnows _ s rfl)
      | false => exact h
  | userReactedTimeout s reaction => exact h.timeout (some reaction)

/-- **Sessions of the client**: in the course of any events that name sessions of their
channels, every entry has its id and a user, and a session that has left stays away. -/
theorem sessionsSound_of_runs (hr : machine.Runs Knows initial d) : d.Sound := by
  apply hr.inv _ fun _ _ _ hKnows h => h.step hKnows
  constructor
  · intro channelID map hMap
    cases hMap
  · intro p hp
    cases hp

/-- An event that names a session its channel does not have leaves an entry without an
id. -/
theorem not_sound_of_unknown (hAction : ev.action = some (.attribute a s))
    (hChannel : d.state s.channelID ≠ none)
    (hUnknown : d.state.entry s.channelID s.sessionID = none) :
    ¬ (d.step ev).Sound := by
  intro h
  obtain ⟨map, hMap⟩ := Option.ne_none_iff_exists'.mp hChannel
  have hState : (d.step ev).state = sessions d.state (.attribute a s) := by
    have hDispatched : dispatched d.state ev = sessions d.state (.attribute a s) := by
      unfold dispatched
      rw [hAction]
    rw [← hDispatched]
    cases ev with
    | userLeft s => cases hAction
    | _ => rfl
  have hEntry := entry_of_unknown (a := a) hMap hUnknown
  rw [← hState] at hEntry
  have hAll : AllIdentified (d.step ev).state := h.identified
  have hNames : Names s.sessionID (a.set {}) := by
    apply hAll.getD s.channelID
    rw [lookup_getD]
    exact hEntry
  have hID : (a.set {}).sessionID = none := sessionID_set a {}
  rw [hNames.1] at hID
  cases hID

/-- A run goes on with an event. -/
theorem runs_step {ok : Client → ClientEvent → Prop} (hr : machine.Runs ok initial d)
    (ev : ClientEvent) (hOk : ok d ev) : machine.Runs ok initial (d.step ev) :=
  Machine.Runs.step ev hr trivial hOk

/-- Bob's session in the same channel. -/
def bob : Subject := ⟨"chan", "bob", "s2", by decide⟩

/-- Alice has left a channel that Bob is in. -/
def aliceLeft : Client :=
  ((initial.step (.userJoined bob)).step (.userJoined alice)).step (.userLeft alice)

theorem aliceLeft_runs : machine.Runs Knows initial aliceLeft := by
  have hBob : machine.Runs Knows initial (initial.step (.userJoined bob)) := by
    apply runs_step .refl
    intro a s hAction
    cases hAction
  have hAlice := runs_step hBob (.userJoined alice) (by
    intro a s hAction
    cases hAction)
  apply runs_step hAlice
  intro a s hAction
  cases hAction

/-- Alice has left, and Bob is muted. -/
theorem sessionsSound_alice : (aliceLeft.step (.userMuted bob)).Sound ∧
    ("chan", "s1") ∈ (aliceLeft.step (.userMuted bob)).gone ∧
    ((aliceLeft.step (.userMuted bob)).state "chan").isSome = true := by
  refine ⟨?_, by decide, by decide⟩
  apply sessionsSound_of_runs
  apply runs_step aliceLeft_runs
  intro a s hAction _
  cases hAction
  decide

/-- The event that her voice is off comes late: it makes an entry without a user. -/
theorem lateVoiceOff_ghost : ∃ d, machine.Runs Machine.Always initial d ∧
    ¬ d.Sound := by
  refine ⟨aliceLeft.step (.userVoiceOff alice), ?_, ?_⟩
  · have hBob : machine.Runs Machine.Always initial (initial.step (.userJoined bob)) :=
      runs_step .refl _ trivial
    have hLeft :=
      runs_step (runs_step hBob (.userJoined alice) trivial) (.userLeft alice) trivial
    exact runs_step hLeft (.userVoiceOff alice) trivial
  · have hChannel : aliceLeft.state "chan" ≠ none := by
      intro hNone
      have hSome : (aliceLeft.state "chan").isSome = true := by decide
      rw [hNone] at hSome
      cases hSome
    have hUnknown : aliceLeft.state.entry "chan" "s1" = none := by decide
    exact not_sound_of_unknown (a := .userVoiceOff) (s := alice) rfl hChannel hUnknown

end Client

end CallsPlugin.Ports.ClientSessions
