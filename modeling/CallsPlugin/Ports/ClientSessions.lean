import CallsPlugin.Ports.Webapp

/-!
# The sessions the webapp keeps (`sessions` in `webapp/src/reducers.ts`)

The whole reducer: the sessions of every channel, with voice and reactions.  An event
about one attribute of a session writes a default object where the channel has no
sessions yet; where it has some, it spreads what is stored for the session, which is
nothing when the session is not among them.
-/

namespace CallsPlugin.Ports.ClientSessions

/-- `Reaction` -/
structure Reaction where
  userID : String
  sessionID : String
  emoji : String
  displayName : String
  timestamp : Int
  deriving DecidableEq, Repr

/-- `UserSessionState`; a missing attribute is `none`, and so is a reaction that is
null. -/
structure UserSessionState extends Ports.UserSessionState where
  voice : Option Bool := none
  reaction : Option Reaction := none
  deriving DecidableEq, Repr

/-- The sessions of a channel by their ids. -/
abbrev SessionsMap := Finmap fun _ : String => UserSessionState

/-- `sessionsState` -/
abbrev SessionsState := String → Option SessionsMap

/-- Whom an action is about; a session always has a user. -/
structure Subject where
  channelID : String
  userID : String
  sessionID : String
  named : userID ≠ ""
  deriving DecidableEq

/-- The actions about one attribute of a session. -/
inductive AttributeAction where
  | userMuted
  | userUnmuted
  | userVoiceOn
  | userVoiceOff
  | userRaiseHand (raisedHand : Option Int)
  | userLowerHand (raisedHand : Option Int)
  | userReacted (reaction : Reaction)
  | userVideoOn
  | userVideoOff
  deriving DecidableEq, Repr

/-- The actions of the reducer. -/
inductive SessionsAction where
  | uninit
  | callEnd (channelID : String)
  | userJoined (s : Subject)
  | userLeft (s : Subject)
  | usersStates (channelID : String) (states : SessionsMap)
  | attribute (a : AttributeAction) (s : Subject)
  | userReactedTimeout (reaction : Option Reaction) (s : Subject)

/-! ## The reducer -/

/-- A record with the ids of the subject. -/
def Subject.record (s : Subject) (unmuted voice video : Bool) (raisedHand : Option Int)
    (reaction : Option Reaction) : UserSessionState where
  sessionID := some s.sessionID
  userID := some s.userID
  unmuted := some unmuted
  voice := some voice
  video := some video
  raisedHand := raisedHand
  reaction := reaction

/-- The record that a join creates. -/
def Subject.joined (s : Subject) : UserSessionState :=
  s.record false false false (some 0) none

namespace AttributeAction

/-- The object an action writes where the channel has no sessions. -/
def fresh (s : Subject) : AttributeAction → UserSessionState
  | userMuted => s.record false false false (some 0) none
  | userUnmuted => s.record true false false (some 0) none
  | userVoiceOn => s.record false true false (some 0) none
  | userVoiceOff => s.record false false false (some 0) none
  | userRaiseHand raisedHand => s.record false false false raisedHand none
  | userLowerHand raisedHand => s.record false false false raisedHand none
  | userReacted reaction => s.record false false false (some 0) (some reaction)
  | userVideoOn => s.record false false true (some 0) none
  -- `unmuted` is true here, as in no other default but that of `USER_UNMUTED`
  | userVideoOff => s.record true false false (some 0) none

/-- The attribute an action writes over the stored object. -/
def set (session : UserSessionState) : AttributeAction → UserSessionState
  | userMuted => { session with unmuted := some false }
  | userUnmuted => { session with unmuted := some true }
  | userVoiceOn => { session with voice := some true }
  | userVoiceOff => { session with voice := some false }
  | userRaiseHand raisedHand => { session with raisedHand := raisedHand }
  | userLowerHand raisedHand => { session with raisedHand := raisedHand }
  | userReacted reaction => { session with reaction := some reaction }
  | userVideoOn => { session with video := some true }
  | userVideoOff => { session with video := some false }

end AttributeAction

/-- Replace the sessions of a channel. -/
def SessionsState.put (state : SessionsState) (channelID : String)
    (map : Option SessionsMap) :
    SessionsState := Function.update state channelID map

/-- The stored object of a session. -/
def SessionsState.entry (state : SessionsState) (channelID sessionID : String) :
    Option UserSessionState := (state channelID).bind fun map => map.lookup sessionID

/-- `sessions` -/
def sessions (state : SessionsState) : SessionsAction → SessionsState
  | .uninit => fun _ => none
  | .callEnd channelID => state.put channelID none
  | .userJoined s =>
      state.put s.channelID
        (some (((state s.channelID).getD ∅).insert s.sessionID s.joined))
  | .userLeft s =>
      match state s.channelID with
      | some map => state.put s.channelID (some (map.erase s.sessionID))
      | none => state
  | .usersStates channelID states => state.put channelID (some states)
  | .attribute a s =>
      match state s.channelID with
      | none => state.put s.channelID (some (Finmap.singleton s.sessionID (a.fresh s)))
      | some map =>
          -- the spread of a missing object adds nothing
          state.put s.channelID
            (some (map.insert s.sessionID (a.set ((map.lookup s.sessionID).getD {}))))
  | .userReactedTimeout reaction s =>
      match state.entry s.channelID s.sessionID with
      | none => state
      | some session =>
          match session.reaction, reaction with
          | some stored, some expired =>
              if stored.timestamp > expired.timestamp then state
              else state.put s.channelID
                (some (((state s.channelID).getD ∅).insert s.sessionID
                { session with reaction := none }))
          | _, _ => state

section Put

variable {state : SessionsState} {channelID : String} {map : Option SessionsMap}

@[simp] theorem put_self : state.put channelID map channelID = map :=
  Function.update_self ..

theorem put_of_ne {channelID' : String} (h : channelID' ≠ channelID) :
    state.put channelID map channelID' = state channelID' := Function.update_of_ne h ..

theorem put_put {map' : Option SessionsMap} :
    (state.put channelID map).put channelID map' = state.put channelID map' :=
  Function.update_idem ..

theorem put_comm {channelID' : String} {map' : Option SessionsMap}
    (h : channelID ≠ channelID') :
    (state.put channelID map).put channelID' map' =
      (state.put channelID' map').put channelID map := Function.update_comm h ..

end Put

/-! ## Events about one attribute -/

/-- What an event about a session may change. -/
inductive Attribute where
  | unmuted
  | voice
  | raisedHand
  | reaction
  | video
  deriving DecidableEq, Repr

/-- The attribute of an action. -/
def AttributeAction.attribute : AttributeAction → Attribute
  | userMuted | userUnmuted => .unmuted
  | userVoiceOn | userVoiceOff => .voice
  | userRaiseHand _ | userLowerHand _ => .raisedHand
  | userReacted _ => .reaction
  | userVideoOn | userVideoOff => .video

/-- A record without one attribute: what two records share that differ there at most. -/
def Attribute.clear (session : UserSessionState) : Attribute → UserSessionState
  | unmuted => { session with unmuted := none }
  | voice => { session with voice := none }
  | raisedHand => { session with raisedHand := none }
  | reaction => { session with reaction := none }
  | video => { session with video := none }

/-- The record an event starts from: the stored one, or the one that a join creates. -/
def SessionsState.base (state : SessionsState) (s : Subject) : UserSessionState :=
  (state.entry s.channelID s.sessionID).getD s.joined

/-- The event has set its attribute of the record of its subject and changed nothing
else. -/
structure TouchesOnly (a : AttributeAction) (s : Subject)
    (state state' : SessionsState) : Prop where
  channels : ∀ channelID, channelID ≠ s.channelID → state' channelID = state channelID
  others : ∀ sessionID, sessionID ≠ s.sessionID →
    state'.entry s.channelID sessionID = state.entry s.channelID sessionID
  record : ∃ session, state'.entry s.channelID s.sessionID = some session ∧
    a.set session = session ∧
    a.attribute.clear session = a.attribute.clear (state.base s)

/-- The session is known in its channel, or the channel has no sessions and the event is
not one of a camera turned off. -/
def Covered (a : AttributeAction) (s : Subject) (state : SessionsState) : Prop :=
  (state.entry s.channelID s.sessionID).isSome ∨
    state s.channelID = none ∧ a ≠ .userVideoOff

/-- The state with the record of a subject replaced. -/
def SessionsState.write (state : SessionsState) (s : Subject)
    (session : UserSessionState) :
    SessionsState :=
  state.put s.channelID (some (((state s.channelID).getD ∅).insert s.sessionID session))

variable {state state' : SessionsState} {a b : AttributeAction} {s t : Subject}
  {session : UserSessionState}

theorem entry_of_some {map : SessionsMap} {channelID sessionID : String}
    (h : state channelID = some map) :
    state.entry channelID sessionID = map.lookup sessionID := by
  unfold SessionsState.entry
  rw [h]
  rfl

theorem entry_of_none {channelID sessionID : String} (h : state channelID = none) :
    state.entry channelID sessionID = none := by
  unfold SessionsState.entry
  rw [h]
  rfl

theorem lookup_getD (channelID sessionID : String) :
    ((state channelID).getD ∅).lookup sessionID = state.entry channelID sessionID := by
  cases hMap : state channelID with
  | none =>
      rw [entry_of_none hMap]
      exact Finmap.lookup_empty sessionID
  | some map =>
      rw [entry_of_some hMap]
      rfl

theorem write_self : state.write s session s.channelID =
    some (((state s.channelID).getD ∅).insert s.sessionID session) := put_self

theorem write_entry_self :
    (state.write s session).entry s.channelID s.sessionID = some session := by
  rw [entry_of_some write_self, Finmap.lookup_insert]

theorem write_entry_of_ne {sessionID : String} (h : sessionID ≠ s.sessionID) :
    (state.write s session).entry s.channelID sessionID =
    state.entry s.channelID sessionID := by
  rw [entry_of_some write_self, Finmap.lookup_insert_of_ne _ h, lookup_getD]

theorem write_of_ne {channelID : String} (h : channelID ≠ s.channelID) :
    state.write s session channelID = state channelID := put_of_ne h

/-- An action sets an attribute of its own and no other. -/
theorem clear_set (a : AttributeAction) (session : UserSessionState) :
    a.attribute.clear (a.set session) = a.attribute.clear session := by
  cases a <;> rfl

theorem set_set (a : AttributeAction) (session : UserSessionState) :
    a.set (a.set session) = a.set session := by
  cases a <;> rfl

/-- Actions on different attributes do not see each other. -/
theorem set_comm (h : a.attribute ≠ b.attribute) (session : UserSessionState) :
    a.set (b.set session) = b.set (a.set session) := by
  cases a <;> cases b <;> first | rfl | exact absurd rfl h

/-- The default of every action but one is what it makes of the record of a join. -/
theorem fresh_eq_set (h : a ≠ .userVideoOff) : a.fresh s = a.set s.joined := by
  cases a <;> first | rfl | exact absurd rfl h

theorem sessions_of_none (h : state s.channelID = none) :
    sessions state (.attribute a s) =
    state.put s.channelID (some (Finmap.singleton s.sessionID (a.fresh s))) := by
  show (match state s.channelID with | none => _ | some map => _) = _
  rw [h]

theorem sessions_of_some {map : SessionsMap} (h : state s.channelID = some map) :
    sessions state (.attribute a s) = state.put s.channelID
      (some (map.insert s.sessionID
        (a.set ((state.entry s.channelID s.sessionID).getD {})))) := by
  show (match state s.channelID with | none => _ | some map => _) = _
  rw [entry_of_some h, h]

/-- Where the event is covered, it writes its attribute over the record it starts
from. -/
theorem sessions_attribute (h : Covered a s state) :
    sessions state (.attribute a s) = state.write s (a.set (state.base s)) := by
  unfold SessionsState.write SessionsState.base
  cases hMap : state s.channelID with
  | none =>
      have hFresh : a ≠ .userVideoOff := by
        cases h with
        | inl hSome =>
            rw [entry_of_none hMap] at hSome
            cases hSome
        | inr hNew => exact hNew.2
      rw [sessions_of_none hMap, entry_of_none hMap, fresh_eq_set hFresh]
      rfl
  | some map =>
      cases h with
      | inr hNew =>
          rw [hMap] at hNew
          cases hNew.1
      | inl hSome =>
          obtain ⟨session, hSession⟩ := Option.isSome_iff_exists.mp hSome
          rw [sessions_of_some hMap, hSession]
          rfl

theorem touchesOnly_of_covered (h : Covered a s state) :
    TouchesOnly a s state (sessions state (.attribute a s)) := by
  rw [sessions_attribute h]
  refine ⟨fun _ hNe => write_of_ne hNe, fun _ hNe => write_entry_of_ne hNe, ?_⟩
  exact ⟨_, write_entry_self, set_set a _, clear_set a _⟩

/-- A record with the attribute of an action cleared still has its ids. -/
theorem sessionID_clear (attr : Attribute) (session : UserSessionState) :
    (attr.clear session).sessionID = session.sessionID := by
  cases attr <;> rfl

theorem sessionID_set (a : AttributeAction) (session : UserSessionState) :
    (a.set session).sessionID = session.sessionID := by
  cases a <;> rfl

/-- In a channel with sessions, an event about an unknown one leaves a record without
ids. -/
theorem entry_of_unknown {map : SessionsMap} (hMap : state s.channelID = some map)
    (hUnknown : state.entry s.channelID s.sessionID = none) :
    (sessions state (.attribute a s)).entry s.channelID s.sessionID =
    some (a.set {}) := by
  rw [sessions_of_some hMap, entry_of_some put_self, Finmap.lookup_insert, hUnknown]
  rfl

theorem covered_of_touchesOnly
    (h : TouchesOnly a s state (sessions state (.attribute a s))) :
    Covered a s state := by
  obtain ⟨session, hEntry, _, hClear⟩ := h.record
  cases hKnown : state.entry s.channelID s.sessionID with
  | some known =>
      left
      rw [hKnown]
      rfl
  | none =>
      right
      have hBase : state.base s = s.joined := by
        unfold SessionsState.base
        rw [hKnown]
        rfl
      rw [hBase] at hClear
      cases hMap : state s.channelID with
      | none =>
          refine ⟨rfl, ?_⟩
          rintro rfl
          have hFresh : (sessions state (.attribute .userVideoOff s)).entry s.channelID
              s.sessionID = some (AttributeAction.userVideoOff.fresh s) := by
            rw [sessions_of_none hMap, entry_of_some put_self,
              Finmap.lookup_singleton_eq]
          rw [hEntry] at hFresh
          cases hFresh
          -- the default is unmuted, and the record of a join is not
          have hUnmuted : some true = some false := congrArg (fun r => r.unmuted) hClear
          cases hUnmuted
      | some map =>
          rw [entry_of_unknown hMap hKnown] at hEntry
          cases hEntry
          have hID : (none : Option String) = some s.sessionID := by
            have hIDs : (a.attribute.clear (a.set {})).sessionID =
                (a.attribute.clear s.joined).sessionID :=
              congrArg (fun r => r.sessionID) hClear
            rw [sessionID_clear, sessionID_clear, sessionID_set] at hIDs
            exact hIDs
          cases hID

/-! ## Order of the events -/

/-- Covered in both orders. -/
def CoveredBoth (a : AttributeAction) (s : Subject) (b : AttributeAction) (t : Subject)
    (state : SessionsState) : Prop :=
  (Covered a s state ∧ Covered b t (sessions state (.attribute a s))) ∧
    (Covered b t state ∧ Covered a s (sessions state (.attribute b t)))

theorem base_write_self (h : t.channelID = s.channelID)
    (hID : t.sessionID = s.sessionID) :
    (state.write s session).base t = session := by
  unfold SessionsState.base
  rw [h, hID, write_entry_self]
  rfl

theorem base_write_of_ne (h : t.channelID ≠ s.channelID ∨ t.sessionID ≠ s.sessionID) :
    (state.write s session).base t = state.base t := by
  have hEntry : (state.write s session).entry t.channelID t.sessionID =
      state.entry t.channelID t.sessionID := by
    by_cases hChannel : t.channelID = s.channelID
    · rw [hChannel]
      exact write_entry_of_ne (h.resolve_left fun hNe => hNe hChannel)
    · unfold SessionsState.entry
      rw [write_of_ne hChannel]
  unfold SessionsState.base
  rw [hEntry]

theorem write_write_self {session' : UserSessionState} (h : t.channelID = s.channelID)
    (hID : t.sessionID = s.sessionID) :
    (state.write s session).write t session' = state.write s session' := by
  unfold SessionsState.write
  rw [h, hID, put_self, put_put]
  show state.put _
    (some ((((state s.channelID).getD ∅).insert s.sessionID session).insert
    s.sessionID session')) = _
  rw [Finmap.insert_insert]

theorem write_comm {session' : UserSessionState}
    (h : t.channelID ≠ s.channelID ∨ t.sessionID ≠ s.sessionID) :
    (state.write s session).write t session' =
    (state.write t session').write s session := by
  unfold SessionsState.write
  by_cases hChannel : t.channelID = s.channelID
  · have hID : t.sessionID ≠ s.sessionID := h.resolve_left fun hNe => hNe hChannel
    rw [hChannel, put_self, put_self, put_put, put_put]
    show state.put _
      (some ((((state s.channelID).getD ∅).insert s.sessionID session).insert
      t.sessionID session')) = state.put _ (some ((((state s.channelID).getD ∅).insert
        t.sessionID session').insert s.sessionID session))
    rw [Finmap.insert_insert_of_ne _ hID.symm]
  · rw [put_of_ne hChannel, put_of_ne (Ne.symm hChannel), put_comm (Ne.symm hChannel)]

/-- **Events on different attributes commute**, where both orders are covered and a
session has one user. -/
theorem attribute_comm (hAttr : a.attribute ≠ b.attribute)
    (hUser : t.channelID = s.channelID → t.sessionID = s.sessionID →
      t.userID = s.userID)
    (h : CoveredBoth a s b t state) :
    sessions (sessions state (.attribute a s)) (.attribute b t) =
      sessions (sessions state (.attribute b t)) (.attribute a s) := by
  obtain ⟨⟨ha, hab⟩, hb, hba⟩ := h
  rw [sessions_attribute hab, sessions_attribute hba, sessions_attribute ha,
    sessions_attribute hb]
  by_cases hSame : t.channelID = s.channelID ∧ t.sessionID = s.sessionID
  · obtain ⟨hChannel, hID⟩ := hSame
    have hEq : t = s := by
      cases s
      cases t
      cases hChannel
      cases hID
      cases hUser rfl rfl
      rfl
    rw [hEq, base_write_self rfl rfl, base_write_self rfl rfl, write_write_self rfl rfl,
      write_write_self rfl rfl, set_comm hAttr]
  · have hNe : t.channelID ≠ s.channelID ∨ t.sessionID ≠ s.sessionID := by
      by_cases hChannel : t.channelID = s.channelID
      · exact .inr fun hID => hSame ⟨hChannel, hID⟩
      · exact .inl hChannel
    have hNe' : s.channelID ≠ t.channelID ∨ s.sessionID ≠ t.sessionID :=
      hNe.imp Ne.symm Ne.symm
    rw [base_write_of_ne hNe, base_write_of_ne hNe', write_comm hNe]

/-- **Events touch only their attribute**, exactly where they are covered; those on
different attributes commute where both orders are. -/
theorem attributeEvents_touchOnly_iff (state : SessionsState) (a : AttributeAction)
    (s : Subject) :
    (TouchesOnly a s state (sessions state (.attribute a s)) ↔ Covered a s state) ∧
      ∀ (b : AttributeAction) (t : Subject), a.attribute ≠ b.attribute →
        (t.channelID = s.channelID → t.sessionID = s.sessionID → t.userID = s.userID) →
        CoveredBoth a s b t state →
        sessions (sessions state (.attribute a s)) (.attribute b t) =
          sessions (sessions state (.attribute b t)) (.attribute a s) :=
  ⟨⟨covered_of_touchesOnly, touchesOnly_of_covered⟩, fun _ _ => attribute_comm⟩

/-- Alice's session. -/
def alice : Subject := ⟨"chan", "alice", "s1", by decide⟩

/-- Nothing is known of any channel. -/
def noSessions : SessionsState := fun _ => none

theorem covered_fresh (h : a ≠ .userVideoOff) : Covered a s noSessions := .inr ⟨rfl, h⟩

/-- The second of two events about a session that nothing was known of is covered. -/
theorem covered_next (h : a ≠ .userVideoOff) :
    Covered b s (sessions noSessions (.attribute a s)) := by
  left
  rw [sessions_attribute (covered_fresh h), write_entry_self]
  rfl

theorem aliceEvents_commute :
    sessions (sessions noSessions (.attribute .userMuted alice))
        (.attribute (.userRaiseHand (some 5)) alice) =
      sessions (sessions noSessions (.attribute (.userRaiseHand (some 5)) alice))
        (.attribute .userMuted alice) :=
  (attributeEvents_touchOnly_iff noSessions .userMuted alice).2
    (.userRaiseHand (some 5)) alice (by decide) (fun _ _ => rfl)
    ⟨⟨covered_fresh (by decide), covered_next (by decide)⟩, covered_fresh (by decide),
      covered_next (by decide)⟩

/-- The camera of a session is turned off in a channel that nothing is known of: the
session is stored as unmuted. -/
theorem videoOff_unmutes :
    ¬ TouchesOnly .userVideoOff alice noSessions
      (sessions noSessions (.attribute .userVideoOff alice)) := by
  intro h
  cases covered_of_touchesOnly h with
  | inl hKnown => cases hKnown
  | inr hNew => exact hNew.2 rfl

end CallsPlugin.Ports.ClientSessions
