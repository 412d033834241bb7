import CallsPlugin.Ports.State
import Mathlib.Data.Finmap

/-!
# The webapp's view of a call (`webapp/src`)

What the webapp keeps of one channel: the reducers of `reducers.ts` that hold the call,
its sessions, its host and who shares the screen, each reduced to its entry for the
channel, and the handlers of `websocket_handlers.ts` and thunks of `actions.ts` that
dispatch to them.  A `none` is a missing key, of the reducer's state or of an object. 
Voice activity, reactions and the time of the last change of host are left out.
-/

namespace CallsPlugin.Ports

open CallsPlugin.Verified
open CallsPlugin.Ports.Public CallsPlugin.Ports.Db

/-! ## The store of the client -/

/-- `UserSessionState` -/
structure UserSessionState where
  sessionID : Option String := none
  userID : Option String := none
  unmuted : Option Bool := none
  video : Option Bool := none
  raisedHand : Option Int := none
  deriving DecidableEq, Repr

/-- The sessions of a call by their ids. -/
abbrev SessionsMap := Finmap fun _ : String => UserSessionState

/-- `callState` of `reducers.ts`. -/
structure ClientCall where
  id : String
  startAt : Int
  ownerID : String
  threadID : String
  deriving DecidableEq, Repr

/-- The client's entries for the channel. -/
structure ClientStore where
  calls : Option ClientCall
  sessions : Option SessionsMap
  hosts : Option String
  screenSharingIDs : Option String

/-- The client before it has heard of the channel. -/
def ClientStore.empty : ClientStore := ⟨none, none, none, none⟩

/-- The actions the reducers act on. -/
inductive ClientAction where
  | callState (call : ClientCall)
  | callEnd
  | callHost (hostID : String)
  | userJoined (userID sessionID : String)
  | userLeft (userID sessionID : String)
  | usersStates (states : SessionsMap)
  | userMuted (userID sessionID : String)
  | userUnmuted (userID sessionID : String)
  | userRaiseHand (userID sessionID : String) (raisedHand : Int)
  | userLowerHand (userID sessionID : String) (raisedHand : Int)
  | userVideoOn (userID sessionID : String)
  | userVideoOff (userID sessionID : String)
  | userScreenOn (sessionID : String)
  | userScreenOff (sessionID : Option String)

/-! ## Reducers -/

namespace Reducers

/-- `calls` -/
def calls (state : Option ClientCall) : ClientAction → Option ClientCall
  | .callState call => some call
  | .callEnd => none
  | _ => state

/-- `hosts` -/
def hosts (state : Option String) : ClientAction → Option String
  | .callHost hostID => some hostID
  | _ => state

/-- The last case of `screenSharingIDs`. -/
def screenOff (state sessionID : Option String) : Option String :=
  if sessionID ≠ state then state else some ""

/-- `screenSharingIDs`; the action that ends a call has no session. -/
def screenSharingIDs (state : Option String) : ClientAction → Option String
  | .userScreenOn sessionID => some sessionID
  | .userLeft _ sessionID =>
      if some sessionID ≠ state then state else screenOff state (some sessionID)
  | .callEnd => screenOff state none
  | .userScreenOff sessionID => screenOff state sessionID
  | _ => state

/-- The cases of `sessions` about one session: `fresh` is what a channel without
sessions gets, else the entry of the session is changed by `set`. -/
def sessionEvent (state : Option SessionsMap) (sessionID : String)
    (fresh : UserSessionState) (set : UserSessionState → UserSessionState) :
    Option SessionsMap :=
  match state with
  | none => some (Finmap.singleton sessionID fresh)
  | some map => some (map.insert sessionID (set ((map.lookup sessionID).getD {})))

/-- The entry of a session that the reducer makes up. -/
def freshSession (userID sessionID : String) (unmuted video : Bool) (raisedHand : Int) :
    UserSessionState :=
  ⟨some sessionID, some userID, some unmuted, some video, some raisedHand⟩

/-- `sessions`; a camera turned off in a channel without sessions leaves an unmuted
one. -/
def sessions (state : Option SessionsMap) : ClientAction → Option SessionsMap
  | .callEnd => none
  | .userJoined userID sessionID =>
      some ((state.getD ∅).insert sessionID
        (freshSession userID sessionID false false 0))
  | .userLeft _ sessionID => state.map fun map => map.erase sessionID
  | .usersStates states => some states
  | .userMuted userID sessionID =>
      sessionEvent state sessionID (freshSession userID sessionID false false 0)
        fun session => { session with unmuted := some false }
  | .userUnmuted userID sessionID =>
      sessionEvent state sessionID (freshSession userID sessionID true false 0)
        fun session => { session with unmuted := some true }
  | .userRaiseHand userID sessionID raisedHand =>
      sessionEvent state sessionID
        (freshSession userID sessionID false false raisedHand)
        fun session => { session with raisedHand := some raisedHand }
  | .userLowerHand userID sessionID raisedHand =>
      sessionEvent state sessionID
        (freshSession userID sessionID false false raisedHand)
        fun session => { session with raisedHand := some raisedHand }
  | .userVideoOn userID sessionID =>
      sessionEvent state sessionID (freshSession userID sessionID false true 0)
        fun session => { session with video := some true }
  | .userVideoOff userID sessionID =>
      sessionEvent state sessionID (freshSession userID sessionID true false 0)
        fun session => { session with video := some false }
  | _ => state

end Reducers

/-! ## Handlers -/

namespace ClientStore

/-- All reducers act. -/
def dispatch (d : ClientStore) (a : ClientAction) : ClientStore where
  calls := Reducers.calls d.calls a
  sessions := Reducers.sessions d.sessions a
  hosts := Reducers.hosts d.hosts a
  screenSharingIDs := Reducers.screenSharingIDs d.screenSharingIDs a

/-- The sessions of the channel, none if it has no entry. -/
def sessionsMap (d : ClientStore) : SessionsMap := d.sessions.getD ∅

/-- `numSessionsInCallInChannel` -/
def numSessionsInCallInChannel (d : ClientStore) : Nat := d.sessionsMap.keys.card

/-- `callEnd` -/
def callEnd (d : ClientStore) : ClientStore := d.dispatch .callEnd

/-- `userLeft`: with its last session the call is over. -/
def userLeft (d : ClientStore) (userID sessionID : String) : ClientStore :=
  let d := d.dispatch (.userLeft userID sessionID)
  if d.numSessionsInCallInChannel = 0 then d.callEnd else d

/-- A session as the server shows it. -/
def ofSession (session : UserStateClient) : UserSessionState :=
  ⟨some session.sessionID, some session.userID, some session.unmuted,
    some session.video, some session.raisedHand⟩

/-- `getSessionsMapFromSessions` -/
def getSessionsMapFromSessions (sessions : List UserStateClient) : SessionsMap :=
  sessions.foldl (fun map session => map.insert session.sessionID (ofSession session)) ∅

/-- `loadCallState` -/
def loadCallState (d : ClientStore) (call : CallStateClient) : ClientStore :=
  [.callState ⟨call.id, call.startAt, call.ownerID, call.threadID⟩,
    .userScreenOn call.screenSharingSessionID, .callHost call.hostID,
    .usersStates (getSessionsMapFromSessions call.sessions)].foldl dispatch d

/-- `handleCallStart` -/
def handleCallStart (d : ClientStore) (call : ClientCall) (hostID : String) :
    ClientStore :=
  (d.dispatch (.callState call)).dispatch (.callHost hostID)

/-- The handler of an event.  Those left out do nothing to these entries. -/
def receive (d : ClientStore) : WsEvent → ClientStore
  | .userJoined userID sessionID => d.dispatch (.userJoined userID sessionID)
  | .userLeft userID sessionID => d.userLeft userID sessionID
  | .userScreenOn _ sessionID => d.dispatch (.userScreenOn sessionID)
  | .userScreenOff sharer => d.dispatch (.userScreenOff (sharer.map Prod.snd))
  | .userVideoOn userID sessionID => d.dispatch (.userVideoOn userID sessionID)
  | .userVideoOff userID sessionID => d.dispatch (.userVideoOff userID sessionID)
  | .userMuted userID sessionID => d.dispatch (.userMuted userID sessionID)
  | .userUnmuted userID sessionID => d.dispatch (.userUnmuted userID sessionID)
  | .userRaiseHand userID sessionID raisedHand =>
      d.dispatch (.userRaiseHand userID sessionID raisedHand)
  | .userUnraiseHand userID sessionID raisedHand =>
      d.dispatch (.userLowerHand userID sessionID raisedHand)
  | .callStart id _ startAt threadID _ ownerID hostID =>
      d.handleCallStart ⟨id, startAt, ownerID, threadID⟩ hostID
  | .callState _ call => d.loadCallState call
  | .callEnd => d.callEnd
  | .callHostChanged hostID _ => d.dispatch (.callHost hostID)
  | .callJobState _ _ | .userDismissedNotification _ _ | .join _ | .error _ _ => d

end ClientStore

/-! ## What the handlers leave -/

namespace ClientStore

variable {d : ClientStore} {id sessionID userID : String}

/-- The entry a server session has in the client's store. -/
def entry (r : CallSession) : UserSessionState :=
  ⟨some r.id, some r.userID, some r.unmuted, some r.video, some r.raisedHand⟩

/-- An event about a session the client knows. -/
theorem sessionEvent_getD {state : Option SessionsMap} {e : UserSessionState}
    (h : (state.getD ∅).lookup sessionID = some e) (fresh : UserSessionState)
    (set : UserSessionState → UserSessionState) :
    (Reducers.sessionEvent state sessionID fresh set).getD ∅ =
      (state.getD ∅).insert sessionID (set e) := by
  cases state with
  | none => simp at h
  | some map =>
      have hmap : map.lookup sessionID = some e := h
      simp only [Reducers.sessionEvent, Option.getD_some, hmap]

/-- A map is empty where no key has a value. -/
theorem sessionsMap_eq_empty {map : SessionsMap} :
    map = ∅ ↔ ∀ id, map.lookup id = none := by
  constructor
  · rintro rfl id
    exact Finmap.lookup_empty id
  · intro h
    refine Finmap.ext_lookup fun id => ?_
    rw [h id, Finmap.lookup_empty]

theorem keys_card_eq_zero {map : SessionsMap} : map.keys.card = 0 ↔ map = ∅ := by
  rw [Finset.card_eq_zero]
  constructor
  · intro h
    refine sessionsMap_eq_empty.2 fun id => Finmap.lookup_eq_none.2 fun hid => ?_
    have hkey : id ∈ map.keys := Finmap.mem_keys.2 hid
    rw [h] at hkey
    exact absurd hkey (Finset.notMem_empty id)
  · rintro rfl
    rfl

theorem sessionsMap_dispatch_userLeft :
    (d.dispatch (.userLeft userID sessionID)).sessionsMap =
    d.sessionsMap.erase sessionID := by
  show (d.sessions.map fun map => map.erase sessionID).getD ∅ =
    (d.sessions.getD ∅).erase sessionID
  cases d.sessions with
  | none => rfl
  | some map => rfl

theorem userLeft_eq : d.userLeft userID sessionID =
    if d.sessionsMap.erase sessionID = ∅ then
      (d.dispatch (.userLeft userID sessionID)).callEnd
    else d.dispatch (.userLeft userID sessionID) := by
  have hnone : (d.dispatch (.userLeft userID sessionID)).numSessionsInCallInChannel =
      0 ↔ d.sessionsMap.erase sessionID = ∅ := by
    have hmap : (d.dispatch (.userLeft userID sessionID)).sessionsMap =
        d.sessionsMap.erase sessionID := sessionsMap_dispatch_userLeft
    rw [← hmap]
    exact keys_card_eq_zero
  unfold userLeft
  dsimp only
  by_cases h : d.sessionsMap.erase sessionID = ∅
  · rw [if_pos h, if_pos (hnone.2 h)]
  · rw [if_neg h, if_neg fun h' => h (hnone.1 h')]

theorem sessionsMap_userLeft :
    (d.userLeft userID sessionID).sessionsMap = d.sessionsMap.erase sessionID := by
  rw [userLeft_eq]
  split
  next h => exact h.symm
  next => exact sessionsMap_dispatch_userLeft

theorem calls_userLeft : (d.userLeft userID sessionID).calls =
    if d.sessionsMap.erase sessionID = ∅ then none else d.calls := by
  rw [userLeft_eq]
  split <;> rfl

theorem hosts_userLeft : (d.userLeft userID sessionID).hosts = d.hosts := by
  rw [userLeft_eq]
  split <;> rfl

/-- Nobody shares the screen that shared it under the session that left. -/
theorem screen_userLeft {shared : String} (h : d.screenSharingIDs = some shared) :
    (d.userLeft userID sessionID).screenSharingIDs =
      some (if shared = sessionID then "" else shared) := by
  have hleft : (d.dispatch (.userLeft userID sessionID)).screenSharingIDs =
      some (if shared = sessionID then "" else shared) := by
    show (if some sessionID ≠ d.screenSharingIDs then d.screenSharingIDs
      else Reducers.screenOff d.screenSharingIDs (some sessionID)) = _
    rw [h]
    by_cases hshared : sessionID = shared
    · simp [Reducers.screenOff, hshared]
    · have hne : ¬ shared = sessionID := fun h => hshared h.symm
      simp [hshared, hne]
  have hend : (d.dispatch (.userLeft userID sessionID)).callEnd.screenSharingIDs =
      some (if shared = sessionID then "" else shared) := by
    show Reducers.screenOff
      (d.dispatch (.userLeft userID sessionID)).screenSharingIDs none = _
    rw [hleft]
    rfl
  rw [userLeft_eq]
  split
  · exact hend
  · exact hleft

/-- The entries of a snapshot. -/
theorem lookup_foldl_insert (sessions : List UserStateClient)
    (hnodup : (sessions.map UserStateClient.sessionID).Nodup) :
    ∀ map : SessionsMap,
      (sessions.foldl (fun map session => map.insert session.sessionID
        (ofSession session)) map).lookup
        id = ((sessions.find? fun session => session.sessionID = id).map ofSession).or
        (map.lookup id) := by
  induction sessions with
  | nil => exact fun _ => rfl
  | cons session rest ih =>
      intro map
      rw [List.map_cons, List.nodup_cons] at hnodup
      rw [List.foldl_cons, ih hnodup.2]
      by_cases hid : session.sessionID = id
      · subst hid
        have hrest : rest.find? (fun s => s.sessionID = session.sessionID) = none := by
          refine List.find?_eq_none.2 fun s hs he => hnodup.1 ?_
          exact List.mem_map.2 ⟨s, hs, of_decide_eq_true he⟩
        simp [hrest]
      · have hne : id ≠ session.sessionID := fun h => hid h.symm
        simp [hid, Finmap.lookup_insert_of_ne _ hne]

/-- A client that loads a call state has its sessions, each with its entry. -/
theorem lookup_getStates (st : CallState) (env : Env) (botID : String) :
    (getSessionsMapFromSessions (st.getStates env botID)).lookup id =
      ((st.sessions.find? id).filter fun r => r.userID ≠ botID).map entry := by
  have hperm := env.iter_perm st.sessions.rows
  have hids : ((st.getStates env botID).map UserStateClient.sessionID).Nodup := by
    unfold CallState.getStates
    rw [List.map_map]
    have hrows : ((env.iter st.sessions.rows).map CallSession.id).Nodup :=
      (hperm.map _).nodup_iff.2 st.sessions.nodup
    exact hrows.sublist (List.filter_sublist.map _)
  let shown : Table UserStateClient.sessionID := ⟨st.getStates env botID, hids⟩
  have hmem : ∀ s, s ∈ shown ↔ ∃ r ∈ st.sessions, r.userID ≠ botID ∧
      (⟨r.id, r.userID, r.unmuted, r.raisedHand, r.video⟩ : UserStateClient) = s := by
    intro s
    show s ∈ st.getStates env botID ↔ _
    simp only [CallState.getStates, List.mem_map, List.mem_filter, decide_eq_true_eq,
      hperm.mem_iff, Table.mem_def, and_assoc, ne_eq]
  have hlookup : (getSessionsMapFromSessions (st.getStates env botID)).lookup id =
      (shown.find? id).map ofSession := by
    unfold getSessionsMapFromSessions
    rw [lookup_foldl_insert _ hids, Finmap.lookup_empty, Option.or_none]
    rfl
  rw [hlookup]
  have hnone : (∀ r, st.sessions.find? id = some r → r.userID = botID) →
      shown.find? id = none := by
    intro hbot
    refine Table.find?_eq_none.2 fun s hs hid => ?_
    obtain ⟨r, hr, hne, rfl⟩ := (hmem s).1 hs
    exact hne (hbot r (Table.find?_eq_some.2 ⟨hr, hid⟩))
  cases hfind : st.sessions.find? id with
  | none =>
      have hno : ∀ r, st.sessions.find? id = some r → r.userID = botID := fun r hr => by
        rw [hfind] at hr
        cases hr
      rw [hnone hno]
      rfl
  | some r =>
      obtain ⟨hr, hid⟩ := Table.find?_eq_some.1 hfind
      by_cases hbot : r.userID = botID
      · rw [hnone fun r' hr' => Option.some.inj (hfind.symm.trans hr') ▸ hbot]
        simp [hbot]
      · have hsome : shown.find? id =
            some ⟨r.id, r.userID, r.unmuted, r.raisedHand, r.video⟩ :=
          Table.find?_eq_some.2 ⟨(hmem _).2 ⟨r, hr, hbot, rfl⟩, hid⟩
        rw [hsome]
        simp [hbot, ofSession, entry]

end ClientStore

/-! ## Delivery -/

/-- The events `publishWebSocketEvent` drops: nobody hears of the bot. -/
def WsEvent.hides (botID : String) : WsEvent → Bool
  | .userJoined userID _ | .userLeft userID _ => userID = botID
  | _ => false

/-- The broadcast of an event reaches the connection `connID` of a user of the channel
other than the bot. -/
def WebSocketBroadcast.reaches (b : WebSocketBroadcast) (userID connID : String) :
    Bool :=
  if b.userIDs ≠ [] then userID ∈ b.userIDs
  else if b.connectionID ≠ "" then b.connectionID = connID
  else if b.userID ≠ "" then b.userID = userID
  else true

/-- `publishWebSocketEvent`, as a client has it that the events `delivered` reach. -/
def hearing (botID : String) (delivered : WsEvent → WebSocketBroadcast → Bool)
    (ev : WsEvent) (b : WebSocketBroadcast) (d : ClientStore) : ClientStore :=
  if ev.hides botID || !delivered ev b then d else d.receive ev

end CallsPlugin.Ports
