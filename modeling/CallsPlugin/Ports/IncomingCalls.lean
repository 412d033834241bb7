import CallsPlugin.Verified.Machine
import Mathlib.Logic.Function.Basic
import Mathlib.Data.List.Nodup

/-!
# The list of incoming calls (`webapp/src`)

`incomingCallOnChannel` of `actions.ts` puts a call on the list of incoming
calls: it checks that the call is worth a notification, waits for the profile
of the caller if that is not there, and adds the entry.  Dismissing a call,
joining it and its end take the entry away.  Nothing is checked again after the
wait, so a call that is over by then, or listed by another request, is added
all the same.
-/

namespace CallsPlugin.Ports

open CallsPlugin.Verified

/-- `ChannelType` -/
inductive ClientChannelType where
  | dm
  | gm
  deriving DecidableEq

/-- What `isDMChannel` and `isGMChannel` tell of a channel. -/
inductive ChannelKind where
  | dm
  | gm
  | other
  deriving DecidableEq

/-- `isDMChannel(channel) ? ChannelType.DM : ChannelType.GM` -/
def ChannelKind.channelType : ChannelKind → ClientChannelType
  | .dm => .dm
  | _ => .gm

/-- `IncomingCallNotification` -/
structure IncomingCallNotification where
  callID : String
  channelID : String
  callerID : String
  startAt : Int
  type : ClientChannelType
  deriving DecidableEq

/-- The arguments of `incomingCallOnChannel`. -/
structure IncomingCall where
  channelID : String
  callID : String
  callerID : String
  startAt : Int
  deriving DecidableEq

/-- The entry that is added for a request. -/
def IncomingCall.notification (r : IncomingCall) (channel : ChannelKind) :
    IncomingCallNotification :=
  ⟨r.callID, r.channelID, r.callerID, r.startAt, channel.channelType⟩

/-- What the webapp keeps of calls, channels and users, the requests that wait for their
channel and the entries that wait for the profile of their caller.  `ended` and `joined`
record which calls have ended and which ones the user has joined. -/
structure RingState where
  currentUserID : String
  ringingEnabled : Bool
  channelIDForCurrentCall : String
  channels : String → Option ChannelKind
  users : List String
  calls : String → Option String
  incomingCalls : List IncomingCallNotification
  dismissedCalls : List String
  loading : List IncomingCall
  waiting : List IncomingCallNotification
  ended : List String
  joined : List String

/-- What happens next.  The call a user joins and the call that ends are the
server's. -/
inductive RingAction where
  | incomingCall (r : IncomingCall)
  | channelLoaded (r : IncomingCall) (channel : Option ChannelKind)
  | profilesLoaded (ic : IncomingCallNotification) (found : Bool)
  | dismiss (channelID callID : String)
  | userDismissed (userID callID : String)
  | userJoined (channelID userID callID : String)
  | callEnd (channelID callID : String)
  | callState (channelID callID : String)
  | currentCall (channelID : String)
  | receivedChannel (channelID : String) (channel : ChannelKind)
  | receivedUser (userID : String)
  | ringing (enabled : Bool)
  deriving DecidableEq

namespace RingState

/-! ## Selectors, reducers and thunks -/

/-- `callDismissedNotification` -/
def callDismissedNotification (s : RingState) (channelID : String) : Bool :=
  decide (channelID ∈ s.dismissedCalls)

/-- `idForCurrentCall` -/
def idForCurrentCall (s : RingState) : Option String :=
  s.calls s.channelIDForCurrentCall

/-- A call is on the list. -/
def listed (s : RingState) (callID : String) : Bool :=
  s.incomingCalls.any fun ic => ic.callID == callID

/-- `incomingCalls` on `ADD_INCOMING_CALL`. -/
def addIncomingCall (s : RingState) (ic : IncomingCallNotification) : RingState :=
  { s with incomingCalls := s.incomingCalls ++ [ic] }

/-- `removeIncomingCallNotification`; the ringing it stops is left out. -/
def removeIncomingCallNotification (s : RingState) (callID : String) : RingState :=
  { s with incomingCalls := s.incomingCalls.filter fun ic => ic.callID != callID }

/-- `dismissedCalls` on `DISMISS_CALL`. -/
def dismissCall (s : RingState) (callID : String) : RingState :=
  { s with dismissedCalls := callID :: s.dismissedCalls }

/-- The checks of `incomingCallOnChannel` once the channel is there. -/
def notifies (s : RingState) (r : IncomingCall) (channel : ChannelKind) : Bool :=
  if channel = .other then false
  else if s.callDismissedNotification r.channelID then false
  else if s.listed r.callID then false
  else if s.currentUserID = r.callerID ∨ s.idForCurrentCall = some r.callID then false
  else true

/-- `incomingCallOnChannel` once the channel is there. -/
def onChannel (s : RingState) (r : IncomingCall) (channel : ChannelKind) : RingState :=
  if s.notifies r channel then
    if r.callerID ∈ s.users then s.addIncomingCall (r.notification channel)
    else { s with waiting := s.waiting ++ [r.notification channel] }
  else s

/-- `incomingCallOnChannel` -/
def incomingCallOnChannel (s : RingState) (r : IncomingCall) : RingState :=
  match s.channels r.channelID with
  | none => { s with loading := s.loading ++ [r] }
  | some channel => s.onChannel r channel

/-- `loadChannel` is back, with the channel unless it failed. -/
def channelLoaded (s : RingState) (r : IncomingCall) (channel : Option ChannelKind) :
    RingState :=
  match channel with
  | none => { s with loading := s.loading.erase r }
  | some channel =>
      onChannel { s with
        loading := s.loading.erase r
        channels := Function.update s.channels r.channelID (some channel) } r channel

/-- `getProfilesByIdsAction` is back; the entry is added whether or not the caller was
found. -/
def profilesLoaded (s : RingState) (ic : IncomingCallNotification) (found : Bool) :
    RingState :=
  addIncomingCall { s with
    waiting := s.waiting.erase ic
    users := if found then ic.callerID :: s.users else s.users } ic

/-- `dismissIncomingCallNotification`, here and in the handler of the event. -/
def dismissIncomingCallNotification (s : RingState) (callID : String) : RingState :=
  (s.removeIncomingCallNotification callID).dismissCall callID

/-- `handleUserDismissedNotification` -/
def handleUserDismissedNotification (s : RingState) (userID callID : String) :
    RingState :=
  if userID ≠ s.currentUserID then s
  else s.dismissIncomingCallNotification callID

/-- The call in a channel, as far as the webapp knows. -/
def callIDOf (s : RingState) (channelID : String) : String :=
  (s.calls channelID).getD ""

/-- `handleUserJoined` -/
def handleUserJoined (s : RingState) (channelID userID : String) : RingState :=
  if s.ringingEnabled = true ∧ userID = s.currentUserID then
    s.removeIncomingCallNotification (s.callIDOf channelID)
  else s

/-- `callEnd` -/
def callEnd (s : RingState) (channelID : String) : RingState :=
  removeIncomingCallNotification
    { s with calls := Function.update s.calls channelID none } (s.callIDOf channelID)

/-- What an action does, and which call is over by it. -/
def step (s : RingState) : RingAction → RingState
  | .incomingCall r => s.incomingCallOnChannel r
  | .channelLoaded r channel => s.channelLoaded r channel
  | .profilesLoaded ic found => s.profilesLoaded ic found
  | .dismiss _ callID => s.dismissIncomingCallNotification callID
  | .userDismissed userID callID => s.handleUserDismissedNotification userID callID
  | .userJoined channelID userID callID =>
      { s.handleUserJoined channelID userID with
        joined := if userID = s.currentUserID then callID :: s.joined else s.joined }
  | .callEnd channelID callID => { s.callEnd channelID with ended := callID :: s.ended }
  | .callState channelID callID =>
      { s with calls := Function.update s.calls channelID (some callID) }
  | .currentCall channelID => { s with channelIDForCurrentCall := channelID }
  | .receivedChannel channelID channel =>
      { s with channels := Function.update s.channels channelID (some channel) }
  | .receivedUser userID => { s with users := userID :: s.users }
  | .ringing enabled => { s with ringingEnabled := enabled }

/-- Only what is waited for comes back. -/
def Enabled (s : RingState) : RingAction → Prop
  | .channelLoaded r _ => r ∈ s.loading
  | .profilesLoaded ic _ => ic ∈ s.waiting
  | _ => True

instance (s : RingState) (a : RingAction) : Decidable (s.Enabled a) := by
  cases a <;> unfold Enabled <;> infer_instance

/-- The webapp handling requests, events and actions in any order. -/
def machine : Machine RingState RingAction := ⟨Enabled, step⟩

instance (s : RingState) (a : RingAction) : Decidable (machine.Enabled s a) :=
  inferInstanceAs (Decidable (s.Enabled a))

/-- Nothing is listed or waited for and no call is over. -/
structure Fresh (s : RingState) : Prop where
  incomingCalls : s.incomingCalls = []
  dismissedCalls : s.dismissedCalls = []
  loading : s.loading = []
  waiting : s.waiting = []
  ended : s.ended = []
  joined : s.joined = []

/-! ## When the list is right -/

/-- The call has ended, was joined or was dismissed. -/
def Over (s : RingState) (callID : String) : Prop :=
  callID ∈ s.ended ∨ callID ∈ s.joined ∨ callID ∈ s.dismissedCalls

/-- The list has no call twice and none that is over. -/
structure Right (s : RingState) : Prop where
  nodup : (s.incomingCalls.map IncomingCallNotification.callID).Nodup
  notOver : ∀ ic ∈ s.incomingCalls, ¬ s.Over ic.callID

/-- No entry of the call waits for its caller. -/
def Undisturbed (s : RingState) (callID : String) : Prop :=
  ∀ ic ∈ s.waiting, ic.callID ≠ callID

/-- A request that passes the checks is for a call that is not over, and is not added
before another one that waits. -/
def Timely (s : RingState) (r : IncomingCall) (channel : ChannelKind) : Prop :=
  s.notifies r channel = true →
    ¬ s.Over r.callID ∧ (r.callerID ∈ s.users → s.Undisturbed r.callID)

/-- The step does no harm: nothing happens to a call while an entry of it waits for its
caller, requests are timely, and a call that ends or is joined is the one the channel
has, or is not listed. -/
def Harmless (s : RingState) : RingAction → Prop
  | .incomingCall r => ∀ channel ∈ s.channels r.channelID, s.Timely r channel
  | .channelLoaded r channel => ∀ channel' ∈ channel, s.Timely r channel'
  | .profilesLoaded ic _ => ∀ ic' ∈ s.waiting.erase ic, ic'.callID ≠ ic.callID
  | .dismiss _ callID => s.Undisturbed callID
  | .userDismissed userID callID => userID = s.currentUserID → s.Undisturbed callID
  | .userJoined channelID userID callID => userID = s.currentUserID →
      s.Undisturbed callID ∧
        (s.listed callID = true → s.ringingEnabled = true ∧
          s.callIDOf channelID = callID)
  | .callEnd channelID callID =>
      s.Undisturbed callID ∧ (s.listed callID = true → s.callIDOf channelID = callID)
  | _ => True

section Decidable

variable (s : RingState) (callID : String) (r : IncomingCall) (channel : ChannelKind)

instance : Decidable (s.Over callID) := by unfold Over; infer_instance

instance : Decidable (s.Undisturbed callID) := by unfold Undisturbed; infer_instance

instance : Decidable (s.Timely r channel) := by unfold Timely; infer_instance

instance (a : RingAction) : Decidable (s.Harmless a) := by
  cases a <;> unfold Harmless <;> infer_instance

end Decidable

/-! ## The list in runs whose steps do no harm -/

variable {s s' : RingState} {c : String} {ic : IncomingCallNotification}
  {r : IncomingCall} {channel : ChannelKind}

theorem listed_iff : s.listed c = true ↔ ∃ ic ∈ s.incomingCalls, ic.callID = c := by
  unfold listed
  rw [List.any_eq_true]
  simp only [beq_iff_eq]

theorem listed_eq_false :
    s.listed c = false ↔ ∀ ic ∈ s.incomingCalls, ic.callID ≠ c := by
  unfold listed
  rw [List.any_eq_false]
  simp only [beq_iff_eq]

theorem listed_add :
    (s.addIncomingCall ic).listed c = (s.listed c || ic.callID == c) := by
  show (s.incomingCalls ++ [ic]).any _ = _
  rw [List.any_append]
  simp [listed]

theorem listed_remove : (s.removeIncomingCallNotification c).listed c = false := by
  rw [listed_eq_false]
  intro ic hic
  have h := (List.mem_filter.1 hic).2
  simpa using h

theorem mem_remove {c' : String}
    (h : ic ∈ (s.removeIncomingCallNotification c').incomingCalls) :
    ic ∈ s.incomingCalls := List.mem_of_mem_filter h

/-- A request that passes the checks is for a call that is not listed. -/
theorem not_listed_of_notifies (h : s.notifies r channel = true) :
    s.listed r.callID = false := by
  unfold notifies at h
  split at h
  · cases h
  · split at h
    · cases h
    · split at h
      · cases h
      · next hlisted => exact Bool.eq_false_iff.2 hlisted

/-- The list is right and what waits to be added keeps it so. -/
structure Sound (s : RingState) : Prop where
  right : s.Right
  waitingNotOver : ∀ ic ∈ s.waiting, ¬ s.Over ic.callID
  waitingNotListed : ∀ ic ∈ s.waiting, s.listed ic.callID = false

theorem Fresh.sound (h : s.Fresh) : s.Sound := by
  have hright : s.Right := by
    constructor
    · rw [h.incomingCalls]
      exact List.nodup_nil
    · rw [h.incomingCalls]
      intro ic hic
      cases hic
  constructor
  · exact hright
  · rw [h.waiting]
    intro ic hic
    cases hic
  · rw [h.waiting]
    intro ic hic
    cases hic

/-- Nothing that matters to the list is changed, except that a call may be over that is
neither listed nor waited for. -/
theorem Sound.over (h : s.Sound) (hcalls : s'.incomingCalls = s.incomingCalls)
    (hwaiting : s'.waiting = s.waiting)
    (hover : ∀ c', s'.Over c' →
      s.Over c' ∨ (c' = c ∧ s.Undisturbed c ∧ s.listed c = false)) : s'.Sound := by
  have hlisted : ∀ c', s'.listed c' = s.listed c' := by
    intro c'
    unfold listed
    rw [hcalls]
  constructor
  · constructor
    · rw [hcalls]
      exact h.right.nodup
    · intro ic hic ho
      rw [hcalls] at hic
      obtain ho | ⟨hc, -, hl⟩ := hover _ ho
      · exact h.right.notOver ic hic ho
      · exact listed_eq_false.1 hl ic hic hc
  · intro ic hic ho
    rw [hwaiting] at hic
    obtain ho | ⟨hc, hu, -⟩ := hover _ ho
    · exact h.waitingNotOver ic hic ho
    · exact hu ic hic hc
  · intro ic hic
    rw [hwaiting] at hic
    rw [hlisted]
    exact h.waitingNotListed ic hic

theorem Sound.remove (h : s.Sound) (c : String) :
    (s.removeIncomingCallNotification c).Sound := by
  constructor
  · constructor
    · have hsub : (s.removeIncomingCallNotification c).incomingCalls.Sublist
          s.incomingCalls :=
        List.filter_sublist
      exact (hsub.map _).nodup h.right.nodup
    · intro ic hic
      exact h.right.notOver ic (mem_remove hic)
  · exact h.waitingNotOver
  · intro ic hic
    rw [listed_eq_false]
    intro ic' hic'
    exact listed_eq_false.1 (h.waitingNotListed ic hic) ic' (mem_remove hic')

theorem Sound.add (h : s.Sound) (hover : ¬ s.Over ic.callID)
    (hlisted : s.listed ic.callID = false)
    (hu : s.Undisturbed ic.callID) : (s.addIncomingCall ic).Sound := by
  constructor
  · constructor
    · show ((s.incomingCalls ++ [ic]).map _).Nodup
      rw [List.map_append, List.nodup_append]
      refine ⟨h.right.nodup, List.nodup_singleton _, ?_⟩
      intro c' hc' c'' hc''
      obtain ⟨ic', hic', rfl⟩ := List.mem_map.1 hc'
      rw [List.map_singleton, List.mem_singleton] at hc''
      rw [hc'']
      exact listed_eq_false.1 hlisted ic' hic'
    · intro ic' hic'
      obtain hold | hnew := List.mem_append.1 hic'
      · exact h.right.notOver ic' hold
      · rw [List.mem_singleton.1 hnew]
        exact hover
  · exact h.waitingNotOver
  · intro ic' hic'
    rw [listed_add, h.waitingNotListed ic' hic', Bool.false_or, beq_eq_false_iff_ne]
    exact (hu ic' hic').symm

theorem Sound.wait (h : s.Sound) (hover : ¬ s.Over ic.callID)
    (hlisted : s.listed ic.callID = false) :
    Sound { s with waiting := s.waiting ++ [ic] } := by
  constructor
  · exact ⟨h.right.nodup, h.right.notOver⟩
  · intro ic' hic'
    obtain hold | hnew := List.mem_append.1 hic'
    · exact h.waitingNotOver ic' hold
    · rw [List.mem_singleton.1 hnew]
      exact hover
  · intro ic' hic'
    obtain hold | hnew := List.mem_append.1 hic'
    · exact h.waitingNotListed ic' hold
    · rw [List.mem_singleton.1 hnew]
      exact hlisted

theorem Sound.unwait (h : s.Sound) (ic : IncomingCallNotification)
    (users : List String) :
    Sound { s with waiting := s.waiting.erase ic, users := users } := by
  constructor
  · exact ⟨h.right.nodup, h.right.notOver⟩
  · intro ic' hic'
    exact h.waitingNotOver ic' (List.mem_of_mem_erase hic')
  · intro ic' hic'
    exact h.waitingNotListed ic' (List.mem_of_mem_erase hic')

theorem Sound.onChannel (h : s.Sound) (ht : s.Timely r channel) :
    (s.onChannel r channel).Sound := by
  unfold RingState.onChannel
  split
  · next hnotifies =>
    have hlisted := not_listed_of_notifies hnotifies
    obtain ⟨hover, hu⟩ := ht hnotifies
    split
    · next hknown => exact h.add hover hlisted (hu hknown)
    · exact h.wait hover hlisted
  · exact h

theorem Sound.dismiss (h : s.Sound) (hu : s.Undisturbed c) :
    (s.dismissIncomingCallNotification c).Sound := by
  refine Sound.over (c := c) (h.remove c) rfl rfl ?_
  intro c' ho
  obtain ho | ho | ho := ho
  · exact .inl (.inl ho)
  · exact .inl (.inr (.inl ho))
  · obtain rfl | ho := List.mem_cons.1 ho
    · exact .inr ⟨rfl, hu, listed_remove⟩
    · exact .inl (.inr (.inr ho))

/-- A call the user joined, or that ended, is not listed afterwards if it is the one
that is taken from the list. -/
theorem not_listed_remove {c' : String} (h : s.listed c = true → c' = c) :
    (s.removeIncomingCallNotification c').listed c = false := by
  by_cases hl : s.listed c = true
  · rw [h hl]
    exact listed_remove
  · rw [listed_eq_false]
    intro ic hic
    exact listed_eq_false.1 (Bool.eq_false_iff.2 hl) ic (mem_remove hic)

theorem Sound.userJoined {channelID userID : String} (h : s.Sound)
    (hok : s.Harmless (.userJoined channelID userID c)) :
    (s.step (.userJoined channelID userID c)).Sound := by
  have hhandled : (s.handleUserJoined channelID userID).Sound := by
    unfold handleUserJoined
    split
    · exact h.remove _
    · exact h
  have hnotListed : userID = s.currentUserID →
      (s.handleUserJoined channelID userID).listed c = false := by
    intro huser
    have htaken := (hok huser).2
    unfold handleUserJoined
    split
    · exact not_listed_remove fun hl => (htaken hl).2
    · next hno =>
      rw [Bool.eq_false_iff]
      intro hl
      exact hno ⟨(htaken hl).1, huser⟩
  have hframe : (s.handleUserJoined channelID userID).waiting = s.waiting ∧
      (s.handleUserJoined channelID userID).joined = s.joined := by
    unfold handleUserJoined
    split <;> exact ⟨rfl, rfl⟩
  refine Sound.over (c := c) hhandled rfl rfl ?_
  intro c' ho
  obtain ho | ho | ho := ho
  · exact .inl (.inl ho)
  · dsimp only [RingState.step] at ho
    split at ho
    · next huser =>
      obtain rfl | ho := List.mem_cons.1 ho
      · refine .inr ⟨rfl, ?_, hnotListed huser⟩
        intro ic hic
        rw [hframe.1] at hic
        exact (hok huser).1 ic hic
      · exact .inl (.inr (.inl (hframe.2 ▸ ho)))
    · exact .inl (.inr (.inl (hframe.2 ▸ ho)))
  · exact .inl (.inr (.inr ho))

theorem Sound.callEnd {channelID : String} (h : s.Sound)
    (hok : s.Harmless (.callEnd channelID c)) :
    (s.step (.callEnd channelID c)).Sound := by
  have hremoved : (s.callEnd channelID).Sound := by
    have hcalls : Sound { s with calls := Function.update s.calls channelID none } :=
      h.over (c := c) rfl rfl fun c' ho => .inl ho
    exact hcalls.remove _
  refine Sound.over (c := c) hremoved rfl rfl ?_
  intro c' ho
  obtain ho | ho := ho
  · obtain rfl | ho := List.mem_cons.1 ho
    · exact .inr ⟨rfl, hok.1, not_listed_remove hok.2⟩
    · exact .inl (.inl ho)
  · exact .inl (.inr ho)

/-- **A harmless step keeps the list right.** -/
theorem Sound.step (h : s.Sound) {a : RingAction} (hen : s.Enabled a)
    (hok : s.Harmless a) :
    (s.step a).Sound := by
  have hframe : ∀ s' : RingState, s'.incomingCalls = s.incomingCalls →
      s'.waiting = s.waiting →
      (∀ c', s'.Over c' → s.Over c') → s'.Sound := fun s' hcalls hwaiting hover =>
    h.over (c := "") hcalls hwaiting fun c' ho => .inl (hover c' ho)
  cases a with
  | incomingCall r =>
      show (s.incomingCallOnChannel r).Sound
      unfold incomingCallOnChannel
      split
      · exact hframe _ rfl rfl fun _ ho => ho
      · next channel hchannel => exact h.onChannel (hok channel hchannel)
  | channelLoaded r channel =>
      show (s.channelLoaded r channel).Sound
      unfold channelLoaded
      split
      · exact hframe _ rfl rfl fun _ ho => ho
      · next channel =>
        apply Sound.onChannel
        · exact hframe _ rfl rfl fun _ ho => ho
        · exact hok channel rfl
  | profilesLoaded ic found =>
      apply (h.unwait ic _).add
      · exact h.waitingNotOver ic hen
      · exact h.waitingNotListed ic hen
      · exact hok
  | dismiss channelID callID => exact h.dismiss hok
  | userDismissed userID callID =>
      show (s.handleUserDismissedNotification userID callID).Sound
      unfold handleUserDismissedNotification
      split
      · exact h
      · next huser => exact h.dismiss (hok (not_not.1 huser))
  | userJoined channelID userID callID => exact h.userJoined hok
  | callEnd channelID callID => exact h.callEnd hok
  | callState channelID callID => exact hframe _ rfl rfl fun _ ho => ho
  | currentCall channelID => exact hframe _ rfl rfl fun _ ho => ho
  | receivedChannel channelID channel => exact hframe _ rfl rfl fun _ ho => ho
  | receivedUser userID => exact hframe _ rfl rfl fun _ ho => ho
  | ringing enabled => exact hframe _ rfl rfl fun _ ho => ho

theorem sound_of_runs {s₀ : RingState} (h₀ : s₀.Fresh)
    (hr : machine.Runs Harmless s₀ s) : s.Sound :=
  hr.inv h₀.sound fun _ _ hen hok h => h.step hen hok

/-! ## Steps that do harm -/

/-- The list may become wrong. -/
def MayBreak (s : RingState) : Prop :=
  ∃ s', machine.Runs Machine.Always s s' ∧ ¬ s'.Right

theorem MayBreak.of_not_right (h : ¬ s.Right) : s.MayBreak := ⟨s, .refl, h⟩

theorem not_right_of_over (hlisted : s.listed c = true) (hover : s.Over c) :
    ¬ s.Right := by
  obtain ⟨ic, hic, rfl⟩ := listed_iff.1 hlisted
  exact fun h => h.notOver ic hic hover

theorem not_right_add (h : s.Over ic.callID ∨ s.listed ic.callID = true) :
    ¬ (s.addIncomingCall ic).Right := by
  intro hright
  have hadded : ic ∈ (s.addIncomingCall ic).incomingCalls :=
    List.mem_append_right _ (List.mem_singleton_self ic)
  obtain hover | hlisted := h
  · exact hright.notOver ic hadded hover
  · obtain ⟨ic', hic', hc⟩ := listed_iff.1 hlisted
    have hnodup :
        ((s.incomingCalls ++ [ic]).map IncomingCallNotification.callID).Nodup :=
      hright.nodup
    rw [List.map_append] at hnodup
    have hdisjoint := (List.nodup_append.1 hnodup).2.2
    exact hdisjoint _ (List.mem_map_of_mem hic') _ (List.mem_singleton_self _) hc

/-- An entry that waits for its caller is added, whatever happened to its call. -/
theorem MayBreak.of_waiting (hw : ic ∈ s.waiting)
    (h : s.Over ic.callID ∨ s.listed ic.callID = true) : s.MayBreak := by
  have hrun : machine.Runs Machine.Always s (s.step (.profilesLoaded ic true)) :=
    Machine.Runs.refl.step (RingAction.profilesLoaded ic true) hw trivial
  refine ⟨_, hrun, ?_⟩
  apply not_right_add
  exact h

theorem exists_waiting_of_disturbed (h : ¬ s.Undisturbed c) :
    ∃ ic ∈ s.waiting, ic.callID = c := by
  unfold Undisturbed at h
  push Not at h
  exact h

/-- A request that is not timely breaks the list, at once or when its caller is
there. -/
theorem MayBreak.onChannel (h : ¬ s.Timely r channel) :
    (s.onChannel r channel).MayBreak := by
  unfold Timely at h
  push Not at h
  obtain ⟨hnotifies, hharm⟩ := h
  unfold RingState.onChannel
  rw [if_pos hnotifies]
  by_cases hover : s.Over r.callID
  · split
    · exact .of_not_right (not_right_add (.inl hover))
    · exact .of_waiting (List.mem_append_right _ (List.mem_singleton_self _))
        (.inl hover)
  · obtain ⟨hknown, hdisturbed⟩ := hharm hover
    rw [if_pos hknown]
    obtain ⟨ic, hic, hc⟩ := exists_waiting_of_disturbed hdisturbed
    refine .of_waiting (s := s.addIncomingCall (r.notification channel)) hic (.inr ?_)
    rw [listed_add, hc]
    exact Bool.or_eq_true_iff.2 (.inr (beq_self_eq_true _))

theorem MayBreak.dismiss (h : ¬ s.Undisturbed c) :
    (s.dismissIncomingCallNotification c).MayBreak := by
  obtain ⟨ic, hic, rfl⟩ := exists_waiting_of_disturbed h
  exact .of_waiting (s := s.dismissIncomingCallNotification ic.callID) hic
    (.inl (.inr (.inr (List.mem_cons_self))))

theorem listed_remove_of_ne {c' : String} (hlisted : s.listed c = true) (hne : c' ≠ c) :
    (s.removeIncomingCallNotification c').listed c = true := by
  obtain ⟨ic, hic, rfl⟩ := listed_iff.1 hlisted
  apply listed_iff.2
  refine ⟨ic, List.mem_filter.2 ⟨hic, ?_⟩, rfl⟩
  exact bne_iff_ne.2 hne.symm

theorem MayBreak.userJoined {channelID userID : String}
    (h : ¬ s.Harmless (.userJoined channelID userID c)) :
    (s.step (.userJoined channelID userID c)).MayBreak := by
  unfold Harmless at h
  rw [Classical.not_imp] at h
  obtain ⟨huser, hharm⟩ := h
  have hover : (s.step (.userJoined channelID userID c)).Over c := by
    refine .inr (.inl ?_)
    show c ∈ if userID = s.currentUserID then c :: s.joined else s.joined
    rw [if_pos huser]
    exact List.mem_cons_self
  by_cases hu : s.Undisturbed c
  · rw [not_and] at hharm
    obtain ⟨hlisted, hmissed⟩ := Classical.not_imp.1 (hharm hu)
    refine .of_not_right (not_right_of_over ?_ hover)
    show (s.handleUserJoined channelID userID).listed c = true
    unfold handleUserJoined
    split
    · next hringing =>
      apply listed_remove_of_ne hlisted
      intro hc
      exact hmissed ⟨hringing.1, hc⟩
    · exact hlisted
  · obtain ⟨ic, hic, rfl⟩ := exists_waiting_of_disturbed hu
    refine .of_waiting ?_ (.inl hover)
    show ic ∈ (s.handleUserJoined channelID userID).waiting
    unfold handleUserJoined
    split <;> exact hic

theorem MayBreak.callEnd {channelID : String}
    (h : ¬ s.Harmless (.callEnd channelID c)) :
    (s.step (.callEnd channelID c)).MayBreak := by
  have hover : (s.step (.callEnd channelID c)).Over c := .inl List.mem_cons_self
  by_cases hu : s.Undisturbed c
  · have hmissed : ¬ (s.listed c = true → s.callIDOf channelID = c) :=
      fun h' => h ⟨hu, h'⟩
    obtain ⟨hlisted, hne⟩ := Classical.not_imp.1 hmissed
    exact .of_not_right (not_right_of_over (listed_remove_of_ne hlisted hne) hover)
  · obtain ⟨ic, hic, rfl⟩ := exists_waiting_of_disturbed hu
    exact .of_waiting (s := s.step (.callEnd channelID ic.callID)) hic (.inl hover)

/-- **A step that does harm** leads to a state from which the list may become wrong. -/
theorem MayBreak.step {a : RingAction} (h : ¬ s.Harmless a) : (s.step a).MayBreak := by
  cases a with
  | incomingCall r =>
      unfold Harmless at h
      push Not at h
      obtain ⟨channel, hchannel, ht⟩ := h
      show (s.incomingCallOnChannel r).MayBreak
      unfold incomingCallOnChannel
      rw [Option.mem_def.1 hchannel]
      exact .onChannel ht
  | channelLoaded r channel =>
      unfold Harmless at h
      push Not at h
      obtain ⟨channel', hchannel, ht⟩ := h
      show (s.channelLoaded r channel).MayBreak
      unfold channelLoaded
      rw [Option.mem_def.1 hchannel]
      exact .onChannel ht
  | profilesLoaded ic found =>
      unfold Harmless at h
      push Not at h
      obtain ⟨ic', hic', hc⟩ := h
      refine .of_waiting (s := s.profilesLoaded ic found) hic' (.inr ?_)
      unfold profilesLoaded
      rw [listed_add, hc]
      exact Bool.or_eq_true_iff.2 (.inr (beq_self_eq_true _))
  | dismiss channelID callID => exact .dismiss h
  | userDismissed userID callID =>
      unfold Harmless at h
      rw [Classical.not_imp] at h
      show (s.handleUserDismissedNotification userID callID).MayBreak
      unfold handleUserDismissedNotification
      rw [if_neg (not_not.2 h.1)]
      exact .dismiss h.2
  | userJoined channelID userID callID => exact .userJoined h
  | callEnd channelID callID => exact .callEnd h
  | callState channelID callID => exact absurd trivial h
  | currentCall channelID => exact absurd trivial h
  | receivedChannel channelID channel => exact absurd trivial h
  | receivedUser userID => exact absurd trivial h
  | ringing enabled => exact absurd trivial h

/-- **The list of incoming calls.**  As long as the steps of a run do no harm it has no
call twice and none that is over; after the first step that does harm it may become
wrong. -/
theorem right_of_runs {s₀ : RingState} (h₀ : s₀.Fresh) :
    (∀ s, machine.Runs Harmless s₀ s → s.Right) ∧
      ∀ s a, machine.Runs Harmless s₀ s → machine.Enabled s a → ¬ s.Harmless a →
        (s.step a).MayBreak :=
  ⟨fun _ hr => (sound_of_runs h₀ hr).right, fun _ _ _ _ h => .step h⟩

/-! ## Runs on fixed actions -/

/-- Bob's channel with Alice, whose client does not have his profile. -/
def alice : RingState :=
  ⟨"alice", true, "", fun channelID => if channelID = "d1" then some .dm else none,
    ["alice"], fun _ => none, [], [], [], [], [], []⟩

theorem alice_fresh : alice.Fresh := ⟨rfl, rfl, rfl, rfl, rfl, rfl⟩

/-- The request for Bob's call and the entry it adds. -/
def bobCalls : IncomingCall := ⟨"d1", "c1", "bob", 1⟩

def bobRings : IncomingCallNotification := bobCalls.notification .dm

/-- The ids of the calls that are listed. -/
def callIDs (s : RingState) : List String :=
  s.incomingCalls.map IncomingCallNotification.callID

/-- Bob's call is listed once his profile is there, and no longer when it is dismissed.
Dismissed while it waits, it may come back. -/
theorem right_of_ringing :
    (∃ s : RingState, s.callIDs = ["c1"] ∧ s.Right) ∧
      (∃ s : RingState, (s.callIDs, s.dismissedCalls) = ([], ["c1"]) ∧ s.Right) ∧
      (alice.step (.incomingCall bobCalls) |>.step (.dismiss "d1" "c1")).MayBreak := by
  have hrun : ∀ {β : Type} (f : RingState → β) (l : List RingAction) (y : β),
      (machine.leads (fun s a => decide (s.Harmless a)) alice l).map f = some y →
        ∃ s, machine.Runs Harmless alice s ∧ f s = y := fun f l y h =>
    Machine.Runs.exists_of_leads (fun _ _ h => of_decide_eq_true h) h
  obtain ⟨s, hs, hids⟩ := hrun callIDs
    [.callState "d1" "c1", .incomingCall bobCalls, .profilesLoaded bobRings true]
    ["c1"] (by decide)
  obtain ⟨s', hs', hids'⟩ := hrun (fun s => (s.callIDs, s.dismissedCalls))
    [.callState "d1" "c1", .incomingCall bobCalls, .profilesLoaded bobRings true,
      .dismiss "d1" "c1"] ([], ["c1"]) (by decide)
  have hwaits : machine.Runs Harmless alice (alice.step (.incomingCall bobCalls)) :=
    Machine.Runs.refl.step (RingAction.incomingCall bobCalls) trivial (by decide)
  exact ⟨⟨s, hids, (right_of_runs alice_fresh).1 s hs⟩,
    ⟨s', hids', (right_of_runs alice_fresh).1 s' hs'⟩,
    (right_of_runs alice_fresh).2 _ (.dismiss "d1" "c1") hwaits trivial (by decide)⟩

/-- Two requests for Bob's call wait for his profile and both list it.  Dismissed and
requested again, or dismissed while it waits, it is listed too; and so it is when it
ends while it waits. -/
theorem ringing_twice :
    (∃ s, machine.Runs Machine.Always alice s ∧ s.callIDs = ["c1", "c1"]) ∧
      (∃ s, machine.Runs Machine.Always alice s ∧
        (s.callIDs, s.dismissedCalls) = (["c1"], ["c1"])) ∧
      (∃ s, machine.Runs Machine.Always alice s ∧
        (s.callIDs, s.dismissedCalls, s.users) = (["c1"], ["c1"], ["bob", "alice"])) ∧
      ∃ s, machine.Runs Machine.Always alice s ∧
      (s.callIDs, s.ended) = (["c1"], ["c1"]) := by
  have hrun : ∀ {β : Type} (f : RingState → β) (l : List RingAction) (y : β),
      (machine.leads (fun _ _ => true) alice l).map f = some y →
        ∃ s, machine.Runs Machine.Always alice s ∧ f s = y := fun f l y h =>
    Machine.Runs.exists_of_leads (fun b a _ => (trivial : Machine.Always b a)) h
  have hlisted := hrun callIDs [.callState "d1" "c1", .incomingCall bobCalls,
    .incomingCall bobCalls, .profilesLoaded bobRings true,
      .profilesLoaded bobRings true]
    ["c1", "c1"] (by decide)
  have hagain := hrun (fun s => (s.callIDs, s.dismissedCalls)) [.callState "d1" "c1",
    .receivedUser "bob", .incomingCall bobCalls, .dismiss "d1" "c1",
      .incomingCall bobCalls]
    (["c1"], ["c1"]) (by decide)
  have hwaits :=
    hrun (fun s => (s.callIDs, s.dismissedCalls, s.users)) [.callState "d1" "c1",
    .incomingCall bobCalls, .dismiss "d1" "c1", .profilesLoaded bobRings true]
    (["c1"], ["c1"], ["bob", "alice"]) (by decide)
  have hended := hrun (fun s => (s.callIDs, s.ended)) [.callState "d1" "c1",
    .incomingCall bobCalls, .callEnd "d1" "c1", .profilesLoaded bobRings true]
    (["c1"], ["c1"]) (by decide)
  exact ⟨hlisted, hagain, hwaits, hended⟩

end RingState

end CallsPlugin.Ports
