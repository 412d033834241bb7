import CallsPlugin.Verified.Tasks
import Mathlib.Logic.Function.Basic

/-!
# The microphone of a client (`webapp/src/client.ts`)

`CallsClient` asks the browser for a track of the microphone, gives it to the RTC peer
when its user unmutes for the first time, and disables it when the user mutes.  Asking
for a track, listing the devices and adding a track to the peer take time, in which the
user may do other things, devices may come and go, and the call may end.

Left out are cameras and screens, the output device, AV1, and the statistics.
-/

namespace CallsPlugin.Ports.Microphone

open CallsPlugin.Verified

/-- `MediaDeviceInfo` of an audio input. -/
structure MediaDeviceInfo where
  deviceId : String
  label : String
  deriving DecidableEq

/-- The device the local storage remembers; an older version stored no label. -/
structure StoredDevice where
  deviceId : String
  label : Option String
  deriving DecidableEq

/-- `MediaStreamTrack`: the peer sends what a track hears while it is enabled and has
not been stopped. -/
structure MediaStreamTrack where
  enabled : Bool
  live : Bool
  deriving DecidableEq

inductive ClientError where
  | audioInputPermissions
  | audioInputMissing
  | insecureContext
  | other
  deriving DecidableEq

/-- What a client sends about itself. -/
inductive Sent where
  | mute
  | unmute
  | leave
  deriving DecidableEq

/-- `CallsClient`.  Tracks and streams are numbered as the browser makes them: the n-th
answer of `getUserMedia` is the stream n of the track n.  `handed` has the tracks that
were ever given to the peer; `unmuted` says which of the events `mute` and `unmute` was
the last. -/
structure CallsClient where
  initialized : Bool := false
  closed : Bool := false
  peer : Bool := false
  ws : Bool := false
  audioTrack : Option Nat := none
  stream : Option Nat := none
  voiceTrackAdded : Bool := false
  streams : List Nat := []
  currentAudioInputDevice : Option MediaDeviceInfo := none
  inputs : List MediaDeviceInfo := []
  stored : Option StoredDevice := none
  tracks : Nat → MediaStreamTrack := fun _ => ⟨false, false⟩
  mediaStreams : Nat → List Nat := fun _ => []
  made : Nat := 0
  handed : List Nat := []
  unmuted : Bool := false
  sent : List Sent := []

/-- What asynchronous code waits for: the list of devices; a track, in `initAudio` the
first and the second time, and in `setAudioInputDevice`; the peer, which adds a
track. -/
inductive Wait where
  | enumerated
  | permission (deviceId : String)
  | acquired
  | switched (oldTrack : Nat) (isEnabled : Bool)
  | trackAdded
  deriving DecidableEq

/-- Where a caller goes on: `initAudio` after `updateDevices`; `init` after
`updateDevices` and after `initAudio`; `unmute` after `initAudio`;
`handleAudioDeviceFallback` after `setAudioInputDevice`; `updateDevices` after
`handleAudioDeviceFallback`. -/
inductive Caller where
  | listed (deviceId : String)
  | initDevices
  | initAudio
  | unmute
  | fellBack
  | inputChecked
  deriving DecidableEq

inductive Answer where
  | failed
  | devices (inputs : List MediaDeviceInfo)
  | stream
  | added

/-- Code that has run: the client, and what is left to do. -/
abbrev Ran : Type := CallsClient × Task Wait Caller ClientError

def ended (s : CallsClient) : Ran := (s, .returned (.ok ()) [])

def threw (s : CallsClient) (err : ClientError) : Ran := (s, .returned (.error err) [])

def awaits (s : CallsClient) (w : Wait) : Ran := (s, .waits w [])

def Ran.calledBy (p : Ran) (c : Caller) : Ran := (p.1, p.2.under [c])

namespace CallsClient

/-! ## The browser -/

/-- `track.enabled = enabled` -/
def enable (s : CallsClient) (t : Nat) (enabled : Bool) : CallsClient :=
  { s with tracks := Function.update s.tracks t { s.tracks t with enabled := enabled } }

/-- `track.stop()` of some tracks -/
def stop (s : CallsClient) (stopped : List Nat) : CallsClient :=
  { s with tracks := fun t =>
      if t ∈ stopped then { s.tracks t with live := false } else s.tracks t }

/-- The answer of `getUserMedia`; the new stream and its track have the number
`s.made`. -/
def getUserMedia (s : CallsClient) : CallsClient :=
  { s with
    tracks := Function.update s.tracks s.made ⟨true, true⟩
    mediaStreams := Function.update s.mediaStreams s.made [s.made]
    made := s.made + 1 }

/-- `this.ws.send`, if there is a `this.ws` -/
def send (s : CallsClient) (msg : Sent) : CallsClient :=
  if s.ws then { s with sent := msg :: s.sent } else s

/-! ## Audio input -/

/-- `getSelectedAudioDevice('input')` -/
def getSelectedAudioDevice (s : CallsClient) : Option MediaDeviceInfo :=
  match s.stored with
  | none => none
  | some selected =>
      if selected.deviceId = "" then none
      else
        let devices := s.inputs.filter fun dev =>
          dev.deviceId = selected.deviceId ∨ some dev.label = selected.label
        if devices.length > 1 then devices.find? fun dev => dev.deviceId =
          selected.deviceId
        else devices.head?

/-- `initAudio` until it has a first stream; an empty `deviceId` is none. -/
def initAudio (s : CallsClient) (deviceId : String) : Ran :=
  awaits s (.permission deviceId)

/-- `updateDevices` until the devices are listed -/
def updateDevices (s : CallsClient) : Ran := awaits s .enumerated

/-- `initAudio` failed to get a stream. -/
def audioFailed (s : CallsClient) : Ran :=
  threw s (if s.inputs.length > 0 then .audioInputPermissions else .audioInputMissing)

/-- The first stream in `initAudio`. -/
def audioPermitted (s : CallsClient) (deviceId : String) : Ran :=
  let t := s.made
  let s := { s.getUserMedia with stream := some t }
  let s := if deviceId = "" then s.stop (s.mediaStreams t) else s
  Ran.calledBy s.updateDevices (.listed deviceId)

/-- The end of `initAudio`, which has its stream. -/
def audioReady (s : CallsClient) : Ran :=
  match s.stream with
  | none => s.audioFailed
  | some stream =>
      let s := { s with streams := stream :: s.streams }
      match s.mediaStreams stream with
      | [] => audioFailed { s with audioTrack := none }
      | t :: _ => ended (enable { s with audioTrack := some t } t false)

/-- `initAudio` after `updateDevices` -/
def audioListed (s : CallsClient) (deviceId : String) : Ran :=
  if deviceId = "" then
    match s.getSelectedAudioDevice with
    | none => awaits s .acquired
    | some device => awaits { s with currentAudioInputDevice := some device } .acquired
  else s.audioReady

/-- `setAudioInputDevice` until it has a new stream -/
def setAudioInputDevice (s : CallsClient) (device : MediaDeviceInfo) (store : Bool) :
    Ran :=
  if s.peer = false then ended s
  else
    let s :=
      if store then { s with stored := some ⟨device.deviceId, some device.label⟩ }
      else s
    let s := { s with currentAudioInputDevice := some device }
    match s.audioTrack with
    | none => s.initAudio device.deviceId
    | some oldTrack =>
        if s.stream = none then s.initAudio device.deviceId
        else awaits s (.switched oldTrack (s.tracks oldTrack).enabled)

/-- `setAudioInputDevice` with the new stream.  A client that has been disconnected has
no peer to replace the track of. -/
def audioSwitched (s : CallsClient) (oldTrack : Nat) (isEnabled : Bool) : Ran :=
  let t := s.made
  let s := { s.getUserMedia with streams := t :: s.streams }
  let s := s.stop [oldTrack]
  match s.stream with
  | none => threw s .other
  | some stream =>
      let kept := (s.mediaStreams stream).filter (· ≠ oldTrack)
      let s :=
        { s with mediaStreams := Function.update s.mediaStreams stream (kept ++ [t]) }
      let s := s.enable t isEnabled
      if isEnabled then
        if s.peer = false then threw s .other
        else ended { s with handed := t :: s.handed, audioTrack := some t }
      else ended { s with voiceTrackAdded := false, audioTrack := some t }

/-- `handleAudioDeviceFallback('input')` -/
def handleAudioDeviceFallback (s : CallsClient) (currentDevice : MediaDeviceInfo) :
    Ran :=
  let missing := ¬ s.inputs.any fun device => currentDevice.deviceId = device.deviceId
  match s.inputs with
  | first :: _ =>
      if missing then (s.setAudioInputDevice first false).calledBy .fellBack
      else selectedBack
  | [] => selectedBack
where
  /-- The selected device may have come back. -/
  selectedBack : Ran :=
    match s.getSelectedAudioDevice with
    | none => ended s
    | some selected =>
        if selected.label ≠ currentDevice.label then
          (s.setAudioInputDevice selected false).calledBy .fellBack
        else ended s

/-- `updateDevices` with the list of devices -/
def devicesListed (s : CallsClient) (inputs : List MediaDeviceInfo) : Ran :=
  let s := { s with inputs := inputs }
  match s.currentAudioInputDevice with
  | none => ended s
  | some device => (s.handleAudioDeviceFallback device).calledBy .inputChecked

/-! ## Muting -/

/-- `mute` -/
def mute (s : CallsClient) : CallsClient :=
  match s.audioTrack with
  | none => s
  | some t =>
      if s.peer = false ∨ s.stream = none then s
      else send { s.enable t false with unmuted := false } .mute

/-- The track is enabled, at the end of `unmute`. -/
def heard (s : CallsClient) (t : Nat) : CallsClient :=
  send { s.enable t true with unmuted := true } .unmute

/-- `unmute` once audio was initialised -/
def unmuteTrack (s : CallsClient) : Ran :=
  match s.audioTrack with
  | none => ended (send { s with unmuted := true } .unmute)
  | some t =>
      if s.voiceTrackAdded then
        if s.peer = false then threw s .other
        else ended (heard { s with handed := t :: s.handed } t)
      else if s.stream = none then ended (s.heard t)
      else if s.peer = false then threw s .other
      else awaits { s with handed := t :: s.handed } .trackAdded

/-- `unmute` after the peer has added the track -/
def unmuteAdded (s : CallsClient) : Ran :=
  let s := { s with voiceTrackAdded := true }
  match s.audioTrack with
  | none => threw s .other
  | some t => ended (s.heard t)

/-- `unmute` -/
def unmute (s : CallsClient) : Ran :=
  if s.peer = false then ended s
  else
    match s.audioTrack with
    | none => (s.initAudio "").calledBy .unmute
    | some _ => s.unmuteTrack

/-! ## The life of a client -/

/-- `cleanup` -/
def cleanup (s : CallsClient) : CallsClient := s.stop (s.streams.flatMap s.mediaStreams)

/-- `disconnect` -/
def disconnect (s : CallsClient) : CallsClient :=
  if s.closed then s
  else
    let s := cleanup { s with closed := true, peer := false }
    { s.send .leave with ws := false }

/-- `init` until the devices are listed -/
def init (s : CallsClient) (isSecureContext : Bool) : Ran :=
  let s := { s with initialized := true }
  if isSecureContext then Ran.calledBy s.updateDevices .initDevices
  else threw s .insecureContext

/-- `init` after `initAudio`: unless the client was closed meanwhile it connects. -/
def audioInitialized (s : CallsClient) (r : Except ClientError Unit) : Ran :=
  match r with
  | .ok _ => if s.closed then ended s.cleanup else ended { s with ws := true }
  | .error _ => ended { s with ws := true }

end CallsClient

/-- What happens to a client: its methods are called, the server accepts its join, which
makes a peer, it gives up reconnecting, the devices change, or another window stores a
device. -/
inductive ClientCall where
  | init (isSecureContext : Bool)
  | setAudioInputDevice (device : MediaDeviceInfo) (store : Bool)
  | unmute
  | mute
  | disconnect
  | joined
  | reconnectTimeout
  | deviceChange
  | storage (stored : Option StoredDevice)

/-- A call begins. -/
def start : ClientCall → CallsClient → Ran
  | .init isSecureContext, s => s.init isSecureContext
  | .setAudioInputDevice device store, s => s.setAudioInputDevice device store
  | .unmute, s => s.unmute
  | .mute, s => ended s.mute
  | .disconnect, s => ended s.disconnect
  | .joined, s => ended { s with peer := true }
  | .reconnectTimeout, s => ended (CallsClient.disconnect { s with ws := false })
  | .deviceChange, s => s.updateDevices
  | .storage stored, s => ended { s with stored := stored }

/-- What was waited for is there, or failed. -/
def wake : Wait → Answer → CallsClient → Ran
  | .enumerated, .devices inputs, s => s.devicesListed inputs
  | .enumerated, _, s => ended s
  | .permission deviceId, .stream, s => s.audioPermitted deviceId
  | .permission _, _, s => s.audioFailed
  | .acquired, .stream, s =>
      CallsClient.audioReady { s.getUserMedia with stream := some s.made }
  | .acquired, _, s => s.audioFailed
  | .switched oldTrack isEnabled, .stream, s => s.audioSwitched oldTrack isEnabled
  | .switched _ _, _, s => threw s .other
  | .trackAdded, .added, s => s.unmuteAdded
  | .trackAdded, _, s => threw s .other

/-- A caller goes on with what it was returned; `updateDevices` logs errors. -/
def next : Caller → Except ClientError Unit → CallsClient → Ran
  | .listed deviceId, _, s => s.audioListed deviceId
  | .initDevices, _, s => (s.initAudio "").calledBy .initAudio
  | .initAudio, r, s => s.audioInitialized r
  | .unmute, .ok _, s => s.unmuteTrack
  | .unmute, .error _, s => ended s
  | .fellBack, r, s => (s, .returned r [])
  | .inputChecked, _, s => ended s

/-- `init` is called once, and a join is accepted where there is a connection. -/
def Calls (s : CallsClient) : ClientCall → Prop
  | .init _ => s.initialized = false
  | .joined => s.ws = true
  | .setAudioInputDevice _ _ | .unmute | .mute | .disconnect | .reconnectTimeout
  | .deviceChange
  | .storage _ => True

def Accepts : Wait → Answer → Prop
  | .enumerated, .devices _ | .enumerated, .failed => True
  | .permission _, .stream | .permission _, .failed => True
  | .acquired, .stream | .acquired, .failed => True
  | .switched _ _, .stream | .switched _ _, .failed => True
  | .trackAdded, .added | .trackAdded, .failed => True
  | _, _ => False

/-- The asynchronous code of a client. -/
def client : AsyncCode CallsClient ClientCall Wait Caller Answer ClientError where
  start := start
  wake := wake
  next := next
  Calls := Calls
  Accepts := Accepts

instance (s : CallsClient) (c : ClientCall) : Decidable (client.Calls s c) :=
  match c with
  | .init _ => inferInstanceAs (Decidable (s.initialized = false))
  | .joined => inferInstanceAs (Decidable (s.ws = true))
  | .setAudioInputDevice _ _ | .unmute | .mute | .disconnect | .reconnectTimeout
  | .deviceChange
  | .storage _ => isTrue trivial

instance (w : Wait) (a : Answer) : Decidable (client.Accepts w a) :=
  match w, a with
  | .enumerated, .devices _ | .enumerated, .failed | .permission _, .stream
  | .permission _, .failed | .acquired, .stream | .acquired, .failed
  | .switched _ _, .stream
  | .switched _ _, .failed | .trackAdded, .added | .trackAdded, .failed =>
      isTrue trivial
  | .enumerated, .stream | .enumerated, .added | .permission _, .devices _
  | .permission _, .added | .acquired, .devices _ | .acquired, .added
  | .switched _ _, .devices _
  | .switched _ _, .added | .trackAdded, .devices _ | .trackAdded, .stream => isFalse id

/-! ## What is kept -/

/-- Of the tracks the peer was given only the current one may be live, and it is
disabled as long as the client is muted. -/
structure Sound (audioTrack stream : Option Nat) (tracks : Nat → MediaStreamTrack)
    (mediaStreams : Nat → List Nat) (made : Nat) (handed : List Nat)
    (unmuted initialized peer ws : Bool) : Prop where
  others : ∀ t ∈ handed, audioTrack = some t ∨ (tracks t).live = false
  muted : unmuted = false → ∀ t, audioTrack = some t → (tracks t).enabled = false
  unheard : handed = [] → ∀ t, audioTrack = some t → (tracks t).enabled = false
  none_handed : audioTrack = none → handed = []
  new : initialized = false → handed = [] ∧ peer = false ∧ ws = false
  has_stream : ∀ t, audioTrack = some t → ∃ st, stream = some st
  current_lt : ∀ t, audioTrack = some t → t < made
  handed_lt : ∀ t ∈ handed, t < made
  streams_lt : ∀ st, ∀ t ∈ mediaStreams st, t < made

/-- `Sound`, of a client. -/
def CallsClient.Kept (s : CallsClient) : Prop :=
  Sound s.audioTrack s.stream s.tracks s.mediaStreams s.made s.handed s.unmuted
    s.initialized s.peer s.ws

/-- No track is given to the peer while audio is initialised; a device is switched with
the track that is current, and with a disabled one as long as the client is muted. -/
def outline : Outline CallsClient Wait Caller where
  inv := CallsClient.Kept
  waits
    | .enumerated, _, _ => True
    | .permission _, _, s => s.handed = []
    | .acquired, _, s => s.handed = []
    | .switched oldTrack isEnabled, _, s => s.audioTrack = some oldTrack ∧
        (s.unmuted = false → isEnabled = false) ∧ (s.handed = [] → isEnabled = false)
    | .trackAdded, _, s => s.handed ≠ []
  calls
    | .listed _, _, s => s.handed = []
    | .initDevices, _, s => s.handed = [] ∧ s.initialized = true
    | .initAudio, _, s => s.initialized = true
    | .unmute, outer, _ => outer = []
    | .fellBack, _, _ => True
    | .inputChecked, _, _ => True

section Kept

variable {s s' : CallsClient} {p : Ran} {t : Nat}

namespace CallsClient

@[simp] theorem enable_enabled (s : CallsClient) (t : Nat) (b : Bool) :
    ((s.enable t b).tracks t).enabled = b := by simp [enable]

theorem enable_of_ne {t' : Nat} (h : t' ≠ t) (b : Bool) :
    (s.enable t b).tracks t' = s.tracks t' := by simp [enable, h]

@[simp] theorem enable_live (s : CallsClient) (t t' : Nat) (b : Bool) :
    ((s.enable t b).tracks t').live = (s.tracks t').live := by
  by_cases h : t' = t
  · subst h
    simp [enable]
  · rw [enable_of_ne h]

@[simp] theorem stop_enabled (s : CallsClient) (l : List Nat) (t : Nat) :
    ((s.stop l).tracks t).enabled = (s.tracks t).enabled := by
  by_cases h : t ∈ l <;> simp [stop, h]

theorem stop_live {l : List Nat} (h : (s.tracks t).live = false) :
    ((s.stop l).tracks t).live = false := by
  by_cases ht : t ∈ l <;> simp [stop, ht, h]

theorem stop_live_of_mem {l : List Nat} (h : t ∈ l) :
    ((s.stop l).tracks t).live = false := by
  simp [stop, h]

theorem getUserMedia_of_lt (h : t < s.made) : s.getUserMedia.tracks t = s.tracks t :=
  Function.update_of_ne (Nat.ne_of_lt h) ..

/-- What is kept when tracks change: none comes back to life, and the current one stays
disabled. -/
theorem Kept.withTracks (h : s.Kept) {tracks : Nat → MediaStreamTrack}
    (hlive : ∀ t, t < s.made → (s.tracks t).live = false → (tracks t).live = false)
    (henabled : ∀ t, s.audioTrack = some t → (s.tracks t).enabled = false →
      (tracks t).enabled = false) : Kept { s with tracks := tracks } :=
  { h with
    others := fun t ht => (h.others t ht).imp id (hlive t (h.handed_lt t ht))
    muted := fun hm t ht => henabled t ht (h.muted hm t ht)
    unheard := fun hh t ht => henabled t ht (h.unheard hh t ht) }

theorem Kept.stop (h : s.Kept) (l : List Nat) : (s.stop l).Kept :=
  h.withTracks (fun _ _ => stop_live) fun t _ hen => (stop_enabled s l t).trans hen

/-- A new stream has a new track. -/
theorem Kept.getUserMedia (h : s.Kept) : s.getUserMedia.Kept := by
  have htracks : Kept { s with tracks := s.getUserMedia.tracks } := by
    refine h.withTracks (fun t ht hl => ?_) fun t ht hen => ?_
    · rw [getUserMedia_of_lt ht]
      exact hl
    · rw [getUserMedia_of_lt (h.current_lt t ht)]
      exact hen
  refine
    { htracks with
      current_lt := fun t ht => Nat.lt_succ_of_lt (h.current_lt t ht)
      handed_lt := fun t ht => Nat.lt_succ_of_lt (h.handed_lt t ht)
      streams_lt := fun st t ht => ?_ }
  by_cases hst : st = s.made
  · have hmem : t ∈ [s.made] := by simpa [CallsClient.getUserMedia, hst] using ht
    simp [CallsClient.getUserMedia, List.mem_singleton.1 hmem]
  · have hmem : t ∈ s.mediaStreams st := by
      simpa [CallsClient.getUserMedia, hst] using ht
    exact Nat.lt_succ_of_lt (h.streams_lt st t hmem)

/-- The stream of a client is replaced, never dropped. -/
theorem Kept.withStream (h : s.Kept) (st : Nat) : Kept { s with stream := some st } :=
  { h with has_stream := fun _ _ => ⟨st, rfl⟩ }

/-- Any track may be disabled, and enabled unless it is the current one. -/
theorem Kept.enable (h : s.Kept) {b : Bool} (hb : s.audioTrack = some t → b = false) :
    (s.enable t b).Kept := by
  refine h.withTracks (fun t' _ hl => (enable_live s t t' b).trans hl)
    fun t' ht' hen => ?_
  by_cases heq : t' = t
  · subst heq
    exact (enable_enabled s t' b).trans (hb ht')
  · exact (congrArg MediaStreamTrack.enabled (enable_of_ne heq b)).trans hen

theorem Kept.send (h : s.Kept) (msg : Sent) : (s.send msg).Kept := by
  unfold CallsClient.send
  split <;> exact h

/-- The current track is given to the peer. -/
theorem Kept.hand (h : s.Kept) (ht : s.audioTrack = some t) (hpeer : s.peer = true) :
    Kept { s with handed := t :: s.handed } :=
  { h with
    others := by
      intro t' ht'
      cases List.mem_cons.1 ht' with
      | inl heq => exact .inl (heq ▸ ht)
      | inr hold => exact h.others t' hold
    unheard := fun hnil => by cases hnil
    none_handed := fun hnone => by simp [ht] at hnone
    new := fun hnew => by simp [(h.new hnew).2.1] at hpeer
    handed_lt := by
      intro t' ht'
      cases List.mem_cons.1 ht' with
      | inl heq => exact heq ▸ h.current_lt t ht
      | inr hold => exact h.handed_lt t' hold }

/-- The current track is enabled, which the peer was given. -/
theorem Kept.heard (h : s.Kept) (hhanded : s.handed ≠ []) : (s.heard t).Kept := by
  refine Kept.send ?_ .unmute
  exact
    { others := by
        intro t' ht'
        show s.audioTrack = some t' ∨ ((s.enable t true).tracks t').live = false
        rw [enable_live]
        exact h.others t' ht'
      muted := fun hm => by cases hm
      unheard := fun hnil => absurd hnil hhanded
      none_handed := h.none_handed
      new := h.new
      has_stream := h.has_stream
      current_lt := h.current_lt
      handed_lt := h.handed_lt
      streams_lt := h.streams_lt }

theorem Kept.mute (h : s.Kept) : s.mute.Kept := by
  unfold CallsClient.mute
  split
  next => exact h
  next t ht =>
    split
    next => exact h
    next =>
      refine Kept.send ?_ .mute
      have hdis := h.enable (t := t) (b := false) fun _ => rfl
      refine { hdis with muted := fun _ t' ht' => ?_ }
      have heq : t' = t := by
        have hcurrent : s.audioTrack = some t' := ht'
        simpa [ht] using hcurrent.symm
      rw [heq]
      exact enable_enabled s t false

theorem Kept.disconnect (h : s.Kept) : s.disconnect.Kept := by
  unfold CallsClient.disconnect
  split
  next => exact h
  next =>
    have hclosed : Kept { s with closed := true, peer := false } :=
      { h with new := fun hnew => ⟨(h.new hnew).1, rfl, (h.new hnew).2.2⟩ }
    have hsent := (hclosed.stop (s.streams.flatMap s.mediaStreams)).send .leave
    exact { hsent with new := fun hnew => ⟨(hsent.new hnew).1,
      (hsent.new hnew).2.1, rfl⟩ }

end CallsClient

/-! ## The outline -/

/-- What was given to the peer before is not forgotten, nor is the call of `init`. -/
structure Leads (s s' : CallsClient) : Prop where
  handed : s.handed = [] → s'.handed = []
  initialized : s.initialized = true → s'.initialized = true

theorem Leads.of_eq (hh : s'.handed = s.handed) (hi : s'.initialized = s.initialized) :
    Leads s s' :=
  ⟨fun h => hh.trans h, fun h => hi.trans h⟩

theorem Leads.calls (h : Leads s s') {c : Caller} {cs : List Caller}
    (hc : outline.calls c cs s) :
    outline.calls c cs s' := by
  cases c with
  | listed deviceId => exact h.handed hc
  | initDevices => exact ⟨h.handed hc.1, h.initialized hc.2⟩
  | initAudio => exact h.initialized hc
  | unmute => exact hc
  | fellBack => trivial
  | inputChecked => trivial

theorem Leads.stack (h : Leads s s') {cs : List Caller} (hcs : outline.Stack cs s) :
    outline.Stack cs s' := by
  induction cs with
  | nil => trivial
  | cons c cs ih => exact ⟨h.calls hcs.1, ih hcs.2⟩

/-- Code that was called by others leaves them and itself where the outline says. -/
structure Fine (s : CallsClient) (p : Ran) : Prop where
  kept : p.1.Kept
  holds : ∀ cs, outline.Stack cs s → outline.Holds (p.2.under cs) p.1

theorem Fine.good (h : Fine s p) {cs : List Caller} (hcs : outline.Stack cs s) :
    outline.Good (p.map id (·.under cs)) := ⟨h.kept, h.holds cs hcs⟩

theorem Fine.good_nil (h : Fine s p) : outline.Good p :=
  ⟨h.kept, by simpa using h.holds [] trivial⟩

theorem Fine.trans (hs : Leads s s') (h : Fine s' p) : Fine s p :=
  ⟨h.kept, fun cs hcs => h.holds cs (hs.stack hcs)⟩

theorem fine_ended (h : s'.Kept) (hs : Leads s s') : Fine s (ended s') :=
  ⟨h, fun _ hcs => hs.stack hcs⟩

theorem fine_threw (h : s'.Kept) (hs : Leads s s') {err : ClientError} :
    Fine s (threw s' err) :=
  ⟨h, fun _ hcs => hs.stack hcs⟩

theorem fine_awaits (h : s'.Kept) (hs : Leads s s') {w : Wait}
    (hw : ∀ cs, outline.waits w cs s') : Fine s (awaits s' w) :=
  ⟨h, fun cs hcs => ⟨hw cs, hs.stack hcs⟩⟩

/-- Code that is called by a caller. -/
theorem Fine.calledBy (h : Fine s p) {c : Caller} (hc : ∀ cs, outline.calls c cs s) :
    Fine s (p.calledBy c) := by
  refine ⟨h.kept, fun cs hcs => ?_⟩
  show outline.Holds ((p.2.under [c]).under cs) p.1
  rw [Task.under_under]
  exact h.holds (c :: cs) ⟨hc cs, hcs⟩

namespace CallsClient

theorem initAudio_fine (h : s.Kept) (hhanded : s.handed = []) (deviceId : String) :
    Fine s (s.initAudio deviceId) := fine_awaits h (.of_eq rfl rfl) fun _ => hhanded

theorem updateDevices_fine (h : s.Kept) : Fine s s.updateDevices :=
  fine_awaits h (.of_eq rfl rfl) fun _ => trivial

theorem audioFailed_fine (h : s'.Kept) (hs : Leads s s') : Fine s s'.audioFailed :=
  fine_threw h hs

theorem audioPermitted_fine (h : s.Kept) (hhanded : s.handed = []) (deviceId : String) :
    Fine s (s.audioPermitted deviceId) := by
  have hnew := h.getUserMedia.withStream s.made
  have hdevices : ∀ s' : CallsClient, s'.Kept → s'.handed = s.handed →
      s'.initialized = s.initialized →
      Fine s (s'.updateDevices.calledBy (.listed deviceId)) := by
    intro s' h' hh hi
    exact .calledBy (.trans (.of_eq hh hi) (updateDevices_fine h')) fun _ => hhanded
  unfold audioPermitted
  by_cases hid : deviceId = ""
  · simp only [hid, if_true] at hdevices ⊢
    exact hdevices _ (hnew.stop _) rfl rfl
  · simp only [if_neg hid]
    exact hdevices _ hnew rfl rfl

/-- While audio is initialised any track may become the current one; it is disabled. -/
theorem audioReady_fine (h : s'.Kept) (hhanded : s'.handed = []) (hs : Leads s s') :
    Fine s s'.audioReady := by
  unfold audioReady
  split
  next => exact audioFailed_fine h hs
  next stream hstream =>
    have hpushed : Kept { s' with streams := stream :: s'.streams } := h
    dsimp only
    split
    next =>
      refine audioFailed_fine ?_ ⟨hs.handed, hs.initialized⟩
      exact
        { hpushed with
          others := by simp [hhanded]
          muted := by simp
          unheard := by simp
          none_handed := fun _ => hhanded
          has_stream := by simp
          current_lt := by simp }
    next t rest hl =>
      have hlt : t < s'.made := h.streams_lt stream t (by simp [hl])
      refine fine_ended ?_ ⟨hs.handed, hs.initialized⟩
      exact
        { others := by simp [enable, hhanded]
          muted := by
            intro _ t' ht'
            rw [← Option.some.inj ht', enable_enabled]
          unheard := by
            intro _ t' ht'
            rw [← Option.some.inj ht', enable_enabled]
          none_handed := fun _ => hhanded
          new := h.new
          has_stream := fun _ _ => ⟨stream, hstream⟩
          current_lt := fun t' ht' => Option.some.inj ht' ▸ hlt
          handed_lt := h.handed_lt
          streams_lt := h.streams_lt }

theorem audioListed_fine (h : s.Kept) (hhanded : s.handed = []) (deviceId : String) :
    Fine s (s.audioListed deviceId) := by
  unfold audioListed
  split
  · split
    · exact fine_awaits (w := .acquired) h (.of_eq rfl rfl) fun _ => hhanded
    next device _ =>
      have hselected : Kept { s with currentAudioInputDevice := some device } := h
      have hleads : Leads s { s with currentAudioInputDevice := some device } :=
        .of_eq rfl rfl
      exact fine_awaits (w := .acquired) hselected hleads fun _ => hhanded
  · exact audioReady_fine h hhanded (.of_eq rfl rfl)

theorem setAudioInputDevice_fine (h : s.Kept) (device : MediaDeviceInfo)
    (store : Bool) :
    Fine s (s.setAudioInputDevice device store) := by
  unfold setAudioInputDevice
  split
  · exact fine_ended h (.of_eq rfl rfl)
  · dsimp only
    generalize hs' : (if store then
      { s with stored := some ⟨device.deviceId, some device.label⟩ } else s :
          CallsClient) = s'
    have h' : s'.Kept := by
      subst hs'
      cases store <;> exact h
    have hleads : Leads s s' := by
      subst hs'
      cases store <;> exact .of_eq rfl rfl
    have hset : Kept { s' with currentAudioInputDevice := some device } := h'
    have hleads' : Leads s { s' with currentAudioInputDevice := some device } :=
      ⟨hleads.handed, hleads.initialized⟩
    split
    next hnone =>
      exact .trans hleads' (initAudio_fine hset (h'.none_handed hnone) device.deviceId)
    next oldTrack hcurrent =>
      have hstream : s'.stream ≠ none := by
        obtain ⟨st, hst⟩ := h'.has_stream oldTrack hcurrent
        simp [hst]
      rw [if_neg hstream]
      refine fine_awaits (w := .switched oldTrack (s'.tracks oldTrack).enabled)
        hset hleads' ?_
      exact fun _ => ⟨hcurrent, fun hm => h'.muted hm oldTrack hcurrent,
        fun hh => h'.unheard hh oldTrack hcurrent⟩

/-- A stream gets one track for another. -/
theorem Kept.withTrack (h : s.Kept) (st oldTrack : Nat) (hlt : t < s.made) :
    Kept
      { s with
        mediaStreams := Function.update s.mediaStreams st
          ((s.mediaStreams st).filter (· ≠ oldTrack) ++ [t]) } :=
  { h with
    streams_lt := by
      intro st' t' ht'
      dsimp only at ht' ⊢
      by_cases heq : st' = st
      · subst heq
        rw [Function.update_self, List.mem_append, List.mem_singleton] at ht'
        cases ht' with
        | inl hkept => exact h.streams_lt st' t' (List.mem_filter.1 hkept).1
        | inr hnew => exact hnew ▸ hlt
      · rw [Function.update_of_ne heq] at ht'
        exact h.streams_lt st' t' ht' }

/-- The current track, which was stopped, is replaced by a track that is not enabled
where it must not be. -/
theorem Kept.replace (h : s.Kept) {oldTrack : Nat} (hold : s.audioTrack = some oldTrack)
    (hstopped : (s.tracks oldTrack).live = false) (hlt : t < s.made)
    (hmuted : s.unmuted = false → (s.tracks t).enabled = false)
    (hunheard : s.handed = [] → (s.tracks t).enabled = false) :
    Kept { s with audioTrack := some t } :=
  { h with
    others := by
      intro t' ht'
      cases h.others t' ht' with
      | inl hcurrent =>
          have heq : oldTrack = t' := by simpa [hold] using hcurrent
          exact .inr (heq ▸ hstopped)
      | inr hdead => exact .inr hdead
    muted := fun hm t' ht' => Option.some.inj ht' ▸ hmuted hm
    unheard := fun hh t' ht' => Option.some.inj ht' ▸ hunheard hh
    none_handed := fun hnone => by cases hnone
    has_stream := fun _ _ => h.has_stream oldTrack hold
    current_lt := fun t' ht' => Option.some.inj ht' ▸ hlt }

theorem audioSwitched_fine (h : s.Kept) {oldTrack : Nat} {isEnabled : Bool}
    (hold : s.audioTrack = some oldTrack)
    (hmuted : s.unmuted = false → isEnabled = false)
    (hunheard : s.handed = [] → isEnabled = false) :
    Fine s (s.audioSwitched oldTrack isEnabled) := by
  obtain ⟨st, hst⟩ := h.has_stream oldTrack hold
  have hlt : oldTrack < s.made := h.current_lt oldTrack hold
  have hne : s.audioTrack ≠ some s.made := by
    rw [hold]
    exact fun heq => absurd (Option.some.inj heq) (Nat.ne_of_lt hlt)
  have hacquired : Kept { s.getUserMedia with streams := s.made :: s.streams } :=
    h.getUserMedia
  have hstopped := hacquired.stop [oldTrack]
  have hadded := hstopped.withTrack (t := s.made) st oldTrack (Nat.lt_succ_self s.made)
  have hswitched :=
    hadded.enable (t := s.made) (b := isEnabled) fun heq => absurd heq hne
  have hreplaced := hswitched.replace (t := s.made) hold
    ((enable_live ..).trans (stop_live_of_mem (List.mem_singleton_self oldTrack)))
    (Nat.lt_succ_self s.made)
    (fun hm => (enable_enabled ..).trans (hmuted hm))
    (fun hh => (enable_enabled ..).trans (hunheard hh))
  unfold audioSwitched
  dsimp only
  split
  next hnone =>
    have hnostream : s.stream = none := hnone
    simp [hst] at hnostream
  next stream hstream =>
    have heq : st = stream := by
      have hsome : s.stream = some stream := hstream
      simpa [hst] using hsome
    subst heq
    split
    next hen =>
      split
      · refine fine_threw hswitched ?_
        exact .of_eq rfl rfl
      next hpeer =>
        have hnonempty : s.handed ≠ [] := fun hh => by simp [hunheard hh] at hen
        refine fine_ended (hreplaced.hand rfl (by simpa using hpeer)) ⟨?_, fun hi => hi⟩
        exact fun hh => absurd hh hnonempty
    next =>
      refine fine_ended hreplaced ?_
      exact .of_eq rfl rfl

theorem selectedBack_fine (h : s.Kept) (currentDevice : MediaDeviceInfo) :
    Fine s (handleAudioDeviceFallback.selectedBack s currentDevice) := by
  unfold handleAudioDeviceFallback.selectedBack
  split
  · exact fine_ended h (.of_eq rfl rfl)
  next selected _ =>
    split
    · exact (setAudioInputDevice_fine h selected false).calledBy (c := .fellBack)
        fun _ => trivial
    · exact fine_ended h (.of_eq rfl rfl)

theorem handleAudioDeviceFallback_fine (h : s.Kept) (currentDevice : MediaDeviceInfo) :
    Fine s (s.handleAudioDeviceFallback currentDevice) := by
  unfold handleAudioDeviceFallback
  dsimp only
  split
  next first _ _ =>
    split
    · exact (setAudioInputDevice_fine h first false).calledBy (c := .fellBack)
        fun _ => trivial
    · exact selectedBack_fine h currentDevice
  next => exact selectedBack_fine h currentDevice

theorem devicesListed_fine (h : s.Kept) (inputs : List MediaDeviceInfo) :
    Fine s (s.devicesListed inputs) := by
  have hlisted : Kept { s with inputs := inputs } := h
  have hleads : Leads s { s with inputs := inputs } := .of_eq rfl rfl
  unfold devicesListed
  dsimp only
  split
  · exact fine_ended hlisted hleads
  next device _ =>
    refine Fine.calledBy (c := .inputChecked) ?_ fun _ => trivial
    exact .trans hleads (handleAudioDeviceFallback_fine hlisted device)

/-- A track is given to the peer here for the first time, which no caller may mind. -/
theorem unmuteTrack_good (h : s.Kept) : outline.Good s.unmuteTrack := by
  unfold unmuteTrack
  split
  next hnone =>
    have hheard : Kept { s with unmuted := true } :=
      { h with muted := fun hm => by cases hm }
    exact ⟨hheard.send .unmute, trivial⟩
  next t ht =>
    have hhand : s.peer ≠ false → Kept { s with handed := t :: s.handed } :=
      fun hpeer => h.hand ht (by simpa using hpeer)
    have hgiven : t :: s.handed ≠ [] := List.cons_ne_nil t s.handed
    split
    · split
      · exact ⟨h, trivial⟩
      next hpeer => exact ⟨(hhand hpeer).heard hgiven, trivial⟩
    · split
      next hstream =>
        obtain ⟨st, hst⟩ := h.has_stream t ht
        simp [hst] at hstream
      next =>
        split
        · exact ⟨h, trivial⟩
        next hpeer => exact ⟨hhand hpeer, hgiven, trivial⟩

theorem unmuteAdded_fine (h : s.Kept) (hhanded : s.handed ≠ []) :
    Fine s s.unmuteAdded := by
  have hadded : Kept { s with voiceTrackAdded := true } := h
  unfold unmuteAdded
  dsimp only
  split
  · refine fine_threw hadded ?_
    exact .of_eq rfl rfl
  next t _ =>
    refine fine_ended (hadded.heard (t := t) hhanded) ?_
    unfold heard send
    split <;> exact .of_eq rfl rfl

theorem unmute_good (h : s.Kept) : outline.Good s.unmute := by
  unfold unmute
  split
  · exact ⟨h, trivial⟩
  · split
    next hnone => exact ⟨h, h.none_handed hnone, rfl, trivial⟩
    · exact unmuteTrack_good h

theorem init_good (h : s.Kept) (hnew : s.initialized = false) (isSecureContext : Bool) :
    outline.Good (s.init isSecureContext) := by
  have hinit : Kept { s with initialized := true } :=
    { h with new := fun hi => by cases hi }
  unfold init
  dsimp only
  split
  · refine ((updateDevices_fine hinit).calledBy (c := .initDevices)
      fun _ => ?_).good_nil
    exact ⟨(h.new hnew).1, rfl⟩
  · exact ⟨hinit, trivial⟩

theorem audioInitialized_fine (h : s.Kept) (hinit : s.initialized = true)
    (r : Except ClientError Unit) : Fine s (s.audioInitialized r) := by
  have hconnected : Kept { s with ws := true } :=
    { h with new := fun hi => by simp [hinit] at hi }
  unfold audioInitialized
  split
  · split
    · exact fine_ended (h.stop _) (.of_eq rfl rfl)
    · exact fine_ended hconnected (.of_eq rfl rfl)
  · exact fine_ended hconnected (.of_eq rfl rfl)

end CallsClient

end Kept

/-- The code of a client keeps to the outline. -/
theorem client_proves : outline.Proves client where
  start c s h hcalls := by
    cases c with
    | init isSecureContext => exact CallsClient.init_good h hcalls isSecureContext
    | setAudioInputDevice device store =>
        exact (CallsClient.setAudioInputDevice_fine h device store).good_nil
    | unmute => exact CallsClient.unmute_good h
    | mute => exact ⟨h.mute, trivial⟩
    | disconnect => exact ⟨h.disconnect, trivial⟩
    | joined =>
        refine ⟨{ h with new := fun hnew => ?_ }, trivial⟩
        have hws : s.ws = true := hcalls
        simp [(h.new hnew).2.2] at hws
    | reconnectTimeout =>
        have hclosed : CallsClient.Kept { s with ws := false } :=
          { h with new := fun hnew => ⟨(h.new hnew).1, (h.new hnew).2.1, rfl⟩ }
        exact ⟨hclosed.disconnect, trivial⟩
    | deviceChange => exact (CallsClient.updateDevices_fine h).good_nil
    | storage stored => exact ⟨h, trivial⟩
  wake w a cs s h _ hw hcs := by
    cases w with
    | enumerated =>
        cases a with
        | devices inputs => exact (CallsClient.devicesListed_fine h inputs).good hcs
        | failed | stream | added => exact (fine_ended h (.of_eq rfl rfl)).good hcs
    | permission deviceId =>
        cases a with
        | stream => exact (CallsClient.audioPermitted_fine h hw deviceId).good hcs
        | failed | devices inputs | added =>
            exact (CallsClient.audioFailed_fine h (.of_eq rfl rfl)).good hcs
    | acquired =>
        cases a with
        | stream =>
            have hnew := h.getUserMedia.withStream s.made
            have hleads : Leads s { s.getUserMedia with stream := some s.made } :=
              .of_eq rfl rfl
            exact (CallsClient.audioReady_fine hnew hw hleads).good hcs
        | failed | devices inputs | added =>
            exact (CallsClient.audioFailed_fine h (.of_eq rfl rfl)).good hcs
    | switched oldTrack isEnabled =>
        cases a with
        | stream => exact (CallsClient.audioSwitched_fine h hw.1 hw.2.1 hw.2.2).good hcs
        | failed | devices inputs | added =>
            exact (fine_threw h (.of_eq rfl rfl)).good hcs
    | trackAdded =>
        cases a with
        | added => exact (CallsClient.unmuteAdded_fine h hw).good hcs
        | failed | devices inputs | stream =>
            exact (fine_threw h (.of_eq rfl rfl)).good hcs
  next c r cs s h hc hcs := by
    cases c with
    | listed deviceId => exact (CallsClient.audioListed_fine h hc deviceId).good hcs
    | initDevices =>
        have hinit := CallsClient.initAudio_fine h hc.1 ""
        exact (hinit.calledBy (c := .initAudio) fun _ => hc.2).good hcs
    | initAudio => exact (CallsClient.audioInitialized_fine h hc r).good hcs
    | unmute =>
        cases r with
        | error err => exact (fine_ended h (.of_eq rfl rfl)).good hcs
        | ok =>
            have hnone : cs = [] := hc
            subst hnone
            have hgood := CallsClient.unmuteTrack_good h
            refine ⟨hgood.1, ?_⟩
            show outline.Holds (s.unmuteTrack.2.under []) s.unmuteTrack.1
            rw [Task.under_nil]
            exact hgood.2
    | fellBack => exact ⟨h, hcs⟩
    | inputChecked => exact (fine_ended h (.of_eq rfl rfl)).good hcs

/-! ## Muted clients -/

/-- A task replaces the track of another device. -/
def Switching : Task Wait Caller ClientError → Prop
  | .waits (.switched _ _) _ => True
  | .waits _ _ => False
  | .returned _ _ => False

/-- What takes time is begun when nothing else is under way; a client may be
disconnected, told of its connection or of another window at any time, and muted unless
a device is switched. -/
def Orderly (l : EventLoop CallsClient Wait Caller ClientError) :
    LoopAction ClientCall Answer → Prop
  | .call .mute => ∀ t ∈ l.tasks, ¬ Switching t
  | .call .disconnect | .call .joined | .call .reconnectTimeout | .call (.storage _) =>
      True
  | .call (.init _) | .call (.setAudioInputDevice _ _) | .call .unmute
  | .call .deviceChange =>
      l.tasks = []
  | .answer _ _ | .proceed _ => True

instance : ∀ t, Decidable (Switching t)
  | .waits (.switched _ _) _ => isTrue trivial
  | .waits .enumerated _ | .waits (.permission _) _ | .waits .acquired _
  | .waits .trackAdded _
  | .returned _ _ => isFalse id

instance (l : EventLoop CallsClient Wait Caller ClientError)
    (a : LoopAction ClientCall Answer) :
    Decidable (Orderly l a) :=
  match a with
  | .call .mute => inferInstanceAs (Decidable (∀ t ∈ l.tasks, ¬ Switching t))
  | .call .disconnect | .call .joined | .call .reconnectTimeout | .call (.storage _) =>
      isTrue trivial
  | .call (.init _) | .call (.setAudioInputDevice _ _) | .call .unmute
  | .call .deviceChange =>
      decidable_of_iff (l.tasks.isEmpty = true) List.isEmpty_iff
  | .answer _ _ | .proceed _ => isTrue trivial

/-- What the outline says of a task is about the tracks that were handed out, and about
muting where a device is switched. -/
theorem holds_of_eq {s s' : CallsClient} {t : Task Wait Caller ClientError}
    (hh : s'.handed = s.handed) (hi : s'.initialized = s.initialized)
    (hsw : Switching t → s'.audioTrack = s.audioTrack ∧ s'.unmuted = s.unmuted)
    (h : outline.Holds t s) : outline.Holds t s' := by
  have hleads : Leads s s' := .of_eq hh hi
  cases t with
  | returned r cs => exact hleads.stack h
  | waits w cs =>
      refine ⟨?_, hleads.stack h.2⟩
      cases w with
      | enumerated => trivial
      | permission deviceId => exact hh.trans h.1
      | acquired => exact hh.trans h.1
      | switched oldTrack isEnabled =>
          obtain ⟨htrack, hunmuted⟩ := hsw trivial
          obtain ⟨hold, hm, hu⟩ := h.1
          refine ⟨htrack.trans hold, fun hm' => ?_, fun hu' => ?_⟩
          · exact hm (hunmuted ▸ hm')
          · exact hu (hh ▸ hu')
      | trackAdded => exact fun hnil => h.1 (hh ▸ hnil)

theorem CallsClient.send_eq (s : CallsClient) (msg : Sent) :
    (s.send msg).handed = s.handed ∧ (s.send msg).initialized = s.initialized ∧
      (s.send msg).audioTrack = s.audioTrack ∧ (s.send msg).unmuted = s.unmuted := by
  unfold send
  split <;> exact ⟨rfl, rfl, rfl, rfl⟩

theorem CallsClient.mute_eq (s : CallsClient) :
    s.mute.handed = s.handed ∧ s.mute.initialized = s.initialized := by
  unfold mute
  split
  · exact ⟨rfl, rfl⟩
  · split
    · exact ⟨rfl, rfl⟩
    · exact ⟨(send_eq _ _).1, (send_eq _ _).2.1⟩

theorem CallsClient.disconnect_eq (s : CallsClient) :
    s.disconnect.handed = s.handed ∧ s.disconnect.initialized = s.initialized ∧
      s.disconnect.audioTrack = s.audioTrack ∧ s.disconnect.unmuted = s.unmuted := by
  unfold disconnect
  split
  · exact ⟨rfl, rfl, rfl, rfl⟩
  · exact send_eq (cleanup { s with closed := true, peer := false }) .leave

/-- What is called in between returns at once and leaves the task where it is. -/
theorem Orderly.call {l : EventLoop CallsClient Wait Caller ClientError}
    {c : ClientCall} (h : Orderly l (.call c)) : l.tasks = [] ∨
      (∃ r, (client.start c l.state).2 = .returned r []) ∧
        ∀ t ∈ l.tasks, outline.Holds t l.state →
        outline.Holds t (client.start c l.state).1 := by
  cases c with
  | init isSecureContext => exact .inl h
  | setAudioInputDevice device store => exact .inl h
  | unmute => exact .inl h
  | deviceChange => exact .inl h
  | mute =>
      refine .inr ⟨⟨.ok (), rfl⟩, fun t ht => ?_⟩
      obtain ⟨hh, hi⟩ := l.state.mute_eq
      exact holds_of_eq hh hi fun hsw => absurd hsw (h t ht)
  | disconnect =>
      refine .inr ⟨⟨.ok (), rfl⟩, fun t _ => ?_⟩
      obtain ⟨hh, hi, htrack, hunmuted⟩ := l.state.disconnect_eq
      exact holds_of_eq hh hi fun _ => ⟨htrack, hunmuted⟩
  | reconnectTimeout =>
      refine .inr ⟨⟨.ok (), rfl⟩, fun t _ => ?_⟩
      obtain ⟨hh, hi, htrack, hunmuted⟩ :=
        CallsClient.disconnect_eq { l.state with ws := false }
      exact holds_of_eq hh hi fun _ => ⟨htrack, hunmuted⟩
  | joined =>
      exact .inr ⟨⟨.ok (), rfl⟩, fun t _ => holds_of_eq rfl rfl fun _ => ⟨rfl, rfl⟩⟩
  | storage stored =>
      exact .inr ⟨⟨.ok (), rfl⟩, fun t _ => holds_of_eq rfl rfl fun _ => ⟨rfl, rfl⟩⟩

/-- A new client, with the device that the local storage remembers. -/
def newClient (stored : Option StoredDevice) :
    EventLoop CallsClient Wait Caller ClientError :=
  ⟨{ stored := stored }, []⟩

theorem kept_newClient (stored : Option StoredDevice) :
    (newClient stored).state.Kept where
  others t ht := by cases ht
  muted _ t ht := by cases ht
  unheard _ t ht := by cases ht
  none_handed _ := rfl
  new _ := ⟨rfl, rfl, rfl⟩
  has_stream t ht := by cases ht
  current_lt t ht := by cases ht
  handed_lt t ht := by cases ht
  streams_lt st t ht := by cases ht

/-- Nobody hears a track: it is disabled or has been stopped. -/
def MediaStreamTrack.Silent (t : MediaStreamTrack) : Prop :=
  t.enabled = false ∨ t.live = false

instance (t : MediaStreamTrack) : Decidable t.Silent :=
  inferInstanceAs (Decidable (t.enabled = false ∨ t.live = false))

theorem outlined_of_runs {stored : Option StoredDevice}
    {l : EventLoop CallsClient Wait Caller ClientError}
    (hr : client.machine.Runs Orderly (newClient stored) l) : l.Outlined outline :=
  hr.outline client_proves (kept_newClient stored) fun _ _ hok => hok.call

/-- **Muted clients are not heard**: in every orderly run, while a client is muted every
track that the peer was ever given is disabled or has been stopped. -/
theorem muted_silent {stored : Option StoredDevice}
    {l : EventLoop CallsClient Wait Caller ClientError}
    (hr : client.machine.Runs Orderly (newClient stored) l)
    (hm : l.state.unmuted = false) :
    ∀ t ∈ l.state.handed, (l.state.tracks t).Silent := by
  have hkept := (outlined_of_runs hr).inv
  intro t ht
  cases hkept.others t ht with
  | inl hcurrent => exact .inl (hkept.muted hm t hcurrent)
  | inr hdead => exact .inr hdead

/-- With the track of an enabled device another is enabled, whatever has happened
since. -/
theorem CallsClient.audioSwitched_enabled {s : CallsClient} {oldTrack st : Nat}
    (hst : s.stream = some st) (hpeer : s.peer = true) (hlt : oldTrack < s.made) :
    let s' := (s.audioSwitched oldTrack true).1
    s'.unmuted = s.unmuted ∧ s.made ∈ s'.handed ∧ s'.tracks s.made = ⟨true, true⟩ := by
  have hne : s.made ≠ oldTrack := (Nat.ne_of_lt hlt).symm
  simp [audioSwitched, getUserMedia, stop, enable, ended, hst, hpeer, hne]

theorem CallsClient.mute_muted {s : CallsClient} {t st : Nat}
    (ht : s.audioTrack = some t) (hst : s.stream = some st) (hpeer : s.peer = true) :
    s.mute.unmuted = false ∧ s.mute.stream = some st ∧ s.mute.peer = true ∧
      s.mute.made = s.made := by
  unfold mute send
  simp only [ht, hst, hpeer, reduceCtorEq, Bool.true_eq_false, or_self, if_false]
  split <;> exact ⟨rfl, hst, hpeer, rfl⟩

/-- **Muting while a device is switched is lost**: where the track before was enabled
when the other was asked for, the track that comes is enabled too, and a muted client is
heard. -/
theorem switching_heard {stored : Option StoredDevice} {s : CallsClient}
    {oldTrack : Nat} {cs : List Caller}
    (hr : client.machine.Runs Orderly (newClient stored)
      ⟨s, [.waits (.switched oldTrack true) cs]⟩) (hpeer : s.peer = true) :
    let l :=
      client.step (client.step ⟨s, [.waits (.switched oldTrack true) cs]⟩ (.call .mute))
      (.answer 0 .stream)
    l.state.unmuted = false ∧ ∃ t ∈ l.state.handed, ¬ (l.state.tracks t).Silent := by
  have hout := outlined_of_runs hr
  have hk : s.Kept := hout.inv
  have hold : s.audioTrack = some oldTrack :=
    (hout.holds _ (List.mem_singleton_self _)).1.1
  obtain ⟨st, hst⟩ := hk.has_stream oldTrack hold
  obtain ⟨hmuted, hst', hpeer', hmade⟩ := CallsClient.mute_muted hold hst hpeer
  have hlt : oldTrack < s.mute.made := hmade ▸ hk.current_lt oldTrack hold
  obtain ⟨hunmuted, hmem, htrack⟩ := CallsClient.audioSwitched_enabled hst' hpeer' hlt
  refine ⟨hunmuted.trans hmuted, s.mute.made, hmem, ?_⟩
  show ¬ ((s.mute.audioSwitched oldTrack true).1.tracks s.mute.made).Silent
  rw [htrack]
  decide

/-- A user speaks into one microphone and goes over to another, whose track is not there
yet. -/
def unmutedSwitching : List (LoopAction ClientCall Answer) :=
  let inputs := [⟨"d1", "Built-in"⟩, ⟨"d2", "Headset"⟩]
  [.call (.init true), .answer 0 (.devices inputs), .proceed 0, .answer 0 .stream,
    .answer 0 (.devices inputs), .proceed 0, .answer 0 .stream, .proceed 0,
    .call .joined,
    .call .unmute, .answer 0 .added,
      .call (.setAudioInputDevice ⟨"d2", "Headset"⟩ true)]

/-- What such actions lead to, where all are in order. -/
def ordered (l : List (LoopAction ClientCall Answer)) :
    Option (EventLoop CallsClient Wait Caller ClientError) :=
  client.machine.leads (fun l a => decide (Orderly l a)) (newClient none) l

/-- Muted when the track is there. -/
theorem muted_silent_switched : ∃ l, client.machine.Runs Orderly (newClient none) l ∧
    (l.state.unmuted, l.state.handed) = (false, [2, 1]) ∧
      ∀ t ∈ l.state.handed, (l.state.tracks t).Silent := by
  have hleads : (ordered (unmutedSwitching ++ [.answer 0 .stream, .call .mute])).map
      (fun l => (l.state.unmuted, l.state.handed)) = some (false, [2, 1]) := by decide
  obtain ⟨l, hr, hl⟩ :=
    Machine.Runs.exists_of_leads (fun _ _ h => of_decide_eq_true h) hleads
  exact ⟨l, hr, hl, muted_silent hr (congrArg Prod.fst hl)⟩

/-- Muted before. -/
theorem switching_heard_first : ∃ s, s.peer = true ∧
    let l := client.step (client.step ⟨s, [.waits (.switched 1 true) []]⟩ (.call .mute))
      (.answer 0 .stream)
    l.state.unmuted = false ∧ ∃ t ∈ l.state.handed, ¬ (l.state.tracks t).Silent := by
  have hleads : (ordered unmutedSwitching).map (fun l => (l.state.peer, l.tasks)) =
      some (true, [.waits (.switched 1 true) []]) := by rfl
  obtain ⟨⟨s, tasks⟩, hr, hl⟩ :=
    Machine.Runs.exists_of_leads (fun _ _ h => of_decide_eq_true h) hleads
  obtain ⟨hpeer, htasks⟩ := Prod.mk.inj hl
  subst htasks
  exact ⟨s, hpeer, switching_heard hr hpeer⟩

end CallsPlugin.Ports.Microphone
