import CallsPlugin.Verified.Announcing
import CallsPlugin.Verified.Deeds
import CallsPlugin.Ports.ChannelStates
import CallsPlugin.Ports.Session

/-!
# Enabling and disabling calls in a channel (`server/api.go`, `webapp/src/reducers.ts`)

`handlePostCallsChannel` stores the setting of a channel and publishes it; the clients
keep what was published, and offer a call by it.  Requests from any nodes run at the
same time, none takes a lock, and the setting is read from a replica that may not have
the row yet.  Permissions may change at any moment: what matters is what a request was
told.
-/

namespace CallsPlugin.Ports.ChannelSettings

open CallsPlugin.Verified

/-! ## The code -/

/-- `CallsChannel` with its properties. -/
structure CallsChannel extends Ports.CallsChannel where
  props : List (String × String)
  deriving DecidableEq

/-- The primary key. -/
def CallsChannel.key (channel : CallsChannel) : String := channel.channelID

/-- `model.ChannelType` -/
inductive ModelChannelType where
  | openChannel
  | privateChannel
  | direct
  | group
  deriving DecidableEq, Repr

/-- `model.Channel`, as far as permissions depend on it. -/
structure Channel where
  teamID : String
  type : ModelChannelType
  deriving DecidableEq, Repr

/-- `httpResponse` and what is written where it stays empty. -/
inductive HttpResponse where
  | error (code : Nat) (err : String)
  | json (channel : CallsChannel)
  deriving DecidableEq

/-- What the request does: it asks about permissions (to manage the system, to manage
the team, to post in the channel), reads the configuration and the store, writes,
publishes and answers. -/
inductive SettingsOp where
  | hasPermissionTo (userID : String)
  | getDefaultEnabled
  | getChannel (channelID : String)
  | getChannelMember (channelID userID : String)
  | hasPermissionToTeam (userID teamID : String)
  | hasPermissionToChannel (userID channelID : String)
  | getCallsChannel (channelID : String)
  | createCallsChannel (channel : CallsChannel)
  | updateCallsChannel (channel : CallsChannel)
  | publish (enabled : Bool) (channelID : String)
  | respond (res : HttpResponse)
  deriving DecidableEq

/-- The answers; a member is told apart by `SchemeAdmin` only, and a row that is not
found is `none`. -/
@[reducible] def SettingsOp.Resp : SettingsOp → Type
  | .hasPermissionTo _ => Bool
  | .getDefaultEnabled => Option Bool
  | .getChannel _ => Except String Channel
  | .getChannelMember _ _ => Except String Bool
  | .hasPermissionToTeam _ _ => Bool
  | .hasPermissionToChannel _ _ => Bool
  | .getCallsChannel _ => Except String (Option CallsChannel)
  | .createCallsChannel _ => Except String Unit
  | .updateCallsChannel _ => Except String Unit
  | .publish _ _ => Unit
  | .respond _ => Unit

/-- The code of the request. -/
abbrev SettingsCode := Code SettingsOp SettingsOp.Resp

def ask (o : SettingsOp) : SettingsCode o.Resp := Code.perform o

/-- What is left to ask of a member who is not the channel's admin. -/
def teamOrParticipant (userID channelID : String) (channel : Channel) :
    SettingsCode Bool := do
  if ← ask (.hasPermissionToTeam userID channel.teamID) then return true
  else
    match channel.type with
    | .direct | .group => ask (.hasPermissionToChannel userID channelID)
    | .openChannel | .privateChannel => return false

/-- `permissionToEnableDisableChannel` -/
def permissionToEnableDisableChannel (userID channelID : String) :
    SettingsCode (Except String Bool) := do
  if ← ask (.hasPermissionTo userID) then return .ok true
  else if (← ask .getDefaultEnabled) = some false then return .ok false
  else
    match ← ask (.getChannel channelID) with
    | .error e => return .error e
    | .ok channel =>
        match ← ask (.getChannelMember channelID userID) with
        | .error e => return .error e
        | .ok schemeAdmin =>
            if schemeAdmin then return .ok true
            else do
              let allowed ← teamOrParticipant userID channelID channel
              return .ok allowed

/-- The end of `handlePostCallsChannel`: the row that was written, or why it was not. -/
def announce (what : String) (storedChannel : CallsChannel) :
    Except String Unit → SettingsCode Unit
  | .error e => ask (.respond (.error 500 (what ++ e)))
  | .ok _ => do
      ask (.publish storedChannel.enabled storedChannel.channelID)
      ask (.respond (.json storedChannel))

/-- `handlePostCallsChannel` with what it reads of the row. -/
def saveChannel (channelID : String) (channel : CallsChannel) :
    Option CallsChannel → SettingsCode Unit
  | none => do
      let storedChannel := { channel with channelID := channelID }
      let res ← ask (.createCallsChannel storedChannel)
      announce "failed to create calls channel: " storedChannel res
  | some storedChannel => do
      let storedChannel := { storedChannel with
        channelID := channelID, enabled := channel.enabled, props := channel.props }
      let res ← ask (.updateCallsChannel storedChannel)
      announce "failed to update calls channel: " storedChannel res

/-- `handlePostCallsChannel`; `body` is what the body is decoded to. -/
def handlePostCallsChannel (userID channelID : String)
    (body : Except String CallsChannel) :
    SettingsCode Unit := do
  match ← permissionToEnableDisableChannel userID channelID with
  | .error e => ask (.respond (.error 403 e))
  | .ok false => ask (.respond (.error 403 "Forbidden"))
  | .ok true =>
      match body with
      | .error e => ask (.respond (.error 400 e))
      | .ok channel =>
          match ← ask (.getCallsChannel channelID) with
          | .error e =>
              ask (.respond (.error 500 ("failed to get calls channel: " ++ e)))
          | .ok storedChannel => saveChannel channelID channel storedChannel

/-! ## The store, the events and the permissions -/

/-- The settings, and what was published of them, in order. -/
structure SettingsWorld where
  channels : Table CallsChannel.key
  published : List (String × Bool)

/-- What the server and the store are free to answer: the permissions, the
configuration, an error of a query, and whether the replica lags behind and misses the
row. -/
structure Choice where
  permitted : Bool
  defaultEnabled : Option Bool
  channel : Except String Channel
  schemeAdmin : Except String Bool
  queryError : Option String
  lags : Bool
  deriving DecidableEq

/-- `IsValid` of a row, and the query that writes it; the text is the error of a query
that breaks the primary key. -/
def SettingsWorld.write (w : SettingsWorld) (channel : CallsChannel)
    (queryError : Option String) (write : Except String (Table CallsChannel.key)) :
    Except String Unit × SettingsWorld :=
  if channel.channelID = "" then
    (.error "invalid channel: invalid ChannelID: should not be empty", w)
  else
    match queryError with
    | some e => (.error ("failed to run query: " ++ e), w)
    | none =>
        match write with
        | .error e => (.error ("failed to run query: " ++ e), w)
        | .ok channels => (.ok (), { w with channels := channels })

/-- The columns an update sets. -/
def setColumns (channel row : CallsChannel) : CallsChannel :=
  { row with enabled := channel.enabled, props := channel.props }

theorem setColumns_key (channel row : CallsChannel) :
    (setColumns channel row).key = row.key := rfl

/-- The operations on the site. -/
def settingsSem (c : Choice) (w : SettingsWorld) :
    (o : SettingsOp) → o.Resp × SettingsWorld
  | .hasPermissionTo _ => (c.permitted, w)
  | .getDefaultEnabled => (c.defaultEnabled, w)
  | .getChannel _ => (c.channel, w)
  | .getChannelMember _ _ => (c.schemeAdmin, w)
  | .hasPermissionToTeam _ _ => (c.permitted, w)
  | .hasPermissionToChannel _ _ => (c.permitted, w)
  | .getCallsChannel channelID =>
      (match c.queryError with
        | some e => .error ("failed to get calls channel: " ++ e)
        | none => .ok (if c.lags then none else w.channels.find? channelID), w)
  | .createCallsChannel channel =>
      w.write channel c.queryError
        (match w.channels.insert? channel with
          | none => .error "duplicate key"
          | some channels => .ok channels)
  | .updateCallsChannel channel =>
      w.write channel c.queryError
        (.ok (w.channels.modify channel.key (setColumns channel)
          (setColumns_key channel)))
  | .publish enabled channelID =>
      ((), { w with published := w.published ++ [(channelID, enabled)] })
  | .respond _ => ((), w)

/-! ## The policy -/

section Policy

variable {T : Type}

/-- The deeds of a run of requests. -/
abbrev Did (T : Type) := Deed SettingsOp SettingsWorld Choice T

/-- The thread has issued the operation and got the answer. -/
def Told (t : T) (l : List (Did T)) (o : SettingsOp) (r : o.Resp) : Prop :=
  ∃ d ∈ l, d.thread = t ∧ d.op = o ∧ (settingsSem d.choice d.world o).1 = r

/-- The thread was told that the user may change the setting: as a system admin, or
where calls are not off by default, as an admin of the channel or of its team, or as a
participant of a direct or group channel. -/
def MayChange (userID channelID : String) (t : T) (l : List (Did T)) : Prop :=
  Told t l (.hasPermissionTo userID) true ∨
  (∃ defaultEnabled, defaultEnabled ≠ some false ∧
    Told t l .getDefaultEnabled defaultEnabled) ∧
  ∃ channel, Told t l (.getChannel channelID) (.ok channel) ∧
    (Told t l (.getChannelMember channelID userID) (.ok true) ∨
      Told t l (.hasPermissionToTeam userID channel.teamID) true ∨
      (channel.type = .direct ∨ channel.type = .group) ∧
        Told t l (.hasPermissionToChannel userID channelID) true)

/-- The thread has stored the row. -/
def Saved (t : T) (l : List (Did T)) (channel : CallsChannel) : Prop :=
  Told t l (.createCallsChannel channel) (.ok ()) ∨
    Told t l (.updateCallsChannel channel) (.ok ())

/-- The row is what the body asks for, under the channel of the path. -/
def AsksFor (channelID : String) (body : Except String CallsChannel)
    (channel : CallsChannel) :
    Prop :=
  ∃ asked, body = .ok asked ∧ channel = { asked with channelID := channelID }

/-- What the request may do, after what has been done. -/
def Permitted (userID channelID : String) (body : Except String CallsChannel) (t : T)
    (l : List (Did T)) : SettingsOp → Prop
  | .createCallsChannel channel | .updateCallsChannel channel =>
      AsksFor channelID body channel ∧ MayChange userID channelID t l
  | .publish enabled id =>
      ∃ channel, Saved t l channel ∧ AsksFor channelID body channel ∧
      enabled = channel.enabled ∧ id = channel.channelID
  | .respond (.json channel) => Saved t l channel ∧ AsksFor channelID body channel ∧
      Told t l (.publish channel.enabled channel.channelID) ()
  | .respond (.error _ _) => True
  | .hasPermissionTo _ | .getDefaultEnabled | .getChannel _ | .getChannelMember _ _
  | .hasPermissionToTeam _ _ | .hasPermissionToChannel _ _ | .getCallsChannel _ => True

variable {userID channelID : String} {body : Except String CallsChannel} {t : T}
  {l l' : List (Did T)}

theorem Told.mono {o : SettingsOp} {r : o.Resp} (h : Told t l o r) (hl : l <+: l') :
    Told t l' o r := by
  obtain ⟨d, hd, hrest⟩ := h
  exact ⟨d, hl.subset hd, hrest⟩

theorem MayChange.mono (h : MayChange userID channelID t l) (hl : l <+: l') :
    MayChange userID channelID t l' := by
  rcases h with h | ⟨⟨default, hdefault, htold⟩, channel, hchannel, h⟩
  · exact .inl (h.mono hl)
  · refine .inr ⟨⟨default, hdefault, htold.mono hl⟩, channel, hchannel.mono hl, ?_⟩
    exact h.imp (·.mono hl) fun h => h.imp (·.mono hl) fun h => ⟨h.1, h.2.mono hl⟩

theorem Saved.mono {channel : CallsChannel} (h : Saved t l channel) (hl : l <+: l') :
    Saved t l' channel :=
  h.imp (·.mono hl) (·.mono hl)

/-- The thread is held to the policy. -/
abbrev policy (userID channelID : String) (body : Except String CallsChannel) (t : T) :
    Rely SettingsOp SettingsOp.Resp (List (Did T)) :=
  deedRely settingsSem (fun _ => True) t (Permitted userID channelID body t)

/-- What was answered is known from then on. -/
theorem ask_meets {o : SettingsOp} {α : Type} {k : o.Resp → SettingsCode α}
    {Q : α → List (Did T) → Prop}
    (ho : ∀ l', l <+: l' → Permitted userID channelID body t l' o)
    (hk : ∀ r l', l <+: l' → Told t l' o r →
      (Prog.lift (k r)).Meets (policy userID channelID body t) Q l') :
    (Prog.lift (ask o >>= k)).Meets (policy userID channelID body t) Q l := by
  refine fun l₁ h₁ => ⟨ho l₁ h₁, ?_⟩
  rintro _ _ ⟨c, w, -, rfl, rfl⟩
  exact hk _ _ (h₁.trans (List.prefix_append ..)) ⟨⟨t, c, w, o⟩,
    List.mem_append_right _ (List.mem_singleton.2 rfl), rfl, rfl, rfl⟩

/-- The last thing a request does. -/
theorem last_meets {o : SettingsOp} {Q : o.Resp → List (Did T) → Prop}
    (ho : ∀ l', l <+: l' → Permitted userID channelID body t l' o)
    (hQ : ∀ r l', Q r l') :
    (Prog.lift (ask o)).Meets (policy userID channelID body t) Q l :=
  fun l₁ h₁ => ⟨ho l₁ h₁, fun r _ _ l₃ _ => hQ r l₃⟩

/-- Of a user who is no system admin, where calls are not off by default. -/
theorem teamOrParticipant_meets (channel : Channel) :
    (Prog.lift (teamOrParticipant userID channelID channel)).Meets
      (policy userID channelID body t)
      (fun allowed l' => allowed = true →
        Told t l' (.hasPermissionToTeam userID channel.teamID) true ∨
        (channel.type = .direct ∨ channel.type = .group) ∧
          Told t l' (.hasPermissionToChannel userID channelID) true) l := by
  refine ask_meets (fun _ _ => trivial) fun team l₁ h₁ hteam => ?_
  cases team with
  | true => exact fun l₂ h₂ _ => .inl (hteam.mono h₂)
  | false =>
      have hpost : ∀ (htype : channel.type = .direct ∨ channel.type = .group),
          (Prog.lift (ask (.hasPermissionToChannel userID channelID))).Meets
            (policy userID channelID body t)
            (fun allowed l' => allowed = true →
              Told t l' (.hasPermissionToTeam userID channel.teamID) true ∨
              (channel.type = .direct ∨ channel.type = .group) ∧
                Told t l' (.hasPermissionToChannel userID channelID) true) l₁ := by
        intro htype
        refine ask_meets (k := .ret) (fun _ _ => trivial) fun post l₂ h₂ hpost => ?_
        rintro l₃ h₃ rfl
        exact .inr ⟨htype, hpost.mono h₃⟩
      rw [if_neg Bool.false_ne_true]
      split
      next htype => exact hpost (.inl htype)
      next htype => exact hpost (.inr htype)
      next => exact fun _ _ h => absurd h Bool.false_ne_true
      next => exact fun _ _ h => absurd h Bool.false_ne_true

/-- The rule for changing the setting is followed. -/
theorem permissionToEnableDisableChannel_meets :
    (Prog.lift (permissionToEnableDisableChannel userID channelID)).Meets
      (policy userID channelID body t)
      (fun res l' => res = .ok true → MayChange userID channelID t l') l := by
  refine ask_meets (fun _ _ => trivial) fun sysadmin l₁ h₁ hsysadmin => ?_
  cases sysadmin with
  | true => exact fun l₂ h₂ _ => .inl (hsysadmin.mono h₂)
  | false =>
      rw [if_neg Bool.false_ne_true]
      refine ask_meets (fun _ _ => trivial) fun default l₂ h₂ hdefault => ?_
      split
      next => exact fun _ _ h => by cases h
      next hon =>
        refine ask_meets (fun _ _ => trivial) fun channel l₃ h₃ hchannel => ?_
        cases channel with
        | error e => exact fun _ _ h => by cases h
        | ok channel =>
            refine ask_meets (fun _ _ => trivial) fun member l₄ h₄ hmember => ?_
            have hsofar : ∀ {l'}, l₄ <+: l' →
                (Told t l' (.getChannelMember channelID userID) (.ok true) ∨
                  Told t l' (.hasPermissionToTeam userID channel.teamID) true ∨
                  (channel.type = .direct ∨ channel.type = .group) ∧
                    Told t l' (.hasPermissionToChannel userID channelID) true) →
                MayChange userID channelID t l' := fun hl h =>
              .inr ⟨⟨default, hon, hdefault.mono ((h₃.trans h₄).trans hl)⟩, channel,
                hchannel.mono (h₄.trans hl), h⟩
            cases member with
            | error e => exact fun _ _ h => by cases h
            | ok schemeAdmin =>
                cases schemeAdmin with
                | true => exact fun l₅ h₅ _ => hsofar h₅ (.inl (hmember.mono h₅))
                | false =>
                    dsimp only
                    rw [if_neg Bool.false_ne_true, Prog.lift_bind]
                    have hrest :
                        (Prog.lift (teamOrParticipant userID channelID channel)).Meets
                        (policy userID channelID body t) _ l₄ :=
                        teamOrParticipant_meets channel
                    refine (hrest.frame (F := fun l' => l₄ <+: l')
                      (fun hl h => h.trans hl) (List.prefix_refl l₄)).bind
                      fun allowed l₅ hsince => fun l₆ h₆ hok => ?_
                    have hyes : allowed = true := by
                      cases hok
                      rfl
                    exact (hsofar hsince.2 (.inr (hsince.1 hyes))).mono h₆

/-- A row that was saved is announced, and then answered with. -/
theorem announce_meets {what : String} {channel : CallsChannel}
    {res : Except String Unit} (hasked : AsksFor channelID body channel)
    (hsaved : res = .ok () → Saved t l channel) :
    (Prog.lift (announce what channel res)).Meets (policy userID channelID body t)
      (fun _ _ => True) l := by
  cases res with
  | error e => exact last_meets (fun _ _ => trivial) fun _ _ => trivial
  | ok u =>
      have hsaved := hsaved rfl
      refine ask_meets (fun l₁ h₁ => ⟨channel, hsaved.mono h₁, hasked, rfl, rfl⟩)
        fun r l₁ h₁ hpub => ?_
      exact last_meets (fun l₂ h₂ => ⟨hsaved.mono (h₁.trans h₂), hasked, hpub.mono h₂⟩)
        fun _ _ => trivial

theorem saveChannel_meets {channel : CallsChannel} (hbody : body = .ok channel)
    (hmay : MayChange userID channelID t l) (row : Option CallsChannel) :
    (Prog.lift (saveChannel channelID channel row)).Meets
      (policy userID channelID body t) (fun _ _ => True) l := by
  have hasked : AsksFor channelID body { channel with channelID := channelID } :=
    ⟨channel, hbody, rfl⟩
  cases row with
  | none =>
      refine ask_meets (fun l₁ h₁ => ⟨hasked, hmay.mono h₁⟩) fun res l₁ _ htold => ?_
      exact announce_meets hasked fun h => .inl (h ▸ htold)
  | some row =>
      refine ask_meets (fun l₁ h₁ => ⟨hasked, hmay.mono h₁⟩) fun res l₁ _ htold => ?_
      exact announce_meets hasked fun h => .inr (h ▸ htold)

/-- What is done for a request is permitted. -/
theorem handlePostCallsChannel_meets :
    (Prog.lift (handlePostCallsChannel userID channelID body)).Meets
      (policy userID channelID body t) (fun _ _ => True) l := by
  unfold handlePostCallsChannel
  rw [Prog.lift_bind]
  refine permissionToEnableDisableChannel_meets.bind fun res l₁ hmay => ?_
  rcases res with e | _ | _
  · exact last_meets (fun _ _ => trivial) fun _ _ => trivial
  · exact last_meets (fun _ _ => trivial) fun _ _ => trivial
  have hmay := hmay rfl
  cases hbody : body with
  | error e => exact last_meets (fun _ _ => trivial) fun _ _ => trivial
  | ok channel =>
      refine ask_meets (fun _ _ => trivial) fun row l₂ h₂ _ => ?_
      cases row with
      | error e => exact last_meets (fun _ _ => trivial) fun _ _ => trivial
      | ok row => exact saveChannel_meets rfl (hmay.mono h₂) row

end Policy

/-- **Changing the setting of a channel**: among whatever other code, with permissions
and configuration changing at any moment, a request writes and publishes only what its
body asks for the channel of its path, after it was told that its user may; it publishes
and answers with only what it has stored. -/
theorem setting_permitted {T N : Type} [DecidableEq T] [DecidableEq N] {node : T → N}
    {userID channelID : String} {body : Except String CallsChannel} {t : T}
    {ok : List (Event T Choice) → Sys SettingsOp SettingsOp.Resp SettingsWorld T N → T →
      Act Choice → Prop}
    {s₀ s : Sys SettingsOp SettingsOp.Resp SettingsWorld T N}
    {tr : List (Event T Choice)} {l : List (Did T)}
    (hr : Histories settingsSem node ok AddsDeeds s₀ tr s l)
    (hcode : s₀.code t = .lift (handlePostCallsChannel userID channelID body)) :
    ∀ l₁ d l₂, l = l₁ ++ d :: l₂ → d.thread = t →
      Permitted userID channelID body t l₁ d.op := by
  refine hr.own_deeds_good (I := fun _ => True) (fun _ _ _ => trivial) ?_
  rw [hcode]
  exact handlePostCallsChannel_meets

/-! ## The clients -/

/-- `channels` of a client's store: the `enabled` of the channels it has. -/
abbrev ChannelsState := String → Option Bool

/-- The `channels` reducer on `RECEIVED_CHANNEL_STATE`. -/
def receivedChannelState (state : ChannelsState) (data : String × Bool) :
    ChannelsState :=
  Function.update state data.1 (some data.2)

/-- `callsExplicitlyEnabled` -/
def callsExplicitlyEnabled (state : ChannelsState) (channelID : String) : Bool :=
  state channelID = some true

/-- `callsExplicitlyDisabled` -/
def callsExplicitlyDisabled (state : ChannelsState) (channelID : String) : Bool :=
  state channelID = some false

/-- `callsEnabledInCurrentChannel` -/
def callsEnabledInCurrentChannel (state : ChannelsState) (channelID : String)
    (defaultEnabled : Option Bool) (isSystemAdmin : Bool) : Bool :=
  if callsExplicitlyDisabled state channelID then false
  else callsExplicitlyEnabled state channelID || defaultEnabled =
    some true || isSystemAdmin

/-- What the store has under a channel, if anything. -/
def SettingsWorld.enabled (w : SettingsWorld) (channelID : String) : Option Bool :=
  (w.channels.find? channelID).map fun channel => channel.enabled

/-- What a client that started with `client` has after what was published. -/
def SettingsWorld.client (client : ChannelsState) (w : SettingsWorld) : ChannelsState :=
  w.published.foldl receivedChannelState client

/-- A client offers a call where the server lets its user start one, as far as the
licence allows calls in the channel. -/
theorem callsEnabled_iff {p : Plugin} {userID : String} {channelType : ChannelType}
    (hlicence : channelType = .direct ∨ p.groupCallsAllowed = true)
    (state : ChannelsState) (channelID : String) :
    callsEnabledInCurrentChannel state channelID p.defaultEnabled
      (p.isSysadmin userID) = true ↔
      userCanStartOrJoin p userID (state channelID) channelType = .ok () := by
  have hallowed : ¬ (channelType ≠ .direct ∧ ¬ p.groupCallsAllowed) := fun h =>
    hlicence.elim h.1 h.2
  unfold callsEnabledInCurrentChannel userCanStartOrJoin callsExplicitlyDisabled
    callsExplicitlyEnabled
  rw [if_neg hallowed]
  rcases state channelID with _ | _ | _
  · cases p.isSysadmin userID <;> by_cases h : p.defaultEnabled = some true <;> simp [h]
  · simp
  · simp

/-! ## What is stored and what is heard -/

/-- What an operation is to the clients. -/
def saying : SettingsOp → Saying String Bool
  | .createCallsChannel channel | .updateCallsChannel channel =>
      .write channel.channelID channel.enabled
  | .publish enabled channelID => .announce channelID enabled
  | .hasPermissionTo _ | .getDefaultEnabled | .getChannel _ | .getChannelMember _ _
  | .hasPermissionToTeam _ _ | .hasPermissionToChannel _ _ | .getCallsChannel _
  | .respond _ => .other

/-- The row of a channel is there. -/
def SettingsWorld.has (w : SettingsWorld) (channelID : String) : Prop :=
  (w.enabled channelID).isSome

/-- Only rows that are there are updated. -/
def UpdatesRow (w : SettingsWorld) : SettingsOp → Prop
  | .updateCallsChannel channel => w.has channel.channelID
  | _ => True

/-- A query that writes has succeeded. -/
def Succeeds : (o : SettingsOp) → o.Resp → Prop
  | .createCallsChannel _, r => r = .ok ()
  | .updateCallsChannel _, r => r = .ok ()
  | _, _ => True

section Semantics

variable {c : Choice} {w : SettingsWorld} {channel : CallsChannel}

theorem enabled_create {channels : Table CallsChannel.key}
    (h : w.channels.insert? channel = some channels) :
    SettingsWorld.enabled { w with channels := channels } =
      Function.update w.enabled channel.channelID (some channel.enabled) := by
  funext id
  rw [SettingsWorld.enabled, Table.find?_insert? h, CallsChannel.key]
  by_cases hid : id = channel.channelID
  · rw [if_pos hid, hid, Function.update_self]
    rfl
  · rw [if_neg hid, Function.update_of_ne hid]
    rfl

theorem enabled_update (h : w.has channel.channelID) :
    SettingsWorld.enabled { w with
      channels :=
        w.channels.modify channel.key (setColumns channel) (setColumns_key channel) } =
      Function.update w.enabled channel.channelID (some channel.enabled) := by
  funext id
  rw [SettingsWorld.enabled, Table.find?_modify, CallsChannel.key]
  by_cases hid : id = channel.channelID
  · subst hid
    obtain ⟨row, hrow⟩ := Option.isSome_iff_exists.1 (Option.isSome_map.symm.trans h)
    rw [if_pos rfl, hrow, Function.update_self]
    rfl
  · rw [if_neg hid, Function.update_of_ne hid]
    rfl

/-- A write succeeds with what the query leaves, or changes nothing. -/
theorem write_cases (w : SettingsWorld) (channel : CallsChannel)
    (queryError : Option String) (write : Except String (Table CallsChannel.key)) :
    (∃ channels, write = .ok channels ∧
      w.write channel queryError write = (.ok (), { w with channels := channels })) ∨
    ∃ e, w.write channel queryError write = (.error e, w) := by
  unfold SettingsWorld.write
  split
  · exact .inr ⟨_, rfl⟩
  cases queryError with
  | some e => exact .inr ⟨_, rfl⟩
  | none =>
      cases write with
      | error e => exact .inr ⟨_, rfl⟩
      | ok channels => exact .inl ⟨channels, rfl, rfl⟩

/-- What a write does to what is stored. -/
theorem write_enabled {o : SettingsOp} {id : String} {enabled : Bool}
    (hpre : UpdatesRow w o) (hsaying : saying o = .write id enabled) :
    (Succeeds o (settingsSem c w o).1 →
      (settingsSem c w o).2.enabled = Function.update w.enabled id (some enabled)) ∧
    (¬ Succeeds o (settingsSem c w o).1 → (settingsSem c w o).2.enabled = w.enabled) ∧
    (settingsSem c w o).2.published = w.published := by
  cases o with
  | createCallsChannel channel =>
      obtain ⟨rfl, rfl⟩ := Saying.write.inj hsaying
      rcases write_cases w channel c.queryError
        (match w.channels.insert? channel with
          | none => .error "duplicate key"
          | some channels => .ok channels) with ⟨channels, hq, hw⟩ | ⟨e, hw⟩
      · have hins : w.channels.insert? channel = some channels := by
          split at hq
          next => cases hq
          next h => rw [h, Except.ok.inj hq]
        rw [settingsSem, hw]
        exact ⟨fun _ => enabled_create hins, fun h => absurd rfl h, rfl⟩
      · rw [settingsSem, hw]
        exact ⟨fun h => (by cases h), fun _ => rfl, rfl⟩
  | updateCallsChannel channel =>
      obtain ⟨rfl, rfl⟩ := Saying.write.inj hsaying
      rcases write_cases w channel c.queryError
        (.ok (w.channels.modify channel.key (setColumns channel)
          (setColumns_key channel)))
        with ⟨channels, hq, hw⟩ | ⟨e, hw⟩
      · obtain rfl := Except.ok.inj hq
        rw [settingsSem, hw]
        exact ⟨fun _ => enabled_update hpre, fun h => absurd rfl h, rfl⟩
      · rw [settingsSem, hw]
        exact ⟨fun h => (by cases h), fun _ => rfl, rfl⟩
  | _ => cases hsaying

end Semantics

/-- An operation that says nothing is no write and no event. -/
theorem other_same {c : Choice} {w : SettingsWorld} {o : SettingsOp}
    (hsaying : saying o = .other) :
    (settingsSem c w o).2.enabled = w.enabled ∧
      (settingsSem c w o).2.published = w.published := by
  cases o with
  | createCallsChannel channel => cases hsaying
  | updateCallsChannel channel => cases hsaying
  | publish enabled channelID => cases hsaying
  | _ => exact ⟨rfl, rfl⟩

/-- Rows stay. -/
theorem has_kept {c : Choice} {w : SettingsWorld} {o : SettingsOp}
    (hpre : UpdatesRow w o) {id : String} (h : w.has id) :
    (settingsSem c w o).2.has id := by
  unfold SettingsWorld.has at h ⊢
  cases hsaying : saying o with
  | other =>
      rw [(other_same hsaying).1]
      exact h
  | announce key v =>
      cases o with
      | publish enabled channelID => exact h
      | _ => cases hsaying
  | write key v =>
      obtain ⟨hdone, hfailed, -⟩ := write_enabled (c := c) hpre hsaying
      by_cases hr : Succeeds o (settingsSem c w o).1
      · rw [hdone hr]
        by_cases hid : id = key
        · rw [hid, Function.update_self]
          rfl
        · rw [Function.update_of_ne hid]
          exact h
      · rw [hfailed hr]
        exact h

/-- The settings as values that are stored, and heard by a client that started with
`client`. -/
def settingsAnnouncing (client : ChannelsState) :
    Announcing SettingsOp SettingsOp.Resp SettingsWorld Choice String Bool where
  sem := settingsSem
  inv _ := True
  later w w' := ∀ id, w.has id → w'.has id
  pre := UpdatesRow
  later_refl _ _ h := h
  later_trans h h' id hid := h' id (h id hid)
  step _ _ _ _ hpre := ⟨trivial, fun _ h => has_kept hpre h⟩
  saying := saying
  succeeds := Succeeds
  stored := SettingsWorld.enabled
  heard := SettingsWorld.client client
  write _ hpre hsaying := by
    obtain ⟨hdone, hfailed, hpublished⟩ := write_enabled hpre hsaying
    exact ⟨hdone, hfailed, by rw [SettingsWorld.client, hpublished]; rfl⟩
  announce {c w o key v} hsaying := by
    cases o with
    | publish enabled channelID =>
        obtain ⟨rfl, rfl⟩ := Saying.announce.inj hsaying
        refine ⟨rfl, ?_⟩
        rw [settingsSem, SettingsWorld.client, List.foldl_append]
        rfl
    | _ => cases hsaying
  other hsaying := by
    obtain ⟨hst, hpublished⟩ := other_same hsaying
    exact ⟨hst, by rw [SettingsWorld.client, hpublished]; rfl⟩

/-! ## The request as code that announces -/

/-- An operation that neither writes nor publishes. -/
def Quiet (o : SettingsOp) : Prop := saying o = .other ∧ ∀ w, UpdatesRow w o

/-- An operation, and then code that neither writes nor publishes. -/
theorem ask_quiet {α : Type} {o : SettingsOp} {k : o.Resp → SettingsCode α}
    (ho : Quiet o) (hk : ∀ r, (k r).Only Quiet) : (ask o >>= k).Only Quiet :=
  ⟨ho, hk⟩

theorem teamOrParticipant_quiet (userID channelID : String) (channel : Channel) :
    (teamOrParticipant userID channelID channel).Only Quiet := by
  refine ask_quiet ⟨rfl, fun _ => trivial⟩ fun team => ?_
  split
  · trivial
  · split
    · exact ⟨⟨rfl, fun _ => trivial⟩, fun _ => trivial⟩
    · exact ⟨⟨rfl, fun _ => trivial⟩, fun _ => trivial⟩
    · trivial
    · trivial

theorem permissionToEnableDisableChannel_quiet (userID channelID : String) :
    (permissionToEnableDisableChannel userID channelID).Only Quiet := by
  refine ask_quiet ⟨rfl, fun _ => trivial⟩ fun sysadmin => ?_
  split
  · trivial
  refine ask_quiet ⟨rfl, fun _ => trivial⟩ fun default => ?_
  split
  · trivial
  refine ask_quiet ⟨rfl, fun _ => trivial⟩ fun channel => ?_
  cases channel with
  | error e => trivial
  | ok channel =>
      refine ask_quiet ⟨rfl, fun _ => trivial⟩ fun member => ?_
      cases member with
      | error e => trivial
      | ok schemeAdmin =>
          dsimp only
          split
          · trivial
          · exact (teamOrParticipant_quiet _ _ _).bind fun _ => trivial

section Request

variable {client : ChannelsState} {userID channelID : String}
  {body : Except String CallsChannel} {α : Type} {w : SettingsWorld}

theorem quiet_announces {c : SettingsCode α} (h : c.Only Quiet) :
    (Prog.lift c).Announces (settingsAnnouncing client) none :=
  .of_silent ((Prog.Only.lift h).mono fun _ ho => ho.1)

theorem quiet_meets {c : SettingsCode α} (h : c.Only Quiet) :
    (Prog.lift c).Meets (settingsAnnouncing client).rely (fun _ _ => True) w :=
  Prog.Meets.of_only (Prog.Only.lift h) (fun w _ ho => ho.2 w) w

/-- An answer writes and publishes nothing. -/
theorem respond_quiet (res : HttpResponse) : (ask (.respond res)).Only Quiet :=
  ⟨⟨rfl, fun _ => trivial⟩, fun _ => trivial⟩

/-- A row that was written is announced, one that was not is not. -/
theorem announce_announces (what : String) (channel : CallsChannel)
    (res : Except String Unit) :
    (res = .ok () → (Prog.lift (announce what channel res)).Announces
      (settingsAnnouncing client) (some (channel.channelID, channel.enabled))) ∧
    (¬ res = .ok () →
      (Prog.lift (announce what channel res)).Announces
        (settingsAnnouncing client) none) := by
  cases res with
  | error e => exact ⟨fun h => (by cases h), fun _ => quiet_announces (respond_quiet _)⟩
  | ok u => exact ⟨fun _ => ⟨rfl, fun _ => quiet_announces (respond_quiet _)⟩,
      fun h => absurd rfl h⟩

theorem saveChannel_announces (channel : CallsChannel) (row : Option CallsChannel) :
    (Prog.lift (saveChannel channelID channel row)).Announces
      (settingsAnnouncing client) none := by
  cases row with
  | none => exact announce_announces _ _
  | some row => exact announce_announces _ _

theorem handlePostCallsChannel_announces :
    (Prog.lift (handlePostCallsChannel userID channelID body)).Announces
      (settingsAnnouncing client) none := by
  unfold handlePostCallsChannel
  rw [Prog.lift_bind]
  refine (quiet_announces (permissionToEnableDisableChannel_quiet _ _)).bind
    fun res => ?_
  rcases res with e | _ | _
  · exact quiet_announces (respond_quiet _)
  · exact quiet_announces (respond_quiet _)
  cases body with
  | error e => exact quiet_announces (respond_quiet _)
  | ok channel =>
      refine Prog.Announces.silent rfl fun row => ?_
      cases row with
      | error e => exact quiet_announces (respond_quiet _)
      | ok row => exact saveChannel_announces channel row

/-- What follows a write neither writes nor updates. -/
theorem announce_updates (what : String) (channel : CallsChannel)
    (res : Except String Unit) :
    (Prog.lift (announce what channel res)).Meets (settingsAnnouncing client).rely
      (fun _ _ => True) w := by
  have hlater : (announce what channel res).Only fun o => ∀ w, UpdatesRow w o := by
    cases res with
    | error e => exact ⟨fun _ => trivial, fun _ => trivial⟩
    | ok u => exact ⟨fun _ => trivial, fun _ => ⟨fun _ => trivial, fun _ => trivial⟩⟩
  exact Prog.Meets.of_only (Prog.Only.lift hlater) (fun w _ ho => ho w) w

/-- A row that was read is there when it is updated. -/
theorem saveChannel_updates (channel : CallsChannel) {row : Option CallsChannel}
    (hrow : row.isSome → w.has channelID) :
    (Prog.lift (saveChannel channelID channel row)).Meets
      (settingsAnnouncing client).rely (fun _ _ => True) w := by
  cases row with
  | none =>
      exact Guarantee.meets_op trivial (fun _ _ _ => trivial) fun _ _ _ _ _ _ =>
        announce_updates _ _ _
  | some row =>
      refine Guarantee.meets_op trivial (fun w' hlater _ => ?_)
        fun _ _ _ _ _ _ => announce_updates _ _ _
      exact hlater channelID (hrow rfl)

/-- What was read of a row is used to update it. -/
theorem readChannel_updates (channel : CallsChannel) (c : Choice) (w : SettingsWorld) :
    (Prog.lift (match (settingsSem c w (.getCallsChannel channelID)).1 with
      | .error e => ask (.respond (.error 500 ("failed to get calls channel: " ++ e)))
      | .ok storedChannel => saveChannel channelID channel storedChannel)).Meets
      (settingsAnnouncing client).rely (fun _ _ => True) w := by
  rw [settingsSem]
  cases c.queryError with
  | some e => exact quiet_meets (respond_quiet _)
  | none =>
      refine saveChannel_updates channel fun hrow => ?_
      split at hrow
      · cases hrow
      · rw [SettingsWorld.has, SettingsWorld.enabled, Option.isSome_map]
        exact hrow

theorem handlePostCallsChannel_updates :
    (Prog.lift (handlePostCallsChannel userID channelID body)).Meets
      (settingsAnnouncing client).rely (fun _ _ => True) w := by
  unfold handlePostCallsChannel
  rw [Prog.lift_bind]
  refine (quiet_meets (permissionToEnableDisableChannel_quiet _ _)).bind
    fun res w₁ _ => ?_
  rcases res with e | _ | _
  · exact quiet_meets (respond_quiet _)
  · exact quiet_meets (respond_quiet _)
  cases body with
  | error e => exact quiet_meets (respond_quiet _)
  | ok channel =>
      refine Guarantee.meets_op trivial (fun _ _ _ => trivial) fun c w₂ _ _ _ _ => ?_
      exact readChannel_updates channel c w₂

end Request

/-! ## Runs -/

section Runs

variable {T N : Type} [DecidableEq T] [DecidableEq N] {node : T → N}

/-- A request to change a setting. -/
structure SettingsRequest where
  userID : String
  channelID : String
  body : Except String CallsChannel

/-- Requests that have not begun. -/
def requests (w : SettingsWorld) (req : T → SettingsRequest) :
    Sys SettingsOp SettingsOp.Resp SettingsWorld T N where
  world := w
  inner _ := none
  owner := none
  polling _ := false
  code t := .lift (handlePostCallsChannel (req t).userID (req t).channelID (req t).body)

/-- The next thing a request does is to publish a setting of the channel. -/
def AboutToPublish (channelID : String) (p : Prog SettingsOp SettingsOp.Resp PUnit) :
    Prop :=
  ∃ enabled k, p = .op (.publish enabled channelID) k

theorem aboutToPublish_of_say {client : ChannelsState} {channelID : String}
    {enabled : Bool} {p : Prog SettingsOp SettingsOp.Resp PUnit}
    (h : p.AboutToSay (settingsAnnouncing client) channelID enabled) :
    AboutToPublish channelID p := by
  cases p with
  | op o k =>
      cases o with
      | publish e id =>
          obtain ⟨rfl, rfl⟩ := Saying.announce.inj h
          exact ⟨e, k, rfl⟩
      | _ => cases h
  | _ => exact h.elim

/-- A setting of a channel is written only when no request is about to publish one of
it. -/
def WritesApart (_ : List (Event T Choice))
    (s : Sys SettingsOp SettingsOp.Resp SettingsWorld T N)
    (t : T) (_ : Act Choice) : Prop :=
  ∀ o k channelID enabled, s.code t = .op o k → saying o = .write channelID enabled →
    ∀ t', ¬ AboutToPublish channelID (s.code t')

/-- **Settings agree**: in every run of requests whose writes are apart, a client that
started with what was stored and has received what was published offers a call in a
channel exactly if the server lets its user start one, unless a request is about to
publish the channel's setting. -/
theorem settings_agree (req : T → SettingsRequest) {client : ChannelsState}
    {w : SettingsWorld} (hclient : client = w.enabled) (hpublished : w.published = [])
    {s : Sys SettingsOp SettingsOp.Resp SettingsWorld T N} {tr : List (Event T Choice)}
    (hr : Runs settingsSem node WritesApart (requests w req) tr s) {channelID : String}
    (hdone : ∀ t, ¬ AboutToPublish channelID (s.code t)) {p : Plugin} {userID : String}
    {channelType : ChannelType}
    (hlicence : channelType = .direct ∨ p.groupCallsAllowed = true) :
    callsEnabledInCurrentChannel (s.world.client client) channelID p.defaultEnabled
        (p.isSysadmin userID) = true ↔
      userCanStartOrJoin p userID (s.world.enabled channelID) channelType = .ok () := by
  have hapart : ∀ tr (s : Sys SettingsOp SettingsOp.Resp SettingsWorld T N) t a,
      WritesApart tr s t a → (settingsAnnouncing client).Apart tr s t a := by
    rintro tr s t a hok c o k key v rfl hk hsaying t' v' habout
    exact hok o k key v hk hsaying t' (aboutToPublish_of_say habout)
  have hstart : (settingsAnnouncing client).heard w =
      (settingsAnnouncing client).stored w := by
    show w.published.foldl receivedChannelState client = w.enabled
    rw [hpublished, hclient]
    rfl
  have hintouch :=
    (hr.mono hapart).announced (A := settingsAnnouncing client) trivial hstart
    (fun _ => handlePostCallsChannel_updates) fun _ => handlePostCallsChannel_announces
  have hheard :=
    hintouch.heard channelID fun t v habout => hdone t (aboutToPublish_of_say habout)
  rw [callsEnabled_iff hlicence]
  exact iff_of_eq (congrArg (userCanStartOrJoin p userID · channelType = .ok ()) hheard)

end Runs

/-! ### Two admins change the setting of a channel

The first enables calls, the second disables them. -/

/-- All queries succeed, and all users may do everything. -/
def Choice.works : Choice :=
  ⟨true, some true, .ok ⟨"team", .openChannel⟩, .ok true, none, false⟩

/-- The requests. -/
def twoAdmins (t : Bool) : SettingsRequest :=
  ⟨if t then "alice" else "bob", "chan", .ok ⟨⟨"", t⟩, []⟩⟩

/-- No channel has a setting. -/
def noSettings : SettingsWorld := ⟨.empty, []⟩

/-- The requests before they begin. -/
def adminRequests : Sys SettingsOp SettingsOp.Resp SettingsWorld Bool Unit :=
  requests noSettings twoAdmins

/-- `AboutToPublish` as a check. -/
def atPublish (channelID : String) : Prog SettingsOp SettingsOp.Resp PUnit → Bool
  | .op o _ =>
      match saying o with
      | .announce id _ => id = channelID
      | .write _ _ | .other => false
  | .ret _ | .lock _ | .unlock _ => false

theorem atPublish_of_about {channelID : String}
    {p : Prog SettingsOp SettingsOp.Resp PUnit}
    (h : AboutToPublish channelID p) : atPublish channelID p = true := by
  obtain ⟨enabled, k, rfl⟩ := h
  exact decide_eq_true rfl

/-- `WritesApart` as a check. -/
def checkApart (_ : List (Event Bool Choice))
    (s : Sys SettingsOp SettingsOp.Resp SettingsWorld Bool Unit) (t : Bool)
    (_ : Act Choice) : Bool :=
  match s.code t with
  | .op o _ =>
      match saying o with
      | .write id _ => !(atPublish id (s.code true)) && !(atPublish id (s.code false))
      | .announce _ _ | .other => true
  | .ret _ | .lock _ | .unlock _ => true

theorem writesApart_of_check (tr : List (Event Bool Choice))
    (s : Sys SettingsOp SettingsOp.Resp SettingsWorld Bool Unit) (t : Bool)
    (a : Act Choice) (h : checkApart tr s t a = true) : WritesApart tr s t a := by
  intro o k channelID enabled hk hsaying t' habout
  simp only [checkApart, hk, hsaying, Bool.and_eq_true, Bool.not_eq_true'] at h
  have hat := atPublish_of_about habout
  cases t' with
  | true => rw [h.1] at hat; cases hat
  | false => rw [h.2] at hat; cases hat

/-- A request of an admin, undisturbed. -/
def allOps (t : Bool) : List (Bool × Act Choice) := List.replicate 5 (t, .op .works)

/-- One after the other. -/
theorem settings_agree_inTurn : ∃ (tr : List (Event Bool Choice))
    (s : Sys SettingsOp SettingsOp.Resp SettingsWorld Bool Unit),
    Runs settingsSem (fun _ => ()) WritesApart adminRequests tr s ∧
    s.world.enabled "chan" = some false ∧
    (callsEnabledInCurrentChannel (s.world.client noSettings.enabled) "chan"
        Plugin.sample.defaultEnabled (Plugin.sample.isSysadmin "carol") = true ↔
      userCanStartOrJoin .sample "carol" (s.world.enabled "chan")
        .direct = .ok ()) := by
  have hsched : (adminRequests.sched settingsSem (fun _ => ()) checkApart []
      (allOps true ++ allOps false)).map
      (fun r => (r.2.world.enabled "chan", atPublish "chan" (r.2.code true),
        atPublish "chan" (r.2.code false))) =
        some (some false, false, false) := by decide
  obtain ⟨tr, s, hr, hf⟩ := Runs.exists_of_sched writesApart_of_check hsched
  obtain ⟨henabled, hf⟩ := Prod.mk.inj hf
  obtain ⟨htrue, hfalse⟩ := Prod.mk.inj hf
  have hdone : ∀ t, ¬ AboutToPublish "chan" (s.code t) := by
    intro t habout
    have hat := atPublish_of_about habout
    cases t with
    | true => rw [htrue] at hat; cases hat
    | false => rw [hfalse] at hat; cases hat
  exact ⟨tr, s, hr, henabled, settings_agree twoAdmins rfl rfl hr hdone (.inl rfl)⟩

/-- The first request publishes last: clients offer calls in a channel that has them
disabled. -/
theorem settings_disagree_of_overlap : ∃ (tr : List (Event Bool Choice))
    (s : Sys SettingsOp SettingsOp.Resp SettingsWorld Bool Unit),
    Runs settingsSem (fun _ => ()) (fun _ _ _ _ => True) adminRequests tr s ∧
    s.world.enabled "chan" = some false ∧
    s.world.client noSettings.enabled "chan" = some true := by
  have hsched : (adminRequests.sched settingsSem (fun _ => ()) (fun _ _ _ _ => true) []
      ((allOps true).take 3 ++ allOps false ++ (allOps true).drop 3)).map
      (fun r => (r.2.world.enabled "chan",
        r.2.world.client noSettings.enabled "chan")) =
        some (some false, some true) := by decide
  obtain ⟨tr, s, hr, hf⟩ := Runs.exists_of_sched (fun _ _ _ _ _ => trivial) hsched
  obtain ⟨hstored, hheard⟩ := Prod.mk.inj hf
  exact ⟨tr, s, hr, hstored, hheard⟩

/-- Alice, a system admin, creates the setting. -/
theorem setting_permitted_create : ∃ (tr : List (Event Bool Choice))
    (s : Sys SettingsOp SettingsOp.Resp SettingsWorld Bool Unit)
    (l l₁ l₂ : List (Did Bool)) (d : Did Bool),
    Histories settingsSem (fun _ => ()) (fun _ _ _ _ => True) AddsDeeds
      adminRequests tr s l ∧
    l = l₁ ++ d :: l₂ ∧ d.op = .createCallsChannel ⟨⟨"chan", true⟩, []⟩ ∧
    Permitted "alice" "chan" (.ok ⟨⟨"", true⟩, []⟩) true l₁ d.op := by
  have hsched :
      (adminRequests.schedHistory settingsSem (fun _ => ()) (fun _ _ _ _ => true)
      (fun s t a _ => s.deeds t a) [] [] ((allOps true).take 3)).map
      (fun r => decide (∃ d ∈ r.2.2, d.thread = true ∧
        d.op = .createCallsChannel ⟨⟨"chan", true⟩, []⟩)) = some true := by decide
  have hadd (s : Sys SettingsOp SettingsOp.Resp SettingsWorld Bool Unit) (t : Bool)
      (a : Act Choice) (s' : Sys SettingsOp SettingsOp.Resp SettingsWorld Bool Unit) :
      AddsDeeds s t a s' (s.deeds t a) := rfl
  obtain ⟨tr, s, l, hr, hf⟩ :=
    Histories.exists_of_sched (fun _ _ _ _ _ => trivial) hadd hsched
  obtain ⟨d, hd, ht, hop⟩ := of_decide_eq_true hf
  obtain ⟨l₁, l₂, hl⟩ := List.append_of_mem hd
  exact ⟨tr, s, l, l₁, l₂, d, hr, hl, hop, setting_permitted hr rfl l₁ d l₂ hl ht⟩

end CallsPlugin.Ports.ChannelSettings
