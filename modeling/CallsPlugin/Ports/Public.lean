/-!
# Calls, sessions and jobs (`server/public`)

The rows of the three tables as the plugin sees them, with the validity checks
the store runs before it writes.  Field names are the source's.  Times are
milliseconds since the epoch unless said otherwise (`int64` in the source, `Int`
here).  A Go map used as a set (`Participants`, and `DismissedNotification`,
which only ever stores `true`) is the list of its keys: its order is
never read, and the nil map and the empty map are not told apart, as
`omitempty` stores both the same way.
-/

namespace CallsPlugin.Ports.Public

/-- `CallStats` -/
structure CallStats where
  screenDuration : Int
  deriving DecidableEq, Repr

/-- `CallProps` -/
structure CallProps where
  hosts : List String
  rtcdHost : String
  screenSharingSessionID : String
  dismissedNotification : List String
  /-- in seconds -/
  screenStartAt : Int
  nodeID : String
  participants : List String
  hostLockedUserID : String
  deriving DecidableEq, Repr

/-- `Call` -/
structure Call where
  id : String
  channelID : String
  startAt : Int
  endAt : Int
  createAt : Int
  deleteAt : Int
  title : String
  postID : String
  threadID : String
  ownerID : String
  participants : List String
  stats : CallStats
  props : CallProps
  deriving DecidableEq, Repr

/-- `Call.IsValid` -/
def Call.isValid (c : Call) : Except String Unit :=
  if c.id = "" then .error "invalid ID: should not be empty"
  else if c.channelID = "" then .error "invalid ChannelID: should not be empty"
  else if c.startAt = 0 then .error "invalid StartAt: should be > 0"
  else if c.createAt = 0 then .error "invalid CreateAt: should be > 0"
  else if c.deleteAt ≠ 0 then .error "invalid DeleteAt: should be zero"
  else if c.ownerID = "" then .error "invalid OwnerID: should not be empty"
  else .ok ()

/-- `Call.GetHostID` -/
def Call.getHostID (c : Call) : String := c.props.hosts.headD ""

/-- `CallSession` -/
structure CallSession where
  id : String
  callID : String
  userID : String
  joinAt : Int
  unmuted : Bool
  raisedHand : Int
  video : Bool
  deriving DecidableEq, Repr

/-- `CallSession.IsValid` -/
def CallSession.isValid (s : CallSession) : Except String Unit :=
  if s.id = "" then .error "invalid ID: should not be empty"
  else if s.callID = "" then .error "invalid CallID: should not be empty"
  else if s.userID = "" then .error "invalid UserID: should not be empty"
  else if s.joinAt = 0 then .error "invalid JoinAt: should not be zero"
  else .ok ()

/-- `JobType`; the source rejects every other string in `JobType.IsValid`. -/
inductive JobType where
  | recording
  | transcribing
  | captioning
  deriving DecidableEq, Repr

/-- `JobStatusType`; `other` is any string the source does not know. -/
inductive JobStatusType where
  | started
  | failed
  | other
  deriving DecidableEq, Repr

/-- `CallJobProps` -/
structure CallJobProps where
  jobID : String
  botConnID : String
  err : String
  deriving DecidableEq, Repr

/-- `CallJob` -/
structure CallJob where
  id : String
  callID : String
  type : JobType
  creatorID : String
  initAt : Int
  startAt : Int
  endAt : Int
  props : CallJobProps
  deriving DecidableEq, Repr

/-- `CallJob.IsValid` -/
def CallJob.isValid (j : CallJob) : Except String Unit :=
  if j.id = "" then .error "invalid ID: should not be empty"
  else if j.callID = "" then .error "invalid CallID: should not be empty"
  else if j.creatorID = "" then .error "invalid CreatorID: should not be empty"
  else if j.initAt = 0 then .error "invalid InitAt: should be > 0"
  else .ok ()

/-- What `IsValid` accepts. -/
theorem Call.isValid_ok {c : Call} : c.isValid = .ok () ↔
    c.id ≠ "" ∧ c.channelID ≠ "" ∧ c.startAt ≠ 0 ∧ c.createAt ≠ 0 ∧ c.deleteAt = 0 ∧
      c.ownerID ≠ "" := by
  unfold isValid
  repeat' split
  all_goals simp_all

theorem CallSession.isValid_ok {s : CallSession} : s.isValid = .ok () ↔
    s.id ≠ "" ∧ s.callID ≠ "" ∧ s.userID ≠ "" ∧ s.joinAt ≠ 0 := by
  unfold isValid
  repeat' split
  all_goals simp_all

theorem CallJob.isValid_ok {j : CallJob} : j.isValid = .ok () ↔
    j.id ≠ "" ∧ j.callID ≠ "" ∧ j.creatorID ≠ "" ∧ j.initAt ≠ 0 := by
  unfold isValid
  repeat' split
  all_goals simp_all

end CallsPlugin.Ports.Public
