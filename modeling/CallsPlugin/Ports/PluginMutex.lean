import CallsPlugin.Verified.LockOrder
import CallsPlugin.Ports.Nodes

/-!
# The plugin mutex and the locks of the calls (`server/websocket.go`,
`server/session.go`)

The goroutines of a cluster by what they do to the mutex `p.mut` of their node and to
the locks of the calls.  What they read in between, from the tables of the node, the
store, the RTC servers and their clients, is answered in every way.

A join or a leave takes `p.mut` for a moment while it has the lock of its call, so the
lock of a call comes before `p.mut`.  One goroutine goes against that order:
`handleReconnect` of the bot turns to the lock of the call while it has `p.mut`.
-/

namespace CallsPlugin.Ports

open CallsPlugin.Verified

/-- The locks: `p.mut` of each node, and the lock of each channel's call. -/
inductive PluginLock (N : Type) where
  | mut (n : N)
  | call (channelID : String)
  deriving DecidableEq, Repr

/-- What a goroutine finds out before it goes on. -/
inductive Reading where
  | allowed
  | sessionInCall
  | stateRead
  | sessionAdded
  | rtcSessionFailed
  | shouldBatch
  | alreadyReconnected
  | sessionRemoved
  | sessionDeleted
  | onlyBotLeft
  | recording
  | transcription
  | isRecordingBot
  | isTranscribingBot
  | jobStored
  | jobStopped
  | otherJobRuns
  | messageLocksCall
  | sessionRevoked
  | reconnected
  | rtcClosed
  | closeCallback
  | rtcdSendFails
  /-- the first line of `handleBotWSReconnect` -/
  | botWSReconnection (channelID : String)
  deriving DecidableEq, Repr

namespace Goroutine

variable {N : Type}

/-- The code of a goroutine. -/
abbrev G (N α : Type) := Routine (PluginLock N) Reading α

def ask (q : Reading) : G N Bool := .op (.ask q) .ret

/-- `p.mut.Lock` -/
def mutLock (n : N) : G N Unit := .op (.lock (.mut n) false) fun _ => .ret ()

/-- `p.mut.RLock` -/
def mutRLock (n : N) : G N Unit := .op (.lock (.mut n) true) fun _ => .ret ()

/-- `p.mut.Unlock` and `p.mut.RUnlock` -/
def mutUnlock (n : N) : G N Unit := .op (.unlock (.mut n)) fun _ => .ret ()

def lockCall (channelID : String) : G N Bool := .op (.lock (.call channelID) false) .ret

def unlockCall (channelID : String) : G N Unit := .op (.unlock (.call channelID)) .ret

/-- Whether the lock was obtained and the state read. -/
def lockCallReturnState (channelID : String) : G N Bool := do
  if ← lockCall channelID then
    if ← ask .stateRead then return true
    else
      unlockCall channelID
      return false
  else return false

/-! ## Leaving a call -/

def getJobService (n : N) : G N Unit := do
  mutRLock n
  mutUnlock n

def stopTranscribingJob (n : N) (stopRecordingJob : G N Unit) : G N Unit := do
  if ← ask .jobStored then
    getJobService n
    if ← ask .jobStopped then
      if ← ask .otherJobRuns then stopRecordingJob

def stopRecordingJob (n : N) (stopTranscribingJob : G N Unit) : G N Unit := do
  if ← ask .jobStored then
    if ← ask .otherJobRuns then stopTranscribingJob
    getJobService n

/-- The jobs are stopped when the bot is the only one left. -/
def stopJobs (n : N) : G N Unit := do
  if ← ask .onlyBotLeft then
    if ← ask .recording then getJobService n
    if ← ask .transcription then getJobService n

/-- The recording bot leaves, which ends its job; the job that ended is not stopped
again. -/
def recordingBotLeft (n : N) : G N Bool := do
  if ← ask .isRecordingBot then
    if ← ask .jobStored then
      if ← ask .otherJobRuns then stopTranscribingJob n (return ())
      return true
    else return false
  else return true

/-- The transcribing bot leaves. -/
def transcribingBotLeft (n : N) : G N Unit := do
  if ← ask .isTranscribingBot then
    if ← ask .jobStored then
      if ← ask .otherJobRuns then stopRecordingJob n (return ())

def removeUserSession (n : N) : G N Unit := do
  if ← ask .sessionDeleted then
    stopJobs n
    if ← recordingBotLeft n then transcribingBotLeft n

/-- `removeSessionFromCall` of `removeSession`, under the lock of the call. -/
def removeSessionFromCall (n : N) : G N Unit := do
  mutLock n
  mutUnlock n
  removeUserSession n

/-- A session is removed at once, or queued. -/
def removeSession (n : N) (channelID : String) : G N Unit := do
  if ← ask .sessionRemoved then return ()
  else
    mutLock n
    if ← ask .shouldBatch then mutUnlock n
    else
      mutUnlock n
      if ← lockCallReturnState channelID then
        removeSessionFromCall n
        unlockCall channelID

/-- `closeRTCSession`; the RTC server of the node may call back. -/
def closeRTCSession (n : N) (channelID : String) : G N Unit := do
  if ← ask .closeCallback then removeSession n channelID

def handleLeave (n : N) (channelID : String) : G N Unit := do
  if ← ask .reconnected then
    mutLock n
    mutUnlock n
  else if ← ask .rtcClosed then return ()
  else
    closeRTCSession n channelID
    removeSession n channelID

/-! ## Joining a call -/

/-- `addSessionToCall` of `handleJoin`, under the lock of the call. -/
def addSessionToCall (n : N) : G N Unit := do
  if ← ask .sessionAdded then
    mutLock n
    mutUnlock n

def handleJoin (n : N) (channelID : String) : G N Unit := do
  if ← ask .allowed then
    mutLock n
    if ← ask .shouldBatch then mutUnlock n
    else
      mutUnlock n
      if ← lockCallReturnState channelID then
        addSessionToCall n
        unlockCall channelID

/-- So many items of a batch. -/
def runItems (item : G N Unit) : Nat → G N Unit
  | 0 => return ()
  | size + 1 => do
      item
      runItems item size

/-- A batch of that size is run. -/
def runBatch (item : G N Unit) (channelID : String) (size : Nat) : G N Unit := do
  if ← lockCallReturnState channelID then
    runItems item size
    unlockCall channelID

/-- The goroutine of a batcher: the batches it runs until it is stopped. -/
def runBatcher (item : G N Unit) (channelID : String) : List Nat → G N Unit
  | [] => return ()
  | size :: rest => do
      runBatch item channelID size
      runBatcher item channelID rest

/-! ## Reading from the connection -/

/-- `handleClientMsg`: some types of messages take the lock of the call. -/
def handleClientMsg (channelID : String) : G N Unit := do
  if ← ask .messageLocksCall then
    if ← lockCallReturnState channelID then unlockCall channelID

/-- `wsReader`, which handles so many messages. -/
def wsReader (n : N) (channelID : String) : Nat → G N Unit
  | 0 => do
      if ← ask .sessionRevoked then closeRTCSession n channelID
  | messages + 1 => do
      handleClientMsg channelID
      wsReader n channelID messages

/-! ## Reconnecting -/

/-- `handleBotWSReconnect`, with `p.mut` locked: whether it went through. -/
def handleBotWSReconnect (channelID : String) : G N Bool := do
  let _ ← ask (.botWSReconnection channelID)
  if ← lockCallReturnState channelID then
    let stored ← ask .jobStored
    unlockCall channelID
    return stored
  else return false

/-- `handleReconnect`, after which the goroutine reads so many messages and handles the
leave. -/
def handleReconnect (n : N) (isBot : Bool) (channelID : String) (messages : Nat) :
    G N Unit := do
  if ← ask .sessionInCall then
    mutLock n
    if ← ask .alreadyReconnected then mutUnlock n
    else
      let went ← (if isBot then handleBotWSReconnect channelID else return true)
      mutUnlock n
      if went then
        if ← ask .rtcdSendFails then return ()
        else
          wsReader n channelID messages
          handleLeave n channelID

/-! ## Messages and cluster events -/

/-- `WebSocketMessageHasBeenPosted`, where the message is not handed to another
goroutine. -/
def webSocketMessageHasBeenPosted (n : N) (channelID : String) : G N Unit := do
  mutRLock n
  mutUnlock n
  handleClientMsg channelID

def handleEvent (n : N) : ClusterMessage → G N Unit
  | .connect _ => do
      mutLock n
      mutUnlock n
  | .reconnect _ => do
      mutLock n
      mutUnlock n
  | _ => do
      mutRLock n
      mutUnlock n

/-- `clusterEventsHandler` -/
def clusterEventsHandler (n : N) : List ClusterMessage → G N Unit
  | [] => return ()
  | msg :: rest => do
      handleEvent n msg
      clusterEventsHandler n rest

end Goroutine

/-- A goroutine: of a message, of a join or of the session that joined, of a
reconnection, of a removal that the RTC server brings about, of a batcher, or the one
that handles the cluster events. -/
inductive Goroutine where
  | message (channelID : String)
  | join (channelID : String)
  | session (channelID : String) (messages : Nat)
  | reconnect (isBot : Bool) (channelID : String) (messages : Nat)
  | leave (channelID : String)
  | rtcClosed (channelID : String)
  | addSessionsBatcher (channelID : String) (batches : List Nat)
  | removeSessionsBatcher (channelID : String) (batches : List Nat)
  | clusterEvents (events : List ClusterMessage)

/-- The code of a goroutine on the node. -/
def Goroutine.code {N : Type} (n : N) : Goroutine → Goroutine.G N Unit
  | .message channelID => webSocketMessageHasBeenPosted n channelID
  | .join channelID => handleJoin n channelID
  | .session channelID messages => do
      wsReader n channelID messages
      handleLeave n channelID
  | .reconnect isBot channelID messages => handleReconnect n isBot channelID messages
  | .leave channelID => handleLeave n channelID
  | .rtcClosed channelID => removeSession n channelID
  | .addSessionsBatcher channelID batches =>
      runBatcher (addSessionToCall n) channelID batches
  | .removeSessionsBatcher channelID batches =>
      runBatcher (removeSessionFromCall n) channelID batches
  | .clusterEvents events => clusterEventsHandler n events


/-! ## The order of the locks -/

/-- The lock of a call comes before `p.mut`, and `handleBotWSReconnect` says that it
goes against that. -/
def pluginOrder {N : Type} : LockOrder (PluginLock N) Reading where
  rank
    | .mut _ => 1
    | .call _ => 0
  warns
    | .botWSReconnection channelID => some (.call channelID)
    | _ => none

namespace Goroutine

variable {N : Type} [DecidableEq N] {α β : Type} {n : N} {channelID : String}
  {hs : List (PluginLock N)}

/-- The code keeps to the order and ends with the locks it starts with. -/
def Settled (hs : List (PluginLock N)) (c : G N α) : Prop :=
  Orderly pluginOrder (fun _ hs' => hs' = hs) c hs none

theorem Settled.bind {c : G N α} {f : α → G N β} (hc : Settled hs c)
    (hf : ∀ a, Settled hs (f a)) :
    Settled hs (c >>= f) := by
  refine Orderly.bind hc fun a hs' he => ?_
  subst he
  exact hf a

theorem settled_ret (a : α) : Settled hs (.ret a : G N α) := rfl

theorem settled_ask {q : Reading} {f : Bool → G N α} (h : ∀ b, Settled hs (f b)) :
    Settled hs (ask q >>= f) := fun b => Orderly.warned (h b) _

theorem settled_if {c : Prop} [Decidable c] {a b : G N α} (ha : Settled hs a)
    (hb : Settled hs b) :
    Settled hs (if c then a else b) := by
  split
  · exact ha
  · exact hb

/-! ### `p.mut` for a moment, under the lock of a call -/

/-- The mutex is taken and given back. -/
theorem settled_moment (shared : Bool) : Settled [.call channelID]
    (.op (.lock (.mut n) shared) fun _ => .op (.unlock (.mut n)) fun _ => .ret () :
      G N Unit) := by
  refine ⟨.inr fun r hr => ?_, ?_, ?_⟩
  · obtain rfl := List.mem_singleton.1 hr
    exact Nat.zero_lt_one
  · show List.filter _ _ = _
    simp
  · show List.filter _ _ = _
    simp

theorem settled_getJobService : Settled [.call channelID] (getJobService n) :=
  settled_moment true

theorem settled_stopTranscribingJob {c : G N Unit} (hc : Settled [.call channelID] c) :
    Settled [.call channelID] (stopTranscribingJob n c) :=
  settled_ask fun _ =>
      settled_if (settled_getJobService.bind fun _ => settled_ask fun _ =>
    settled_if (settled_ask fun _ => settled_if hc (settled_ret _)) (settled_ret _))
      (settled_ret _)

theorem settled_stopRecordingJob {c : G N Unit} (hc : Settled [.call channelID] c) :
    Settled [.call channelID] (stopRecordingJob n c) :=
  settled_ask fun _ => settled_if (settled_ask fun _ =>
    (settled_if (hc.bind fun _ => settled_getJobService) settled_getJobService))
      (settled_ret _)

theorem settled_stopJobs : Settled [.call channelID] (stopJobs n) := by
  have hlast : Settled [.call channelID] (do
      if ← ask .transcription then getJobService n : G N Unit) :=
    settled_ask fun _ => settled_if settled_getJobService (settled_ret _)
  exact settled_ask fun _ => settled_if (settled_ask fun _ =>
    settled_if (settled_getJobService.bind fun _ => hlast) hlast) (settled_ret _)

theorem settled_recordingBotLeft : Settled [.call channelID] (recordingBotLeft n) := by
  have hstop : Settled [.call channelID] (stopTranscribingJob n (return ())) :=
    settled_stopTranscribingJob (settled_ret _)
  exact settled_ask fun _ =>
      settled_if (settled_ask fun _ => settled_if (settled_ask fun _ =>
    settled_if (hstop.bind fun _ => settled_ret _) (settled_ret _)) (settled_ret _))
      (settled_ret _)

theorem settled_transcribingBotLeft :
    Settled [.call channelID] (transcribingBotLeft n) := by
  have hstop : Settled [.call channelID] (stopRecordingJob n (return ())) :=
    settled_stopRecordingJob (settled_ret _)
  exact settled_ask fun _ =>
      settled_if (settled_ask fun _ => settled_if (settled_ask fun _ =>
    settled_if hstop (settled_ret _)) (settled_ret _)) (settled_ret _)

theorem settled_removeUserSession : Settled [.call channelID] (removeUserSession n) :=
  settled_ask fun _ => settled_if (settled_stopJobs.bind fun _ =>
    settled_recordingBotLeft.bind fun _ =>
      settled_if settled_transcribingBotLeft (settled_ret _)) (settled_ret _)

theorem settled_removeSessionFromCall :
    Settled [.call channelID] (removeSessionFromCall n) :=
  (settled_moment false).bind fun _ => settled_removeUserSession

theorem settled_addSessionToCall : Settled [.call channelID] (addSessionToCall n) :=
  settled_ask fun _ => settled_if (settled_moment false) (settled_ret _)

theorem settled_runItems {item : G N Unit} (h : Settled [.call channelID] item)
    (size : Nat) :
    Settled [.call channelID] (runItems item size) := by
  induction size with
  | zero => exact settled_ret _
  | succ size ih => exact h.bind fun _ => ih

/-! ### The lock of a call -/

/-- The code starts with the lock of the call and ends without it. -/
def Unlocks (channelID : String) (hs : List (PluginLock N)) (c : G N α) : Prop :=
  Orderly pluginOrder (fun _ hs' => hs' = hs) c (.call channelID :: hs) none

/-- Without the lock of the call, the others are left. -/
theorem filter_call (hhs : PluginLock.call channelID ∉ hs) :
    (PluginLock.call channelID :: hs).filter (· ≠ .call channelID) = hs := by
  rw [List.filter_cons_of_neg (by simp)]
  refine List.filter_eq_self.2 fun r hr => ?_
  have hne : r ≠ .call channelID := fun he => hhs (he ▸ hr)
  simpa using hne

theorem unlocks_bind {c : G N α} {f : α → G N β}
    (hc : Settled (.call channelID :: hs) c)
    (hf : ∀ a, Unlocks channelID hs (f a)) : Unlocks channelID hs (c >>= f) := by
  refine Orderly.bind hc fun a hs' he => ?_
  subst he
  exact hf a

theorem unlocks_unlockCall (hhs : PluginLock.call channelID ∉ hs) {f : Unit → G N α}
    (h : Settled hs (f ())) : Unlocks channelID hs (unlockCall channelID >>= f) := by
  show Orderly _ _ _ (List.filter _ _) _
  rw [filter_call hhs]
  exact h

/-- Taking the lock of the call, out of order if that was said before. -/
theorem orderly_lockCallReturnState {w : Option (PluginLock N)}
    (hw : w = some (.call channelID) ∨ hs = []) (hhs : PluginLock.call channelID ∉ hs)
    {f : Bool → G N α} (ht : Unlocks channelID hs (f true))
    (hf : Settled hs (f false)) :
    Orderly pluginOrder (fun _ hs' => hs' = hs)
      (lockCallReturnState channelID >>= f) hs w := by
  refine ⟨hw.imp_right fun he r hr => ?_, fun b => ?_, hf⟩
  · rw [he] at hr
    cases hr
  · cases b with
    | true => exact ht
    | false => exact unlocks_unlockCall (f := fun _ => f false) hhs hf

/-- Code under the lock of the call. -/
theorem settled_underLock {c : G N Unit} (h : Settled [.call channelID] c) :
    Settled [] (do
      if ← lockCallReturnState channelID then
        c
        unlockCall channelID : G N Unit) := by
  refine orderly_lockCallReturnState (.inr rfl) (by simp) ?_ (settled_ret _)
  exact unlocks_bind h fun _ => unlocks_unlockCall (f := .ret) (by simp) (settled_ret _)

theorem settled_handleClientMsg :
    Settled [] (handleClientMsg channelID : G N Unit) := by
  refine settled_ask fun _ => settled_if ?_ (settled_ret _)
  refine orderly_lockCallReturnState (.inr rfl) (by simp) ?_ (settled_ret _)
  exact unlocks_unlockCall (f := .ret) (by simp) (settled_ret _)

theorem settled_runBatcher {item : G N Unit} (h : Settled [.call channelID] item)
    (batches : List Nat) : Settled [] (runBatcher item channelID batches) := by
  induction batches with
  | nil => exact settled_ret _
  | cons size rest ih =>
      exact (settled_underLock (settled_runItems h size)).bind fun _ => ih

/-! ### `p.mut` -/

/-- The code starts with `p.mut`, or without it where the lock was not obtained, and
ends without it. -/
def Releases (n : N) (c : G N α) : Prop :=
  ∀ hs, hs = [.mut n] ∨ hs = [] → Orderly pluginOrder (fun _ hs' => hs' = []) c hs none

theorem settled_mutLock (shared : Bool) {f : Bool → G N α} (h : ∀ b, Releases n (f b)) :
    Settled [] (.op (.lock (.mut n) shared) f) := by
  refine ⟨.inr fun r hr => ?_, h true _ (.inl rfl), h false _ (.inr rfl)⟩
  cases hr

theorem releases_ask {q : Reading} {f : Bool → G N α} (h : ∀ b, Releases n (f b)) :
    Releases n (ask q >>= f) := fun hs hhs b => Orderly.warned (h b hs hhs) _

theorem releases_if {c : Prop} [Decidable c] {a b : G N α} (ha : Releases n a)
    (hb : Releases n b) : Releases n (if c then a else b) := by
  split
  · exact ha
  · exact hb

theorem releases_mutUnlock {f : Unit → G N α} (h : Settled [] (f ())) :
    Releases n (mutUnlock n >>= f) := by
  intro hs hhs
  have hfilter : hs.filter (fun r => decide (r ≠ PluginLock.mut n)) = [] := by
    rcases hhs with rfl | rfl <;> simp
  show Orderly _ _ _ (List.filter _ _) _
  rw [hfilter]
  exact h

/-- The reconnection of the bot says that it goes against the order. -/
theorem releases_handleBotWSReconnect {f : Bool → G N α} (h : ∀ b, Releases n (f b)) :
    Releases n (handleBotWSReconnect channelID >>= f) := by
  intro hs hhs _
  have hcall : PluginLock.call channelID ∉ hs := by
    rcases hhs with rfl | rfl <;> simp
  have hstored : Unlocks channelID hs (do
      let stored ← ask .jobStored
      unlockCall channelID
      return stored : G N Bool) :=
    fun stored => unlocks_unlockCall (f := fun _ => .ret stored) hcall (settled_ret _)
  refine Orderly.bind (orderly_lockCallReturnState (.inl rfl) hcall hstored
    (settled_ret _)) ?_
  intro b hs' he
  subst he
  exact h b hs' hhs

/-! ### Goroutines -/

theorem settled_removeSession : Settled [] (removeSession n channelID) := by
  refine settled_ask fun _ =>
    settled_if (settled_ret _) (settled_mutLock false fun _ => ?_)
  refine releases_ask fun _ => releases_if ?_ ?_
  · exact releases_mutUnlock (f := .ret) (settled_ret _)
  · exact releases_mutUnlock (settled_underLock settled_removeSessionFromCall)

theorem settled_closeRTCSession : Settled [] (closeRTCSession n channelID) :=
  settled_ask fun _ => settled_if settled_removeSession (settled_ret _)

/-- `p.mut` is taken and given back without the lock of a call. -/
theorem settled_brief (shared : Bool) {f : Unit → G N α} (h : Settled [] (f ())) :
    Settled [] (.op (.lock (.mut n) shared) fun _ => mutUnlock n >>= f) :=
  settled_mutLock shared fun _ => releases_mutUnlock h

theorem settled_handleLeave : Settled [] (handleLeave n channelID) := by
  refine settled_ask fun _ =>
    settled_if (settled_brief (f := .ret) false (settled_ret _)) ?_
  refine settled_ask fun _ => settled_if (settled_ret _) ?_
  exact settled_closeRTCSession.bind fun _ => settled_removeSession

theorem settled_handleJoin : Settled [] (handleJoin n channelID) := by
  refine settled_ask fun _ => settled_if (settled_mutLock false fun _ => ?_)
    (settled_ret _)
  refine releases_ask fun _ => releases_if ?_ ?_
  · exact releases_mutUnlock (f := .ret) (settled_ret _)
  · exact releases_mutUnlock (settled_underLock settled_addSessionToCall)

theorem settled_wsReader (messages : Nat) :
    Settled [] (wsReader n channelID messages) := by
  induction messages with
  | zero =>
      exact settled_ask fun _ => settled_if settled_closeRTCSession (settled_ret _)
  | succ messages ih => exact settled_handleClientMsg.bind fun _ => ih

theorem settled_handleReconnect (isBot : Bool) (messages : Nat) :
    Settled [] (handleReconnect n isBot channelID messages) := by
  refine settled_ask fun _ => settled_if (settled_mutLock false fun _ => ?_)
    (settled_ret _)
  refine releases_ask fun _ => releases_if ?_ ?_
  · exact releases_mutUnlock (f := .ret) (settled_ret _)
  have hafter : ∀ went : Bool, Releases n (do
      mutUnlock n
      if went then
        if ← ask .rtcdSendFails then return ()
        else
          wsReader n channelID messages
          handleLeave n channelID : G N Unit) := by
    intro went
    refine releases_mutUnlock
      (settled_if (settled_ask fun _ => settled_if (settled_ret _) ?_) (settled_ret _))
    exact (settled_wsReader messages).bind fun _ => settled_handleLeave
  cases isBot with
  | true => exact releases_handleBotWSReconnect hafter
  | false => exact hafter true

theorem settled_handleEvent (msg : ClusterMessage) :
    Settled [] (handleEvent n msg) := by
  cases msg with
  | connect _ => exact settled_brief (f := .ret) false (settled_ret _)
  | reconnect _ => exact settled_brief (f := .ret) false (settled_ret _)
  | _ => exact settled_brief (f := .ret) true (settled_ret _)

/-- Every goroutine keeps to the order, or says that it does not. -/
theorem settled_code (g : Goroutine) : Settled [] (g.code n) := by
  cases g with
  | message channelID =>
      exact settled_brief (f := fun _ => handleClientMsg channelID) true
        settled_handleClientMsg
  | join channelID => exact settled_handleJoin
  | session channelID messages =>
      exact (settled_wsReader messages).bind fun _ => settled_handleLeave
  | reconnect isBot channelID messages => exact settled_handleReconnect isBot messages
  | leave channelID => exact settled_handleLeave
  | rtcClosed channelID => exact settled_removeSession
  | addSessionsBatcher channelID batches =>
      exact settled_runBatcher settled_addSessionToCall batches
  | removeSessionsBatcher channelID batches =>
      exact settled_runBatcher settled_removeSessionFromCall batches
  | clusterEvents events =>
      induction events with
      | nil => exact settled_ret _
      | cons msg rest ih => exact (settled_handleEvent msg).bind fun _ => ih

end Goroutine

/-! ## Runs -/

section Runs

variable {T N : Type}

/-- Asking for the lock of a call may end without it, after `lockTimeout`. -/
def TimesOut : PluginLock N → Prop
  | .mut _ => False
  | .call _ => True

instance : DecidablePred (TimesOut (N := N)) := fun r => by
  cases r <;> unfold TimesOut <;> infer_instance

/-- The goroutines, each on a node. -/
def goroutines (node : T → N) (g : T → Goroutine) : Crew T (PluginLock N) Reading :=
  .start fun t => (g t).code (node t)

/-- A condition on a step.  When `handleBotWSReconnect` is entered, whoever has the lock
of the call asks for no lock before giving it back; and no one who will obtains the lock
of a call while a goroutine that has a lock waits for it. -/
def BotReconnectsAlone (s : Crew T (PluginLock N) Reading) (a : T × Bool) : Prop :=
  (∀ channelID k, s.code a.1 = .op (.ask (.botWSReconnection channelID)) k →
    ∀ t', s.Has t' (.call channelID) → Quiet (.call channelID) (s.code t')) ∧
  ∀ channelID shared k, s.code a.1 = .op (.lock (.call channelID) shared) k →
    a.2 = true →
    (∃ t r, s.Has t r ∧ s.Wants t (.call channelID)) → Quiet (.call channelID) (k true)

theorem BotReconnectsAlone.permits {s : Crew T (PluginLock N) Reading} {a : T × Bool}
    (h : BotReconnectsAlone s a) : Crew.Permits pluginOrder s a := by
  constructor
  · intro q k r hk hq
    cases q with
    | botWSReconnection channelID =>
        cases hq
        exact h.1 channelID k hk
    | _ => cases hq
  · rintro q r shared k hq hk hb ⟨t, hw, r', hr', -⟩
    cases q with
    | botWSReconnection channelID =>
        cases hq
        exact h.2 channelID shared k hk hb ⟨t, r', hr', hw⟩
    | _ => cases hq

variable [DecidableEq T] [DecidableEq N]

end Runs

/-! ## Instances -/

/-- A participant's RTC session closes, and the bot reconnects to the same call. -/
def leaveAndReconnect : Bool → Goroutine
  | false => .rtcClosed "chan"
  | true => .reconnect true "chan" 0

/-- Nobody has the lock of a call or is about to take one. -/
def noCallLock (s : Crew Bool (PluginLock Unit) Reading) (a : Bool × Bool) : Bool :=
  s.held.all (fun h => h.lock = .mut ()) && s.next a.1 ∈ [none, some (.mut ())]

theorem botReconnectsAlone_of_check (s : Crew Bool (PluginLock Unit) Reading)
    (a : Bool × Bool) (h : noCallLock s a = true) : BotReconnectsAlone s a := by
  simp only [noCallLock, Bool.and_eq_true, List.all_eq_true, decide_eq_true_eq] at h
  obtain ⟨hheld, hnext⟩ := h
  constructor
  · rintro channelID k - t' ⟨x, hx, -, hlock⟩
    rw [hheld x hx] at hlock
    cases hlock
  · intro channelID shared k hk
    have hcall : s.next a.1 = some (.call channelID) := by
      unfold Crew.next
      rw [hk]
    rw [hcall] at hnext
    simp at hnext

end CallsPlugin.Ports
