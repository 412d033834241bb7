import CallsPlugin.Verified.Machine
import CallsPlugin.Ports.Batcher
import Mathlib.Logic.Function.Basic

/-!
# Batched joins and leaves (`handleJoin` and `removeSession` of `server`)

Any number of goroutines, each with a join or the removal of a session, on one node:
they look up the batcher of their channel under `p.mut`, make it where it is missing,
and push to it, or take the lock of the call and go on by themselves.  A batcher's
routine takes the lock of the call for a batch.  A removal, batched or not, looks for
sessions that are left of its call, and if there are none it takes the batchers of the
channel whose queue is empty out of the maps and has them stopped.

Each of these is a step of its own.  What is read elsewhere, and what may fail, is
answered in every way.  Locks have one holder; others may take them at any time.
-/

namespace CallsPlugin.Ports

open CallsPlugin.Verified

/-- `p.addSessionsBatchers` and `p.removeSessionsBatchers` -/
inductive BatcherMap where
  | addSessions
  | removeSessions
  deriving DecidableEq, Repr

/-- An entry of one of the maps. -/
structure BatcherKey where
  map : BatcherMap
  channelID : String
  deriving DecidableEq, Repr

/-- A session object of the node: `ref` tells it from others for the same row.  A
connection that joins again has another row, and counts as another. -/
structure SessionRef where
  ref : Nat
  channelID : String
  originalConnID : String
  deriving DecidableEq, Repr

/-- What a goroutine is to do. -/
inductive BatchRequest where
  | handleJoin (channelID : String)
  | removeSession (us : SessionRef)
  deriving DecidableEq, Repr

/-- The entry of the batcher for a request. -/
def BatchRequest.key : BatchRequest → BatcherKey
  | .handleJoin channelID => ⟨.addSessions, channelID⟩
  | .removeSession us => ⟨.removeSessions, us.channelID⟩

/-- `minMembersCountForBatching` -/
def minMembersCountForBatching : Nat := 100

/-- `maxJoinLeaveOpsBatchSize` -/
def maxJoinLeaveOpsBatchSize : Nat := 1000

/-- The size of a new batcher. -/
def BatchRequest.batchSize (count : Nat) : BatchRequest → Nat
  | .handleJoin _ => min count maxJoinLeaveOpsBatchSize
  | .removeSession _ => count

/-! ## The state -/

/-- Who may hold a lock: a goroutine with a request, the routine of a batcher, or
others. -/
inductive BatchHolder (T : Type) where
  | routine (t : T)
  | batcher (b : Nat)
  | others
  deriving DecidableEq

/-- Where `addSessionToCall` or `removeSessionFromCall` is. -/
inductive BatchStage where
  | begin
  /-- `p.mut` is locked -/
  | locked
  /-- no session of the call is left: `addSessionsBatchers` is next -/
  | noneLeft
  /-- `removeSessionsBatchers` is next -/
  | addsDone
  | unlocking
  /-- `removeUserSession` -/
  | removing
  deriving DecidableEq, Repr

/-- What became of a request. -/
inductive BatchResult where
  | queued (b : Nat)
  | ran
  | alreadyRemoved
  | failed
  deriving DecidableEq, Repr

/-- Where a goroutine is. -/
inductive BatchPlace where
  | start
  /-- the members of the channel, or the sessions of the call, are counted -/
  | counting
  | wantsMut (count : Nat)
  | looking (count : Nat)
  | pushing (b : Nat)
  | returning (res : BatchResult)
  | wantsLock
  | direct (stage : BatchStage)
  | unlocking
  | done (res : BatchResult)
  deriving DecidableEq, Repr

/-- A batcher of the node. -/
structure PluginBatcher (T : Type) extends Batcher T where
  key : BatcherKey
  /-- where its item is -/
  stage : BatchStage
  /-- taken out of the map, and to be stopped -/
  detached : Bool

structure Batching (T : Type) where
  /-- `p.mut` -/
  pmut : Option (BatchHolder T)
  lock : String → Option (BatchHolder T)
  batcherOf : BatcherKey → Option Nat
  made : Nat
  batchers : Nat → PluginBatcher T
  place : T → BatchPlace
  /-- `us.removed` -/
  removed : SessionRef → Bool
  /-- the session has a row -/
  row : String → Bool

/-- What a step finds. -/
structure BatchAnswer where
  ok : Bool
  count : Nat
  deriving DecidableEq, Repr

/-- What happens next. -/
inductive BatchAction (T : Type) where
  | go (t : T) (a : BatchAnswer)
  | tick (b : Nat)
  | preRun (b : Nat) (ok : Bool)
  | receive (b : Nat)
  | work (b : Nat) (ok : Bool)
  | postRun (b : Nat)
  | stop (b : Nat)
  | exit (b : Nat)
  | othersMut
  | othersUnmut
  | othersLock (channelID : String)
  | othersUnlock (channelID : String)

namespace Batching

variable {T : Type} [DecidableEq T]

/-- Nothing has begun; `row` says which sessions have rows. -/
def initial (row : String → Bool) : Batching T where
  pmut := none
  lock _ := none
  batcherOf _ := none
  made := 0
  batchers _ := ⟨.new 0, ⟨.addSessions, ""⟩, .begin, false⟩
  place _ := .start
  removed _ := false
  row := row

def goto (s : Batching T) (t : T) (place : BatchPlace) : Batching T :=
  { s with place := Function.update s.place t place }

def set (s : Batching T) (b : Nat) (batcher : PluginBatcher T) : Batching T :=
  { s with batchers := Function.update s.batchers b batcher }

def setLock (s : Batching T) (channelID : String) (holder : Option (BatchHolder T)) :
    Batching T :=
  { s with lock := Function.update s.lock channelID holder }

/-- `newBatcher`, stored in the map and started. -/
def make (s : Batching T) (key : BatcherKey) (size : Nat) : Batching T :=
  { s with
    made := s.made + 1
    batcherOf := Function.update s.batcherOf key (some s.made)
    batchers := Function.update s.batchers s.made ⟨.new size, key, .begin, false⟩ }

/-- A batcher with an empty queue is taken out of the map; a goroutine will stop it. -/
def detach (s : Batching T) (key : BatcherKey) : Batching T :=
  match s.batcherOf key with
  | none => s
  | some b =>
      if (s.batchers b).empty then
        { s.set b { s.batchers b with detached := true } with
          batcherOf := Function.update s.batcherOf key none }
      else s

/-- A step of `addSessionToCall` or `removeSessionFromCall`, under the lock of the call;
`none` for the stage means that it returns. -/
def work (s : Batching T) (holder : BatchHolder T) (req : BatchRequest) (ok : Bool) :
    BatchStage → Option (Batching T × Option BatchStage)
  | .begin =>
      match req, ok with
      -- the session is refused
      | .handleJoin _, false => some (s, none)
      | _, _ => if s.pmut = none then some ({ s with pmut := some holder },
          some .locked) else none
  | .locked =>
      match req, ok with
      | .removeSession _, false => some (s, some .noneLeft)
      | _, _ => some (s, some .unlocking)
  | .noneLeft => some (s.detach ⟨.addSessions, req.key.channelID⟩, some .addsDone)
  | .addsDone => some (s.detach ⟨.removeSessions, req.key.channelID⟩, some .unlocking)
  | .unlocking =>
      match req with
      | .handleJoin _ => some ({ s with pmut := none }, none)
      | .removeSession _ => some ({ s with pmut := none }, some .removing)
  | .removing =>
      match req with
      | .handleJoin _ => none
      | .removeSession us =>
          some (if ok then { s with
            row := Function.update s.row us.originalConnID false } else s,
            none)

/-- A step of `handleJoin` or `removeSession`. -/
def go (req : T → BatchRequest) (s : Batching T) (t : T) (a : BatchAnswer) :
    Option (Batching T) :=
  match s.place t with
  | .start =>
      match req t with
      | .handleJoin _ => some (s.goto t .counting)
      | .removeSession us =>
          if s.removed us then some (s.goto t (.done .alreadyRemoved))
          else some { s.goto t .counting with
            removed := Function.update s.removed us true }
  | .counting => some (s.goto t (.wantsMut a.count))
  | .wantsMut count =>
      if s.pmut = none then
        some { s.goto t (.looking count) with pmut := some (.routine t) } else none
  | .looking count =>
      match s.batcherOf (req t).key with
      | some b => some (s.goto t (.pushing b))
      | none =>
          if count < minMembersCountForBatching then
            some { s.goto t .wantsLock with pmut := none }
          else if a.ok then
            some ((s.make (req t).key ((req t).batchSize count)).goto t
              (.pushing s.made))
          else some (s.goto t (.returning .failed))
  | .pushing b =>
      match (s.batchers b).push t with
      | some batcher =>
          some ((s.set b { s.batchers b with toBatcher := batcher }).goto t
            (.returning (.queued b)))
      | none => some (s.goto t (.returning .failed))
  | .returning res => some { s.goto t (.done res) with pmut := none }
  | .wantsLock =>
      if a.ok then
        if s.lock (req t).key.channelID = none then
          some ((s.setLock (req t).key.channelID (some (.routine t))).goto t
            (.direct .begin))
        else none
      else some (s.goto t (.done .failed))
  | .direct stage =>
      match s.work (.routine t) (req t) a.ok stage with
      | some (s, some stage) => some (s.goto t (.direct stage))
      | some (s, none) => some (s.goto t .unlocking)
      | none => none
  | .unlocking => some ((s.setLock (req t).key.channelID none).goto t (.done .ran))
  | .done _ => none

/-- A step of the routine of a batcher, on the batcher alone. -/
def onBatcher (s : Batching T) (b : Nat) (f : Batcher T → Option (Batcher T)) :
    Option (Batching T) :=
  (f (s.batchers b).toBatcher).map fun batcher =>
    s.set b { s.batchers b with toBatcher := batcher }

/-- A step of the item that a batcher runs. -/
def item (req : T → BatchRequest) (s : Batching T) (b : Nat) (ok : Bool) :
    Option (Batching T) :=
  match (s.batchers b).phase with
  | .item t _ =>
      match s.work (.batcher b) (req t) ok (s.batchers b).stage with
      | some (s, some stage) => some (s.set b { s.batchers b with stage := stage })
      | some (s, none) => s.onBatcher b Batcher.returns
      | none => none
  | _ => none

def next (req : T → BatchRequest) (s : Batching T) : BatchAction T → Option (Batching T)
  | .go t a => s.go req t a
  | .tick b => s.onBatcher b Batcher.tick
  | .preRun b true =>
      -- the lock of the call is taken, and the state read
      if s.lock (s.batchers b).key.channelID = none then
        (s.onBatcher b (Batcher.preRun · true)).map
          (·.setLock (s.batchers b).key.channelID (some (.batcher b)))
      else none
  | .preRun b false => s.onBatcher b (Batcher.preRun · false)
  | .receive b =>
      (s.set b { s.batchers b with stage := .begin }).onBatcher b Batcher.receive
  | .work b ok => s.item req b ok
  | .postRun b =>
      (s.onBatcher b Batcher.postRun).map (·.setLock (s.batchers b).key.channelID none)
  | .stop b =>
      if (s.batchers b).detached = true ∧ (s.batchers b).stopping = false then
        s.onBatcher b fun batcher => some batcher.stop
      else none
  | .exit b => s.onBatcher b Batcher.exit
  | .othersMut => if s.pmut = none then some { s with pmut := some .others } else none
  | .othersUnmut => if s.pmut = some .others then some { s with pmut := none } else none
  | .othersLock channelID =>
      if s.lock channelID = none then some (s.setLock channelID (some .others))
      else none
  | .othersUnlock channelID =>
      if s.lock channelID = some .others then some (s.setLock channelID none) else none

/-- Joins and removals with their batchers. -/
def machine (req : T → BatchRequest) : Machine (Batching T) (BatchAction T) where
  Enabled s a := (s.next req a).isSome = true
  step s a := (s.next req a).getD s

instance (req : T → BatchRequest) (s : Batching T) (a : BatchAction T) :
    Decidable ((machine req).Enabled s a) :=
  inferInstanceAs (Decidable ((s.next req a).isSome = true))

end Batching

end CallsPlugin.Ports
