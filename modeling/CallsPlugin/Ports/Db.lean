import CallsPlugin.Verified.Table
import CallsPlugin.Ports.Public
import Mathlib.Data.List.Sort

/-!
# The store (`server/db`)

The three tables and the queries the plugin issues on them.  `StoreOp` names
one store method call; `StoreOp.exec` is its effect on a working database,
including the refusals that do not depend on the connection: a row that is not
valid, and a primary key that is taken.  A call that the database itself fails
has no effect; that case belongs to `Ports.Plugin`, where it is a choice.
-/

namespace CallsPlugin.Ports.Db

open CallsPlugin.Verified
open CallsPlugin.Ports.Public

/-- The tables `calls`, `calls_sessions` and `calls_jobs`. -/
structure Store where
  calls : Table Call.id
  sessions : Table CallSession.id
  jobs : Table CallJob.id
  deriving DecidableEq

/-- A call row that `GetCallActive` and its siblings select. -/
def Active (c : Call) : Prop := c.endAt = 0 ∧ c.startAt > 0 ∧ c.deleteAt = 0

instance (c : Call) : Decidable (Active c) := by unfold Active; infer_instance

/-- `ORDER BY StartAt DESC, ID` -/
def byStartAt (a b : Call) : Prop :=
  b.startAt < a.startAt ∨ (a.startAt = b.startAt ∧ a.id ≤ b.id)

instance : DecidableRel byStartAt := fun a b => by unfold byStartAt; infer_instance

/-- `ORDER BY StartAt DESC, ID` on jobs -/
def jobByStartAt (a b : CallJob) : Prop :=
  b.startAt < a.startAt ∨ (a.startAt = b.startAt ∧ a.id ≤ b.id)

instance : DecidableRel jobByStartAt :=
  fun a b => by unfold jobByStartAt; infer_instance

namespace Store

/-! ## Reads -/

/-- `GetCall`; `none` is `ErrNotFound`. -/
def getCall (s : Store) (callID : String) : Option Call := s.calls.find? callID

/-- `GetActiveCallByChannelID`; `none` is `ErrNotFound`. -/
def getActiveCallByChannelID (s : Store) (channelID : String) : Option Call :=
  ((s.calls.select fun c => c.channelID = channelID ∧ Active c).insertionSort
    byStartAt).head?

/-- `GetAllActiveCalls` -/
def getAllActiveCalls (s : Store) : List Call :=
  (s.calls.select fun c => Active c).insertionSort byStartAt

/-- `GetCallSessions` -/
def getCallSessions (s : Store) (callID : String) : Table CallSession.id :=
  s.sessions.filter fun r => r.callID = callID

/-- `GetCallSessionsCount` -/
def getCallSessionsCount (s : Store) (callID : String) : Nat :=
  (s.sessions.select fun r => r.callID = callID).length

/-- `GetActiveCallJobs`: of several active jobs of one type, the first. -/
def getActiveCallJobs (s : Store) (callID : String) (type : JobType) : Option CallJob :=
  ((s.jobs.select fun j => j.callID = callID ∧ j.endAt = 0).insertionSort
    jobByStartAt).find? fun j => j.type = type

/-- What the query for the active call of a channel finds. -/
theorem getActiveCallByChannelID_eq_some {s : Store} {channelID : String} {c : Call}
    (h : s.getActiveCallByChannelID channelID = some c) :
    c ∈ s.calls ∧ c.channelID = channelID ∧ Active c := by
  have hm := List.mem_of_mem_head? (Option.mem_def.2 h)
  rw [List.mem_insertionSort, Table.mem_select] at hm
  simpa using hm

/-- The query finds nothing only if there is nothing. -/
theorem getActiveCallByChannelID_eq_none {s : Store} {channelID : String} :
    s.getActiveCallByChannelID channelID = none ↔
      ∀ c ∈ s.calls, c.channelID = channelID → ¬ Active c := by
  have hlen := List.length_insertionSort byStartAt
    (s.calls.select fun c => c.channelID = channelID ∧ Active c)
  rw [getActiveCallByChannelID, List.head?_eq_none_iff, ← List.length_eq_zero_iff, hlen,
    List.length_eq_zero_iff, List.eq_nil_iff_forall_not_mem]
  simp only [Table.mem_select, decide_eq_true_eq, not_and]

/-- What the query for the active jobs of a call finds. -/
theorem getActiveCallJobs_eq_some {s : Store} {callID : String} {type : JobType}
    {j : CallJob} (h : s.getActiveCallJobs callID type = some j) :
    j ∈ s.jobs ∧ j.callID = callID ∧ j.endAt = 0 ∧ j.type = type := by
  have ht := List.find?_some h
  have hm := List.mem_of_find?_eq_some h
  rw [List.mem_insertionSort, Table.mem_select] at hm
  simpa [and_assoc] using And.intro hm ht

theorem getActiveCallJobs_eq_none {s : Store} {callID : String} {type : JobType} :
    s.getActiveCallJobs callID type = none ↔
      ∀ j ∈ s.jobs, j.callID = callID → j.endAt = 0 → j.type ≠ type := by
  rw [getActiveCallJobs, List.find?_eq_none]
  simp only [List.mem_insertionSort, Table.mem_select, decide_eq_true_eq, and_imp]

@[simp] theorem mem_getCallSessions {s : Store} {callID : String} {r : CallSession} :
    r ∈ s.getCallSessions callID ↔ r ∈ s.sessions ∧ r.callID = callID := by
  simp [getCallSessions]

/-! ## Writes -/

/-- The columns `UpdateCall` sets. -/
def setCall (row c : Call) : Call :=
  { row with
    endAt := c.endAt
    deleteAt := c.deleteAt
    threadID := c.threadID
    postID := c.postID
    participants := c.participants
    stats := c.stats
    props := c.props }

/-- The columns `UpdateCallSession` sets. -/
def setSession (row r : CallSession) : CallSession :=
  { row with unmuted := r.unmuted, raisedHand := r.raisedHand, video := r.video }

/-- The columns `UpdateCallJob` sets. -/
def setJob (row j : CallJob) : CallJob :=
  { row with startAt := j.startAt, endAt := j.endAt, props := j.props }

theorem setCall_id (row c : Call) : (setCall row c).id = row.id := rfl

theorem setSession_id (row r : CallSession) : (setSession row r).id = row.id := rfl

theorem setJob_id (row j : CallJob) : (setJob row j).id = row.id := rfl

/-- The statement of `UpdateCall`. -/
def updateCall (s : Store) (c : Call) : Store :=
  { s with calls := s.calls.modify c.id (setCall · c) (setCall_id · c) }

/-- The statement of `UpdateCallSession`. -/
def updateCallSession (s : Store) (r : CallSession) : Store :=
  { s with sessions := s.sessions.modify r.id (setSession · r) (setSession_id · r) }

/-- The statement of `UpdateCallJob`. -/
def updateCallJob (s : Store) (j : CallJob) : Store :=
  { s with jobs := s.jobs.modify j.id (setJob · j) (setJob_id · j) }

/-- `DeleteCallSession` -/
def deleteCallSession (s : Store) (id : String) : Store :=
  { s with sessions := s.sessions.erase id }

/-- `DeleteCallsSessions` -/
def deleteCallsSessions (s : Store) (callID : String) : Store :=
  { s with sessions := s.sessions.filter fun r => r.callID ≠ callID }

section Frame

variable {s : Store}

@[simp] theorem updateCall_sessions (c : Call) :
    (s.updateCall c).sessions = s.sessions := rfl

@[simp] theorem updateCall_jobs (c : Call) : (s.updateCall c).jobs = s.jobs := rfl

@[simp] theorem updateCallSession_calls (r : CallSession) :
    (s.updateCallSession r).calls = s.calls := rfl

@[simp] theorem updateCallSession_jobs (r : CallSession) :
    (s.updateCallSession r).jobs = s.jobs := rfl

@[simp] theorem updateCallJob_calls (j : CallJob) :
    (s.updateCallJob j).calls = s.calls := rfl

@[simp] theorem updateCallJob_sessions (j : CallJob) :
    (s.updateCallJob j).sessions = s.sessions := rfl

@[simp] theorem deleteCallSession_calls (id : String) :
    (s.deleteCallSession id).calls = s.calls := rfl

@[simp] theorem deleteCallSession_jobs (id : String) :
    (s.deleteCallSession id).jobs = s.jobs := rfl

@[simp] theorem deleteCallsSessions_calls (callID : String) :
    (s.deleteCallsSessions callID).calls = s.calls := rfl

@[simp] theorem deleteCallsSessions_jobs (callID : String) :
    (s.deleteCallsSessions callID).jobs = s.jobs := rfl

/-- A row after `UpdateCall` is an old row, or the one it was about. -/
theorem mem_updateCall {c x : Call} : x ∈ (s.updateCall c).calls ↔
    ∃ r ∈ s.calls, (if r.id = c.id then setCall r c else r) = x :=
  Table.mem_modify (setCall_id · c)

theorem mem_updateCallSession {r x : CallSession} :
    x ∈ (s.updateCallSession r).sessions ↔
    ∃ y ∈ s.sessions, (if y.id = r.id then setSession y r else y) = x :=
  Table.mem_modify (setSession_id · r)

theorem mem_updateCallJob {j x : CallJob} : x ∈ (s.updateCallJob j).jobs ↔
    ∃ r ∈ s.jobs, (if r.id = j.id then setJob r j else r) = x :=
  Table.mem_modify (setJob_id · j)

@[simp] theorem mem_deleteCallSession {id : String} {x : CallSession} :
    x ∈ (s.deleteCallSession id).sessions ↔ x ∈ s.sessions ∧ x.id ≠ id :=
  Table.mem_erase

@[simp] theorem mem_deleteCallsSessions {callID : String} {x : CallSession} :
    x ∈ (s.deleteCallsSessions callID).sessions ↔ x ∈ s.sessions ∧
    x.callID ≠ callID := by
  simp [deleteCallsSessions]

end Frame

end Store

/-! ## Store calls -/

/-- One call of a store method. -/
inductive StoreOp where
  | getCall (callID : String)
  | getActiveCallByChannelID (channelID : String)
  | getAllActiveCalls
  | getCallSessions (callID : String)
  | getCallSessionsCount (callID : String)
  | getActiveCallJobs (callID : String)
  | createCall (c : Call)
  | updateCall (c : Call)
  | createCallSession (r : CallSession)
  | updateCallSession (r : CallSession)
  | deleteCallSession (id : String)
  | deleteCallsSessions (callID : String)
  | createCallJob (j : CallJob)
  | updateCallJob (j : CallJob)
  deriving DecidableEq

/-- What a call returns when it succeeds. -/
@[reducible]
def StoreOp.Result : StoreOp → Type
  | .getCall _ => Option Call
  | .getActiveCallByChannelID _ => Option Call
  | .getAllActiveCalls => List Call
  | .getCallSessions _ => Table CallSession.id
  | .getCallSessionsCount _ => Nat
  | .getActiveCallJobs _ => JobType → Option CallJob
  | _ => Unit

/-- The call writes. -/
def StoreOp.isWrite : StoreOp → Bool
  | .createCall _ => true
  | .updateCall _ => true
  | .createCallSession _ => true
  | .updateCallSession _ => true
  | .deleteCallSession _ => true
  | .deleteCallsSessions _ => true
  | .createCallJob _ => true
  | .updateCallJob _ => true
  | _ => false

/-- `INSERT` behind a validity check. -/
def insertRow {ρ : Type} {key : ρ → String} (what : String) (valid : Except String Unit)
    (t : Table key) (r : ρ) : Except String (Table key) :=
  match valid with
  | .error e => .error ("invalid " ++ what ++ ": " ++ e)
  | .ok _ =>
      match t.insert? r with
      | none =>
          .error "failed to run query: duplicate key value violates unique constraint"
      | some t' => .ok t'

/-- The effect of a store call on a working database. -/
def StoreOp.exec (s : Store) : (o : StoreOp) → Except String o.Result × Store
  | .getCall callID => (.ok (s.getCall callID), s)
  | .getActiveCallByChannelID channelID =>
      (.ok (s.getActiveCallByChannelID channelID), s)
  | .getAllActiveCalls => (.ok s.getAllActiveCalls, s)
  | .getCallSessions callID => (.ok (s.getCallSessions callID), s)
  | .getCallSessionsCount callID => (.ok (s.getCallSessionsCount callID), s)
  | .getActiveCallJobs callID => (.ok (s.getActiveCallJobs callID), s)
  | .createCall c =>
      match insertRow "call" c.isValid s.calls c with
      | .error e => (.error e, s)
      | .ok t => (.ok (), { s with calls := t })
  | .updateCall c =>
      match c.isValid with
      | .error e => (.error ("invalid call: " ++ e), s)
      | .ok _ => (.ok (), s.updateCall c)
  | .createCallSession r =>
      match insertRow "call session" r.isValid s.sessions r with
      | .error e => (.error e, s)
      | .ok t => (.ok (), { s with sessions := t })
  | .updateCallSession r =>
      match r.isValid with
      | .error e => (.error ("invalid call session: " ++ e), s)
      | .ok _ => (.ok (), s.updateCallSession r)
  | .deleteCallSession id => (.ok (), s.deleteCallSession id)
  | .deleteCallsSessions callID => (.ok (), s.deleteCallsSessions callID)
  | .createCallJob j =>
      match insertRow "call job" j.isValid s.jobs j with
      | .error e => (.error e, s)
      | .ok t => (.ok (), { s with jobs := t })
  | .updateCallJob j =>
      match j.isValid with
      | .error e => (.error ("invalid call job: " ++ e), s)
      | .ok _ => (.ok (), s.updateCallJob j)

/-- A read leaves the store alone. -/
theorem StoreOp.exec_read {o : StoreOp} (ho : o.isWrite = false) (s : Store) :
    (o.exec s).2 = s := by
  cases o <;> first | rfl | cases ho

/-- A store call that returns an error had no effect. -/
theorem StoreOp.exec_error {s : Store} {o : StoreOp} {e : String}
    (h : (o.exec s).1 = .error e) : (o.exec s).2 = s := by
  cases o <;> simp only [StoreOp.exec] at h ⊢
  all_goals first | (split at h <;> first | rfl | cases h) | cases h

end CallsPlugin.Ports.Db
