import CallsPlugin.Verified.Log
import CallsPlugin.Ports.WebSocketClient

/-!
# Where the client asks to resume

A new socket names the connection it continues and the number of the event it
wants next.  `serverSeqNo` is to be that number: one more than the number of
the last event on the connection, or zero.

A frame that has no number of its own spoils it unless it is the pong the
client waits for: a reply to another request, or a pong that comes late, leaves
`NaN` until the next event.  The socket asks for the right position exactly if
it is not made in between.
-/

namespace CallsPlugin.Ports.Client

open CallsPlugin.Verified

/-! ## What the frames received amount to -/

/-- The connection and the last event on it, after the hello that assigned it. -/
structure Position where
  connID : String
  last : Option Int
  deriving DecidableEq, Repr

namespace Position

/-- No connection was assigned. -/
def start : Position := ⟨"", none⟩

/-- The number of the next event. -/
def next (p : Position) : Int := p.last.elim 0 fun seq => seq + 1

/-- A frame comes in. -/
def after (p : Position) (m : Msg) : Position :=
  match m.event, m.seq with
  | some (.hello connectionID), seq =>
      if connectionID ≠ p.connID then ⟨connectionID, none⟩ else { p with last := seq }
  | _, some seq => { p with last := some seq }
  | _, none => p

end Position

/-- The frames of a log. -/
def frames (log : List Entry) : List (Msg × Bool) :=
  log.filterMap fun
    | .received m awaited => some (m, awaited)
    | _ => none

/-- The position that the frames of a log leave. -/
def position (log : List Entry) : Position :=
  (frames log).foldl (fun p frame => p.after frame.1) .start

/-- The last frame, the pongs that were waited for aside, had no number. -/
def spoiled (log : List Entry) : Bool :=
  (frames log).foldl (fun spoiled frame =>
    if frame.2 then spoiled else frame.1.seq.isNone) false

/-- After `before`, a socket that is made asks for the next event. -/
def Resumes (before : List Entry) : Entry → Prop
  | .connecting _ sequenceNumber => sequenceNumber = .int (position before).next
  | _ => True

/-- After `before`, a socket that is made is not made while the position is spoiled. -/
def Unspoiled (before : List Entry) : Entry → Prop
  | .connecting _ _ => spoiled before = false
  | _ => True

/-- What `serverSeqNo` is after `log`. -/
def tracked (log : List Entry) : Num :=
  if spoiled log then .nan else .int (position log).next

/-- After `before`, a socket that is made has the number of the client. -/
def Tracks (before : List Entry) : Entry → Prop
  | .connecting _ sequenceNumber => sequenceNumber = tracked before
  | _ => True

theorem tracked_eq_next {log : List Entry} :
    tracked log = .int (position log).next ↔ spoiled log = false := by
  unfold tracked
  cases spoiled log <;> simp

/-! ### Entries that are no frames -/

theorem frames_append (log log' : List Entry) :
    frames (log ++ log') = frames log ++ frames log' :=
  List.filterMap_append

theorem position_received (log : List Entry) (m : Msg) (awaited : Bool) :
    position (log ++ [.received m awaited]) = (position log).after m := by
  unfold position
  rw [frames_append, List.foldl_append]
  rfl

theorem spoiled_received (log : List Entry) (m : Msg) (awaited : Bool) :
    spoiled (log ++ [.received m awaited]) =
    if awaited then spoiled log else m.seq.isNone := by
  unfold spoiled
  rw [frames_append, List.foldl_append]
  rfl

/-- No frame comes in between. -/
structure SameFrames (log log' : List Entry) : Prop where
  position : position log' = position log
  tracked : tracked log' = tracked log

theorem SameFrames.of_frames {log log' : List Entry} (h : frames log' = frames log) :
    SameFrames log log' := by
  have hposition : Client.position log' = Client.position log := by
    unfold Client.position
    rw [h]
  have hspoiled : spoiled log' = spoiled log := by
    unfold spoiled
    rw [h]
  refine ⟨hposition, ?_⟩
  unfold Client.tracked
  rw [hposition, hspoiled]

theorem SameFrames.concat (log : List Entry) {e : Entry}
    (he : ∀ m awaited, e ≠ .received m awaited) :
    SameFrames log (log ++ [e]) := by
  refine .of_frames ?_
  have hnone : frames [e] = [] := by
    cases e with
    | received m awaited => exact absurd rfl (he m awaited)
    | _ => rfl
  rw [frames_append, hnone, List.append_nil]

theorem SameFrames.of_quiet {b b' : Browser} (h : Quiet b b') :
    SameFrames b.log b'.log := by
  refine .of_frames ?_
  obtain ⟨es, hlog, hes⟩ := h.log
  have hnone : frames es = [] := by
    refine List.filterMap_eq_nil_iff.2 fun e he => ?_
    have hplain := hes e he
    cases e <;> first | rfl | exact absurd hplain (by simp [Entry.plain])
  rw [hlog, frames_append, hnone, List.append_nil]

/-! ## The invariant -/

/-- What holds of a client between two callbacks. -/
structure Tracked (b : Browser) : Prop where
  connID : b.connID = (position b.log).connID
  serverSeqNo : b.serverSeqNo = tracked b.log
  urls : Each Tracks b.log

namespace Tracked

variable {b b' : Browser}

theorem quiet (h : Tracked b) (hq : Quiet b b') : Tracked b' where
  connID := by rw [hq.connID, (SameFrames.of_quiet hq).position]; exact h.connID
  serverSeqNo := by
    rw [hq.serverSeqNo, (SameFrames.of_quiet hq).tracked]; exact h.serverSeqNo
  urls := by
    obtain ⟨es, hlog, hes⟩ := hq.log
    rw [hlog]
    refine h.urls.append fun e he before => ?_
    have hplain := hes e he
    cases e <;> first | exact trivial | exact absurd hplain (by simp [Entry.plain])

/-- The sockets do not matter. -/
theorem modify (h : Tracked b) (i : Nat) (f : Socket → Socket) :
    Tracked (b.modify i f) :=
  ⟨h.connID, h.serverSeqNo, h.urls⟩

/-- An entry that is no frame. -/
theorem record (h : Tracked b) {e : Entry}
    (hframe : ∀ m awaited, e ≠ .received m awaited)
    (he : Tracks b.log e) : Tracked (b.record e) where
  connID := h.connID.trans
    (congrArg Position.connID (SameFrames.concat b.log hframe).position.symm)
  serverSeqNo := h.serverSeqNo.trans (SameFrames.concat b.log hframe).tracked.symm
  urls := h.urls.concat he

theorem emitOpen (h : Tracked b) (isReconnect : Bool) :
    Tracked (b.emitOpen isReconnect) :=
  (h.record (e := .open _ _ isReconnect) (fun _ _ => nofun) trivial).quiet
    (.emitOpen b isReconnect)

/-- **A socket is made**: it asks for the position the client has. -/
theorem init (h : Tracked b) (isReconnect : Bool) : Tracked (b.init isReconnect) := by
  unfold Browser.init
  split
  · exact h
  · have hmade : Tracked
        { b with sockets := b.sockets ++ [⟨isReconnect, .connecting, true, false⟩] } :=
      ⟨h.connID, h.serverSeqNo, h.urls⟩
    exact hmade.record (fun _ _ => nofun) h.serverSeqNo

theorem onopen (h : Tracked b) (isReconnect : Bool) :
    Tracked (b.onopen isReconnect) := by
  cases isReconnect with
  | false => exact h.quiet (.onopen_first b)
  | true =>
    obtain ⟨b₁, hq, hq'⟩ := Quiet.onopen_replaced b
    have h₁ : Tracked b₁ := h.quiet hq
    exact (h₁.record (e := .open _ _ true) (fun _ _ => nofun) trivial).quiet hq'

/-- The client takes over the id of a hello whose frame is in the log. -/
theorem takeConnID {m : Msg} {id : String} (hurls : Each Tracks b.log)
    (hnew : id ≠ b.connID → (position b.log).connID = id ∧ tracked b.log = .int 0)
    (hsame : id = b.connID → (position b.log).connID = id ∧
      tracked b.log = b.serverSeqNo) :
    Tracked (b.takeConnID m id) := by
  unfold Browser.takeConnID
  by_cases hid : id ≠ b.connID
  · rw [if_pos hid]
    obtain ⟨hposition, htracked⟩ := hnew hid
    have hlogged := SameFrames.concat b.log (e := .event m) (fun _ _ => nofun)
    have hevent : Tracks b.log (.event m) := trivial
    exact ⟨hposition.symm.trans (congrArg Position.connID hlogged.position.symm),
      htracked.symm.trans hlogged.tracked.symm, hurls.concat hevent⟩
  · rw [if_neg hid]
    obtain ⟨hposition, htracked⟩ := hsame (not_not.1 hid)
    exact ⟨(not_not.1 hid).symm.trans hposition.symm, htracked.symm, hurls⟩

/-- **A frame comes in.** -/
theorem onframe (h : Tracked b) (isReconnect : Bool) {m : Msg}
    (hform : m.wellFormed = true) :
    Tracked (b.onframe isReconnect m) := by
  have hurls : ∀ awaited, Each Tracks (b.log ++ [.received m awaited]) := fun _ =>
    h.urls.concat trivial
  unfold Browser.onframe
  dsimp only
  cases hawaits : b.awaits m with
  | true =>
    -- a pong has no number and leaves everything as it is
    have hreply : m.seqReply.isSome = true := by
      simp only [Browser.awaits, Bool.and_eq_true, decide_eq_true_eq] at hawaits
      rw [hawaits.2]
      rfl
    obtain ⟨hseq, hevent⟩ : m.seq = none ∧ m.event = none := by
      simpa [Msg.wellFormed, hreply] using hform
    have hafter : (position b.log).after m = position b.log := by
      simp [Position.after, hevent, hseq]
    have hsame : SameFrames b.log (b.log ++ [.received m true]) := by
      refine ⟨(position_received ..).trans hafter, ?_⟩
      unfold Client.tracked
      rw [position_received, spoiled_received, hafter]
      rfl
    rw [if_pos rfl]
    exact ⟨h.connID.trans (congrArg Position.connID hsame.position.symm),
      h.serverSeqNo.trans hsame.tracked.symm, hurls true⟩
  | false =>
    rw [if_neg Bool.false_ne_true]
    have hposition := position_received b.log m false
    have htracked : tracked (b.log ++ [.received m false]) =
        if m.seq.isNone then .nan else .int ((position b.log).after m).next := by
      unfold Client.tracked
      rw [hposition, spoiled_received, if_neg Bool.false_ne_true]
    have hnumber : ∀ e, m.event = some e → ∃ seq, m.seq = some seq := by
      intro e hevent
      cases hreply : m.seqReply with
      | none =>
          exact Option.isSome_iff_exists.1
            (by simpa [Msg.wellFormed, hreply] using hform)
      | some n => simp [Msg.wellFormed, hreply, hevent] at hform
    cases hevent : m.event with
    | none =>
      refine ⟨?_, ?_, hurls false⟩
      · show b.connID = (position (b.log ++ [_])).connID
        rw [hposition, h.connID]
        cases hseq : m.seq <;> simp [Position.after, hevent, hseq]
      · show addOne m.seq = tracked (b.log ++ [_])
        rw [htracked]
        cases hseq : m.seq <;>
          simp [Position.after, Position.next, addOne, hevent, hseq]
    | some e =>
      obtain ⟨seq, hseq⟩ := hnumber e hevent
      cases e with
      | other event connID data =>
        have hother : Tracked
            { b.record (.received m false) with serverSeqNo := addOne m.seq } := by
          refine ⟨?_, ?_, hurls false⟩
          · show b.connID = (position (b.log ++ [_])).connID
            rw [hposition, h.connID]
            simp [Position.after, hevent, hseq]
          · show addOne m.seq = tracked (b.log ++ [_])
            rw [htracked]
            simp [Position.after, Position.next, addOne, hevent, hseq]
        exact hother.quiet (.onevent _ m event connID data)
      | hello id =>
        have htaken : Tracked
            (Browser.takeConnID
              { b.record (.received m false) with serverSeqNo := addOne m.seq } m
                    id) := by
          refine .takeConnID (hurls false) (fun hnew => ?_) fun hid => ?_
          · have hnew : id ≠ (position b.log).connID := h.connID ▸ hnew
            show (position (b.log ++ [_])).connID = id ∧ tracked (b.log ++ [_]) = _
            rw [htracked, hposition]
            simp [Position.after, Position.next, hevent, hseq, hnew]
          · have hid : id = (position b.log).connID := h.connID ▸ hid
            show (position (b.log ++ [_])).connID = id ∧
              tracked (b.log ++ [_]) = addOne m.seq
            rw [htracked, hposition]
            simp [Position.after, Position.next, addOne, hevent, hseq, hid]
        show Tracked (Browser.onhello _ isReconnect m id)
        unfold Browser.onhello
        cases isReconnect with
        | true => exact htaken
        | false => exact htaken.emitOpen false

/-- **One callback.** -/
theorem step (h : Tracked b) (a : Callback) (hen : machine.Enabled b a) :
    Tracked (machine.step b a) := by
  cases a with
  | opened i => exact (h.modify i _).onopen _
  | errored i => exact h.quiet (.record b rfl)
  | closed i code now =>
    show Tracked (if _ then _ else _)
    split
    · exact (h.modify i _).quiet (.closeHandler _ code now)
    · exact h.modify i _
  | message i data =>
    cases data with
    | msg m => exact (h.modify i _).onframe _ hen.1
    | empty => exact h.modify i _
    | malformed => exact h.modify i _
    | null => exact h.modify i _
  | pingTimer now =>
    show Tracked (b.onPingTimer now)
    unfold Browser.onPingTimer
    split
    · exact (h.modify _ _).quiet (.closeHandler _ 4000 now)
    · exact h.quiet (.ping b)
  | reconnectTimer =>
    have htimer : Tracked { b with timers := b.timers.tail } :=
      ⟨h.connID, h.serverSeqNo, h.urls⟩
    show Tracked (if b.closed = true then _ else _)
    split
    · exact htimer
    · exact htimer.init true
  | send action => exact h.quiet (.send b _)

theorem new (authToken : String) : Tracked (new authToken) :=
  init (b := { authToken := authToken }) ⟨rfl, rfl, Each.nil⟩ false

end Tracked

/-! ## Runs -/

/-- **Where the client asks to resume**: in every run, every socket made so far asked
for the next event exactly if none was made while the position was spoiled. -/
theorem resumes_iff (authToken : String) {b : Browser}
    (hr : machine.Runs Machine.Always (new authToken) b) :
    Each Resumes b.log ↔ Each Unspoiled b.log := by
  have htracked : Tracked b := hr.inv (.new authToken)
    fun _ a hen _ h => h.step a hen
  constructor
  · intro h before e after hlog
    have htracks := htracked.urls before e after hlog
    have hresumes := h before e after hlog
    cases e with
    | connecting connectionID sequenceNumber =>
      exact tracked_eq_next.1 (htracks.symm.trans hresumes)
    | _ => exact trivial
  · intro h before e after hlog
    have htracks := htracked.urls before e after hlog
    have hunspoiled := h before e after hlog
    cases e with
    | connecting connectionID sequenceNumber =>
      exact htracks.trans (tracked_eq_next.2 hunspoiled)
    | _ => exact trivial

/-- The client authenticates; the reply to the challenge is the last frame before the
socket is lost. -/
def authenticated : List Callback :=
  [.opened 0, .message 0 (.msg ⟨some 0, none, some (.hello "a")⟩),
    .message 0 (.msg ⟨none, some 1, none⟩), .closed 0 1006 5, .reconnectTimer]

/-- The new socket asks for `NaN`. -/
theorem resumes_authenticated : ∃ b, machine.Runs Machine.Always (new "token") b ∧
    .connecting "a" .nan ∈ b.log ∧ ¬Each Resumes b.log := by
  have hleads : (machine.leads (fun _ _ => true) (new "token") authenticated).map
      (fun b => decide (.connecting "a" .nan ∈ b.log)) = some true := by decide
  obtain ⟨b, hr, hb⟩ := Machine.Runs.exists_of_leads
    (fun b a _ => (trivial : Machine.Always b a)) hleads
  have hmade : .connecting "a" .nan ∈ b.log := of_decide_eq_true hb
  refine ⟨b, hr, hmade, fun h => ?_⟩
  obtain ⟨before, after, hlog⟩ := List.append_of_mem hmade
  have hresumes : Num.nan = .int (position before).next := h before _ after hlog
  cases hresumes

/-- With an event before the socket is lost, the new one asks for the event after it. -/
theorem resumes_of_event : ∃ b, machine.Runs Machine.Always (new "token") b ∧
    .connecting "a" (.int 4) ∈ b.log ∧ (Each Resumes b.log ↔ Each Unspoiled b.log) := by
  have hleads : (machine.leads (fun _ _ => true) (new "token")
      [.opened 0, .message 0 (.msg ⟨some 0, none, some (.hello "a")⟩),
        .message 0 (.msg ⟨none, some 1, none⟩), .message 0 (.msg ⟨some 3, none, none⟩),
        .closed 0 1006 5, .reconnectTimer]).map
      (fun b => decide (.connecting "a" (.int 4) ∈ b.log)) = some true := by decide
  obtain ⟨b, hr, hb⟩ := Machine.Runs.exists_of_leads
    (fun b a _ => (trivial : Machine.Always b a)) hleads
  exact ⟨b, hr, of_decide_eq_true hb, resumes_iff "token" hr⟩

end CallsPlugin.Ports.Client
