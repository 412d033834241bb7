import CallsPlugin.Verified.Log
import CallsPlugin.Ports.WebSocketClient

/-!
# Joining and reconnecting

The client emits `open` once to join, at the first hello, and then once for
every socket that replaces another, to reconnect.  Whether an `open` joins or
reconnects is settled by the socket it is about: only the first one can join.

So a client whose first socket is lost before its hello never joins.  As long
as no socket but the first opens before there was a hello, the protocol is
kept.
-/

namespace CallsPlugin.Ports.Client

open CallsPlugin.Verified

/-! ## What a log says -/

/-- The connection id of a hello. -/
def Entry.hello : Entry → Option String
  | .received ⟨_, _, some (.hello id)⟩ _ => some id
  | _ => none

/-- The connection ids of the hellos received, in order. -/
def hellos (log : List Entry) : List String := log.filterMap Entry.hello

/-- The client joins. -/
def Entry.isJoin : Entry → Bool
  | .open _ _ false => true
  | _ => false

/-- The `open` events so far that join. -/
def joins (log : List Entry) : Nat := log.countP Entry.isJoin

@[simp] theorem hellos_append (log log' : List Entry) :
    hellos (log ++ log') = hellos log ++ hellos log' := List.filterMap_append

@[simp] theorem joins_append (log log' : List Entry) :
    joins (log ++ log') = joins log + joins log' :=
  List.countP_append

/-- After `before`, an `open` that reconnects carries the ids of the first and of the
last hello, and comes after the `open` that joins. -/
def Reconnects (before : List Entry) : Entry → Prop
  | .open originalConnID prevConnID true =>
      originalConnID ≠ "" ∧ (hellos before).head? = some originalConnID ∧
        (hellos before).getLast? = some prevConnID ∧ joins before = 1
  | _ => True

/-- **The protocol**: one `open` that joins, at the first hello, and then those that
reconnect. -/
structure JoinsOnce (log : List Entry) : Prop where
  joins : joins log = if hellos log = [] then 0 else 1
  reconnects : Each Reconnects log

/-! ### Plain entries -/

section Plain

variable {es : List Entry} (hes : ∀ e ∈ es, e.plain = true)

include hes

theorem hellos_plain : hellos es = [] := by
  refine List.filterMap_eq_nil_iff.2 fun e he => ?_
  have hplain := hes e he
  cases e <;> first | rfl | exact absurd hplain (by simp [Entry.plain])

theorem joins_plain : joins es = 0 := by
  refine List.countP_eq_zero.2 fun e he => ?_
  have hplain := hes e he
  cases e <;> first
    | exact Bool.false_ne_true
    | exact absurd hplain (by simp [Entry.plain])

theorem reconnects_plain {log : List Entry} (h : Each Reconnects log) :
    Each Reconnects (log ++ es) := by
  refine h.append fun e he before => ?_
  have hplain := hes e he
  cases e <;> first | exact trivial | exact absurd hplain (by simp [Entry.plain])

end Plain

namespace Quiet

variable {b b' : Browser}

theorem hellos_log (h : Quiet b b') : hellos b'.log = hellos b.log := by
  obtain ⟨es, hlog, hes⟩ := h.log
  rw [hlog, hellos_append, hellos_plain hes, List.append_nil]

theorem joinsOnce (h : Quiet b b') (hb : JoinsOnce b.log) : JoinsOnce b'.log := by
  obtain ⟨es, hlog, hes⟩ := h.log
  constructor
  · rw [h.hellos_log, hlog, joins_append, joins_plain hes]
    exact hb.joins
  · rw [hlog]
    exact reconnects_plain hes hb.reconnects

end Quiet

/-- An entry that is no hello. -/
theorem hellos_concat (log : List Entry) {e : Entry} (hhello : e.hello = none) :
    hellos (log ++ [e]) = hellos log := by
  rw [hellos_append]
  simp [hellos, hhello]

/-- An entry that neither greets nor joins. -/
theorem JoinsOnce.concat {log : List Entry} (h : JoinsOnce log) {e : Entry}
    (hhello : e.hello = none) (hjoin : e.isJoin = false) (he : Reconnects log e) :
    JoinsOnce (log ++ [e]) where
  joins := by
    have hjoins : Client.joins (log ++ [e]) = Client.joins log := by
      rw [joins_append]
      simp [Client.joins, hjoin]
    rw [hellos_concat log hhello, hjoins]
    exact h.joins
  reconnects := h.reconnects.concat he

/-! ## The invariant -/

/-- What the sockets tell: only the first one can join, no other one is open before
there was a hello, and the first one has had its hello if there was any. -/
structure InTurn (met : Prop) (sockets : List Socket) : Prop where
  first : ∀ i s, sockets[i]? = some s → s.isReconnect = decide (i ≠ 0)
  waits : ¬met → ∀ (i : Nat) (s : Socket), sockets[i]? = some s →
    s.readyState = .open → i = 0
  greeted : met → ∀ s, sockets[0]? = some s → s.greeted = true

namespace InTurn

variable {met : Prop} {sockets : List Socket}

/-- A socket changes without being made another one's. -/
theorem modify (h : InTurn met sockets) (i : Nat) {f : Socket → Socket}
    (hkeep : ∀ s, (f s).isReconnect = s.isReconnect)
    (hgreeted : ∀ s, s.greeted = true → (f s).greeted = true)
    (hopen : ¬met → ∀ s, sockets[i]? = some s → (f s).readyState = .open →
      s.readyState = .open ∨ i = 0) : InTurn met (sockets.modify i f) := by
  have hold : ∀ (j : Nat) (s' : Socket), (sockets.modify i f)[j]? = some s' →
      ∃ s, sockets[j]? = some s ∧ s' = if i = j then f s else s := by
    intro j s' hs'
    rw [List.getElem?_modify] at hs'
    obtain ⟨s, hs, rfl⟩ := Option.map_eq_some_iff.1 hs'
    exact ⟨s, hs, rfl⟩
  constructor
  · intro j s' hs'
    obtain ⟨s, hs, rfl⟩ := hold j s' hs'
    have hfirst := h.first j s hs
    split
    · rw [hkeep, hfirst]
    · exact hfirst
  · intro hmet j s' hs' hstate
    obtain ⟨s, hs, rfl⟩ := hold j s' hs'
    by_cases hij : i = j
    · rw [if_pos hij] at hstate
      subst hij
      rcases hopen hmet s hs hstate with hwas | hzero
      · exact h.waits hmet i s hs hwas
      · exact hzero
    · rw [if_neg hij] at hstate
      exact h.waits hmet j s hs hstate
  · intro hmet s' hs'
    obtain ⟨s, hs, rfl⟩ := hold 0 s' hs'
    have hwas := h.greeted hmet s hs
    split
    · exact hgreeted s hwas
    · exact hwas

/-- An open socket that had no hello is the first one until there was a hello, and then
never. -/
theorem isReconnect [Decidable met] (h : InTurn met sockets) {i : Nat} {s : Socket}
    (hs : sockets[i]? = some s) (hopen : s.readyState = .open)
    (hnew : s.greeted = false) :
    s.isReconnect = decide met := by
  rw [h.first i s hs]
  refine decide_eq_decide.2 ⟨fun hi => ?_, fun hmet hi => ?_⟩
  · by_contra hmet
    exact hi (h.waits hmet i s hs hopen)
  · subst hi
    rw [h.greeted hmet s hs] at hnew
    cases hnew

/-- A hello comes in. -/
theorem greet (h : InTurn met sockets) {i : Nat} {s : Socket}
    (hs : sockets[i]? = some s) (hopen : s.readyState = .open) :
    InTurn True (sockets.modify i fun s => { s with greeted := true }) := by
  have hsame := h.modify i (f := fun s => { s with greeted := true }) (fun _ => rfl)
    (fun _ _ => rfl) fun _ s _ hopen => .inl hopen
  refine ⟨hsame.first, fun hmet => absurd trivial hmet, fun _ s' hs' => ?_⟩
  by_cases hmet : met
  · exact hsame.greeted hmet s' hs'
  · obtain rfl := h.waits hmet i s hs hopen
    rw [List.getElem?_modify, hs] at hs'
    obtain rfl := Option.some.inj hs'
    rfl

/-- A socket is made that replaces another. -/
theorem append (h : InTurn met sockets) (hsome : sockets ≠ []) :
    InTurn met (sockets ++ [⟨true, .connecting, true, false⟩]) := by
  have hlen : 0 < sockets.length := List.length_pos_iff.2 hsome
  have hold : ∀ (j : Nat) (s : Socket),
      (sockets ++ [⟨true, .connecting, true, false⟩])[j]? = some s →
      sockets[j]? = some s ∨ j = sockets.length ∧
      s = ⟨true, .connecting, true, false⟩ := by
    intro j s hs
    rw [List.getElem?_append] at hs
    split at hs
    · exact .inl hs
    · rw [List.getElem?_singleton] at hs
      split at hs
      · exact .inr ⟨by omega, (Option.some.inj hs).symm⟩
      · cases hs
  constructor
  · intro j s hs
    rcases hold j s hs with hs | ⟨rfl, rfl⟩
    · exact h.first j s hs
    · have hne : sockets.length ≠ 0 := by omega
      simp [hne]
  · intro hmet j s hs hstate
    rcases hold j s hs with hs | ⟨rfl, rfl⟩
    · exact h.waits hmet j s hs hstate
    · cases hstate
  · intro hmet s hs
    rcases hold 0 s hs with hs | ⟨hzero, rfl⟩
    · exact h.greeted hmet s hs
    · omega

end InTurn

/-- What the client knows once it has received the hellos `ids`. -/
structure Knows (ids : List String) (b : Browser) : Prop where
  connID : b.connID = ids.getLast?.getD ""
  originalConnID : ∀ id, ids.head? = some id → id ≠ "" → b.originalConnID = id
  unset : ids = [] → b.originalConnID = ""
  sockets : InTurn (ids ≠ []) b.sockets
  nonempty : b.sockets ≠ []

namespace Knows

variable {ids : List String} {b b' : Browser}

theorem quiet (h : Knows ids b) (hq : Quiet b b') : Knows ids b' where
  connID := hq.connID.trans h.connID
  originalConnID id hid hne := hq.originalConnID.trans (h.originalConnID id hid hne)
  unset hnone := hq.originalConnID.trans (h.unset hnone)
  sockets := hq.sockets ▸ h.sockets
  nonempty := hq.sockets ▸ h.nonempty

theorem modify (h : Knows ids b) (i : Nat) {f : Socket → Socket}
    (hsockets : InTurn (ids ≠ []) (b.sockets.modify i f)) :
    Knows ids (b.modify i f) where
  connID := h.connID
  originalConnID := h.originalConnID
  unset := h.unset
  sockets := hsockets
  nonempty hnil := by
    have hlen := List.length_modify f b.sockets i
    rw [show b.sockets.modify i f = [] from hnil] at hlen
    exact h.nonempty (List.length_eq_zero_iff.1 hlen.symm)

theorem record (h : Knows ids b) (e : Entry) : Knows ids (b.record e) :=
  ⟨h.connID, h.originalConnID, h.unset, h.sockets, h.nonempty⟩

theorem emitOpen (h : Knows ids b) (isReconnect : Bool) :
    Knows ids (b.emitOpen isReconnect) :=
  (h.record _).quiet (.emitOpen b isReconnect)

/-- A socket is made by the timer. -/
theorem init (h : Knows ids b) : Knows ids (b.init true) := by
  unfold Browser.init
  split
  · exact h
  · exact ⟨h.connID, h.originalConnID, h.unset, h.sockets.append h.nonempty,
      List.append_ne_nil_of_right_ne_nil _ (List.cons_ne_nil _ _)⟩

/-- The client takes over the id of a hello, which came on the first socket if it is the
first. -/
theorem takeConnID (h : Knows ids b) (m : Msg) (id : String)
    (hsockets : InTurn True b.sockets) : Knows (ids ++ [id]) (b.takeConnID m id) := by
  have hmet : (ids ++ [id] ≠ []) = True :=
    eq_true (List.append_ne_nil_of_right_ne_nil _ (List.cons_ne_nil _ _))
  have hlast : (ids ++ [id]).getLast?.getD "" = id := by simp
  have hold : ids ≠ [] → (ids ++ [id]).head? = ids.head? := fun hne => by
    rw [List.head?_append_of_ne_nil _ hne]
  unfold Browser.takeConnID
  by_cases hnew : id ≠ b.connID
  · rw [if_pos hnew]
    refine ⟨hlast.symm, fun first hfirst hne => ?_, fun hnil => absurd hnil (by simp),
      hmet ▸ hsockets, h.nonempty⟩
    show (if b.originalConnID = "" then id else b.originalConnID) = first
    by_cases hids : ids = []
    · rw [if_pos (h.unset hids)]
      rw [hids] at hfirst
      exact Option.some.inj hfirst
    · rw [hold hids] at hfirst
      rw [h.originalConnID first hfirst hne, if_neg hne]
  · rw [if_neg hnew]
    obtain rfl : id = b.connID := not_not.1 hnew
    refine ⟨hlast.symm, fun first hfirst hne => ?_, fun hnil => absurd hnil (by simp),
      hmet ▸ hsockets, h.nonempty⟩
    by_cases hids : ids = []
    · -- nothing was received yet, so that the id is empty
      rw [hids] at hfirst
      have hempty : b.connID = "" := by rw [h.connID, hids]; rfl
      exact absurd ((Option.some.inj hfirst).symm.trans hempty) hne
    · rw [hold hids] at hfirst
      exact h.originalConnID first hfirst hne

theorem new (authToken : String) : Knows [] (new authToken) where
  connID := rfl
  originalConnID id hid _ := nomatch hid
  unset _ := rfl
  sockets := by
    constructor
    · intro i s hs
      cases i with
      | zero =>
        obtain rfl := Option.some.inj hs
        rfl
      | succ i => cases hs
    · intro _ i s hs hopen
      cases i with
      | zero => rfl
      | succ i => cases hs
    · intro hmet
      exact absurd rfl hmet
  nonempty := List.cons_ne_nil _ _

end Knows

/-- The callback is in order: a socket has at most one hello, and no socket but the
first opens before there was a hello, with an id. -/
def InOrder (b : Browser) : Callback → Prop
  | .opened i => b.sockets[i]?.any Socket.isReconnect = true →
      ∃ id, (hellos b.log).head? = some id ∧ id ≠ ""
  | .message i data =>
      Callback.isHello data = true → b.sockets[i]?.any Socket.greeted = false
  | _ => True

/-- What holds of a client between two callbacks. -/
structure Joined (b : Browser) : Prop where
  log : JoinsOnce b.log
  knows : Knows (hellos b.log) b

namespace Joined

variable {b b' : Browser}

theorem quiet (h : Joined b) (hq : Quiet b b') : Joined b' :=
  ⟨hq.joinsOnce h.log, hq.hellos_log ▸ h.knows.quiet hq⟩

/-- A socket is made by the timer. -/
theorem init (h : Joined b) : Joined (b.init true) := by
  have hknows := h.knows.init
  unfold Browser.init at hknows ⊢
  split at hknows
  · next hclosed =>
    rw [if_pos hclosed]
    exact h
  · next hclosed =>
    rw [if_neg hclosed]
    refine ⟨h.log.concat rfl rfl trivial, ?_⟩
    show Knows (hellos (b.log ++ [.connecting b.connID b.serverSeqNo])) _
    rw [hellos_concat _ rfl]
    exact hknows

/-- **A socket opens.** -/
theorem opened (h : Joined b) {i : Nat} (hok : InOrder b (.opened i)) :
    Joined (Callback.run b (.opened i)) := by
  have hopened : Joined (b.modify i fun s => { s with readyState := .open }) := by
    refine ⟨h.log, h.knows.modify i
      (h.knows.sockets.modify i (fun _ => rfl) (fun _ hs => hs) ?_)⟩
    intro hmet s hs _
    by_cases hi : i = 0
    · exact .inr hi
    · have hreconnect : s.isReconnect = true := by
        rw [h.knows.sockets.first i s hs]
        exact decide_eq_true hi
      obtain ⟨id, hid, -⟩ := hok (by rw [hs]; exact hreconnect)
      refine absurd (fun hnil => ?_) hmet
      rw [hnil] at hid
      cases hid
  show Joined (Browser.onopen _ (b.sockets[i]?.any Socket.isReconnect))
  cases hreconnect : b.sockets[i]?.any Socket.isReconnect with
  | false => exact hopened.quiet (.onopen_first _)
  | true =>
    obtain ⟨b₁, hq, hq'⟩ :=
      Quiet.onopen_replaced (b.modify i fun s => { s with readyState := .open })
    have h₁ : Joined b₁ := hopened.quiet hq
    have hids : hellos b₁.log = hellos b.log := hq.hellos_log
    obtain ⟨id, hid, hne⟩ := hok hreconnect
    have hsome : hellos b.log ≠ [] := fun hnil => by
      rw [hnil] at hid
      cases hid
    have horig : b.originalConnID = id := h.knows.originalConnID id hid hne
    have hlast : (hellos b.log).getLast? = some b.connID := by
      rw [h.knows.connID, List.getLast?_eq_some_getLast hsome]
      rfl
    have hjoined : joins b₁.log = 1 := by
      rw [h₁.log.joins, hids, if_neg hsome]
    have hlog : JoinsOnce (b₁.log ++ [.open b.originalConnID b.connID true]) :=
      h₁.log.concat rfl rfl
        ⟨horig ▸ hne, by rw [hids, hid, horig], by rw [hids, hlast], hjoined⟩
    have hknows :
        Knows (hellos (b₁.log ++ [.open b.originalConnID b.connID true])) b₁ := by
      rw [hellos_concat _ rfl]
      exact h₁.knows
    exact Joined.quiet ⟨hlog, hknows.record _⟩ hq'

/-- The browser counts the hellos of a socket. -/
theorem counted (h : Joined b) (i : Nat) (hello : Bool) :
    Joined (b.modify i fun s => { s with greeted := s.greeted || hello }) := by
  refine ⟨h.log, h.knows.modify i
    (h.knows.sockets.modify i (fun _ => rfl) (fun s hs => ?_)
    fun _ s _ hopen => .inl hopen)⟩
  show (s.greeted || hello) = true
  rw [hs, Bool.true_or]

/-- A frame that is no hello. -/
theorem onframe (h : Joined b) (isReconnect : Bool) {m : Msg}
    (hother : ∀ id, m.event ≠ some (.hello id)) : Joined (b.onframe isReconnect m) := by
  have hreceived : ∀ awaited, Joined (b.record (.received m awaited)) := by
    intro awaited
    have hhello : (Entry.received m awaited).hello = none := by
      obtain ⟨seq, seqReply, event⟩ := m
      cases event with
      | none => rfl
      | some e =>
        cases e with
        | hello id => exact absurd rfl (hother id)
        | other event connID data => rfl
    refine ⟨h.log.concat hhello rfl trivial, ?_⟩
    show Knows (hellos (b.log ++ [.received m awaited])) _
    rw [hellos_concat _ hhello]
    exact h.knows.record _
  unfold Browser.onframe
  dsimp only
  cases b.awaits m with
  | true =>
    have hb := hreceived true
    exact ⟨hb.log, hb.knows.connID, hb.knows.originalConnID, hb.knows.unset,
      hb.knows.sockets, hb.knows.nonempty⟩
  | false =>
    have hb := hreceived false
    have hseq :
        Joined { b.record (.received m false) with serverSeqNo := addOne m.seq } :=
      ⟨hb.log, hb.knows.connID, hb.knows.originalConnID, hb.knows.unset,
        hb.knows.sockets, hb.knows.nonempty⟩
    rw [if_neg Bool.false_ne_true]
    cases hevent : m.event with
    | none => exact hseq
    | some e =>
      cases e with
      | hello id => exact absurd hevent (hother id)
      | other event connID data => exact hseq.quiet (.onevent _ m event connID data)

/-- **A hello**, on a socket that had none. -/
theorem hello (h : Joined b) {i : Nat} {s : Socket} (hs : b.sockets[i]? = some s)
    (hopen : s.readyState = .open) (hnew : s.greeted = false) {m : Msg} {id : String}
    (hevent : m.event = some (.hello id)) (hform : m.wellFormed = true) :
    Joined ((b.modify i fun s => { s with greeted := true }).onframe
      s.isReconnect m) := by
  have hreply : m.seqReply = none := by
    cases hr : m.seqReply with
    | none => rfl
    | some n => simp [Msg.wellFormed, hr, hevent] at hform
  -- the first hello comes on the first socket, and no later one does
  have hfirst : s.isReconnect = decide (hellos b.log ≠ []) :=
    h.knows.sockets.isReconnect hs hopen hnew
  have hturn := h.knows.sockets.greet hs hopen
  have hids : Knows (hellos b.log) (b.modify i fun s => { s with greeted := true }) :=
    h.knows.modify i (h.knows.sockets.modify i (fun _ => rfl) (fun _ _ => rfl)
      fun _ s _ hopen => .inl hopen)
  generalize hb' : (b.modify i fun s => { s with greeted := true }) = b' at hids
  have hlog : b'.log = b.log := by rw [← hb']; rfl
  have hawaits : b'.awaits m = false := by
    simp [Browser.awaits, hreply]
  -- the entries written
  generalize hb₁ : { b'.record (.received m false) with serverSeqNo := addOne m.seq } =
    b₁
  have hlog₁ : b₁.log = b.log ++ [.received m false] := by
    rw [← hb₁, ← hlog]
    rfl
  have hgreeting : (Entry.received m false).hello = some id := by
    obtain ⟨seq, seqReply, event⟩ := m
    subst hevent
    rfl
  have hids₁ : hellos b₁.log = hellos b.log ++ [id] := by
    rw [hlog₁, hellos_append]
    simp [hellos, hgreeting]
  have hjoins₁ : joins b₁.log = joins b.log := by
    rw [hlog₁, joins_append]
    rfl
  have heach₁ : Each Reconnects b₁.log := hlog₁ ▸ h.log.reconnects.concat trivial
  have htaken : ∃ es, (b₁.takeConnID m id).log = b₁.log ++ es ∧
      ∀ e ∈ es, e.plain = true := by
    unfold Browser.takeConnID
    split
    · exact ⟨[.event m], rfl, by simp [Entry.plain]⟩
    · exact ⟨[], (List.append_nil _).symm, by simp⟩
  obtain ⟨es, hes, hplain⟩ := htaken
  have hids₂ : hellos (b₁.takeConnID m id).log = hellos b.log ++ [id] := by
    rw [hes, hellos_append, hellos_plain hplain, List.append_nil, hids₁]
  have hjoins₂ : joins (b₁.takeConnID m id).log = joins b.log := by
    rw [hes, joins_append, joins_plain hplain, Nat.add_zero, hjoins₁]
  have heach₂ : Each Reconnects (b₁.takeConnID m id).log :=
    hes ▸ reconnects_plain hplain heach₁
  have hknows₂ : Knows (hellos (b₁.takeConnID m id).log) (b₁.takeConnID m id) := by
    rw [hids₂]
    refine Knows.takeConnID ?_ m id ?_
    · rw [← hb₁]
      exact ⟨hids.connID, hids.originalConnID, hids.unset, hids.sockets, hids.nonempty⟩
    · rw [← hb₁, ← hb']
      exact hturn
  have hsome : hellos (b₁.takeConnID m id).log ≠ [] := by
    rw [hids₂]
    exact List.append_ne_nil_of_right_ne_nil _ (List.cons_ne_nil _ _)
  unfold Browser.onframe
  dsimp only
  rw [hawaits, if_neg Bool.false_ne_true, hevent, hb₁]
  show Joined (b₁.onhello s.isReconnect m id)
  unfold Browser.onhello
  dsimp only
  by_cases hmet : hellos b.log = []
  · rw [hfirst, decide_eq_false (not_not.2 hmet), if_neg Bool.false_ne_true]
    have hopen₂ : Reconnects (b₁.takeConnID m id).log
        (.open (b₁.takeConnID m id).originalConnID (b₁.takeConnID m id).connID false) :=
        trivial
    refine Joined.quiet ⟨⟨?_, heach₂.concat hopen₂⟩, ?_⟩ (.emitOpen _ false)
    · show joins (_ ++ [_]) = if hellos (_ ++ [_]) = [] then 0 else 1
      rw [joins_append, hjoins₂, h.log.joins, if_pos hmet, hellos_concat _ rfl,
        if_neg hsome]
      rfl
    · show Knows (hellos (_ ++ [_])) _
      rw [hellos_concat _ rfl]
      exact hknows₂.record _
  · rw [hfirst, decide_eq_true hmet, if_pos rfl]
    refine ⟨⟨?_, heach₂⟩, hknows₂⟩
    rw [hjoins₂, h.log.joins, if_neg hmet, if_neg hsome]

/-- **One callback.** -/
theorem step (h : Joined b) (a : Callback) (hen : machine.Enabled b a)
    (hok : InOrder b a) :
    Joined (machine.step b a) := by
  cases a with
  | opened i => exact h.opened hok
  | errored i => exact h.quiet (.record b rfl)
  | closed i code now =>
    have hclosed : Joined (b.modify i fun s => { s with readyState := .closed }) :=
      ⟨h.log, h.knows.modify i (h.knows.sockets.modify i (fun _ => rfl) (fun _ hs => hs)
        fun _ _ _ hopen => nomatch hopen)⟩
    show Joined (if _ then _ else _)
    split
    · exact hclosed.quiet (.closeHandler _ code now)
    · exact hclosed
  | message i data =>
    cases data with
    | msg m =>
      by_cases hhello : Callback.isHello (.msg m) = true
      · obtain ⟨hform, hopen⟩ := hen
        cases hs : b.sockets[i]? with
        | none => rw [hs] at hopen; cases hopen
        | some s =>
          have hnew := hok hhello
          rw [hs] at hopen hnew
          have hevent : ∃ id, m.event = some (.hello id) := by
            obtain ⟨seq, seqReply, event⟩ := m
            unfold Callback.isHello at hhello
            split at hhello
            · next heq =>
              cases heq
              exact ⟨_, rfl⟩
            · cases hhello
          obtain ⟨id, hevent⟩ := hevent
          have hstep := h.hello hs (of_decide_eq_true hopen) hnew hevent hform
          show Joined ((b.modify i fun s =>
            { s with greeted := s.greeted || Callback.isHello _ }).onframe
            (b.sockets[i]?.any Socket.isReconnect) m)
          rw [hhello, hs]
          simpa using hstep
      · refine (h.counted i (Callback.isHello (.msg m))).onframe _
          fun id hid => hhello ?_
        obtain ⟨seq, seqReply, event⟩ := m
        subst hid
        rfl
    | empty => exact h.counted i _
    | malformed => exact h.counted i _
    | null => exact h.counted i _
  | pingTimer now =>
    show Joined (b.onPingTimer now)
    unfold Browser.onPingTimer
    split
    · have hclosing : Joined (b.modify (b.sockets.length - 1)
          fun s => { s with onclose := false, readyState := .closing }) :=
        ⟨h.log, h.knows.modify _
          (h.knows.sockets.modify _ (fun _ => rfl) (fun _ hs => hs)
          fun _ _ _ hopen => nomatch hopen)⟩
      exact hclosing.quiet (.closeHandler _ 4000 now)
    · exact h.quiet (.ping b)
  | reconnectTimer =>
    have htimer : Joined { b with timers := b.timers.tail } :=
      h.quiet ⟨rfl, rfl, rfl, rfl, [], (List.append_nil _).symm, by simp⟩
    show Joined (if b.closed = true then _ else _)
    split
    · exact htimer
    · exact htimer.init
  | send action => exact h.quiet (.send b _)

end Joined

/-! ## Runs -/

/-- **Joining and reconnecting**: the protocol is kept in every state of a run in which
a socket has at most one hello and no socket but the first opens before there was a
hello, with an id. -/
theorem joinsOnce_of_runs (authToken : String) {b : Browser}
    (hr : machine.Runs InOrder (new authToken) b) : JoinsOnce b.log :=
  have hjoined : Joined b := hr.inv
    ⟨⟨rfl, Each.concat (l := []) Each.nil trivial⟩, .new authToken⟩
    fun _ a hen hok h => h.step a hen hok
  hjoined.log

/-- A socket that opens out of order breaks the protocol. -/
theorem not_joinsOnce_of_opened (b : Browser) {i : Nat}
    (hout : ¬InOrder b (.opened i)) :
    ¬JoinsOnce (Callback.run b (.opened i)).log := by
  intro h
  refine hout fun hreconnect => ?_
  obtain ⟨b₁, hq, hq'⟩ :=
    Quiet.onopen_replaced (b.modify i fun s => { s with readyState := .open })
  obtain ⟨es, hlog, -⟩ := hq'.log
  have heach : Each Reconnects
      (Browser.onopen _ (b.sockets[i]?.any Socket.isReconnect)).log :=
    h.reconnects
  rw [show b.sockets[i]?.any Socket.isReconnect = true from hreconnect, hlog] at heach
  have hentry := heach.left.last
  refine ⟨_, ?_, hentry.1⟩
  rw [← hentry.2.1, hq.hellos_log]
  rfl

/-! ## Instances -/

/-- `InOrder`, computed. -/
def checkInOrder (b : Browser) : Callback → Bool
  | .opened i =>
      !b.sockets[i]?.any Socket.isReconnect || (hellos b.log).head?.any (· ≠ "")
  | .message i data => !Callback.isHello data || !b.sockets[i]?.any Socket.greeted
  | _ => true

theorem checkInOrder_sound (b : Browser) (a : Callback) (h : checkInOrder b a = true) :
    InOrder b a := by
  cases a with
  | opened i =>
    intro hreconnect
    simp only [checkInOrder, hreconnect, Bool.not_true, Bool.false_or] at h
    obtain ⟨id, hid, hne⟩ := Option.any_eq_true _ _ |>.1 h
    exact ⟨id, hid, of_decide_eq_true hne⟩
  | message i data =>
    intro hhello
    simpa [checkInOrder, hhello] using h
  | _ => trivial

/-- A hello with the id. -/
def helloFrame (id : String) : Payload := .msg ⟨some 0, none, some (.hello id)⟩

/-- The client joins, loses its socket and reconnects. -/
def reconnected : List Callback :=
  [.opened 0, .message 0 (helloFrame "a"), .closed 0 1006 5, .reconnectTimer, .opened 1,
    .message 1 (helloFrame "b")]

/-- The client's first socket is lost before its hello. -/
def lostEarly : List Callback :=
  [.closed 0 1006 5, .reconnectTimer, .opened 1, .message 1 (helloFrame "a")]

theorem joinsOnce_of_reconnect : ∃ b, machine.Runs InOrder (new "") b ∧
    .open "a" "a" true ∈ b.log ∧ JoinsOnce b.log := by
  have hleads : (machine.leads checkInOrder (new "") reconnected).map
      (fun b => decide (.open "a" "a" true ∈ b.log)) = some true := by decide
  obtain ⟨b, hr, hopen⟩ := Machine.Runs.exists_of_leads checkInOrder_sound hleads
  exact ⟨b, hr, of_decide_eq_true hopen, joinsOnce_of_runs "" hr⟩

/-- The client reconnects with no id to a call it never joined, and never joins. -/
theorem joinsOnce_of_lostEarly : ∃ b, machine.Runs Machine.Always (new "") b ∧
    hellos b.log = ["a"] ∧ joins b.log = 0 ∧ .open "" "" true ∈ b.log ∧
    ¬JoinsOnce b.log := by
  have hleads : (machine.leads (fun _ _ => true) (new "") lostEarly).map
      (fun b => (hellos b.log, joins b.log, decide (.open "" "" true ∈ b.log))) =
        some (["a"], 0, true) := by decide
  obtain ⟨b, hr, hb⟩ := Machine.Runs.exists_of_leads
    (fun b a _ => (trivial : Machine.Always b a)) hleads
  have hhellos : hellos b.log = ["a"] := congrArg Prod.fst hb
  have hjoins : joins b.log = 0 := congrArg (fun x => x.2.1) hb
  have hopen : decide (.open "" "" true ∈ b.log) = true := congrArg (fun x => x.2.2) hb
  refine ⟨b, hr, hhellos, hjoins, of_decide_eq_true hopen, fun h => ?_⟩
  have hone := h.joins
  rw [hjoins, hhellos] at hone
  cases hone

end CallsPlugin.Ports.Client
