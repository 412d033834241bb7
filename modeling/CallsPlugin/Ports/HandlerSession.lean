import Mathlib.Data.List.Induction
import CallsPlugin.Ports.Plugin
import CallsPlugin.Ports.Reconnect

/-!
# The session on the node that handles RTC

The node that handles the RTC traffic of a call finds the session of a client by the key
of its map, and on a reconnection elsewhere it updates the connection id but not the
key.  So the second such reconnection is not seen.  What the node has of a client is a
function of where the client has reconnected, in eight phases.
-/

namespace CallsPlugin.Ports

open CallsPlugin.Verified

/-! ## What the node has of a client -/

/-- A session of the client as the handler node has it. -/
structure Entry where
  connID : String
  rtc : Bool
  reconnected : Bool
  deriving DecidableEq, Repr

/-- The client's sessions by their keys. -/
abbrev View := String → Option Entry

namespace View

/-- One session. -/
def single (key : String) (e : Entry) : View :=
  Function.update (fun _ => none) key (some e)

/-- The client has reconnected to the handler node. -/
def reconnected (originalConnID prevConnID connID : String) (v : View) :
    View := fun k =>
  if k = connID then some ⟨connID, ((v prevConnID).map Entry.rtc).getD false, false⟩
  else if k = originalConnID then none
  else if k = prevConnID then
    (v prevConnID).bind fun e =>
      if e.rtc then some { e with reconnected := true } else none
  else v k

/-- The handler node is told that the client has reconnected elsewhere. -/
def told (prevConnID connID : String) (v : View) : View := fun k =>
  if k = prevConnID then
    (v prevConnID).bind fun e =>
      if e.reconnected then some e
      else if e.rtc then some ⟨connID, true, true⟩ else none
  else v k

@[simp] theorem single_self (k : String) (e : Entry) : single k e k = some e := by
  simp [single]

theorem single_of_ne {k k' : String} (e : Entry) (h : k' ≠ k) :
    single k e k' = none := by
  simp [single, h]

theorem single_eq_some {k k' : String} {e e' : Entry} :
    single k e k' = some e' ↔ k' = k ∧ e = e' := by
  by_cases h : k' = k
  · simp [h]
  · simp [single_of_ne e h, h]

end View

/-! ## Phases -/

/-- Where the client has reconnected so far, as far as it matters. -/
inductive Phase where
  /-- it has not -/
  | joined
  /-- once, to the handler node -/
  | here
  /-- once, to another node -/
  | moved
  /-- first to the handler node and then to another one -/
  | movedOn
  /-- elsewhere only, more than once -/
  | stale
  /-- first elsewhere, and last to the handler node -/
  | followed
  /-- first elsewhere, then to the handler node, and last elsewhere -/
  | lost
  /-- first to the handler node, and then again in another way than above -/
  | doubled
  deriving DecidableEq, Repr

namespace Phase

/-- The phase after one more reconnection. -/
def next (here? : Bool) : Phase → Phase
  | joined => if here? then here else moved
  | here => if here? then doubled else movedOn
  | moved => if here? then followed else stale
  | movedOn => doubled
  | stale => if here? then followed else stale
  | followed => if here? then followed else lost
  | lost => if here? then followed else lost
  | doubled => doubled

/-- The handler node has one session of the client, with its current connection id. -/
def Tracking : Phase → Prop
  | joined | here | moved | movedOn | followed => True
  | stale | lost | doubled => False

/-- What the handler node has in each phase; `latest` is the current connection id. -/
def Shape (originalConnID latest : String) : Phase → View → Prop
  | joined, v =>
      latest = originalConnID ∧ v = .single originalConnID ⟨latest, true, false⟩
  | here, v => latest ≠ originalConnID ∧ v = .single latest ⟨latest, true, false⟩
  | moved, v =>
      latest ≠ originalConnID ∧ v = .single originalConnID ⟨latest, true, true⟩
  | movedOn, v =>
      ∃ k, k ≠ originalConnID ∧ k ≠ latest ∧ v = .single k ⟨latest, true, true⟩
  | stale, v => latest ≠ originalConnID ∧ ∃ connID, connID ≠ latest ∧
      v = .single originalConnID ⟨connID, true, true⟩
  | followed, v => latest ≠ originalConnID ∧ v = .single latest ⟨latest, false, false⟩
  | lost, v => latest ≠ originalConnID ∧ v = fun _ => none
  | doubled, v => ∃ k connID, k ≠ originalConnID ∧ k ≠ latest ∧ connID ≠ latest ∧
      v k = some ⟨connID, true, true⟩

section Shape

variable {originalConnID latest connID : String} {ph : Phase} {v : View}

/-- The new connection id is none that the node has seen. -/
def Unseen (connID : String) (v : View) : Prop :=
  ∀ k e, v k = some e → k ≠ connID ∧ e.connID ≠ connID

/-- A reconnection to the handler node. -/
theorem Shape.reconnected (h : Shape originalConnID latest ph v)
    (hnew : Unseen connID v) (horig : connID ≠ originalConnID)
    (hlatest : connID ≠ latest) :
    Shape originalConnID connID (ph.next true)
      (v.reconnected originalConnID latest connID) := by
  -- with nothing under the previous connection id the new session does not handle RTC
  have hfollowed : v latest = none → (∀ k, k ≠ originalConnID → v k = none) →
      Shape originalConnID connID .followed
        (v.reconnected originalConnID latest connID) := by
    intro hprev hnone
    refine ⟨horig, funext fun k => ?_⟩
    unfold View.reconnected
    rw [hprev]
    by_cases hk : k = connID
    · rw [if_pos hk, hk, View.single_self]
      rfl
    · rw [if_neg hk, View.single_of_ne _ hk]
      split
      · rfl
      next ho =>
        split
        · rfl
        · exact hnone k ho
  cases ph with
  | joined =>
      obtain ⟨rfl, rfl⟩ := h
      refine ⟨horig, funext fun k => ?_⟩
      unfold View.reconnected
      by_cases hk : k = connID
      · rw [if_pos hk, hk, View.single_self, View.single_self]
        rfl
      · rw [if_neg hk, View.single_of_ne _ hk]
        split
        · rfl
        next ho => exact View.single_of_ne _ ho
  | here =>
      obtain ⟨hne, rfl⟩ := h
      refine ⟨latest, latest, hne, hlatest.symm, hlatest.symm, ?_⟩
      unfold View.reconnected
      rw [if_neg hlatest.symm, if_neg hne, if_pos rfl, View.single_self]
      rfl
  | moved =>
      obtain ⟨hne, rfl⟩ := h
      exact hfollowed (View.single_of_ne _ hne) fun k hk => View.single_of_ne _ hk
  | movedOn =>
      obtain ⟨k, ho, hk, rfl⟩ := h
      refine ⟨k, latest, ho, (hnew k _ (View.single_self ..)).1, hlatest.symm, ?_⟩
      unfold View.reconnected
      rw [if_neg (hnew k _ (View.single_self ..)).1, if_neg ho, if_neg hk,
        View.single_self]
  | stale =>
      obtain ⟨hne, old, -, rfl⟩ := h
      exact hfollowed (View.single_of_ne _ hne) fun k hk => View.single_of_ne _ hk
  | followed =>
      obtain ⟨hne, rfl⟩ := h
      refine ⟨horig, funext fun k => ?_⟩
      unfold View.reconnected
      rw [View.single_self]
      by_cases hk : k = connID
      · rw [if_pos hk, hk, View.single_self]
        rfl
      · rw [if_neg hk, View.single_of_ne _ hk]
        split
        · rfl
        split
        · rfl
        next hp => exact View.single_of_ne _ hp
  | lost =>
      obtain ⟨hne, rfl⟩ := h
      exact hfollowed rfl fun _ _ => rfl
  | doubled =>
      obtain ⟨k, old, ho, hk, hold, hv⟩ := h
      obtain ⟨hkey, hconn⟩ := hnew k _ hv
      refine ⟨k, old, ho, hkey, hconn, ?_⟩
      unfold View.reconnected
      rw [if_neg hkey, if_neg ho, if_neg hk, hv]

/-- A reconnection to another node. -/
theorem Shape.told (h : Shape originalConnID latest ph v) (hnew : Unseen connID v)
    (horig : connID ≠ originalConnID) (hlatest : connID ≠ latest) :
    Shape originalConnID connID (ph.next false) (v.told latest connID) := by
  -- with nothing under the previous connection id the message is lost
  have hsame : v latest = none → v.told latest connID = v := by
    intro hprev
    funext k
    unfold View.told
    split
    next hk => rw [hprev, hk, hprev]; rfl
    · rfl
  have hsingle : (View.single latest ⟨latest, true, false⟩).told latest connID =
      View.single latest ⟨connID, true, true⟩ := by
    funext k
    unfold View.told
    rw [View.single_self]
    by_cases hk : k = latest
    · rw [if_pos hk, hk, View.single_self]
      rfl
    · rw [if_neg hk, View.single_of_ne _ hk, View.single_of_ne _ hk]
  cases ph with
  | joined =>
      obtain ⟨rfl, rfl⟩ := h
      exact ⟨horig, hsingle⟩
  | here =>
      obtain ⟨hne, rfl⟩ := h
      exact ⟨latest, hne, hlatest.symm, hsingle⟩
  | moved =>
      obtain ⟨hne, rfl⟩ := h
      exact ⟨horig, latest, hlatest.symm, hsame (View.single_of_ne _ hne)⟩
  | movedOn =>
      obtain ⟨k, ho, hk, rfl⟩ := h
      refine ⟨k, latest, ho, (hnew k _ (View.single_self ..)).1, hlatest.symm, ?_⟩
      rw [hsame (View.single_of_ne _ (Ne.symm hk)), View.single_self]
  | stale =>
      obtain ⟨hne, old, -, rfl⟩ := h
      exact ⟨horig, old, (hnew _ _ (View.single_self ..)).2,
        hsame (View.single_of_ne _ hne)⟩
  | followed =>
      obtain ⟨hne, rfl⟩ := h
      refine ⟨horig, funext fun k => ?_⟩
      unfold View.told
      rw [View.single_self]
      by_cases hk : k = latest
      · rw [if_pos hk]
        rfl
      · rw [if_neg hk, View.single_of_ne _ hk]
  | lost =>
      obtain ⟨hne, rfl⟩ := h
      exact ⟨horig, hsame rfl⟩
  | doubled =>
      obtain ⟨k, old, ho, hk, hold, hv⟩ := h
      obtain ⟨hkey, hconn⟩ := hnew k _ hv
      refine ⟨k, old, ho, hkey, hconn, ?_⟩
      unfold View.told
      rw [if_neg hk, hv]

/-- One session, with the current connection id, in the tracking phases alone. -/
theorem Shape.tracking_iff (h : Shape originalConnID latest ph v) :
    (∃ k e, v = .single k e ∧ e.connID = latest) ↔ ph.Tracking := by
  cases ph with
  | joined | here | moved | followed =>
      exact ⟨fun _ => trivial, fun _ => ⟨_, _, h.2, rfl⟩⟩
  | movedOn =>
      obtain ⟨k, -, -, hv⟩ := h
      exact ⟨fun _ => trivial, fun _ => ⟨_, _, hv, rfl⟩⟩
  | stale =>
      obtain ⟨hne, old, hold, rfl⟩ := h
      refine ⟨fun ⟨k, e, hv, he⟩ => ?_, fun hf => hf.elim⟩
      have hself := congrFun hv originalConnID
      rw [View.single_self, eq_comm, View.single_eq_some] at hself
      rw [hself.2] at he
      exact hold he
  | lost =>
      obtain ⟨hne, rfl⟩ := h
      refine ⟨fun ⟨k, e, hv, he⟩ => ?_, fun hf => hf.elim⟩
      have hself := congrFun hv k
      rw [View.single_self] at hself
      cases hself
  | doubled =>
      obtain ⟨k, old, -, -, hold, hv⟩ := h
      refine ⟨fun ⟨k', e, hv', he⟩ => ?_, fun hf => hf.elim⟩
      rw [hv', View.single_eq_some] at hv
      rw [hv.2] at he
      exact hold he

end Shape

section Words

variable {N : Type} [DecidableEq N]

/-- The phase after reconnections to these nodes; `handler` is the one that handles
RTC. -/
def after (handler : N) (w : List N) : Phase :=
  w.foldl (fun ph n => ph.next (n = handler)) joined

theorem after_append (handler : N) (w : List N) (n : N) :
    after handler (w ++ [n]) = (after handler w).next (n = handler) := by
  simp [after]

/-- The client first reconnected elsewhere. -/
theorem after_away {handler n : N} (hn : n ≠ handler) (l : List N) :
    l = [] ∧ after handler (n :: l) = moved ∨
    l.getLast? = some handler ∧ after handler (n :: l) = followed ∨
    l ≠ [] ∧ l.getLast? ≠ some handler ∧
      (after handler (n :: l) = stale ∨ after handler (n :: l) = lost) := by
  induction l using List.reverseRecOn with
  | nil =>
      refine .inl ⟨rfl, ?_⟩
      simp [after, next, hn]
  | append_singleton l m ih =>
      right
      rw [← List.cons_append, after_append, List.getLast?_concat]
      by_cases hm : m = handler
      · left
        rw [decide_eq_true hm]
        refine ⟨congrArg some hm, ?_⟩
        rcases ih with ⟨-, h⟩ | ⟨-, h⟩ | ⟨-, -, h | h⟩ <;> rw [h] <;> rfl
      · right
        rw [decide_eq_false hm]
        refine ⟨by simp, fun he => hm (Option.some.inj he), ?_⟩
        rcases ih with ⟨-, h⟩ | ⟨-, h⟩ | ⟨-, -, h | h⟩ <;> rw [h]
        · exact .inl rfl
        · exact .inr rfl
        · exact .inl rfl
        · exact .inr rfl

/-- The client first reconnected to the handler node. -/
theorem after_here (handler : N) (l : List N) :
    l = [] ∧ after handler (handler :: l) = here ∨
    (∃ n, n ≠ handler ∧ l = [n]) ∧ after handler (handler :: l) = movedOn ∨
    l ≠ [] ∧ (∀ n, n ≠ handler → l ≠ [n]) ∧ after handler (handler :: l) = doubled := by
  induction l using List.reverseRecOn with
  | nil =>
      refine .inl ⟨rfl, ?_⟩
      simp [after, next]
  | append_singleton l m ih =>
      right
      rw [← List.cons_append, after_append]
      rcases ih with ⟨rfl, h⟩ | ⟨⟨n, -, rfl⟩, h⟩ | ⟨hne, -, h⟩
      · rw [h]
        by_cases hm : m = handler
        · right
          rw [decide_eq_true hm]
          exact ⟨by simp, fun n hn he => hn (by simpa [hm] using he.symm), rfl⟩
        · left
          rw [decide_eq_false hm]
          exact ⟨⟨m, hm, rfl⟩, rfl⟩
      · right
        rw [h]
        exact ⟨by simp, fun _ _ he => by simp at he, rfl⟩
      · right
        rw [h]
        exact ⟨by simp, fun _ _ he => hne (by simpa using congrArg List.dropLast he),
          rfl⟩

/-- The reconnections the handler node can follow: at most one; one to it and then one
to another node; or any that begin with another node and end with it. -/
def Followed (handler : N) (w : List N) : Prop :=
  w.length ≤ 1 ∨ (∃ n, n ≠ handler ∧ w = [handler, n]) ∨
    w.head? ≠ some handler ∧ w.getLast? = some handler

theorem tracking_after (handler : N) (w : List N) :
    (after handler w).Tracking ↔ Followed handler w := by
  unfold Followed
  cases w with
  | nil => exact ⟨fun _ => .inl (Nat.zero_le _), fun _ => trivial⟩
  | cons n l =>
      by_cases hn : n = handler
      · subst hn
        rcases after_here n l with ⟨rfl, h⟩ | ⟨⟨m, hm, rfl⟩, h⟩ | ⟨hne, hno, h⟩
        · rw [h]
          exact ⟨fun _ => .inl (le_refl _), fun _ => trivial⟩
        · rw [h]
          exact ⟨fun _ => .inr (.inl ⟨m, hm, rfl⟩), fun _ => trivial⟩
        · rw [h]
          refine ⟨fun hf => hf.elim, ?_⟩
          rintro (hlen | ⟨m, hm, he⟩ | ⟨hhead, -⟩)
          · exact hne (List.length_eq_zero_iff.1 (by simpa using hlen))
          · exact hno m hm (List.cons.inj he).2
          · exact hhead rfl
      · have hlast : l ≠ [] → (n :: l).getLast? = l.getLast? := fun hl =>
          List.getLast?_cons_of_ne_nil hl
        have hhead : (n :: l).head? ≠ some handler := fun he => hn (Option.some.inj he)
        rcases after_away hn l with ⟨rfl, h⟩ | ⟨hend, h⟩ | ⟨hne, hend, h⟩
        · rw [h]
          exact ⟨fun _ => .inl (le_refl _), fun _ => trivial⟩
        · rw [h]
          have hne : l ≠ [] := by
            rintro rfl
            cases hend
          exact ⟨fun _ => .inr (.inr ⟨hhead, (hlast hne).trans hend⟩), fun _ => trivial⟩
        · refine ⟨fun hf => by rcases h with h | h <;> rw [h] at hf <;> exact hf.elim,
            ?_⟩
          rintro (hlen | ⟨m, hm, he⟩ | ⟨-, he⟩)
          · exact absurd (List.length_eq_zero_iff.1 (by simpa using hlen)) hne
          · exact absurd (List.cons.inj he).1 hn
          · exact absurd ((hlast hne).symm.trans he) hend

end Words

end Phase

/-! ## The node -/

/-- The session of a slot, if it is one of the client that is not about to be
cleared. -/
def Node.entry (n : Node) (originalConnID : String) (slot : Slot) : Option Entry :=
  let us := n.heap slot.us
  if us.originalConnID = originalConnID ∧
      (us.rtc = true ∨ us.wsReconnected = false) then
    some ⟨us.connID, us.rtc, us.wsReconnected⟩
  else none

/-- What the node has of the client. -/
def Node.view (n : Node) (originalConnID : String) : View := fun k =>
  (n.sessions.find? k).bind (n.entry originalConnID)

/-- Slots point to different sessions. -/
structure Node.Apart (n : Node) : Prop where
  slots : ∀ x ∈ n.sessions, x.us < n.next
  routines : ∀ r ∈ n.readers, r.us < n.next
  apart : ∀ x ∈ n.sessions, ∀ y ∈ n.sessions, x.us = y.us → x = y

/-- The map of the node is in order: the client's keys and connection ids are among
those it has had, and a session of the client that does not handle RTC has its
routine. -/
structure Node.Tidy (n : Node) (originalConnID latest : String) (used : List String) :
    Prop extends n.Apart where
  mine : ∀ x ∈ n.sessions, x.key ∈ used → (n.heap x.us).originalConnID = originalConnID
  keys : ∀ x ∈ n.sessions, (n.heap x.us).originalConnID = originalConnID →
    x.key ∈ used ∧ (n.heap x.us).connID ∈ used
  plain : ∀ x ∈ n.sessions, (n.heap x.us).originalConnID = originalConnID →
    (n.heap x.us).rtc = false → (n.heap x.us).connID = x.key ∧ ⟨x.key, x.us⟩ ∈ n.readers
  closing : ∀ x ∈ n.sessions, (n.heap x.us).originalConnID = originalConnID →
    (n.heap x.us).rtc = false → (n.heap x.us).wsReconnected = true → x.key ≠ latest

section Node

variable {n : Node} {originalConnID latest connID : String} {used : List String}

theorem Node.view_of_mem {x : Slot} (hx : x ∈ n.sessions) :
    n.view originalConnID x.key = n.entry originalConnID x := by
  unfold Node.view
  rw [Table.find?_eq_some.2 ⟨hx, rfl⟩]
  rfl

theorem Node.view_eq_some {k : String} {e : Entry} : n.view originalConnID k = some e ↔
    ∃ x ∈ n.sessions, x.key = k ∧ n.entry originalConnID x = some e := by
  unfold Node.view
  rw [Option.bind_eq_some_iff]
  constructor
  · rintro ⟨x, hx, he⟩
    obtain ⟨hx, hk⟩ := Table.find?_eq_some.1 hx
    exact ⟨x, hx, hk, he⟩
  · rintro ⟨x, hx, hk, he⟩
    exact ⟨x, Table.find?_eq_some.2 ⟨hx, hk⟩, he⟩

theorem Node.entry_eq_some {x : Slot} {e : Entry} : n.entry originalConnID x = some e ↔
    (n.heap x.us).originalConnID = originalConnID ∧
      ((n.heap x.us).rtc = true ∨ (n.heap x.us).wsReconnected = false) ∧
      e = ⟨(n.heap x.us).connID, (n.heap x.us).rtc, (n.heap x.us).wsReconnected⟩ := by
  unfold Node.entry
  dsimp only
  split
  next h =>
    rw [Option.some.injEq, eq_comm]
    exact ⟨fun he => ⟨h.1, h.2, he⟩, fun he => he.2.2⟩
  next h => exact ⟨fun he => (by cases he), fun he => absurd ⟨he.1, he.2.1⟩ h⟩

/-- What the node has of the client it has under ids the client has had. -/
theorem Node.Tidy.unseen (h : n.Tidy originalConnID latest used)
    (hnew : connID ∉ used) :
    Phase.Unseen connID (n.view originalConnID) := by
  intro k e hv
  obtain ⟨x, hx, rfl, he⟩ := Node.view_eq_some.1 hv
  obtain ⟨ho, -, rfl⟩ := Node.entry_eq_some.1 he
  obtain ⟨hk, hc⟩ := h.keys x hx ho
  exact ⟨fun he => hnew (he ▸ hk), fun he => hnew (he ▸ hc)⟩

/-- Another slot is as it was when a session is changed. -/
theorem Node.Tidy.set_heap (h : n.Tidy originalConnID latest used) {x y : Slot}
    (hx : x ∈ n.sessions) (hy : y ∈ n.sessions) (hne : y ≠ x) (s : Session) :
    (n.set x.us s).heap y.us = n.heap y.us := by
  unfold Node.set
  exact Function.update_of_ne (fun he => hne (h.apart y hy x hx he)) _ _

/-- The client has a connection id it did not have before. -/
theorem Node.Tidy.renew (h : n.Tidy originalConnID latest used)
    (hkeys : ∀ x ∈ n.sessions, x.key ≠ connID) :
    n.Tidy originalConnID connID (connID :: used) where
  slots := h.slots
  routines := h.routines
  apart := h.apart
  mine x hx hk := h.mine x hx ((List.mem_cons.1 hk).resolve_left (hkeys x hx))
  keys x hx ho := by
    obtain ⟨hk, hc⟩ := h.keys x hx ho
    exact ⟨List.mem_cons_of_mem _ hk, List.mem_cons_of_mem _ hc⟩
  plain := h.plain
  closing x hx _ _ _ := hkeys x hx

/-- A session of the client is changed, but not whose it is nor what it handles. -/
theorem Node.Tidy.set (h : n.Tidy originalConnID latest used) {x : Slot}
    (hx : x ∈ n.sessions) {s : Session}
    (ho : s.originalConnID = (n.heap x.us).originalConnID)
    (hr : s.rtc = (n.heap x.us).rtc)
    (hc : s.connID = (n.heap x.us).connID ∨ s.rtc = true ∧ s.connID ∈ used)
    (hclosing : x.key ≠ latest) : (n.set x.us s).Tidy originalConnID latest used := by
  have hself : (n.set x.us s).heap x.us = s := Function.update_self ..
  refine ⟨⟨h.slots, h.routines, h.apart⟩, fun y hy hk => ?_, fun y hy hyo => ?_,
    fun y hy hyo hyr => ?_, fun y hy hyo hyr hyw => ?_⟩
  all_goals by_cases hyx : y = x
  · subst hyx
    rw [hself, ho]
    exact h.mine y hy hk
  · rw [h.set_heap hx hy hyx s]
    exact h.mine y hy hk
  · subst hyx
    rw [hself] at hyo ⊢
    obtain ⟨hk, hconn⟩ := h.keys y hy (ho.symm.trans hyo)
    refine ⟨hk, ?_⟩
    rcases hc with hc | ⟨-, hc⟩
    · rw [hc]
      exact hconn
    · exact hc
  · rw [h.set_heap hx hy hyx s] at hyo ⊢
    exact h.keys y hy hyo
  · subst hyx
    rw [hself] at hyo hyr ⊢
    obtain ⟨hconn, hreader⟩ := h.plain y hy (ho.symm.trans hyo) (hr.symm.trans hyr)
    refine ⟨?_, hreader⟩
    rcases hc with hc | ⟨hrtc, -⟩
    · exact hc.trans hconn
    · rw [hyr] at hrtc
      cases hrtc
  · rw [h.set_heap hx hy hyx s] at hyo hyr ⊢
    exact h.plain y hy hyo hyr
  · subst hyx
    exact hclosing
  · rw [h.set_heap hx hy hyx s] at hyo hyr hyw
    exact h.closing y hy hyo hyr hyw

theorem Node.Tidy.view_set (h : n.Tidy originalConnID latest used) {x : Slot}
    (hx : x ∈ n.sessions) (s : Session) (k : String) :
      (n.set x.us s).view originalConnID k =
      if k = x.key then (n.set x.us s).entry originalConnID x
        else n.view originalConnID k := by
  split
  next hk =>
    subst hk
    exact Node.view_of_mem (n := n.set x.us s) hx
  next hk =>
    show (n.sessions.find? k).bind _ = (n.sessions.find? k).bind _
    cases hf : n.sessions.find? k with
    | none => rfl
    | some y =>
        obtain ⟨hy, rfl⟩ := Table.find?_eq_some.1 hf
        have hyx : y ≠ x := fun he => hk (congrArg Slot.key he)
        show (n.set x.us s).entry originalConnID y = n.entry originalConnID y
        unfold Node.entry
        rw [h.set_heap hx hy hyx s]

/-- A slot is deleted. -/
theorem Node.Tidy.erase (h : n.Tidy originalConnID latest used) (k : String) :
    Node.Tidy { n with sessions := n.sessions.erase k } originalConnID latest used where
  slots x hx := h.slots x (Table.mem_erase.1 hx).1
  routines := h.routines
  apart x hx y hy := h.apart x (Table.mem_erase.1 hx).1 y (Table.mem_erase.1 hy).1
  mine x hx := h.mine x (Table.mem_erase.1 hx).1
  keys x hx := h.keys x (Table.mem_erase.1 hx).1
  plain x hx := h.plain x (Table.mem_erase.1 hx).1
  closing x hx := h.closing x (Table.mem_erase.1 hx).1

theorem Node.view_erase (n : Node) (originalConnID k k' : String) :
    Node.view { n with sessions := n.sessions.erase k } originalConnID k' =
      if k' = k then none else n.view originalConnID k' := by
  show ((n.sessions.erase k).find? k').bind (n.entry originalConnID) = _
  rw [Table.find?_erase]
  split
  · rfl
  · rfl

/-- The new session of a reconnection takes its place. -/
theorem Node.Tidy.storeSession {r : ReconnectRequest}
    (h : n.Tidy r.originalConnID r.connID used) (hused : r.connID ∈ used)
    (hkeys : ∀ x ∈ n.sessions, x.key ≠ r.connID) (callID : String) (rtc : Bool) :
      (n.storeSession r callID rtc).Tidy r.originalConnID r.connID used ∧
      ∀ k, (n.storeSession r callID rtc).view r.originalConnID k =
        if k = r.connID then some ⟨r.connID, rtc, false⟩
        else if k = r.originalConnID then none else n.view r.originalConnID k := by
  have hold : ∀ x ∈ n.sessions, (n.storeSession r callID rtc).heap x.us = n.heap x.us :=
      fun x hx =>
    Function.update_of_ne (h.slots x hx).ne _ _
  have hnew : (n.storeSession r callID rtc).heap n.next =
      { newUserSession r.userID r.channelID r.connID callID rtc with
        originalConnID := r.originalConnID } :=
    Function.update_self ..
  have hmem : ∀ x, x ∈ (n.storeSession r callID rtc).sessions →
      (x ∈ n.sessions ∧ x.key ≠ r.originalConnID) ∨ x = ⟨r.connID, n.next⟩ := by
    intro x hx
    rcases Table.mem_put.1 hx with ⟨hx, -⟩ | rfl
    · exact .inl (Table.mem_erase.1 hx)
    · exact .inr rfl
  refine ⟨⟨⟨fun x hx => ?_, fun x hx => ?_, fun x hx y hy hxy => ?_⟩, fun x hx hk => ?_,
    fun x hx ho => ?_, fun x hx ho hr => ?_, fun x hx ho hr hw => ?_⟩, fun k => ?_⟩
  · rcases hmem x hx with ⟨hx, -⟩ | rfl
    · exact Nat.lt_succ_of_lt (h.slots x hx)
    · exact Nat.lt_succ_self _
  · rcases List.mem_cons.1 hx with rfl | hx
    · exact Nat.lt_succ_self _
    · exact Nat.lt_succ_of_lt (h.routines x hx)
  · rcases hmem x hx with ⟨hx, -⟩ | rfl <;> rcases hmem y hy with ⟨hy, -⟩ | rfl
    · exact h.apart x hx y hy hxy
    · exact absurd hxy (h.slots x hx).ne
    · exact absurd hxy (h.slots y hy).ne'
    · rfl
  · rcases hmem x hx with ⟨hx, -⟩ | rfl
    · rw [hold x hx]
      exact h.mine x hx hk
    · rw [hnew]
  · rcases hmem x hx with ⟨hx, -⟩ | rfl
    · rw [hold x hx] at ho ⊢
      exact h.keys x hx ho
    · rw [hnew]
      exact ⟨hused, hused⟩
  · rcases hmem x hx with ⟨hx, -⟩ | rfl
    · rw [hold x hx] at ho hr ⊢
      obtain ⟨hc, hreader⟩ := h.plain x hx ho hr
      exact ⟨hc, List.mem_cons_of_mem _ hreader⟩
    · rw [hnew]
      exact ⟨rfl, List.mem_cons_self ..⟩
  · rcases hmem x hx with ⟨hx, -⟩ | rfl
    · exact hkeys x hx
    · rw [hnew] at hw
      cases hw
  · show (((n.sessions.erase r.originalConnID).put ⟨r.connID, n.next⟩).find? k).bind _ =
      _
    rw [Table.find?_put, Table.find?_erase]
    split
    · show (n.storeSession r callID rtc).entry r.originalConnID ⟨r.connID, n.next⟩ = _
      refine Node.entry_eq_some.2 ?_
      rw [hnew]
      exact ⟨rfl, .inr rfl, rfl⟩
    split
    · rfl
    · show (n.sessions.find? k).bind _ = (n.sessions.find? k).bind _
      cases hf : n.sessions.find? k with
      | none => rfl
      | some y =>
          show Node.entry _ r.originalConnID y = n.entry r.originalConnID y
          unfold Node.entry
          rw [hold y (Table.find?_eq_some.1 hf).1]

/-- The node is told of a reconnection elsewhere. -/
theorem Node.Tidy.event (h : n.Tidy originalConnID latest used)
    (hlatest : latest ∈ used) (hkeys : ∀ x ∈ n.sessions, x.key ≠ connID)
    {msg : ReconnectMessage} (hprev : msg.connID = latest)
    (hnew : msg.newConnID = connID) :
    (handleReconnectEvent msg n).2.Tidy originalConnID connID (connID :: used) ∧
      (handleReconnectEvent msg n).2.view originalConnID =
        (n.view originalConnID).told latest connID := by
  have hrenew : n.Tidy originalConnID connID (connID :: used) := h.renew hkeys
  unfold handleReconnectEvent
  rw [hprev, hnew]
  cases hf : n.sessions.find? latest with
  | none =>
      have hnone : n.view originalConnID latest = none := by
        unfold Node.view
        rw [hf]
        rfl
      refine ⟨hrenew, funext fun k => ?_⟩
      show n.view originalConnID k = _
      unfold View.told
      by_cases hk : k = latest
      · rw [if_pos hk, hk, hnone]
        rfl
      · rw [if_neg hk]
  | some x =>
      obtain ⟨hx, hxk⟩ := Table.find?_eq_some.1 hf
      have ho : (n.heap x.us).originalConnID = originalConnID :=
        h.mine x hx (hxk ▸ hlatest)
      have hview : n.view originalConnID latest = n.entry originalConnID x :=
        hxk ▸ Node.view_of_mem hx
      dsimp only
      by_cases hw : (n.heap x.us).wsReconnected = true
      · rw [if_pos hw]
        have hr : (n.heap x.us).rtc = true := by
          by_contra hr
          exact h.closing x hx ho (Bool.not_eq_true _ ▸ hr) hw hxk
        have he : n.entry originalConnID x = some ⟨(n.heap x.us).connID, true, true⟩ :=
          Node.entry_eq_some.2 ⟨ho, .inl hr, by rw [hr, hw]⟩
        refine ⟨hrenew, funext fun k => ?_⟩
        unfold View.told
        rw [hview, he]
        split
        next hk => rw [hk, hview, he]; rfl
        · rfl
      rw [if_neg hw]
      have hw : (n.heap x.us).wsReconnected = false := by simpa using hw
      have hself : (n.markReconnected x.us).heap x.us =
          { n.heap x.us with wsReconnected := true } :=
        Function.update_self ..
      have he : n.entry originalConnID x =
          some ⟨(n.heap x.us).connID, (n.heap x.us).rtc, false⟩ :=
        Node.entry_eq_some.2 ⟨ho, .inr hw, by rw [hw]⟩
      rw [hself]
      by_cases hr : (n.heap x.us).rtc = true
      · rw [if_pos hr]
        have hset : (n.markReconnected x.us).set x.us { n.heap x.us with
            wsReconnected := true, connID := connID } = n.set x.us { n.heap x.us with
            wsReconnected := true, connID := connID } := by
          unfold Node.markReconnected Node.set
          rw [Function.update_idem]
        have hentry : (n.set x.us
            { n.heap x.us with wsReconnected := true, connID := connID }).entry
            originalConnID x = some ⟨connID, true, true⟩ := by
          refine Node.entry_eq_some.2 ?_
          rw [show (n.set x.us { n.heap x.us with
            wsReconnected := true, connID := connID }).heap x.us =
              _ from Function.update_self ..]
          exact ⟨ho, .inl hr, by rw [hr]⟩
        rw [hset]
        refine ⟨hrenew.set hx rfl rfl (.inr ⟨hr, List.mem_cons_self ..⟩) (hkeys x hx),
          funext fun k => ?_⟩
        rw [hrenew.view_set hx, hentry, hxk]
        unfold View.told
        rw [hview, he, hr]
        rfl
      · rw [if_neg hr]
        have hr : (n.heap x.us).rtc = false := by simpa using hr
        have hmark : (n.markReconnected x.us).Tidy originalConnID connID
            (connID :: used) :=
          hrenew.set hx rfl rfl (.inl rfl) (hkeys x hx)
        refine ⟨hmark.erase _, funext fun k => ?_⟩
        rw [Node.view_erase, (h.plain x hx ho hr).1, hxk]
        unfold View.told
        split
        · rw [hview, he, hr]
          rfl
        next hk =>
          show (n.set x.us _).view originalConnID k = _
          rw [hrenew.view_set hx, hxk, if_neg hk]

/-- A request to reconnect that succeeds stores a session and announces it. -/
theorem handleReconnect_ok {e : ReconnectEnv} {r : ReconnectRequest}
    {msg : ReconnectMessage} {n' : Node} (hok : handleReconnect e r n = (.ok msg, n')) :
    ∃ callID rtc n₁, n.claimSession r = .ok (rtc, n₁) ∧
      n' = n₁.storeSession r callID rtc ∧
      msg = ⟨r.prevConnID, r.connID, r.userID, callID⟩ := by
  unfold handleReconnect at hok
  split at hok
  case h_1 => cases hok
  case h_2 state hstate =>
    split at hok
    case h_1 => cases hok
    case h_2 rtc n₁ hclaim =>
      split at hok
      case h_1 => cases hok
      case h_2 =>
        cases hok
        exact ⟨_, _, _, hclaim, rfl, rfl⟩

/-- The client reconnects to the node. -/
theorem Node.Tidy.handleReconnect {e : ReconnectEnv} {r : ReconnectRequest}
    {msg : ReconnectMessage} {n' : Node} (h : n.Tidy r.originalConnID r.prevConnID used)
    (hlatest : r.prevConnID ∈ used) (hkeys : ∀ x ∈ n.sessions, x.key ≠ r.connID)
    (hok : handleReconnect e r n = (.ok msg, n')) :
    n'.Tidy r.originalConnID r.connID (r.connID :: used) ∧
      n'.view r.originalConnID =
        (n.view r.originalConnID).reconnected r.originalConnID r.prevConnID
          r.connID := by
  have hrenew : n.Tidy r.originalConnID r.connID (r.connID :: used) := h.renew hkeys
  have hnone : n.sessions.find? r.connID = none := Table.find?_eq_none.2 hkeys
  obtain ⟨callID, rtc, n₁, hclaim, rfl, -⟩ := handleReconnect_ok hok
  unfold Node.claimSession at hclaim
  rw [hnone, Option.none_or] at hclaim
  split at hclaim
  case h_1 hf =>
    cases hclaim
    obtain ⟨htidy, hview⟩ :=
      hrenew.storeSession (List.mem_cons_self ..) hkeys callID false
    refine ⟨htidy, funext fun k => ?_⟩
    have hprev : n.view r.originalConnID r.prevConnID = none := by
      unfold Node.view
      rw [hf]
      rfl
    rw [hview k]
    unfold View.reconnected
    rw [hprev]
    split
    · rfl
    split
    · rfl
    split
    next hk => rw [hk, hprev]; rfl
    · rfl
  case h_2 x hf =>
    obtain ⟨hx, hxk⟩ := Table.find?_eq_some.1 hf
    split at hclaim
    case isTrue => cases hclaim
    case isFalse hw =>
      cases hclaim
      have hw : (n.heap x.us).wsReconnected = false := by simpa using hw
      have ho : (n.heap x.us).originalConnID = r.originalConnID :=
        h.mine x hx (hxk ▸ hlatest)
      have hmark : (n.markReconnected x.us).Tidy r.originalConnID r.connID
          (r.connID :: used) :=
        hrenew.set hx rfl rfl (.inl rfl) (hkeys x hx)
      have hself : (n.markReconnected x.us).heap x.us =
          { n.heap x.us with wsReconnected := true } := Function.update_self ..
      have hprev : n.view r.originalConnID r.prevConnID =
          some ⟨(n.heap x.us).connID, (n.heap x.us).rtc, false⟩ := by
        rw [← hxk, Node.view_of_mem hx]
        exact Node.entry_eq_some.2 ⟨ho, .inr hw, by rw [hw]⟩
      obtain ⟨htidy, hview⟩ := hmark.storeSession (List.mem_cons_self ..) hkeys callID
        (n.heap x.us).rtc
      refine ⟨htidy, funext fun k => ?_⟩
      rw [hview k]
      unfold View.reconnected
      rw [hprev]
      split
      · rfl
      split
      · rfl
      show (n.set x.us _).view r.originalConnID k = _
      rw [hrenew.view_set hx, hxk]
      split
      · show (n.markReconnected x.us).entry r.originalConnID x = _
        unfold Node.entry
        rw [hself]
        dsimp only
        by_cases hr : (n.heap x.us).rtc = true
        · rw [if_pos ⟨ho, .inl hr⟩]
          show _ = if (n.heap x.us).rtc = true then _ else _
          rw [if_pos hr]
        · rw [if_neg fun hc => hr (hc.2.resolve_right (by simp))]
          show _ = if (n.heap x.us).rtc = true then _ else _
          rw [if_neg hr]
      · rfl

/-- The node becomes one that has the same of the client, and no other slots. -/
structure Node.Keeps (n n' : Node) (originalConnID : String) : Prop where
  tidy : ∀ {latest : String} {used : List String}, n.Tidy originalConnID latest used →
    n'.Tidy originalConnID latest used
  view : n'.view originalConnID = n.view originalConnID
  sessions : ∀ x ∈ n'.sessions, x ∈ n.sessions

theorem Node.Keeps.refl (n : Node) (originalConnID : String) :
    n.Keeps n originalConnID :=
  ⟨id, rfl, fun _ => id⟩

/-- A routine whose session has reconnected clears it. -/
theorem Node.handleLeave_keeps {r : Reader}
    (hrec : (n.heap r.us).wsReconnected = true) :
    n.Keeps (n.handleLeave r) originalConnID := by
  have hsub : ∀ x ∈ (n.handleLeave r).sessions, x ∈ n.sessions := by
    intro x hx
    unfold Node.handleLeave at hx
    dsimp only at hx
    split at hx
    · exact hx
    split at hx
    · exact (Table.mem_erase.1 hx).1
    · exact hx
  refine ⟨fun h => ⟨⟨fun x hx => h.slots x (hsub x hx),
    fun x hx => h.routines x (List.mem_of_mem_erase hx),
    fun x hx y hy => h.apart x (hsub x hx) y (hsub y hy)⟩,
    fun x hx => h.mine x (hsub x hx),
    fun x hx => h.keys x (hsub x hx), fun x hx ho hr => ?_,
      fun x hx => h.closing x (hsub x hx)⟩,
    funext fun k => ?_, hsub⟩
  · obtain ⟨hc, hreader⟩ := h.plain x (hsub x hx) ho hr
    refine ⟨hc, ?_⟩
    by_cases hxr : (⟨x.key, x.us⟩ : Reader) = r
    · -- its own routine would have cleared it
      subst hxr
      have hf : n.sessions.find? x.key = some x :=
        Table.find?_eq_some.2 ⟨hsub x hx, rfl⟩
      unfold Node.handleLeave at hx
      dsimp only at hx
      rw [hf] at hx
      dsimp only at hx
      rw [if_pos ⟨rfl, hr⟩] at hx
      exact absurd rfl (Table.mem_erase.1 hx).2
    · exact (List.mem_erase_of_ne hxr).2 hreader
  · show ((n.handleLeave r).sessions.find? k).bind (n.entry originalConnID) =
      (n.sessions.find? k).bind _
    unfold Node.handleLeave
    dsimp only
    cases hf : n.sessions.find? r.connID with
    | none => rfl
    | some x =>
        dsimp only
        split
        next hclear =>
          rw [Table.find?_erase]
          split
          next hk =>
            rw [hk, hf]
            show none = n.entry originalConnID x
            unfold Node.entry
            rw [hclear.1]
            refine (if_neg ?_).symm
            rintro ⟨-, hr | hw⟩
            · rw [hclear.2] at hr
              cases hr
            · rw [hrec] at hw
              cases hw
          · rfl
        · rfl

/-! ## Tracking -/

/-- The node has one session of the client, with its current connection id. -/
def Node.Tracks (n : Node) (originalConnID latest : String) : Prop :=
  ∃ x ∈ n.sessions, (n.heap x.us).originalConnID = originalConnID ∧
    (n.heap x.us).connID = latest ∧
    ∀ y ∈ n.sessions, (n.heap y.us).originalConnID = originalConnID → y = x

/-- No session of the client is about to be cleared by its routine. -/
def Node.Cleared (n : Node) (originalConnID : String) : Prop :=
  ∀ x ∈ n.sessions, (n.heap x.us).originalConnID = originalConnID →
    (n.heap x.us).rtc = true ∨ (n.heap x.us).wsReconnected = false

/-- A routine whose session has reconnected leaves, so that nothing stays uncleared. -/
theorem Node.Tidy.cleared (h : n.Tidy originalConnID latest used)
    (hr : ∀ r ∈ n.readers, (n.heap r.us).wsReconnected = false) :
    n.Cleared originalConnID := by
  intro x hx ho
  by_cases hrtc : (n.heap x.us).rtc = true
  · exact .inl hrtc
  · obtain ⟨-, hreader⟩ := h.plain x hx ho (by simpa using hrtc)
    exact .inr (hr _ hreader)

theorem Node.Tidy.tracks_iff (h : n.Tidy originalConnID latest used) :
    n.Tracks originalConnID latest ↔
      (∃ k e, n.view originalConnID = .single k e ∧ e.connID = latest) ∧
      n.Cleared originalConnID := by
  constructor
  · rintro ⟨x, hx, ho, hc, honly⟩
    have hkept : (n.heap x.us).rtc = true ∨ (n.heap x.us).wsReconnected = false := by
      by_contra hno
      obtain ⟨hr, hw⟩ := not_or.1 hno
      have hr : (n.heap x.us).rtc = false := by simpa using hr
      have hw : (n.heap x.us).wsReconnected = true := by simpa using hw
      exact h.closing x hx ho hr hw ((h.plain x hx ho hr).1.symm.trans hc)
    refine ⟨⟨x.key, ⟨(n.heap x.us).connID, (n.heap x.us).rtc,
      (n.heap x.us).wsReconnected⟩, funext fun k => ?_, hc⟩, fun y hy hyo => ?_⟩
    · by_cases hk : k = x.key
      · rw [hk, Node.view_of_mem hx, View.single_self]
        exact Node.entry_eq_some.2 ⟨ho, hkept, rfl⟩
      · rw [View.single_of_ne _ hk]
        cases hv : n.view originalConnID k with
        | none => rfl
        | some e =>
            obtain ⟨y, hy, rfl, he⟩ := Node.view_eq_some.1 hv
            exact absurd (congrArg Slot.key (honly y hy (Node.entry_eq_some.1 he).1)) hk
    · rw [honly y hy hyo]
      exact hkept
  · rintro ⟨⟨k, e, hv, hc⟩, hcleared⟩
    have hself : n.view originalConnID k = some e := by rw [hv, View.single_self]
    obtain ⟨x, hx, rfl, he⟩ := Node.view_eq_some.1 hself
    obtain ⟨ho, -, rfl⟩ := Node.entry_eq_some.1 he
    refine ⟨x, hx, ho, hc, fun y hy hyo => ?_⟩
    have hy' : n.view originalConnID y.key = some _ :=
      Node.view_eq_some.2 ⟨y, hy, rfl,
        Node.entry_eq_some.2 ⟨hyo, hcleared y hy hyo, rfl⟩⟩
    rw [hv, View.single_eq_some] at hy'
    exact n.sessions.eq_of_key_eq hy hx hy'.1

/-- A signal for the client's session then goes to its current connection. -/
theorem Node.Tidy.signalTarget (h : n.Tidy originalConnID latest used)
    (ho : originalConnID ∈ used) (ht : n.Tracks originalConnID latest)
    {iter : List Slot → List Slot} (hiter : ∀ l, (iter l).Perm l) :
    n.signalTarget iter originalConnID = some latest := by
  obtain ⟨x, hx, hxo, hc, honly⟩ := ht
  have hfound : n.slotByOriginalID iter originalConnID = some x := by
    obtain ⟨y, hy⟩ := Node.exists_slotByOriginalID hiter hx hxo
    obtain ⟨hmem, hk⟩ := Node.slotByOriginalID_eq_some hiter hy
    rw [hy]
    refine congrArg some (honly y hmem ?_)
    rcases hk with hk | hk
    · exact h.mine y hmem (hk ▸ ho)
    · exact hk
  rw [Node.signalTarget, Node.getSessionByOriginalID, hfound]
  exact congrArg some hc

end Node

/-! ## Sequences -/

/-- The client has joined: the node has its session, with the connection id it joined
with, and nothing else of it. -/
structure Node.Joined (n : Node) (originalConnID : String) : Prop extends n.Apart where
  session : ∃ x ∈ n.sessions, x.key = originalConnID ∧
    (n.heap x.us).connID = originalConnID ∧
    (n.heap x.us).originalConnID = originalConnID ∧
    (n.heap x.us).rtc = true ∧ (n.heap x.us).wsReconnected = false ∧
    ∀ y ∈ n.sessions, (n.heap y.us).originalConnID = originalConnID → y = x

/-- The node stores the session of a client that joins with a new connection id. -/
theorem Node.Apart.insertSession {n : Node} (h : n.Apart)
    (userID channelID connID callID : String)
    (hnew : ∀ x ∈ n.sessions, x.key ≠ connID ∧ (n.heap x.us).originalConnID ≠ connID) :
    (n.insertSession connID (newUserSession userID channelID connID callID true)).Joined
      connID := by
  have hold : ∀ x ∈ n.sessions, (n.insertSession connID
      (newUserSession userID channelID connID callID true)).heap x.us = n.heap x.us :=
      fun x hx =>
    Function.update_of_ne (h.slots x hx).ne _ _
  have hself :
      (n.insertSession connID (newUserSession userID channelID connID callID true)).heap
      n.next = newUserSession userID channelID connID callID true :=
      Function.update_self ..
  have hmem : ∀ x, x ∈ (n.insertSession connID
      (newUserSession userID channelID connID callID true)).sessions →
      x ∈ n.sessions ∨ x = ⟨connID, n.next⟩ := fun x hx =>
    (Table.mem_put.1 hx).imp And.left id
  refine ⟨⟨fun x hx => ?_, fun r hr => Nat.lt_succ_of_lt (h.routines r hr),
    fun x hx y hy hxy => ?_⟩, ⟨connID, n.next⟩, Table.mem_put.2 (.inr rfl), rfl, ?_⟩
  · rcases hmem x hx with hx | rfl
    · exact Nat.lt_succ_of_lt (h.slots x hx)
    · exact Nat.lt_succ_self _
  · rcases hmem x hx with hx | rfl <;> rcases hmem y hy with hy | rfl
    · exact h.apart x hx y hy hxy
    · exact absurd hxy (h.slots x hx).ne
    · exact absurd hxy (h.slots y hy).ne'
    · rfl
  · rw [hself]
    refine ⟨rfl, rfl, rfl, rfl, fun y hy ho => ?_⟩
    rcases hmem y hy with hy | rfl
    · rw [hold y hy] at ho
      exact absurd ho (hnew y hy).2
    · rfl

/-- The client joined through another node. -/
theorem Node.Apart.connect {n : Node} (h : n.Apart) {msg : ConnectMessage}
    (hnew : ∀ x ∈ n.sessions, x.key ≠ msg.connID ∧
      (n.heap x.us).originalConnID ≠ msg.connID) :
    (handleConnectEvent msg n).2.Joined msg.connID := by
  have hf : n.sessions.find? msg.connID = none :=
    Table.find?_eq_none.2 fun x hx => (hnew x hx).1
  unfold handleConnectEvent
  rw [hf]
  exact h.insertSession _ _ _ _ hnew

/-- The client joined through the node itself. -/
theorem Node.Apart.handleJoin {n : Node} (h : n.Apart)
    (userID connID channelID callID : String)
    (hnew : ∀ x ∈ n.sessions, x.key ≠ connID ∧ (n.heap x.us).originalConnID ≠ connID) :
    (n.handleJoin userID connID channelID callID true).Joined connID := by
  have hj := h.insertSession userID channelID connID callID hnew
  refine ⟨⟨hj.slots, fun r hr => ?_, hj.apart⟩, hj.session⟩
  rcases List.mem_cons.1 hr with rfl | hr
  · exact Nat.lt_succ_self _
  · exact hj.routines r hr

theorem Node.Joined.tidy {n : Node} {originalConnID : String}
    (h : n.Joined originalConnID) :
    n.Tidy originalConnID originalConnID [originalConnID] ∧
      n.view originalConnID = .single originalConnID ⟨originalConnID, true, false⟩ := by
  obtain ⟨x, hx, hk, hc, ho, hr, hw, honly⟩ := h.session
  refine ⟨⟨h.toApart, fun y hy hyk => ?_, fun y hy hyo => ?_,
    fun y hy hyo hyr => ?_, fun y hy hyo hyr => ?_⟩, funext fun k => ?_⟩
  · rw [n.sessions.eq_of_key_eq hy hx ((List.mem_singleton.1 hyk).trans hk.symm)]
    exact ho
  · rw [honly y hy hyo, hk, hc]
    exact ⟨List.mem_singleton_self _, List.mem_singleton_self _⟩
  · rw [honly y hy hyo, hr] at hyr
    cases hyr
  · rw [honly y hy hyo, hr] at hyr
    cases hyr
  · by_cases hkk : k = originalConnID
    · have hv : n.view originalConnID x.key = some _ :=
        Node.view_eq_some.2 ⟨x, hx, rfl, Node.entry_eq_some.2 ⟨ho, .inl hr, rfl⟩⟩
      rw [hk, hc, hr, hw] at hv
      rw [hkk, View.single_self, hv]
    · rw [View.single_of_ne _ hkk]
      cases hv : n.view originalConnID k with
      | none => rfl
      | some e =>
          obtain ⟨y, hy, rfl, he⟩ := Node.view_eq_some.1 hv
          rw [honly y hy (Node.entry_eq_some.1 he).1] at hkk
          exact absurd hk hkk

section Sequences

variable {N : Type} [DecidableEq N] {handler : N} {originalConnID : String}

/-- The client has joined the call and not reconnected yet. -/
structure Cluster.Joined (c : Cluster N) (handler : N) (originalConnID : String) :
    Prop where
  inFlight : c.inFlight = []
  latest : c.latest = originalConnID
  used : c.used = [originalConnID]
  handler : (c.nodes handler).Joined originalConnID

/-- No message is on its way to the handler node, which has what the phase says. -/
structure Cluster.Settled (c : Cluster N) (handler : N) (originalConnID : String)
    (w : List N) :
    Prop where
  arrived : ∀ msg, (handler, msg) ∉ c.inFlight
  latest : c.latest ∈ c.used
  original : originalConnID ∈ c.used
  tidy : (c.nodes handler).Tidy originalConnID c.latest c.used
  shape : (Phase.after handler w).Shape originalConnID c.latest
    ((c.nodes handler).view originalConnID)

/-- The message of the last reconnection is on its way to the handler node. -/
structure Cluster.Awaits (c : Cluster N) (handler : N) (originalConnID : String)
    (w : List N) (n : N) (prev : String) (old : List String)
    (msg : ReconnectMessage) : Prop where
  away : n ≠ handler
  only : ∀ m, (handler, m) ∈ c.inFlight ↔ m = msg
  connID : msg.connID = prev
  newConnID : msg.newConnID = c.latest
  used : c.used = c.latest :: old
  fresh : c.latest ∉ old
  mem : prev ∈ old
  original : originalConnID ∈ old
  keys : ∀ x ∈ (c.nodes handler).sessions, x.key ≠ c.latest
  tidy : (c.nodes handler).Tidy originalConnID prev old
  shape : (Phase.after handler w).Shape originalConnID prev
    ((c.nodes handler).view originalConnID)

/-- The handler node is as the phase says, or is about to be told. -/
def Cluster.HandlerInv (c : Cluster N) (handler : N) (originalConnID : String)
    (w : List N) : Prop :=
  c.inFlight.Nodup ∧ (c.Settled handler originalConnID w ∨
    ∃ w₀ n prev used msg, w = w₀ ++ [n] ∧
      c.Awaits handler originalConnID w₀ n prev used msg)

theorem Cluster.Joined.inv {c : Cluster N} (h : c.Joined handler originalConnID) :
    c.HandlerInv handler originalConnID [] := by
  obtain ⟨htidy, hview⟩ := h.handler.tidy
  refine ⟨h.inFlight ▸ List.nodup_nil, .inl ⟨fun msg => ?_, ?_, ?_, ?_, ?_⟩⟩
  · rw [h.inFlight]
    exact List.not_mem_nil
  · rw [h.latest, h.used]
    exact List.mem_singleton_self _
  · rw [h.used]
    exact List.mem_singleton_self _
  · rw [h.latest, h.used]
    exact htidy
  · rw [hview, h.latest]
    exact ⟨rfl, rfl⟩

/-- The client reconnects. -/
theorem Cluster.Settled.reconnect {peers : List N} (hpeers : handler ∈ peers)
    {c : Cluster N} {w : List N} (h : c.Settled handler originalConnID w) {n : N}
    {e : ReconnectEnv} {userID channelID connID : String} {msg : ReconnectMessage}
    {node : Node} (hnew : connID ∉ c.used)
    (hkeys : ∀ slot ∈ (c.nodes handler).sessions, slot.key ≠ connID)
    (hok : handleReconnect e ⟨userID, connID, channelID, originalConnID, c.latest⟩
      (c.nodes n) = (.ok msg, node)) (c' : Cluster N)
    (hnodes : c'.nodes = Function.update c.nodes n node)
    (hflight : c'.inFlight = (peers.filter (· ≠ n)).map (·, msg))
    (hlatest : c'.latest = connID) (hused : c'.used = connID :: c.used) :
    c'.Settled handler originalConnID (w ++ [n]) ∨
      c'.Awaits handler originalConnID w n c.latest c.used msg := by
  have horig : connID ≠ originalConnID := fun he => hnew (he ▸ h.original)
  have hne : connID ≠ c.latest := fun he => hnew (he ▸ h.latest)
  have hunseen := h.tidy.unseen hnew
  by_cases hn : n = handler
  · left
    subst hn
    obtain ⟨htidy, hview⟩ := h.tidy.handleReconnect h.latest hkeys hok
    have hself : c'.nodes n = node := by rw [hnodes, Function.update_self]
    refine ⟨fun m hm => ?_, ?_, ?_, ?_, ?_⟩
    · rw [hflight, List.mem_map] at hm
      obtain ⟨p, hp, he⟩ := hm
      have hpn := List.mem_filter.1 hp
      exact of_decide_eq_true hpn.2 (Prod.mk.inj he).1
    · rw [hlatest, hused]
      exact List.mem_cons_self ..
    · rw [hused]
      exact List.mem_cons_of_mem _ h.original
    · rw [hself, hlatest, hused]
      exact htidy
    · rw [hself, hlatest, hview, Phase.after_append, decide_eq_true rfl]
      exact h.shape.reconnected hunseen horig hne
  · right
    obtain ⟨callID, rtc, n₁, -, -, rfl⟩ := handleReconnect_ok hok
    have hself : c'.nodes handler = c.nodes handler := by
      rw [hnodes, Function.update_of_ne (Ne.symm hn)]
    refine ⟨hn, fun m => ?_, rfl, hlatest.symm, ?_, ?_, h.latest,
      h.original, ?_, ?_, ?_⟩
    · rw [hflight, List.mem_map]
      constructor
      · rintro ⟨p, -, he⟩
        exact (Prod.mk.inj he).2.symm
      · rintro rfl
        exact ⟨handler, List.mem_filter.2 ⟨hpeers, decide_eq_true (Ne.symm hn)⟩, rfl⟩
    · rw [hused, hlatest]
    · rw [hlatest]
      exact hnew
    · rw [hself, hlatest]
      exact hkeys
    · rw [hself]
      exact h.tidy
    · rw [hself]
      exact h.shape

/-- The message arrives. -/
theorem Cluster.Awaits.deliver {c : Cluster N} {w : List N} {n : N} {prev : String}
    {used : List String} {msg : ReconnectMessage}
    (h : c.Awaits handler originalConnID w n prev used msg)
    (hnodup : c.inFlight.Nodup) :
    Cluster.Settled
      { c with
        nodes :=
          Function.update c.nodes handler (handleReconnectEvent msg (c.nodes handler)).2
        inFlight := c.inFlight.erase (handler, msg) } handler originalConnID
            (w ++ [n]) := by
  obtain ⟨htidy, hview⟩ := h.tidy.event h.mem h.keys h.connID h.newConnID
  refine ⟨fun m hm => ?_, ?_, ?_, ?_, ?_⟩
  · obtain ⟨hne, hm⟩ := hnodup.mem_erase_iff.1 hm
    exact hne (by rw [(h.only m).1 hm])
  · show c.latest ∈ c.used
    rw [h.used]
    exact List.mem_cons_self ..
  · show originalConnID ∈ c.used
    rw [h.used]
    exact List.mem_cons_of_mem _ h.original
  · dsimp only
    rw [Function.update_self, h.used]
    exact htidy
  · dsimp only
    rw [Function.update_self, hview, Phase.after_append, decide_eq_false h.away]
    exact h.shape.told (h.tidy.unseen h.fresh) (fun he => h.fresh (he ▸ h.original))
      (fun he => h.fresh (he ▸ h.mem))

/-- What does not concern the client and the handler node. -/
theorem Cluster.HandlerInv.frame {c c' : Cluster N} {w : List N}
    (h : c.HandlerInv handler originalConnID w) (hnodup : c'.inFlight.Nodup)
    (hflight : ∀ m, (handler, m) ∈ c'.inFlight ↔ (handler, m) ∈ c.inFlight)
    (hlatest : c'.latest = c.latest) (hused : c'.used = c.used)
    (hkeeps : (c.nodes handler).Keeps (c'.nodes handler) originalConnID) :
    c'.HandlerInv handler originalConnID w := by
  refine ⟨hnodup, ?_⟩
  rcases h.2 with hs | ⟨w₀, m, prev, old, msg, rfl, ha⟩
  · left
    refine ⟨fun m hm => hs.arrived m ((hflight m).1 hm), ?_, ?_, ?_, ?_⟩
    · rw [hlatest, hused]
      exact hs.latest
    · rw [hused]
      exact hs.original
    · rw [hlatest, hused]
      exact hkeeps.tidy hs.tidy
    · rw [hlatest, hkeeps.view]
      exact hs.shape
  · right
    refine ⟨w₀, m, prev, old, msg, rfl, ha.away, fun m => (hflight m).trans (ha.only m),
      ha.connID,
      ?_, ?_, ?_, ha.mem, ha.original, fun x hx => ?_, hkeeps.tidy ha.tidy, ?_⟩
    · rw [hlatest]
      exact ha.newConnID
    · rw [hlatest, hused]
      exact ha.used
    · rw [hlatest]
      exact ha.fresh
    · rw [hlatest]
      exact ha.keys x (hkeeps.sessions x hx)
    · rw [hkeeps.view]
      exact ha.shape

variable {peers : List N} {userID channelID : String} {c₀ c : Cluster N} {w : List N}

/-- Every run of reconnections keeps the handler node in the phase of the
reconnections. -/
theorem Reconnects.inv (hpeers : peers.Nodup) (hhandler : handler ∈ peers)
    (hj : c₀.Joined handler originalConnID)
    (hr : Reconnects peers userID channelID originalConnID c₀ w c) :
    c.HandlerInv handler originalConnID w := by
  induction hr with
  | refl => exact hj.inv
  | @reconnect w c n e connID msg node hr hdelivered hnew hkeys hok ih =>
      refine ⟨(hpeers.filter _).map fun a b he => (Prod.mk.inj he).1, ?_⟩
      rcases ih.2 with hs | ⟨w₀, m, prev, used, msg', -, ha⟩
      · have hstep := hs.reconnect hhandler hnew (hkeys handler) hok
          ⟨Function.update c.nodes n node, (peers.filter (· ≠ n)).map (·, msg), connID,
            connID :: c.used⟩ rfl rfl rfl rfl
        rcases hstep with h | h
        · exact .inl h
        · exact .inr ⟨w, n, c.latest, c.used, msg, rfl, h⟩
      · have hmem := (ha.only msg').2 rfl
        rw [hdelivered] at hmem
        cases hmem
  | @deliver w c n msg hr hmsg ih =>
      by_cases hn : n = handler
      · subst hn
        refine ⟨ih.1.erase _, ?_⟩
        rcases ih.2 with hs | ⟨w₀, m, prev, old, msg', rfl, ha⟩
        · exact absurd hmsg (hs.arrived msg)
        · rw [(ha.only msg).1 hmsg]
          exact .inl (ha.deliver ih.1)
      · refine ih.frame (ih.1.erase _) (fun m => ?_) rfl rfl ?_
        · exact List.mem_erase_of_ne fun he => hn (Prod.mk.inj he).1.symm
        · dsimp only
          rw [Function.update_of_ne (Ne.symm hn)]
          exact .refl ..
  | @leave w c n r hr hreader hrec ih =>
      refine ih.frame ih.1 (fun _ => Iff.rfl) rfl rfl ?_
      dsimp only
      by_cases hn : n = handler
      · subst hn
        rw [Function.update_self]
        exact Node.handleLeave_keeps hrec
      · rw [Function.update_of_ne (Ne.symm hn)]
        exact .refl ..

/-- The node that handles RTC has one session of the client, with its current connection
id, exactly when it can follow the reconnections and no session is left to be
cleared. -/
theorem handler_tracks_iff (hpeers : peers.Nodup) (hhandler : handler ∈ peers)
    (hj : c₀.Joined handler originalConnID)
    (hr : Reconnects peers userID channelID originalConnID c₀ w c)
    (hdelivered : c.inFlight = []) :
    ((c.nodes handler).Tracks originalConnID c.latest ↔
      Phase.Followed handler w ∧ (c.nodes handler).Cleared originalConnID) ∧
    ((∀ r ∈ (c.nodes handler).readers, ((c.nodes handler).heap r.us).wsReconnected =
      false) → (c.nodes handler).Cleared originalConnID) ∧
    ((c.nodes handler).Tracks originalConnID c.latest → ∀ iter : List Slot → List Slot,
      (∀ l, (iter l).Perm l) →
        (c.nodes handler).signalTarget iter originalConnID = some c.latest) := by
  have hs : c.Settled handler originalConnID w := by
    rcases (hr.inv hpeers hhandler hj).2 with hs | ⟨_, _, _, _, msg, -, ha⟩
    · exact hs
    · have hmem := (ha.only msg).2 rfl
      rw [hdelivered] at hmem
      cases hmem
  refine ⟨?_, hs.tidy.cleared,
    fun ht iter hiter => hs.tidy.signalTarget hs.original ht hiter⟩
  rw [hs.tidy.tracks_iff, hs.shape.tracking_iff, Phase.tracking_after]

end Sequences

/-! ## Runs with two nodes

Alice joins through the node `false`; the node `true` handles the RTC of the call. -/

/-- A node without sessions. -/
def emptyNode : Node where
  sessions := .empty
  heap _ := newUserSession "" "" "" "" false
  next := 0
  readers := []

theorem emptyNode_apart : emptyNode.Apart where
  slots x hx := by cases hx
  routines r hr := by cases hr
  apart x hx := by cases hx

/-- The call has Alice's session. -/
def aliceReconnects : ReconnectEnv where
  hasPermission := true
  isBot := false
  state := .ok (some ⟨sampleCall,
    ⟨[⟨"c0", sampleCall.id, "alice", 10, false, 0, false⟩], by decide⟩,
      none, none, none⟩)
  handleBotWSReconnect := .ok ()

/-- Alice has joined. -/
def aliceJoined : Cluster Bool where
  nodes n :=
    if n then (handleConnectEvent ⟨"c0", "alice", "chan", sampleCall.id⟩ emptyNode).2
    else emptyNode.handleJoin "alice" "c0" "chan" sampleCall.id false
  inFlight := []
  latest := "c0"
  used := ["c0"]

theorem aliceJoined_joined : aliceJoined.Joined true "c0" where
  inFlight := rfl
  latest := rfl
  used := rfl
  handler := emptyNode_apart.connect fun x hx => by cases hx

/-- Alice has reconnected, through the node she joined through. -/
def reconnectedOnce : Cluster Bool where
  nodes := Function.update
    (Function.update aliceJoined.nodes false (handleReconnect aliceReconnects
      ⟨"alice", "c1", "chan", "c0", "c0"⟩ (aliceJoined.nodes false)).2)
    true (handleReconnectEvent ⟨"c0", "c1", "alice", sampleCall.id⟩
      (aliceJoined.nodes true)).2
  inFlight := []
  latest := "c1"
  used := ["c1", "c0"]

theorem reconnectedOnce_run :
    Reconnects [true, false] "alice" "chan" "c0" aliceJoined [false]
      reconnectedOnce := by
  have hkeys : ∀ m, ∀ slot ∈ (aliceJoined.nodes m).sessions.rows,
      slot.key ≠ "c1" := by decide
  have hrec : Reconnects [true, false] "alice" "chan" "c0" aliceJoined [false] _ :=
    .reconnect false aliceReconnects "c1" .refl rfl (by decide) hkeys rfl
  exact hrec.deliver true ⟨"c0", "c1", "alice", sampleCall.id⟩ (List.mem_cons_self ..)

/-- Alice has reconnected once more, through the node that handles the RTC. -/
def reconnectedBack : Cluster Bool where
  nodes := Function.update
    (Function.update reconnectedOnce.nodes true (handleReconnect aliceReconnects
      ⟨"alice", "c2", "chan", "c0", "c1"⟩ (reconnectedOnce.nodes true)).2)
    false (handleReconnectEvent ⟨"c1", "c2", "alice", sampleCall.id⟩
      (reconnectedOnce.nodes false)).2
  inFlight := []
  latest := "c2"
  used := ["c2", "c1", "c0"]

theorem reconnectedBack_run :
    Reconnects [true, false] "alice" "chan" "c0" aliceJoined [false, true]
      reconnectedBack := by
  have hkeys : ∀ m, ∀ slot ∈ (reconnectedOnce.nodes m).sessions.rows,
      slot.key ≠ "c2" := by decide
  have hrec : Reconnects [true, false] "alice" "chan" "c0" aliceJoined
      [false, true] _ :=
    reconnectedOnce_run.reconnect true aliceReconnects "c2" rfl (by decide) hkeys rfl
  exact hrec.deliver false ⟨"c1", "c2", "alice", sampleCall.id⟩ (List.mem_cons_self ..)

/-- After the one reconnection elsewhere and the one to it, the handler node has Alice's
connection. -/
theorem handler_tracks_back : (reconnectedBack.nodes true).Tracks "c0" "c2" := by
  have hiff :=
    (handler_tracks_iff (by decide) (List.mem_cons_self ..) aliceJoined_joined
    reconnectedBack_run rfl).1
  have hcleared : ∀ x ∈ (reconnectedBack.nodes true).sessions.rows,
      ((reconnectedBack.nodes true).heap x.us).originalConnID = "c0" →
        ((reconnectedBack.nodes true).heap x.us).rtc = true ∨
          ((reconnectedBack.nodes true).heap x.us).wsReconnected = false := by decide
  exact hiff.2 ⟨.inr (.inr ⟨by decide, by decide⟩), hcleared⟩

/-- Alice has reconnected twice, both times through that node. -/
def reconnectedTwice : Cluster Bool where
  nodes := Function.update
    (Function.update reconnectedOnce.nodes false (handleReconnect aliceReconnects
      ⟨"alice", "c2", "chan", "c0", "c1"⟩ (reconnectedOnce.nodes false)).2)
    true (handleReconnectEvent ⟨"c1", "c2", "alice", sampleCall.id⟩
      (reconnectedOnce.nodes true)).2
  inFlight := []
  latest := "c2"
  used := ["c2", "c1", "c0"]

theorem reconnectedTwice_run :
    Reconnects [true, false] "alice" "chan" "c0" aliceJoined [false, false]
      reconnectedTwice := by
  have hkeys : ∀ m, ∀ slot ∈ (reconnectedOnce.nodes m).sessions.rows,
      slot.key ≠ "c2" := by decide
  have hrec : Reconnects [true, false] "alice" "chan" "c0" aliceJoined
      [false, false] _ :=
    reconnectedOnce_run.reconnect false aliceReconnects "c2" rfl (by decide) hkeys rfl
  exact hrec.deliver true ⟨"c1", "c2", "alice", sampleCall.id⟩ (List.mem_cons_self ..)

/-- After the second one signals still go to the connection of the first. -/
theorem handler_loses_track : ∃ c, aliceJoined.Joined true "c0" ∧
    Reconnects [true, false] "alice" "chan" "c0" aliceJoined [false, false] c ∧
    c.inFlight = [] ∧ c.latest = "c2" ∧ ¬ (c.nodes true).Tracks "c0" c.latest ∧
    (c.nodes true).signalTarget id "c0" = some "c1" := by
  refine ⟨reconnectedTwice, aliceJoined_joined, reconnectedTwice_run, rfl,
    rfl, ?_, by decide⟩
  rintro ⟨x, hx, -, hc, -⟩
  have hno : ∀ x ∈ (reconnectedTwice.nodes true).sessions.rows,
      ((reconnectedTwice.nodes true).heap x.us).connID ≠ "c2" := by decide
  exact hno x hx hc

end CallsPlugin.Ports
