import CallsPlugin.Verified.Machine
import CallsPlugin.Ports.ChannelEvents

/-!
# Fetching the channels (`webapp/src/index.tsx`)

When it starts and when its connection is back, the webapp asks the server for
the calls of all channels.  `fetchChannels` goes through the response and
collects the actions that show a call, and `onActivate` dispatches them
afterwards, while the events of the calls keep coming.  The channel here is one
that the user is not in a call in; the others do the same.

What is dispatched is the server's state when it read its calls.  If the
client has heard of something since, it is taken back: a call that ended comes
back to the client for good.
-/

namespace CallsPlugin.Ports

open CallsPlugin.Verified
open CallsPlugin.Ports.Public CallsPlugin.Ports.Db

namespace ClientStore

/-- `callStartAtForCallInChannel` -/
def callStartAtForCallInChannel (d : ClientStore) : Int :=
  (d.calls.map ClientCall.startAt).getD 0

/-- `fetchChannels` for the entry of the channel in the response: the call to show, if
it collects actions. -/
def fetchChannels (d : ClientStore) (call : Option CallStateClient) :
    Option CallStateClient :=
  match call with
  | none => none
  | some call =>
      if call.sessions.length = 0 then none
      else if d.callStartAtForCallInChannel = 0 then some call
      else none

/-- `onActivate` dispatches what was collected for the channel. -/
def batchActions (d : ClientStore) (call : Option CallStateClient) : ClientStore :=
  match call with
  | none => d
  | some call =>
      (d.dispatch (.callState ⟨call.id, call.startAt, call.ownerID,
        call.threadID⟩)).dispatch
          (.usersStates (getSessionsMapFromSessions call.sessions))

end ClientStore

namespace ClientStore

variable {d : ClientStore} {response : Option CallStateClient} {call : CallStateClient}

theorem fetchChannels_eq_some (h : d.fetchChannels response = some call) :
    response = some call ∧ call.sessions.length ≠ 0 := by
  unfold fetchChannels at h
  cases response with
  | none => cases h
  | some call' =>
    dsimp only at h
    split at h
    · cases h
    · next hsome =>
      split at h
      · obtain rfl := Option.some.inj h
        exact ⟨rfl, hsome⟩
      · cases h

/-- Nothing is collected where there is no call, no session or already a call. -/
theorem fetchChannels_eq_none (h : d.fetchChannels response = none) : response = none ∨
    (∃ call, response = some call ∧ call.sessions.length = 0) ∨ d.calls ≠ none := by
  unfold fetchChannels at h
  cases response with
  | none => exact .inl rfl
  | some call' =>
    dsimp only at h
    split at h
    · next hnone => exact .inr (.inl ⟨call', rfl, hnone⟩)
    · split at h
      · cases h
      · next hstart =>
        refine .inr (.inr fun hcalls => hstart ?_)
        unfold callStartAtForCallInChannel
        rw [hcalls]
        rfl

end ClientStore

/-! ## The server, the client and what is between them -/

/-- How far a request is. -/
inductive FetchPhase where
  | read
  | collected (call : Option CallStateClient)
  | dispatched
  deriving DecidableEq

/-- The response was gone through. -/
def FetchPhase.isCollected : FetchPhase → Bool
  | .collected _ => true
  | _ => false

/-- A request: how many events the server had published when it read its calls, and what
it answers for the channel. -/
structure Fetch where
  read : Nat
  response : Option CallStateClient
  phase : FetchPhase
  deriving DecidableEq

/-- The server's state, the events published and how many of them were delivered, the
client and its requests. -/
structure Fetching where
  server : Channel
  published : List CallEvent
  delivered : Nat
  client : ClientStore
  fetches : List Fetch

/-- The response shows the channel's call. -/
def Channel.Shows (g : Channel) : Option CallStateClient → Prop
  | none => g.call = none
  | some call =>
      g.call = some ⟨call.id, call.startAt, call.ownerID, call.threadID⟩ ∧
        ClientStore.getSessionsMapFromSessions call.sessions = g.sessions

instance (g : Channel) (response : Option CallStateClient) :
    Decidable (g.Shows response) := by
  cases response <;> unfold Channel.Shows <;> infer_instance

/-- What happens next. -/
inductive FetchAction where
  | start (call : ClientCall) (postID hostID userID sessionID : String)
  | happen (ev : CallEvent)
  | deliver
  | fetch (response : Option CallStateClient)
  | process (i : Nat)
  | dispatch (i : Nat)
  deriving DecidableEq

namespace Fetching

variable (channelID : String)

/-- The server publishes events. -/
def publish (w : Fetching) (evs : List CallEvent) : Fetching :=
  { w with server := evs.foldl Channel.after w.server, published := w.published ++ evs }

/-- The events that start a call. -/
def startEvents (call : ClientCall) (postID hostID userID sessionID : String) :
    List CallEvent :=
  [.started call postID hostID, .joined userID sessionID]

/-- The action can happen. -/
def Possible (w : Fetching) : FetchAction → Prop
  | .start call _ _ _ _ => w.server.call = none ∧ call.startAt ≠ 0
  | .happen ev => ev.starts = false ∧ w.server.Allows ev
  | .deliver => w.delivered < w.published.length
  | .fetch response => w.server.Shows response
  | .process i => (w.fetches[i]?.map Fetch.phase) = some .read
  | .dispatch i => w.fetches[i]?.any (fun f => f.phase.isCollected) = true

instance (w : Fetching) (a : FetchAction) : Decidable (Possible w a) := by
  cases a <;> unfold Possible <;> infer_instance

/-- The action happens. -/
def run (w : Fetching) : FetchAction → Fetching
  | .start call postID hostID userID sessionID =>
      w.publish (startEvents call postID hostID userID sessionID)
  | .happen ev => w.publish [ev]
  | .deliver =>
      match w.published[w.delivered]? with
      | none => w
      | some ev =>
          { w with delivered := w.delivered + 1, client := w.client.receive (ev.publish
              channelID) }
  | .fetch response =>
      { w with fetches := w.fetches ++ [⟨w.published.length, response, .read⟩] }
  | .process i =>
      { w with fetches := w.fetches.modify i fun f =>
          { f with phase := .collected (w.client.fetchChannels f.response) } }
  | .dispatch i =>
      match w.fetches[i]? with
      | some ⟨_, _, .collected call⟩ =>
          { w with
            client := w.client.batchActions call
            fetches := w.fetches.modify i fun f => { f with phase := .dispatched } }
      | _ => w

/-- The channel of a client that has started. -/
def machine : Machine Fetching FetchAction := ⟨Possible, run channelID⟩

instance (w : Fetching) (a : FetchAction) :
    Decidable ((machine channelID).Enabled w a) :=
  inferInstanceAs (Decidable (Possible w a))

/-- The client starts and the channel is as `g` says. -/
def start (g : Channel) : Fetching := ⟨g, [], 0, .empty, []⟩

/-- What is dispatched is in time: the client has heard nothing that the server
published after it read its calls, or it shows just that. -/
def InTime (w : Fetching) : FetchAction → Prop
  | .dispatch i => ∀ f ∈ w.fetches[i]?, ∀ call, f.phase = .collected (some call) →
      w.delivered ≤ f.read ∨
      (w.client.batchActions (some call)).entries = w.client.entries
  | _ => True

/-- Everything was processed. -/
structure Settled (w : Fetching) : Prop where
  delivered : w.delivered = w.published.length
  fetched : w.fetches ≠ []
  dispatched : ∀ f ∈ w.fetches, f.phase = .dispatched

/-! ## The invariant -/

section Modify

variable {α : Type} {l : List α} {i : Nat} {F : α → α} {x : α}

theorem mem_modify (h : x ∈ l.modify i F) : x ∈ l ∨ ∃ y, l[i]? = some y ∧ x = F y := by
  obtain ⟨j, hj⟩ := List.mem_iff_getElem?.1 h
  rw [List.getElem?_modify] at hj
  obtain ⟨y, hy, rfl⟩ := Option.map_eq_some_iff.1 hj
  by_cases hij : i = j
  · subst hij
    rw [if_pos rfl]
    exact .inr ⟨y, hy, rfl⟩
  · rw [if_neg hij]
    exact .inl (List.mem_of_getElem? hy)

theorem mem_modify_of_ne (h : x ∈ l) (hne : l[i]? ≠ some x) : x ∈ l.modify i F := by
  obtain ⟨j, hj⟩ := List.mem_iff_getElem?.1 h
  refine List.mem_iff_getElem?.2 ⟨j, ?_⟩
  have hij : i ≠ j := fun hij => hne (hij ▸ hj)
  rw [List.getElem?_modify, hj]
  exact congrArg some (if_neg hij)

theorem mem_modify_self (h : l[i]? = some x) : F x ∈ l.modify i F := by
  refine List.mem_iff_getElem?.2 ⟨i, ?_⟩
  rw [List.getElem?_modify, h]
  exact congrArg some (if_pos rfl)

end Modify

/-- A request was finished. -/
def Informed (w : Fetching) : Prop := ∃ f ∈ w.fetches, f.phase = .dispatched

/-- What a request knows: the server's state when it read its calls, between the events
before and those after, and why the client collected what it did. -/
structure Reads (g : Channel) (w : Fetching) (f : Fetch) : Prop where
  read : ∃ n : Channel, g.Leads (w.published.take f.read) n ∧
    n.Leads (w.published.drop f.read) w.server ∧ n.Shows f.response ∧ n.Populated
  read_le : f.read ≤ w.published.length
  collected : ∀ call, f.phase = .collected (some call) →
    f.response = some call ∧ call.sessions.length ≠ 0
  skipped : f.phase = .collected none → w.server.idle = true ∨ w.Informed

/-- What holds of a client and its server: the client follows once it has heard what is
under way. -/
structure Good (g : Channel) (w : Fetching) : Prop where
  leads : g.Leads w.published w.server
  delivered : w.delivered ≤ w.published.length
  populated : w.server.Populated
  follows : Accords w.Informed
    ((w.published.drop w.delivered).foldl Entries.after w.client.entries) w.server
  known : w.client.calls ≠ none → w.server.idle = true ∨ w.Informed
  started : (∃ ev ∈ w.published, ev.starts = true) → w.server.idle = true
  reads : ∀ f ∈ w.fetches, Reads g w f

namespace Good

variable {channelID : String} {g : Channel} {w : Fetching}

theorem start (hg : g.idle = true → g.call = none) (hfits : g.Fits)
    (hpop : g.Populated) :
    Good g (start g) where
  leads := rfl
  delivered := Nat.le_refl 0
  populated := hpop
  follows := by
    refine ⟨fun id hid => absurd hid Finmap.notMem_empty, fun _ => rfl,
      fun _ hknown => ?_⟩
    rcases hknown with hidle | ⟨f, hf, -⟩
    · have hcall := hg hidle
      exact Entries.ext hcall.symm (hfits.without hcall).1.symm
    · exact absurd hf List.not_mem_nil
  known h := absurd rfl h
  started h := by
    obtain ⟨ev, hev, -⟩ := h
    exact absurd hev List.not_mem_nil
  reads f hf := absurd hf List.not_mem_nil

/-- Events keep a channel that was without a call so. -/
theorem idle_foldl {evs : List CallEvent} : ∀ {g : Channel}, g.idle = true →
    (evs.foldl Channel.after g).idle = true := by
  induction evs with
  | nil => exact id
  | cons ev evs ih => exact fun h => ih (Channel.idle_after h ev)

/-- **The server publishes events.** -/
theorem publish (h : Good g w) (hfits : g.Fits) {evs : List CallEvent}
    (hleads : w.server.Leads evs (evs.foldl Channel.after w.server))
    (hpop : (evs.foldl Channel.after w.server).Populated)
    (hidle : (∃ ev ∈ evs, ev.starts = true) → w.server.idle = true) :
    Good g (w.publish evs) := by
  refine ⟨Channel.leads_append h.leads hleads, ?_, hpop, ?_, ?_, ?_, fun f hf => ?_⟩
  · show w.delivered ≤ (w.published ++ evs).length
    rw [List.length_append]
    have := h.delivered
    omega
  · show Accords w.Informed (((w.published ++ evs).drop w.delivered).foldl _ _) _
    rw [List.drop_append_of_le_length h.delivered, List.foldl_append]
    exact h.follows.leads (hfits.leads h.leads) hleads
  · exact fun hcalls => (h.known hcalls).imp_left idle_foldl
  · rintro ⟨ev, hev, hstarts⟩
    rcases List.mem_append.1 hev with hev | hev
    · exact idle_foldl (h.started ⟨ev, hev, hstarts⟩)
    · exact idle_foldl (hidle ⟨ev, hev, hstarts⟩)
  · obtain ⟨⟨n, hbefore, hafter, hshows⟩, hle, hcollected, hskipped⟩ := h.reads f hf
    refine ⟨⟨n, ?_, ?_, hshows⟩, ?_, hcollected,
      fun hphase => (hskipped hphase).imp_left idle_foldl⟩
    · show g.Leads ((w.published ++ evs).take f.read) n
      rwa [List.take_append_of_le_length hle]
    · show n.Leads ((w.published ++ evs).drop f.read) _
      rw [List.drop_append_of_le_length hle]
      exact Channel.leads_append hafter hleads
    · show f.read ≤ (w.published ++ evs).length
      rw [List.length_append]
      omega

/-- **An event is delivered.** -/
theorem deliver (h : Good g w) (hpending : w.delivered < w.published.length) :
    Good g (run channelID w .deliver) := by
  have hget : w.published[w.delivered]? = some w.published[w.delivered] :=
    List.getElem?_eq_getElem hpending
  generalize hev : w.published[w.delivered] = ev at hget
  have hmem : ev ∈ w.published := List.mem_of_getElem? hget
  have hdrop : w.published.drop w.delivered =
      ev :: w.published.drop (w.delivered + 1) := by
    rw [List.drop_eq_getElem_cons hpending, hev]
  have hrun : run channelID w .deliver =
      { w with delivered := w.delivered + 1, client := w.client.receive (ev.publish
            channelID) } := by
    unfold run
    dsimp only
    rw [hget]
  rw [hrun]
  refine ⟨h.leads, hpending, h.populated, ?_, fun hcalls => ?_, h.started,
    fun f hf => ?_⟩
  · show Accords w.Informed
      ((w.published.drop (w.delivered + 1)).foldl _
        (w.client.receive (ev.publish channelID)).entries) _
    rw [ClientStore.entries_receive]
    have hfollows := h.follows
    rwa [hdrop] at hfollows
  · cases hstarts : ev.starts with
    | true => exact .inl (h.started ⟨ev, hmem, hstarts⟩)
    | false =>
      refine h.known fun hnone => hcalls ?_
      show (w.client.receive (ev.publish channelID)).entries.call = none
      rw [ClientStore.entries_receive]
      cases ev with
      | started call postID hostID => cases hstarts
      | joined userID sessionID => exact hnone
      | left userID sessionID =>
        unfold Entries.after
        dsimp only
        split
        · rfl
        · exact hnone
      | ended => rfl
  · obtain ⟨hread, hle, hcollected, hskipped⟩ := h.reads f hf
    exact ⟨hread, hle, hcollected, hskipped⟩

/-- **The server reads its calls.** -/
theorem fetch (h : Good g w) {response : Option CallStateClient}
    (hshows : w.server.Shows response) :
    Good g (run channelID w (.fetch response)) := by
  have hinformed : (run channelID w (.fetch response)).Informed → w.Informed := by
    rintro ⟨f, hf, hphase⟩
    rcases List.mem_append.1 hf with hf | hf
    · exact ⟨f, hf, hphase⟩
    · rw [List.mem_singleton.1 hf] at hphase
      cases hphase
  have hkept : w.Informed → (run channelID w (.fetch response)).Informed :=
      fun ⟨f, hf, hphase⟩ =>
    ⟨f, List.mem_append_left _ hf, hphase⟩
  refine ⟨h.leads, h.delivered, h.populated, h.follows.mono hinformed,
    fun hcalls => (h.known hcalls).imp_right hkept, h.started, fun f hf => ?_⟩
  rcases List.mem_append.1 hf with hf | hf
  · obtain ⟨hread, hle, hcollected, hskipped⟩ := h.reads f hf
    exact ⟨hread, hle, hcollected, fun hphase => (hskipped hphase).imp_right hkept⟩
  · obtain rfl := List.mem_singleton.1 hf
    refine ⟨⟨w.server, ?_, ?_, hshows, h.populated⟩, Nat.le_refl _,
      fun call hphase => (nomatch hphase),
      fun hphase => nomatch hphase⟩
    · show g.Leads (w.published.take w.published.length) w.server
      rw [List.take_length]
      exact h.leads
    · show w.server.Leads (w.published.drop w.published.length) w.server
      rw [List.drop_length]
      rfl

/-- **The client goes through a response.** -/
theorem process (h : Good g w) (hfits : g.Fits) {i : Nat}
    (hphase : (w.fetches[i]?.map Fetch.phase) = some .read) :
    Good g (run channelID w (.process i)) := by
  obtain ⟨f₀, hf₀, hread₀⟩ := Option.map_eq_some_iff.1 hphase
  have hinformed : (run channelID w (.process i)).Informed → w.Informed := by
    rintro ⟨f, hf, hphase⟩
    rcases mem_modify hf with hf | ⟨f', -, rfl⟩
    · exact ⟨f, hf, hphase⟩
    · cases hphase
  have hkept : w.Informed → (run channelID w (.process i)).Informed :=
      fun ⟨f, hf, hphase⟩ => by
    refine ⟨f, mem_modify_of_ne hf fun hi => ?_, hphase⟩
    obtain rfl := Option.some.inj (hf₀.symm.trans hi)
    rw [hread₀] at hphase
    cases hphase
  refine ⟨h.leads, h.delivered, h.populated, h.follows.mono hinformed,
    fun hcalls => (h.known hcalls).imp_right hkept, h.started, fun f hf => ?_⟩
  rcases mem_modify hf with hf | ⟨f', hf', rfl⟩
  · obtain ⟨hread, hle, hcollected, hskipped⟩ := h.reads f hf
    exact ⟨hread, hle, hcollected, fun hphase => (hskipped hphase).imp_right hkept⟩
  · obtain ⟨⟨n, hbefore, hafter, hshows, hpop⟩, hle, -, -⟩ :=
      h.reads f' (List.mem_of_getElem? hf')
    refine ⟨⟨n, hbefore, hafter, hshows, hpop⟩, hle, fun call hphase => ?_,
      fun hphase => ?_⟩
    · have hcollects : w.client.fetchChannels f'.response = some call :=
        FetchPhase.collected.inj hphase
      exact ClientStore.fetchChannels_eq_some hcollects
    · have hskips : w.client.fetchChannels f'.response = none :=
        FetchPhase.collected.inj hphase
      rcases ClientStore.fetchChannels_eq_none hskips with hnone |
        ⟨call, hresponse, hempty⟩ | hstart
      · -- the server had no call
        rw [hnone] at hshows
        exact .inl (Channel.idle_leads
          ((hfits.leads hbefore).without hshows).2.2 hafter)
      · rw [hresponse] at hshows
        have hsessions : n.sessions = ∅ := by
          rw [← hshows.2, List.length_eq_zero_iff.1 hempty]
          rfl
        exact absurd hsessions
          (hpop fun hnone => by rw [hshows.1] at hnone; cases hnone)
      · exact (h.known hstart).imp_right hkept

/-- Showing the call of a response. -/
theorem entries_batchActions (d : ClientStore) {n : Channel} {call : CallStateClient}
    (h : n.Shows (some call)) : (d.batchActions (some call)).entries = n.entries :=
  Entries.ext h.1.symm h.2

/-- **The client shows what it collected.** -/
theorem dispatch (h : Good g w) (hfits : g.Fits) {i : Nat}
    (hen : Possible w (.dispatch i))
    (hok : InTime w (.dispatch i)) : Good g (run channelID w (.dispatch i)) := by
  obtain ⟨⟨read, response, phase⟩, hf₀, hphase₀⟩ := Option.any_eq_true _ _ |>.1 hen
  obtain ⟨call, rfl⟩ : ∃ call, phase = .collected call := by
    cases phase with
    | collected call => exact ⟨call, rfl⟩
    | _ => cases hphase₀
  have hrun : run channelID w (.dispatch i) =
      { w with
        client := w.client.batchActions call
        fetches := w.fetches.modify i fun f => { f with phase := .dispatched } } := by
    unfold Fetching.run
    dsimp only
    rw [hf₀]
  rw [hrun]
  have hmem := List.mem_of_getElem? hf₀
  obtain ⟨⟨n, hbefore, hafter, hshows, hpop⟩, hle, hcollected, hskipped⟩ :=
    h.reads _ hmem
  have hinformed : ∃ f ∈ w.fetches.modify i (fun f => { f with phase := .dispatched }),
      f.phase = .dispatched := ⟨_, mem_modify_self hf₀, rfl⟩
  refine ⟨h.leads, h.delivered, h.populated, ?_, fun _ => .inr hinformed, h.started,
    fun f hf => ?_⟩
  · cases call with
    | none =>
      -- nothing was collected, so that the client was informed before
      refine ⟨h.follows.loose, h.follows.without, fun hending _ => ?_⟩
      exact h.follows.exact hending (hskipped rfl)
    | some call =>
      obtain ⟨rfl, hsome⟩ := hcollected call rfl
      have hn : n.call ≠ none := fun hnone => by
        rw [hshows.1] at hnone
        cases hnone
      have hentries := entries_batchActions w.client hshows
      rcases hok _ (Option.mem_def.2 hf₀) call rfl with hintime | hsame
      · have hsplit : w.published.drop w.delivered =
            (w.published.take read).drop w.delivered ++ w.published.drop read := by
          have htake := List.take_append_drop read w.published
          have hread : w.delivered ≤ read := hintime
          have hlength : read ≤ w.published.length := hle
          rw [← List.drop_append_of_le_length, htake]
          rw [List.length_take]
          omega
        -- the events still to come up to the reading lead to what was read
        have hpast : ∃ g' : Channel, g.Leads (w.published.take w.delivered) g' ∧
            g'.Leads ((w.published.take read).drop w.delivered) n := by
          refine Channel.leads_split ?_
          rw [show w.published.take w.delivered =
              (w.published.take read).take w.delivered by
            rw [List.take_take, Nat.min_eq_left hintime], List.take_append_drop]
          exact hbefore
        obtain ⟨g', hg', hpending⟩ := hpast
        show Accords _ ((w.published.drop w.delivered).foldl _
          (w.client.batchActions _).entries) _
        rw [hsplit, List.foldl_append, hentries]
        exact (Accords.of_snapshot hn (hpop hn) (hfits.leads hg') hpending).leads
          (hfits.leads hbefore) hafter
      · have hcalls : w.client.calls ≠ none := by
          have hcall : w.client.calls = n.call :=
            congrArg Entries.call (hsame.symm.trans hentries)
          rwa [hcall]
        show Accords _ ((w.published.drop w.delivered).foldl _
          (w.client.batchActions _).entries) _
        rw [hsame]
        exact ⟨h.follows.loose, h.follows.without,
          fun hending _ => h.follows.exact hending (h.known hcalls)⟩
  · rcases mem_modify hf with hf | ⟨f', hf', rfl⟩
    · obtain ⟨hread, hle, hcollected, -⟩ := h.reads f hf
      exact ⟨hread, hle, hcollected, fun _ => .inr hinformed⟩
    · obtain ⟨hread, hle, -, -⟩ := h.reads f' (List.mem_of_getElem? hf')
      exact ⟨hread, hle, fun call hphase => (nomatch hphase),
        fun hphase => nomatch hphase⟩

/-- **One step.** -/
theorem step (h : Good g w) (hfits : g.Fits) (a : FetchAction)
    (hen : (machine channelID).Enabled w a)
    (hok : InTime w a) : Good g ((machine channelID).step w a) := by
  cases a with
  | start call postID hostID userID sessionID =>
    refine h.publish hfits ⟨hen, ⟨?_, ?_⟩, rfl⟩ ?_ fun _ =>
      ((hfits.leads h.leads).without hen.1).2.2
    · exact fun hnone => nomatch hnone
    · exact List.not_mem_nil
    · intro _ hempty
      have hin : sessionID ∈ (∅ : SessionsMap).insert sessionID
          (Entries.joiner userID sessionID) :=
        Finmap.mem_insert.2 (.inl rfl)
      rw [show (∅ : SessionsMap).insert sessionID (Entries.joiner userID sessionID) =
        ∅ from hempty] at hin
      exact Finmap.notMem_empty hin
  | happen ev =>
    obtain ⟨hstarts, hallows⟩ := hen
    refine h.publish hfits ⟨hallows, rfl⟩
      (Channel.populated_after h.populated hstarts) ?_
    rintro ⟨ev', hev', hstarts'⟩
    obtain rfl := List.mem_singleton.1 hev'
    rw [hstarts] at hstarts'
    cases hstarts'
  | deliver => exact h.deliver hen
  | fetch response =>
    have hshows : w.server.Shows response := hen
    show Good g (run channelID w (.fetch response))
    exact h.fetch hshows
  | process i =>
    have hphase : (w.fetches[i]?.map Fetch.phase) = some .read := hen
    show Good g (run channelID w (.process i))
    exact h.process hfits hphase
  | dispatch i =>
    have hcollected : Possible w (.dispatch i) := hen
    show Good g (run channelID w (.dispatch i))
    exact h.dispatch hfits hcollected hok

end Good

/-! ## Runs -/

/-- **Fetching the channels**: in every run in which what is dispatched is in time, once
everything was processed the client shows the server's call and its sessions, unless its
host is ending the call. -/
theorem fetched_of_runs (channelID : String) {g : Channel}
    (hg : g.idle = true → g.call = none) (hfits : g.Fits) (hpop : g.Populated)
    {w : Fetching} (hr : (machine channelID).Runs InTime (start g) w)
    (hsettled : w.Settled) (hending : w.server.ending = false) :
    w.client.calls = w.server.call ∧ w.client.sessionsMap = w.server.sessions := by
  have hgood : Good g w :=
    hr.inv (.start hg hfits hpop) fun _ a hen hok h => h.step hfits a hen hok
  have hinformed : w.Informed := by
    obtain ⟨f, hf⟩ := List.exists_mem_of_ne_nil _ hsettled.fetched
    exact ⟨f, hf, hsettled.dispatched f hf⟩
  have hfollows := hgood.follows
  rw [hsettled.delivered, List.drop_length] at hfollows
  have hexact : w.client.entries = w.server.entries :=
    hfollows.exact hending (.inr hinformed)
  exact ⟨congrArg Entries.call hexact, congrArg Entries.sessions hexact⟩

/-! ## Instances -/

/-- `InTime`, computed. -/
def checkInTime (w : Fetching) : FetchAction → Bool
  | .dispatch i => w.fetches[i]?.all fun f =>
      match f.phase with
      | .collected (some call) =>
          decide (w.delivered ≤ f.read) ||
            decide ((w.client.batchActions (some call)).entries = w.client.entries)
      | _ => true
  | _ => true

theorem checkInTime_sound (w : Fetching) (a : FetchAction)
    (h : checkInTime w a = true) :
    InTime w a := by
  cases a with
  | dispatch i =>
    intro f hf call hphase
    rw [checkInTime, Option.mem_def.1 hf] at h
    simpa [hphase] using h
  | _ => trivial

/-- Alice is in a call. -/
def aliceCalls : Channel :=
  ⟨some ⟨"call", 10, "alice", "thread"⟩,
    Finmap.singleton "s1" (Entries.joiner "alice" "s1"), ["s1"],
    false, false⟩

/-- The response for it. -/
def aliceResponse : CallStateClient where
  id := "call"
  startAt := 10
  sessions := [⟨"s1", "alice", false, 0, false⟩]
  threadID := "thread"
  postID := "post"
  screenSharingSessionID := ""
  ownerID := "alice"
  hostID := "alice"
  recording := none
  transcription := none
  liveCaptions := none
  dismissedNotification := false

theorem aliceCalls_fits : aliceCalls.Fits where
  used id hid := by
    rw [(Finmap.mem_singleton id "s1" _).1 hid]
    decide
  without h := nomatch h

/-- Everything was processed, computed. -/
def checkSettled (w : Fetching) : Bool :=
  decide (w.delivered = w.published.length) && decide (w.fetches ≠ []) &&
    w.fetches.all fun f => f.phase = .dispatched

theorem checkSettled_sound {w : Fetching} (h : checkSettled w = true) : w.Settled := by
  simp only [checkSettled, Bool.and_eq_true, decide_eq_true_eq, List.all_eq_true] at h
  exact ⟨h.1.1, h.1.2, h.2⟩

/-- Bob joins while the response is under way. -/
theorem fetched_of_join : ∃ w, (machine "chan").Runs InTime (start aliceCalls) w ∧
    w.Settled ∧
    w.client.calls = w.server.call ∧ w.client.sessionsMap = w.server.sessions := by
  have hleads : ((machine "chan").leads checkInTime (start aliceCalls)
      [.happen (.joined "bob" "s2"), .fetch (some { aliceResponse with
          sessions :=
            [⟨"s1", "alice", false, 0, false⟩, ⟨"s2", "bob", false, 0, false⟩] }),
        .process 0, .dispatch 0, .deliver]).map
      (fun w => (checkSettled w, w.server.ending)) = some (true, false) := by decide
  obtain ⟨w, hr, hw⟩ := Machine.Runs.exists_of_leads checkInTime_sound hleads
  have hsettled : w.Settled := checkSettled_sound (congrArg Prod.fst hw)
  exact ⟨w, hr, hsettled,
    fetched_of_runs "chan" (fun h => absurd h (by decide)) aliceCalls_fits
    (fun _ h => absurd h (by decide)) hr hsettled
    (congrArg Prod.snd hw)⟩

/-- Alice leaves, and the client hears of it, while the response is under way: the
client shows her call for good. -/
theorem fetched_of_leave :
    ∃ w, (machine "chan").Runs Machine.Always (start aliceCalls) w ∧
    w.Settled ∧ w.server.ending = false ∧ w.server.call = none ∧
    w.client.calls ≠ w.server.call := by
  have hleads : ((machine "chan").leads (fun _ _ => true) (start aliceCalls)
      [.fetch (some aliceResponse), .happen (.left "alice" "s1"), .deliver, .process 0,
        .dispatch 0]).map
      (fun w => (checkSettled w, w.server.ending, w.server.call,
        decide (w.client.calls = none))) =
        some (true, false, none, false) := by decide
  obtain ⟨w, hr, hw⟩ := Machine.Runs.exists_of_leads
    (fun w a _ => (trivial : Machine.Always w a)) hleads
  have hcall : w.server.call = none := congrArg (fun x => x.2.2.1) hw
  have hshown : decide (w.client.calls = none) = false := congrArg (fun x => x.2.2.2) hw
  refine ⟨w, hr, checkSettled_sound (congrArg Prod.fst hw),
    congrArg (fun x => x.2.1) hw, hcall, ?_⟩
  rw [hcall]
  exact of_decide_eq_false hshown

end Fetching

end CallsPlugin.Ports
