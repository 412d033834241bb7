import CallsPlugin.Ports.RtcdHosts

/-!
# Messages to RTCD hosts (`Send` in `server/rtcd.go`)

`Send` looks its host up and hands the message to the client it finds there.  For a
missing host it makes a client and adds it, but keeps it in a variable of the inner
scope, so that the outer `client` is still nil when the message is to be sent.  Any
number of calls run next to the other operations on hosts, with a step for each look
and each addition.

A client that is closed refuses the message; one that is not takes it or refuses it,
as an outcome decides.
-/

namespace CallsPlugin.Ports

open CallsPlugin.Verified

/-- The errors of `Send`. -/
inductive SendError where
  /-- host should not be empty -/
  | emptyHost
  /-- failed to create new client -/
  | failedToCreate
  /-- failed to add host -/
  | failedToAdd
  /-- the error of the client -/
  | refused
  deriving DecidableEq, Repr

/-- What a call of `Send` does next. -/
inductive SendPc where
  | start
  | creating
  | checking (client : Nat)
  | adding (client : Nat)
  | sending
  | returned (err : Option SendError)
  /-- a method of a nil client has been called -/
  | panicked
  deriving DecidableEq, Repr

/-- A call of `Send`: its arguments, its variable `client`, and the clients its message
was delivered to, each with the one that the table then had for the host. -/
structure SendCall (M : Type) where
  msg : M
  host : String
  client : Option Nat
  pc : SendPc
  delivered : List (Nat × Option Nat)
  deriving DecidableEq, Repr

namespace SendCall

variable {M : Type}

/-- The call as it begins. -/
def begin (msg : M) (host : String) : SendCall M := ⟨msg, host, none, .start, []⟩

/-- It goes on. -/
def goto (call : SendCall M) (pc : SendPc) : SendCall M := { call with pc := pc }

/-- It returns an error. -/
def fails (call : SendCall M) (err : SendError) : SendCall M :=
  call.goto (.returned (some err))

/-- It is about to add the client it has made. -/
def adds (call : SendCall M) : Bool :=
  match call.pc with
  | .adding _ => true
  | _ => false

theorem adds_of_pc {call : SendCall M} {new : Nat} (h : call.pc = .adding new) :
    call.adds = true := by
  unfold adds
  rw [h]

/-- `client.Send(msg)`; `takes` is what a client that is not closed answers. -/
def send (call : SendCall M) (m : RtcdManager) (takes : Bool) : SendCall M :=
  match call.client with
  | none => call.goto .panicked
  | some client =>
      if client ∈ m.closed then call.fails .refused
      else if !takes then call.fails .refused
      else { call.goto (.returned none) with
        delivered :=
          (client, (m.getHost call.host).map RtcdHost.client) :: call.delivered }

/-- The next step of `Send`, with `newRTCDClient` in two: the registration and the check
of the version. -/
def next (call : SendCall M) (m : RtcdManager) (o : RtcdOutcomes) (takes : Bool) :
    RtcdManager × SendCall M :=
  match call.pc with
  | .start =>
      if call.host = "" then (m, call.fails .emptyHost)
      else match m.getHost call.host with
        | none => (m, call.goto .creating)
        | some h => (m, { call.goto .sending with client := some h.client })
  | .creating =>
      if !o.config then (m, call.fails .failedToCreate)
      else match m.register call.host o with
        | (m, none) => (m, call.fails .failedToCreate)
        | (m, some new) => (m, call.goto (.checking new))
  | .checking new =>
      if o.version then (m, call.goto (.adding new))
      else (m.close new, call.fails .failedToCreate)
  | .adding new =>
      match m.addHost call.host new with
      | (m, false) => (m, call.fails .failedToAdd)
      -- the client that was made is not the variable `client` of the call
      | (m, true) => (m, call.goto .sending)
  | .sending => (m, call.send m takes)
  | .returned _ | .panicked => (m, call)

end SendCall

/-- The hosts and the calls of `Send` so far. -/
structure RtcdSends (M : Type) where
  manager : RtcdManager
  calls : List (SendCall M)

/-- What happens next. -/
inductive SendAction (M : Type) where
  | hosts (a : RtcdAction)
  | send (msg : M) (host : String)
  | proceed (call : Nat) (o : RtcdOutcomes) (takes : Bool)

namespace RtcdSends

variable {M : Type}

def step (s : RtcdSends M) : SendAction M → RtcdSends M
  | .hosts a => { s with manager := s.manager.step a }
  | .send msg host => { s with calls := s.calls ++ [.begin msg host] }
  | .proceed n o takes =>
      match s.calls[n]? with
      | none => s
      | some call =>
          { manager := (call.next s.manager o takes).1
            calls := s.calls.set n (call.next s.manager o takes).2 }

def Enabled (s : RtcdSends M) : SendAction M → Prop
  | .hosts a => s.manager.Enabled a
  | .send _ _ => True
  | .proceed n _ _ => n < s.calls.length

instance (s : RtcdSends M) (a : SendAction M) : Decidable (s.Enabled a) := by
  unfold Enabled
  cases a <;> infer_instance

/-- Calls of `Send` next to all that happens to the hosts. -/
def machine (M : Type) : Machine (RtcdSends M) (SendAction M) := ⟨Enabled, step⟩

instance (s : RtcdSends M) (a : SendAction M) : Decidable ((machine M).Enabled s a) :=
  inferInstanceAs (Decidable (s.Enabled a))

/-- No host and no call. -/
def initial : RtcdSends M := ⟨RtcdManager.noHosts, []⟩

/-! ## What is expected -/

/-- The call has returned nil and its message was delivered once, to the client that the
table had for its host and that was made for it; or it has returned an error or is still
running, and its message was not delivered.  It has not used a nil client. -/
def Routed (m : RtcdManager) (call : SendCall M) : Prop :=
  match call.pc with
  | .panicked => False
  | .returned none =>
      ∃ client, call.delivered = [(client, some client)] ∧
        m.clients[client]? = some call.host
  | _ => call.delivered = []

/-- No call adds a client that it has made: the host is no longer missing by then. -/
def Finds (s : RtcdSends M) : SendAction M → Prop
  | .proceed n _ _ =>
      ∀ call ∈ s.calls[n]?, call.adds = true → s.manager.getHost call.host ≠ none
  | _ => True

end RtcdSends

/-! ## What stays true of a client -/

namespace RtcdManager

variable {m m' m'' : RtcdManager} {op : RtcdOp} {o : RtcdOutcomes} {host : String}
  {client : Nat}

/-- The client was made for the host. -/
def MadeFor (m : RtcdManager) (client : Nat) (host : String) : Prop :=
  m.clients[client]? = some host

/-- The client is closed, or the one the table has for the host. -/
def Current (m : RtcdManager) (client : Nat) (host : String) : Prop :=
  client ∈ m.closed ∨ (m.getHost host).map RtcdHost.client = some client

/-- Clients stay made for their hosts, and current until they are closed. -/
structure Later (m m' : RtcdManager) : Prop where
  madeFor : ∀ client host, m.MadeFor client host → m'.MadeFor client host
  current : ∀ client host, m.Current client host → m'.Current client host

theorem Later.refl (m : RtcdManager) : m.Later m := ⟨fun _ _ h => h, fun _ _ h => h⟩

theorem Later.trans (h : m.Later m') (h' : m'.Later m'') : m.Later m'' :=
  ⟨fun client host hMade => h'.madeFor client host (h.madeFor client host hMade),
    fun client host hCur => h'.current client host (h.current client host hCur)⟩

/-- Operations in progress and records do not matter. -/
theorem Later.of_eq (hHosts : m'.hosts = m.hosts) (hClients : m'.clients = m.clients)
    (hClosed : m'.closed = m.closed) : m.Later m' := by
  constructor
  · intro client host h
    unfold MadeFor
    rw [hClients]
    exact h
  · intro client host h
    unfold Current getHost
    rw [hHosts, hClosed]
    exact h

theorem later_close (m : RtcdManager) (client : Nat) : m.Later (m.close client) :=
  ⟨fun _ _ h => h, fun _ _ h => h.imp_left (List.mem_cons_of_mem client)⟩

theorem later_removeHost (m : RtcdManager) (host : String) :
    m.Later (m.removeHost host) := by
  cases hGet : m.getHost host with
  | none =>
      have hSame : m.removeHost host = m := by
        unfold removeHost
        rw [hGet]
      rw [hSame]
      exact .refl m
  | some h =>
      have hRemove : m.removeHost host =
          close { m with hosts := m.hosts.erase host } h.client := by
        unfold removeHost
        rw [hGet]
      constructor
      · intro client host' hMade
        rw [hRemove]
        exact hMade
      · rintro client host' (hClosed | hCur)
        · rw [hRemove]
          exact .inl (List.mem_cons_of_mem _ hClosed)
        · by_cases hHost : host' = host
          · rw [hHost, hGet] at hCur
            rw [hRemove]
            exact .inl (Option.some.inj hCur ▸ List.mem_cons_self)
          · apply Or.inr
            rw [getHost_removeHost, if_neg hHost]
            exact hCur

theorem later_removeByCallback (m : RtcdManager) (client : Nat) (host : String) :
    m.Later (m.removeByCallback client host) := by
  have hRecord : m.Later { m with
      removals :=
        ((m.getHost host).map fun h => (client, h.client)).toList ++ m.removals } :=
    .of_eq rfl rfl rfl
  exact hRecord.trans (later_removeHost _ host)

theorem later_addHost (m : RtcdManager) (host : String) (client : Nat) :
    m.Later (m.addHost host client).1 := by
  unfold addHost
  cases hGet : m.getHost host with
  | some h => exact later_close m client
  | none =>
      refine ⟨fun _ _ h => h, ?_⟩
      rintro client' host' (hClosed | hCur)
      · exact .inl hClosed
      · apply Or.inr
        have hNe : host' ≠ host := by
          intro hHost
          rw [hHost, hGet] at hCur
          cases hCur
        show ((m.hosts.put ⟨host, client, false⟩).find? host').map RtcdHost.client =
          some client'
        rw [Table.find?_put, if_neg hNe]
        exact hCur

theorem later_register (m : RtcdManager) (host : String) (o : RtcdOutcomes) :
    m.Later (m.register host o).1 := by
  have hMade : m.Later { m with clients := m.clients ++ [host] } := by
    refine ⟨?_, fun _ _ h => h⟩
    intro client host' h
    have hLt : client < m.clients.length := (List.getElem?_eq_some_iff.mp h).1
    show (m.clients ++ [host])[client]? = some host'
    rw [List.getElem?_append_left hLt]
    exact h
  unfold register
  split
  · exact .refl m
  · exact hMade.trans (later_close _ _)
  · exact hMade
  · exact hMade

theorem later_setFlag (m : RtcdManager) (host : String) (flagged : Bool) :
    m.Later (m.setFlag host flagged) := by
  refine ⟨fun _ _ h => h, ?_⟩
  rintro client host' (hClosed | hCur)
  · exact .inl hClosed
  · apply Or.inr
    obtain ⟨h, hGet, hClient⟩ := Option.map_eq_some_iff.mp hCur
    obtain ⟨hMem, hHost⟩ := Table.find?_eq_some.mp hGet
    have hFound : (m.setFlag host flagged).getHost host' =
        some (if h.host = host then { h with flagged := flagged } else h) := by
      apply Table.find?_eq_some.mpr
      refine ⟨List.mem_map.mpr ⟨h, hMem, rfl⟩, ?_⟩
      split
      · exact hHost
      · exact hHost
    rw [hFound, Option.map_some, ← hClient]
    split
    · rfl
    · rfl

theorem later_next (m : RtcdManager) (op : RtcdOp) (o : RtcdOutcomes) :
    m.Later (m.next op o) := by
  cases op with
  | creating host =>
      have hReg := later_register m host o
      unfold next
      dsimp only
      split
      · exact .refl m
      · split
        · next hEq =>
            rw [hEq] at hReg
            exact hReg
        · next hEq =>
            rw [hEq] at hReg
            exact hReg.trans (.of_eq rfl rfl rfl)
  | checking host client =>
      unfold next
      dsimp only
      split
      · exact .of_eq rfl rfl rfl
      · exact later_close m client
  | adding host client => exact later_addHost m host client
  | looked client host seen =>
      unfold next
      dsimp only
      split
      · exact .of_eq rfl rfl rfl
      · exact .of_eq rfl rfl rfl
  | removing client host => exact later_removeByCallback m client host
  | registering client host =>
      have hReg := later_register m host o
      unfold next
      dsimp only
      split
      · next hEq =>
          rw [hEq] at hReg
          exact hReg
      · next hEq =>
          rw [hEq] at hReg
          exact hReg.trans (.of_eq rfl rfl rfl)
  | replacing client host new =>
      exact (later_removeByCallback m client host).trans (.of_eq rfl rfl rfl)
  | readding client host new =>
      have hAdd := later_addHost m host new
      unfold next
      dsimp only
      split
      · next hEq =>
          rw [hEq] at hAdd
          exact hAdd
      · next hEq =>
          rw [hEq] at hAdd
          exact hAdd.trans (later_close _ new)

theorem later_step (m : RtcdManager) (a : RtcdAction) : m.Later (m.step a) := by
  cases a with
  | missingHost host =>
      unfold step
      dsimp only
      split
      · exact .of_eq rfl rfl rfl
      · exact .refl m
  | proceed op o =>
      have hErased : m.Later { m with ops := m.ops.erase op } := .of_eq rfl rfl rfl
      exact hErased.trans (later_next _ op o)
  | reconnect client attempt =>
      unfold step reconnectCb
      dsimp only
      split
      · exact later_removeByCallback m client _
      · split
        · exact .refl m
        · exact .of_eq rfl rfl rfl
  | removeHost host => exact later_removeHost m host
  | flag host flagged => exact later_setFlag m host flagged

/-! ## Every host has a client made for it -/

/-- The client that an operation holds was made for the host it is to be added for. -/
def OwnClient (m : RtcdManager) : RtcdOp → Prop
  | .checking host client | .adding host client => m.MadeFor client host
  | .replacing _ host new | .readding _ host new => m.MadeFor new host
  | _ => True

/-- The clients of the table and of the operations were made for their hosts. -/
structure Labelled (m : RtcdManager) : Prop where
  table : ∀ h ∈ m.hosts, m.MadeFor h.client h.host
  ops : ∀ op ∈ m.ops, m.OwnClient op

theorem OwnClient.later (hLater : m.Later m') (h : m.OwnClient op) :
    m'.OwnClient op := by
  cases op with
  | checking host client => exact hLater.madeFor client host h
  | adding host client => exact hLater.madeFor client host h
  | replacing client host new => exact hLater.madeFor new host h
  | readding client host new => exact hLater.madeFor new host h
  | creating host => trivial
  | looked client host seen => trivial
  | removing client host => trivial
  | registering client host => trivial

theorem Labelled.start (h : m.Labelled) (hOp : m.OwnClient op) :
    (m.start op).Labelled := by
  refine ⟨h.table, ?_⟩
  intro op' hMem
  cases List.mem_cons.mp hMem with
  | inl hEq => exact hEq ▸ hOp
  | inr hOld => exact h.ops op' hOld

theorem Labelled.removeHost (h : m.Labelled) (host : String) :
    (m.removeHost host).Labelled := by
  unfold RtcdManager.removeHost
  split
  · exact h
  · exact ⟨fun h' hMem => h.table h' (Table.mem_erase.mp hMem).1, h.ops⟩

theorem Labelled.removeByCallback (h : m.Labelled) (client : Nat) (host : String) :
    (m.removeByCallback client host).Labelled := by
  have hRecord : Labelled { m with
      removals :=
        ((m.getHost host).map fun h => (client, h.client)).toList ++ m.removals } :=
    ⟨h.table, h.ops⟩
  exact hRecord.removeHost host

theorem Labelled.addHost (h : m.Labelled) (hMade : m.MadeFor client host) :
    (m.addHost host client).1.Labelled := by
  unfold RtcdManager.addHost
  split
  · exact ⟨h.table, h.ops⟩
  · refine ⟨?_, h.ops⟩
    intro h' hMem
    cases Table.mem_put.mp hMem with
    | inl hOld => exact h.table h' hOld.1
    | inr hNew =>
        rw [hNew]
        exact hMade

theorem Labelled.register (h : m.Labelled) (host : String) (o : RtcdOutcomes) :
    (m.register host o).1.Labelled := by
  have hLater := later_register m host o
  obtain ⟨hHosts, hOps, _⟩ := register_frame m host o
  constructor
  · rw [hHosts]
    exact fun h' hMem => hLater.madeFor _ _ (h.table h' hMem)
  · rw [hOps]
    exact fun op hMem => (h.ops op hMem).later hLater

/-- A client that is registered was made for the host. -/
theorem register_madeFor {new : Nat} (h : (m.register host o).2 = some new) :
    (m.register host o).1.MadeFor new host := by
  unfold register at h ⊢
  cases hReg : registerRTCDClient o with
  | connected =>
      rw [hReg] at h
      show (m.clients ++ [host])[new]? = some host
      rw [← Option.some.inj h]
      exact List.getElem?_concat_length
  | noClient =>
      rw [hReg] at h
      cases h
  | closed =>
      rw [hReg] at h
      cases h
  | lost =>
      rw [hReg] at h
      cases h

theorem Labelled.next (h : m.Labelled) (hOp : m.OwnClient op) :
    (m.next op o).Labelled := by
  cases op with
  | creating host =>
      have hReg := h.register host o
      have hMade := @register_madeFor m o host
      unfold RtcdManager.next
      dsimp only
      split
      · exact h
      · split
        · next hEq =>
            rw [hEq] at hReg
            exact hReg
        · next hEq =>
            rw [hEq] at hReg hMade
            exact hReg.start (hMade rfl)
  | checking host client =>
      unfold RtcdManager.next
      dsimp only
      split
      · exact h.start hOp
      · exact ⟨h.table, h.ops⟩
  | adding host client => exact h.addHost hOp
  | looked client host seen =>
      unfold RtcdManager.next
      dsimp only
      split
      · exact h.start trivial
      · exact h.start trivial
  | removing client host => exact h.removeByCallback client host
  | registering client host =>
      have hReg := h.register host o
      have hMade := @register_madeFor m o host
      unfold RtcdManager.next
      dsimp only
      split
      · next hEq =>
          rw [hEq] at hReg
          exact hReg
      · next hEq =>
          rw [hEq] at hReg hMade
          exact hReg.start (hMade rfl)
  | replacing client host new =>
      exact (h.removeByCallback client host).start
        (OwnClient.later (later_removeByCallback m client host) hOp)
  | readding client host new =>
      have hAdd := h.addHost hOp
      unfold RtcdManager.next
      dsimp only
      split
      · next hEq =>
          rw [hEq] at hAdd
          exact hAdd
      · next hEq =>
          rw [hEq] at hAdd
          exact ⟨hAdd.table, hAdd.ops⟩

theorem Labelled.step {a : RtcdAction} (h : m.Labelled) (hEn : m.Enabled a) :
    (m.step a).Labelled := by
  cases a with
  | missingHost host =>
      unfold RtcdManager.step
      dsimp only
      split
      · exact h.start trivial
      · exact h
  | proceed op o =>
      have hErased : Labelled { m with ops := m.ops.erase op } :=
        ⟨h.table, fun op' hMem => h.ops op' (List.mem_of_mem_erase hMem)⟩
      have hOp : m.OwnClient op := h.ops op hEn.1
      exact hErased.next (hOp.later (.of_eq rfl rfl rfl))
  | reconnect client attempt =>
      unfold RtcdManager.step reconnectCb
      dsimp only
      split
      · exact h.removeByCallback client _
      · split
        · exact h
        · exact h.start trivial
  | removeHost host => exact h.removeHost host
  | flag host flagged =>
      refine ⟨?_, h.ops⟩
      intro h' hMem
      obtain ⟨h₀, hMem₀, rfl⟩ := List.mem_map.mp hMem
      have hMade := h.table h₀ hMem₀
      split
      · exact hMade
      · exact hMade

end RtcdManager

/-! ## Runs -/

namespace RtcdSends

variable {M : Type} {m m' : RtcdManager} {call : SendCall M} {s : RtcdSends M}
  {o : RtcdOutcomes} {takes : Bool}

/-- A call keeps its promise so far, and one that is about to send has a current
client. -/
def OnTrack (m : RtcdManager) (call : SendCall M) : Prop :=
  Routed m call ∧ (call.pc = .sending →
    ∃ client, call.client = some client ∧ m.MadeFor client call.host ∧
      m.Current client call.host)

theorem OnTrack.later (hLater : m.Later m') (h : OnTrack m call) : OnTrack m' call := by
  obtain ⟨hRouted, hSending⟩ := h
  constructor
  · unfold Routed at hRouted ⊢
    split
    · next hPc =>
        rw [hPc] at hRouted
        exact hRouted
    · next hPc =>
        rw [hPc] at hRouted
        obtain ⟨client, hDelivered, hMade⟩ := hRouted
        exact ⟨client, hDelivered, hLater.madeFor client call.host hMade⟩
    · next hPanic hOk =>
        split at hRouted
        · next hPc => exact absurd hPc hPanic
        · next hPc => exact absurd hPc hOk
        · exact hRouted
  · intro hPc
    obtain ⟨client, hClient, hMade, hCur⟩ := hSending hPc
    exact ⟨client, hClient, hLater.madeFor _ _ hMade, hLater.current _ _ hCur⟩

/-- A call that has not returned nil has not delivered its message. -/
theorem Routed.nothing (h : Routed m call) {pc : SendPc} (hPc : call.pc = pc)
    (hNot : pc ≠ .returned none) : call.delivered = [] := by
  unfold Routed at h
  split at h
  · cases h
  · next hOk => exact absurd (hPc.symm.trans hOk) hNot
  · exact h

theorem onTrack_fails (h : call.delivered = []) (err : SendError) :
    OnTrack m (call.fails err) :=
  ⟨h, fun hPc => by cases hPc⟩

/-- **One step of `Send`**, if it does not add a client. -/
theorem OnTrack.next (h : OnTrack m call) (hTable : m.Labelled)
    (hFinds : call.adds = true → m.getHost call.host ≠ none) :
    OnTrack (call.next m o takes).1 (call.next m o takes).2 := by
  obtain ⟨hRouted, hSending⟩ := h
  cases hPc : call.pc with
  | start =>
      have hNone := hRouted.nothing hPc nofun
      unfold SendCall.next
      rw [hPc]
      dsimp only
      split
      · exact onTrack_fails hNone _
      · split
        · exact ⟨hNone, fun hEq => by cases hEq⟩
        · next found hGet =>
            obtain ⟨hMem, hHost⟩ := Table.find?_eq_some.mp hGet
            refine ⟨hNone, fun _ => ⟨found.client, rfl, ?_, .inr ?_⟩⟩
            · exact hHost ▸ hTable.table found hMem
            · show (m.getHost call.host).map RtcdHost.client = some found.client
              rw [hGet]
              rfl
  | creating =>
      have hNone := hRouted.nothing hPc nofun
      unfold SendCall.next
      rw [hPc]
      dsimp only
      split
      · exact onTrack_fails hNone _
      · split
        · exact onTrack_fails hNone _
        · exact ⟨hNone, fun hEq => by cases hEq⟩
  | checking new =>
      have hNone := hRouted.nothing hPc nofun
      unfold SendCall.next
      rw [hPc]
      dsimp only
      split
      · exact ⟨hNone, fun hEq => by cases hEq⟩
      · exact onTrack_fails hNone _
  | adding new =>
      have hNone := hRouted.nothing hPc nofun
      obtain ⟨found, hGet⟩ :=
        Option.ne_none_iff_exists'.mp (hFinds (SendCall.adds_of_pc hPc))
      have hAdd : m.addHost call.host new = (m.close new, false) := by
        unfold RtcdManager.addHost
        rw [hGet]
      unfold SendCall.next
      rw [hPc]
      dsimp only
      rw [hAdd]
      exact onTrack_fails hNone _
  | sending =>
      have hNone := hRouted.nothing hPc nofun
      obtain ⟨client, hClient, hMade, hCur⟩ := hSending hPc
      unfold SendCall.next
      rw [hPc]
      dsimp only
      unfold SendCall.send
      rw [hClient]
      dsimp only
      split
      · exact onTrack_fails hNone _
      · next hOpen =>
          split
          · exact onTrack_fails hNone _
          · -- the client is not closed, so the table still has it
            have hFound : (m.getHost call.host).map RtcdHost.client = some client :=
              hCur.resolve_left hOpen
            refine ⟨⟨client, ?_, hMade⟩, fun hEq => by cases hEq⟩
            show (client, (m.getHost call.host).map RtcdHost.client) :: call.delivered =
              [(client, some client)]
            rw [hFound, hNone]
  | returned err =>
      have hSame : call.next m o takes = (m, call) := by
        unfold SendCall.next
        rw [hPc]
      rw [hSame]
      exact ⟨hRouted, hSending⟩
  | panicked =>
      unfold Routed at hRouted
      rw [hPc] at hRouted
      exact hRouted.elim

theorem next_later (m : RtcdManager) (call : SendCall M) (o : RtcdOutcomes)
    (takes : Bool) :
    m.Later (call.next m o takes).1 := by
  unfold SendCall.next
  split
  · split
    · exact .refl m
    · split
      · exact .refl m
      · exact .refl m
  · have hReg := RtcdManager.later_register m call.host o
    split
    · exact .refl m
    · split
      · next hEq =>
          rw [hEq] at hReg
          exact hReg
      · next hEq =>
          rw [hEq] at hReg
          exact hReg
  · split
    · exact .refl m
    · exact RtcdManager.later_close m _
  · next new _ =>
      have hAdd := RtcdManager.later_addHost m call.host new
      split
      · next hEq =>
          rw [hEq] at hAdd
          exact hAdd
      · next hEq =>
          rw [hEq] at hAdd
          exact hAdd
  · exact .refl m
  · exact .refl m
  · exact .refl m

/-- Without additions the table is not changed by a call. -/
theorem next_labelled (hTable : m.Labelled)
    (hFinds : call.adds = true → m.getHost call.host ≠ none) :
    (call.next m o takes).1.Labelled := by
  unfold SendCall.next
  split
  · split
    · exact hTable
    · split
      · exact hTable
      · exact hTable
  · have hReg := hTable.register call.host o
    split
    · exact hTable
    · split
      · next hEq =>
          rw [hEq] at hReg
          exact hReg
      · next hEq =>
          rw [hEq] at hReg
          exact hReg
  · split
    · exact hTable
    · exact ⟨hTable.table, hTable.ops⟩
  · next new hPc =>
      obtain ⟨found, hGet⟩ :=
        Option.ne_none_iff_exists'.mp (hFinds (SendCall.adds_of_pc hPc))
      have hAdd : m.addHost call.host new = (m.close new, false) := by
        unfold RtcdManager.addHost
        rw [hGet]
      rw [hAdd]
      exact ⟨hTable.table, hTable.ops⟩
  · exact hTable
  · exact hTable
  · exact hTable

/-- What holds in runs in which no call adds a client. -/
structure Sound (s : RtcdSends M) : Prop where
  labelled : s.manager.Labelled
  calls : ∀ call ∈ s.calls, OnTrack s.manager call

theorem Sound.step {a : SendAction M} (h : s.Sound) (hEn : s.Enabled a)
    (hFinds : s.Finds a) :
    (s.step a).Sound := by
  cases a with
  | hosts a =>
      exact ⟨h.labelled.step hEn, fun call hMem =>
        (h.calls call hMem).later (RtcdManager.later_step s.manager a)⟩
  | send msg host =>
      refine ⟨h.labelled, ?_⟩
      intro call hMem
      cases List.mem_append.mp hMem with
      | inl hOld => exact h.calls call hOld
      | inr hNew =>
          rw [List.mem_singleton.mp hNew]
          exact ⟨rfl, fun hPc => by cases hPc⟩
  | proceed n o takes =>
      unfold RtcdSends.step
      dsimp only
      cases hCall : s.calls[n]? with
      | none => exact h
      | some call =>
          have hMem : call ∈ s.calls := List.mem_of_getElem? hCall
          have hAdds := hFinds call hCall
          refine ⟨next_labelled h.labelled hAdds, ?_⟩
          intro call' hMem'
          cases List.mem_or_eq_of_mem_set hMem' with
          | inl hOld => exact (h.calls call' hOld).later (next_later _ _ _ _)
          | inr hNew =>
              rw [hNew]
              exact (h.calls call hMem).next h.labelled hAdds

theorem sound_initial : (initial : RtcdSends M).Sound := by
  refine ⟨⟨?_, ?_⟩, ?_⟩
  · intro h hMem
    exact absurd hMem (Table.not_mem_empty h)
  · intro op hMem
    cases hMem
  · intro call hMem
    cases hMem

/-- **Messages to hosts**: as long as no call adds the client it has made, every call of
`Send` delivers its message once to the client of its host, or returns an error. -/
theorem sendRouted_of_runs (hr : (machine M).Runs Finds initial s) :
    ∀ call ∈ s.calls, Routed s.manager call := by
  have hSound : s.Sound :=
    hr.inv sound_initial fun _ _ hEn hFinds h => h.step hEn hFinds
  exact fun call hMem => (hSound.calls call hMem).1

/-- A call that does add the client it has made goes on to use a nil one. -/
theorem panics_of_adding {new : Nat} (hPc : call.pc = .adding new)
    (hNil : call.client = none) (hMissing : m.getHost call.host = none)
    (o' : RtcdOutcomes) (takes' : Bool) :
    (((call.next m o takes).2).next m' o' takes').2.pc = .panicked := by
  have hAdd : call.next m o takes =
      ({ m with hosts := m.hosts.put ⟨call.host, new, false⟩ },
        call.goto .sending) := by
    unfold SendCall.next
    rw [hPc]
    dsimp only
    unfold RtcdManager.addHost
    rw [hMissing]
  have hSend : (call.goto .sending).send m' takes' =
      (call.goto .sending).goto .panicked := by
    unfold SendCall.send
    show (match call.client with
      | none => (call.goto .sending).goto .panicked
      | some client => _) = _
    rw [hNil]
  rw [hAdd]
  show ((call.goto .sending).send m' takes').pc = .panicked
  rw [hSend]
  rfl

/-! ## Runs on fixed actions -/

instance (s : RtcdSends M) (a : SendAction M) : Decidable (s.Finds a) := by
  unfold Finds
  cases a <;> infer_instance

/-- `hostsChecker` makes a client for the host `a`, and a message is sent there. -/
theorem sendRouted_known : ∃ s : RtcdSends String,
    (s.calls.map SendCall.pc = [.returned none]) ∧
    ∀ call ∈ s.calls, Routed s.manager call := by
  obtain ⟨s, hr, hs⟩ := Machine.Runs.exists_of_leads (fun _ _ h => of_decide_eq_true h)
    (show ((machine String).leads (fun s a => decide (s.Finds a)) initial
      [.hosts (.missingHost "a"), .hosts (.proceed (.creating "a") {}),
        .hosts (.proceed (.checking "a" 0) {}), .hosts (.proceed (.adding "a" 0) {}),
        .send "hello" "a", .proceed 0 {} true, .proceed 0 {} true]).map
          (fun s => s.calls.map SendCall.pc) = some [.returned none] by decide)
  exact ⟨s, hs, sendRouted_of_runs hr⟩

/-- A message is sent to the host `a` before a client for it is known: the client that
is made is never used, and the nil one is. -/
theorem send_uses_nil : ∃ s : RtcdSends String,
    (machine String).Runs Machine.Always initial s ∧
    ¬ ∀ call ∈ s.calls, Routed s.manager call := by
  obtain ⟨s, hr, hs⟩ := Machine.Runs.exists_of_leads
    (fun s a _ => (trivial : Machine.Always s a))
    (show ((machine String).leads (fun _ _ => true) initial
      [.send "hello" "a", .proceed 0 {} true, .proceed 0 {} true, .proceed 0 {} true,
        .proceed 0 {} true, .proceed 0 {} true]).map
          (fun s => s.calls.map SendCall.pc) = some [.panicked] by decide)
  refine ⟨s, hr, ?_⟩
  intro h
  have hMap : SendPc.panicked ∈ s.calls.map SendCall.pc := by
    rw [hs]
    exact List.mem_singleton_self _
  obtain ⟨call, hMem, hPc⟩ := List.mem_map.mp hMap
  have hRouted := h call hMem
  unfold Routed at hRouted
  rw [hPc] at hRouted
  exact hRouted

end RtcdSends

end CallsPlugin.Ports
