import CallsPlugin.Verified.Machine
import CallsPlugin.Verified.Table
import CallsPlugin.Verified.Custody

/-!
# Clients of RTCD hosts (`server/rtcd.go`)

The plugin keeps a client for each RTCD host it knows.  `Send` and
`hostsChecker` make clients for hosts that are missing, and a client that has
lost its connection calls back, gives up or has itself replaced.  The table of
hosts is locked for each look, removal and addition on its own, so these are
the steps here; what fails at the RTCD side is decided by outcomes.
-/

namespace CallsPlugin.Ports

open CallsPlugin.Verified

/-- `rtcdHost`; clients are numbered as they are made. -/
structure RtcdHost where
  host : String
  client : Nat
  flagged : Bool
  deriving DecidableEq

/-- What succeeds when a client is made, and what a look at a host's flag finds. -/
structure RtcdOutcomes where
  config : Bool := true
  locks : Bool := true
  newClient : Bool := true
  connect : Bool := true
  register : Bool := true
  storeConfig : Bool := true
  reconnect : Bool := true
  version : Bool := true
  flagged : Bool := false
  deriving DecidableEq

/-- How `registerRTCDClient` ends: without a client, with one that it closed, with one
that it returns, or with an error after the last attempt to connect, which leaves the
client as it is. -/
inductive Registration where
  | noClient
  | closed
  | connected
  | lost
  deriving DecidableEq

/-- `registerRTCDClient` -/
def registerRTCDClient (o : RtcdOutcomes) : Registration :=
  if !o.locks then .noClient
  else if !o.newClient then .noClient
  else if o.connect then .connected
  else if !o.register then .closed
  else if !o.storeConfig then .closed
  else if o.reconnect then .connected
  else .lost

/-- `maxReconnectAttempts` -/
def maxReconnectAttempts : Nat := 8

/-- An operation in progress, by what it does next.  The last five are a reconnect
callback of `client`. -/
inductive RtcdOp where
  | creating (host : String)
  | checking (host : String) (client : Nat)
  | adding (host : String) (client : Nat)
  | looked (client : Nat) (host : String) (seen : Nat)
  | removing (client : Nat) (host : String)
  | registering (client : Nat) (host : String)
  | replacing (client : Nat) (host : String) (new : Nat)
  | readding (client : Nat) (host : String) (new : Nat)
  deriving DecidableEq

/-- The client an operation has made and not yet handed on. -/
def RtcdOp.held : RtcdOp → List Nat
  | .checking _ client | .adding _ client => [client]
  | .replacing _ _ new | .readding _ _ new => [new]
  | _ => []

/-- A callback that may still remove its host: the client it was invoked for and the
host. -/
def RtcdOp.aims : RtcdOp → Option (Nat × String)
  | .looked client host _ | .removing client host | .registering client host
  | .replacing client host _ => some (client, host)
  | _ => none

/-- The table of hosts, the host of each client ever made, the closed clients and the
operations in progress.  `removals` records which client's callback removed which
client. -/
structure RtcdManager where
  hosts : Table RtcdHost.host
  clients : List String
  closed : List Nat
  ops : List RtcdOp
  removals : List (Nat × Nat)

/-- What happens next. -/
inductive RtcdAction where
  | missingHost (host : String)
  | proceed (op : RtcdOp) (o : RtcdOutcomes)
  | reconnect (client attempt : Nat)
  | removeHost (host : String)
  | flag (host : String) (flagged : Bool)
  deriving DecidableEq

namespace RtcdManager

/-- `client.Close` -/
def close (m : RtcdManager) (client : Nat) : RtcdManager :=
  { m with closed := client :: m.closed }

/-- An operation goes on. -/
def start (m : RtcdManager) (op : RtcdOp) : RtcdManager := { m with ops := op :: m.ops }

/-- `getHost` -/
def getHost (m : RtcdManager) (host : String) : Option RtcdHost := m.hosts.find? host

/-- `removeHost` -/
def removeHost (m : RtcdManager) (host : String) : RtcdManager :=
  match m.getHost host with
  | none => m
  | some h => close { m with hosts := m.hosts.erase host } h.client

/-- `addHost`; `false` is an error. -/
def addHost (m : RtcdManager) (host : String) (client : Nat) : RtcdManager × Bool :=
  match m.getHost host with
  | some _ => (m.close client, false)
  | none => ({ m with hosts := m.hosts.put ⟨host, client, false⟩ }, true)

/-- `removeHost` in the callback of a client. -/
def removeByCallback (m : RtcdManager) (client : Nat) (host : String) : RtcdManager :=
  removeHost { m with
    removals :=
      ((m.getHost host).map fun h => (client, h.client)).toList ++ m.removals } host

/-- `registerRTCDClient`, with the client it returns. -/
def register (m : RtcdManager) (host : String) (o : RtcdOutcomes) :
    RtcdManager × Option Nat :=
  let made := { m with clients := m.clients ++ [host] }
  match registerRTCDClient o with
  | .noClient => (m, none)
  | .closed => (made.close m.clients.length, none)
  | .connected => (made, some m.clients.length)
  | .lost => (made, none)

/-- `reconnectCb` up to its look at the host. -/
def reconnectCb (m : RtcdManager) (client : Nat) (host : String) (attempt : Nat) :
    RtcdManager :=
  if attempt ≥ maxReconnectAttempts then m.removeByCallback client host
  else match m.getHost host with
    | none => m
    | some h => m.start (.looked client host h.client)

/-- The next step of an operation, which is no longer among those in progress. -/
def next (m : RtcdManager) (op : RtcdOp) (o : RtcdOutcomes) : RtcdManager :=
  match op with
  | .creating host =>
      if !o.config then m
      else match m.register host o with
        | (m, none) => m
        | (m, some client) => m.start (.checking host client)
  | .checking host client =>
      if o.version then m.start (.adding host client) else m.close client
  | .adding host client => (m.addHost host client).1
  | .looked client host _ =>
      if o.flagged then m.start (.removing client host)
      else m.start (.registering client host)
  | .removing client host => m.removeByCallback client host
  | .registering client host =>
      match m.register host o with
      | (m, none) => m
      -- a failed version check is only logged
      | (m, some new) => m.start (.replacing client host new)
  | .replacing client host new =>
      (m.removeByCallback client host).start (.readding client host new)
  | .readding _ host new =>
      match m.addHost host new with
      | (m, true) => m
      | (m, false) => m.close new

/-- `flagged` of a host, set by `hostsChecker`. -/
def setFlag (m : RtcdManager) (host : String) (flagged : Bool) : RtcdManager :=
  { m with hosts := m.hosts.modify host (fun h =>
      { h with flagged := flagged }) fun _ => rfl }

/-- What an action does. -/
def step (m : RtcdManager) : RtcdAction → RtcdManager
  | .missingHost host => if (m.getHost host).isNone then m.start (.creating host) else m
  | .proceed op o => next { m with ops := m.ops.erase op } op o
  | .reconnect client attempt => m.reconnectCb client (m.clients.getD client "") attempt
  | .removeHost host => m.removeHost host
  | .flag host flagged => m.setFlag host flagged

/-- Operations in progress go on, the flag that a callback reads is that of the host it
has found, and only clients that are not closed call back. -/
def Enabled (m : RtcdManager) : RtcdAction → Prop
  | .proceed op o => op ∈ m.ops ∧
      match op with
      | .looked _ host seen =>
          ∀ h ∈ m.getHost host, h.client = seen → o.flagged = h.flagged
      | _ => True
  | .reconnect client _ => client < m.clients.length ∧ client ∉ m.closed
  | _ => True

instance (m : RtcdManager) (a : RtcdAction) : Decidable (m.Enabled a) := by
  unfold Enabled
  cases a with
  | proceed op o => cases op <;> dsimp only <;> infer_instance
  | _ => dsimp only; infer_instance

/-- The plugin running any of its operations on hosts, in any order. -/
def machine : Machine RtcdManager RtcdAction := ⟨Enabled, step⟩

instance (m : RtcdManager) (a : RtcdAction) : Decidable (machine.Enabled m a) :=
  inferInstanceAs (Decidable (m.Enabled a))

/-- The clients in the table and those that operations have not handed on. -/
def live (m : RtcdManager) : List Nat :=
  m.hosts.rows.map RtcdHost.client ++ m.ops.flatMap RtcdOp.held

/-- As it is when the plugin has started: every client is in the table. -/
structure Started (m : RtcdManager) : Prop where
  ops : m.ops = []
  removals : m.removals = []
  custody : Custody (m.hosts.rows.map RtcdHost.client) m.closed m.clients.length

/-! ## What is expected -/

/-- Every client is closed or the client of exactly one host. -/
def Owned (m : RtcdManager) : Prop :=
  ∀ client < m.clients.length,
    (client ∈ m.closed ∧ ∀ h ∈ m.hosts, h.client ≠ client) ∨
      (client ∉ m.closed ∧ ∃! h, h ∈ m.hosts ∧ h.client = client)

/-- Callbacks only remove the host that has their client. -/
def RemovesOwn (m : RtcdManager) : Prop := ∀ r ∈ m.removals, r.2 = r.1

/-- The step does no harm: the last attempt to connect a client that was made does not
fail; a callback begins only if its host has its client, or none; and no client is added
for a host while a callback may still remove it. -/
def Harmless (m : RtcdManager) : RtcdAction → Prop
  | .proceed (.creating _) o => o.config = true → registerRTCDClient o ≠ .lost
  | .proceed (.registering _ _) o => registerRTCDClient o ≠ .lost
  | .proceed (.adding host _) _ | .proceed (.readding _ host _) _ =>
      m.getHost host = none → ∀ op ∈ m.ops, op.aims.map Prod.snd ≠ some host
  | .reconnect client _ => ∀ h ∈ m.getHost (m.clients.getD client ""), h.client = client
  | _ => True

instance (m : RtcdManager) (a : RtcdAction) : Decidable (m.Harmless a) := by
  cases a with
  | proceed op o => cases op <;> unfold Harmless <;> infer_instance
  | _ => unfold Harmless; infer_instance

/-! ## Custody of the clients -/

variable {m m' : RtcdManager} {op : RtcdOp} {o : RtcdOutcomes} {host : String}
  {client : Nat} {held : List Nat}

/-- The clients that are not closed are those in the table and `held`. -/
def Keeps (m : RtcdManager) (held : List Nat) : Prop :=
  Custody (held ++ m.live) m.closed m.clients.length

theorem Keeps.start (h : m.Keeps op.held) : (m.start op).Keeps [] := by
  apply Custody.perm h
  show (op.held ++ m.live).Perm
    (m.hosts.rows.map RtcdHost.client ++ (op.held ++ m.ops.flatMap RtcdOp.held))
  exact List.perm_append_comm_assoc _ _ _

/-- The client of an operation that goes on is in its hands. -/
theorem Keeps.erase (h : m.Keeps []) (hop : op ∈ m.ops) :
    Keeps { m with ops := m.ops.erase op } op.held := by
  apply Custody.perm h
  have hops : (m.ops.flatMap RtcdOp.held).Perm
      (op.held ++ (m.ops.erase op).flatMap RtcdOp.held) :=
      (List.perm_cons_erase hop).flatMap_right _
  show (m.hosts.rows.map RtcdHost.client ++ m.ops.flatMap RtcdOp.held).Perm
    (op.held ++ (m.hosts.rows.map RtcdHost.client ++
      (m.ops.erase op).flatMap RtcdOp.held))
  exact (hops.append_left _).trans (List.perm_append_comm_assoc _ _ _)

theorem Keeps.close (h : m.Keeps (client :: held)) : (m.close client).Keeps held :=
  Custody.release h

theorem rows_erase {h : RtcdHost} (hget : m.getHost host = some h) :
    (m.hosts.rows.map RtcdHost.client).Perm
      (h.client :: (m.hosts.erase host).rows.map RtcdHost.client) := by
  obtain ⟨hmem, hhost⟩ := Table.find?_eq_some.1 hget
  have hrest : m.hosts.rows.erase h = (m.hosts.erase host).rows := by
    have hnodup : m.hosts.rows.Nodup := List.Nodup.of_map _ m.hosts.nodup
    rw [hnodup.erase_eq_filter]
    apply List.filter_congr
    intro h' hh'
    by_cases heq : h' = h
    · simp [heq, hhost]
    · have hne : h'.host ≠ host :=
        fun hh => heq (m.hosts.eq_of_key_eq hh' hmem (hh.trans hhost.symm))
      simp [heq, hne]
  rw [← hrest]
  exact (List.perm_cons_erase hmem).map _

theorem Keeps.removeHost (h : m.Keeps held) : (m.removeHost host).Keeps held := by
  unfold RtcdManager.removeHost
  cases hget : m.getHost host with
  | none => exact h
  | some found =>
      apply Keeps.close
      apply Custody.perm h
      have hrows := rows_erase hget
      show (held ++ (m.hosts.rows.map RtcdHost.client ++
        m.ops.flatMap RtcdOp.held)).Perm
        (found.client :: (held ++ ((m.hosts.erase host).rows.map RtcdHost.client ++
          m.ops.flatMap RtcdOp.held)))
      exact ((hrows.append_right _).append_left held).trans List.perm_middle

theorem Keeps.removeByCallback (h : m.Keeps held) :
    (m.removeByCallback client host).Keeps held := by
  have hrecorded : Keeps { m with
      removals := ((m.getHost host).map fun h => (client, h.client)).toList ++
        m.removals } held := h
  exact hrecorded.removeHost

/-- A client is added, or closed. -/
theorem Keeps.addHost (h : m.Keeps (client :: held)) :
    (m.addHost host client).1.Keeps held := by
  unfold RtcdManager.addHost
  cases hget : m.getHost host with
  | some found => exact h.close
  | none =>
      apply Custody.perm h
      have hrows : (m.hosts.put ⟨host, client, false⟩).rows =
          m.hosts.rows ++ [⟨host, client, false⟩] :=
        Table.put_rows_of_fresh fun h' hh' => Table.find?_eq_none.1 hget h' hh'
      show (client :: (held ++
        (m.hosts.rows.map RtcdHost.client ++ m.ops.flatMap RtcdOp.held))).Perm
        (held ++ ((m.hosts.put ⟨host, client, false⟩).rows.map RtcdHost.client ++
          m.ops.flatMap RtcdOp.held))
      rw [hrows, List.map_append, List.map_singleton, List.append_assoc]
      have hmiddle : (client :: (held ++ (m.hosts.rows.map RtcdHost.client ++
          m.ops.flatMap RtcdOp.held))).Perm
            ((held ++ m.hosts.rows.map RtcdHost.client) ++
          client :: m.ops.flatMap RtcdOp.held) := by
        rw [← List.append_assoc]
        exact List.perm_middle.symm
      rw [List.append_assoc] at hmiddle
      exact hmiddle

/-- Registration returns the client that it has made and not closed. -/
theorem Keeps.register (h : m.Keeps []) (hlost : registerRTCDClient o ≠ .lost) :
    (m.register host o).1.Keeps (m.register host o).2.toList := by
  have hmade : Keeps { m with clients := m.clients ++ [host] } [m.clients.length] := by
    show Custody _ _ (m.clients ++ [host]).length
    rw [List.length_append, List.length_singleton]
    exact Custody.make h
  unfold RtcdManager.register
  cases hreg : registerRTCDClient o with
  | noClient => exact h
  | closed => exact hmade.close
  | connected => exact hmade
  | lost => exact absurd hreg hlost

/-- The first client that fails to be added is closed twice. -/
theorem addHost_false (h : (m.addHost host client).2 = false) :
    (m.addHost host client).1 = m.close client := by
  unfold RtcdManager.addHost at h ⊢
  cases hget : m.getHost host with
  | some found => rfl
  | none =>
      rw [hget] at h
      cases h

/-- **Custody**: an operation that goes on hands its client on or closes it. -/
theorem Keeps.next (h : m.Keeps op.held) (hok : m'.Harmless (.proceed op o)) :
    (m.next op o).Keeps [] := by
  cases op with
  | creating host =>
      show Keeps (if !o.config then m else _) []
      by_cases hconfig : o.config = true
      · have hreg : (m.register host o).1.Keeps (m.register host o).2.toList :=
          Keeps.register h (hok hconfig)
        rw [hconfig]
        show Keeps (match m.register host o with
          | (m, none) => m
          | (m, some client) => m.start (.checking host client)) []
        revert hreg
        generalize m.register host o = r
        obtain ⟨m', res⟩ := r
        intro hreg
        cases res with
        | none => exact hreg
        | some client => exact Keeps.start hreg
      · rw [Bool.not_eq_true] at hconfig
        rw [hconfig]
        exact h
  | checking host client =>
      show Keeps (if o.version then _ else _) []
      split
      · exact Keeps.start h
      · exact Keeps.close h
  | adding host client => exact Keeps.addHost h
  | looked client host seen =>
      show Keeps (if o.flagged then _ else _) []
      split
      · exact Keeps.start h
      · exact Keeps.start h
  | removing client host => exact Keeps.removeByCallback h
  | registering client host =>
      have hreg : (m.register host o).1.Keeps (m.register host o).2.toList :=
        Keeps.register h hok
      show Keeps (match m.register host o with
        | (m, none) => m
        | (m, some new) => m.start (.replacing client host new)) []
      revert hreg
      generalize m.register host o = r
      obtain ⟨m', res⟩ := r
      intro hreg
      cases res with
      | none => exact hreg
      | some new => exact Keeps.start hreg
  | replacing client host new =>
      have hremoved : (m.removeByCallback client host).Keeps [new] :=
        Keeps.removeByCallback h
      exact Keeps.start hremoved
  | readding client host new =>
      have hadd : (m.addHost host new).1.Keeps [] := Keeps.addHost h
      show Keeps (match m.addHost host new with
        | (m, true) => m
        | (m, false) => m.close new) []
      cases hres : (m.addHost host new).2 with
      | true =>
          have hpair : m.addHost host new = ((m.addHost host new).1, true) :=
            Prod.ext rfl hres
          rw [hpair]
          exact hadd
      | false =>
          have hpair : m.addHost host new = ((m.addHost host new).1, false) :=
            Prod.ext rfl hres
          rw [hpair]
          apply Custody.release_again hadd
          rw [addHost_false hres]
          exact List.mem_cons_self

/-! ## What callbacks aim at -/

/-- The host that a callback may remove has its client, or none. -/
def Aimed (m : RtcdManager) (op : RtcdOp) : Prop :=
  ∀ client host, op.aims = some (client, host) → ∀ h ∈ m.getHost host, h.client = client

/-- Callbacks aim at hosts that have their clients, and have removed no others. -/
structure Steady (m : RtcdManager) : Prop where
  aimed : ∀ op ∈ m.ops, m.Aimed op
  removesOwn : m.RemovesOwn

/-- Every host has the client it had, or none. -/
def Shrinks (m m' : RtcdManager) : Prop :=
  ∀ host, ∀ h' ∈ m'.getHost host, ∃ h ∈ m.getHost host, h.client = h'.client

theorem Shrinks.refl (m : RtcdManager) : m.Shrinks m := fun _ h hh => ⟨h, hh, rfl⟩

theorem Shrinks.aimed (h : m.Shrinks m') (ha : m.Aimed op) : m'.Aimed op := by
  intro client host haims h' hh'
  obtain ⟨h₀, hh₀, hclient⟩ := h host h' hh'
  exact hclient.symm.trans (ha client host haims h₀ hh₀)

theorem getHost_removeHost (m : RtcdManager) (host host' : String) :
    (m.removeHost host).getHost host' = if host' =
    host then none else m.getHost host' := by
  unfold removeHost
  cases hget : m.getHost host with
  | none =>
      show m.getHost host' = _
      split
      · next heq => rw [heq, hget]
      · rfl
  | some h => exact Table.find?_erase m.hosts host host'

theorem removeHost_shrinks (m : RtcdManager) (host : String) :
    m.Shrinks (m.removeHost host) := by
  intro host' h' hh'
  rw [getHost_removeHost] at hh'
  split at hh'
  · cases hh'
  · exact ⟨h', hh', rfl⟩

theorem setFlag_shrinks (m : RtcdManager) (host : String) (flagged : Bool) :
    m.Shrinks (m.setFlag host flagged) := by
  intro host' h' hh'
  obtain ⟨hmem, hhost⟩ := Table.find?_eq_some.1 hh'
  obtain ⟨h, hh, heq⟩ := List.mem_map.1 hmem
  refine ⟨h, Table.find?_eq_some.2 ⟨hh, ?_⟩, ?_⟩
  · rw [← hhost, ← heq]
    split <;> rfl
  · rw [← heq]
    split <;> rfl

theorem removeByCallback_shrinks (m : RtcdManager) (client : Nat) (host : String) :
    m.Shrinks (m.removeByCallback client host) := by
  intro host' h' hh'
  obtain ⟨h, hh, hclient⟩ := removeHost_shrinks _ host host' h' hh'
  exact ⟨h, hh, hclient⟩

theorem removeHost_ops (m : RtcdManager) (host : String) :
    (m.removeHost host).ops = m.ops := by
  unfold removeHost
  split <;> rfl

theorem removeHost_removals (m : RtcdManager) (host : String) :
    (m.removeHost host).removals = m.removals := by
  unfold removeHost
  split <;> rfl

theorem removeByCallback_ops (m : RtcdManager) (client : Nat) (host : String) :
    (m.removeByCallback client host).ops = m.ops := removeHost_ops _ host

theorem RemovesOwn.removeByCallback (h : m.RemovesOwn)
    (haim : ∀ h ∈ m.getHost host, h.client = client) :
    (m.removeByCallback client host).RemovesOwn := by
  intro r hr
  unfold RtcdManager.removeByCallback at hr
  rw [removeHost_removals] at hr
  obtain hnew | hold := List.mem_append.1 hr
  · cases hget : m.getHost host with
    | none =>
        rw [hget] at hnew
        cases hnew
    | some found =>
        rw [hget] at hnew
        rw [List.mem_singleton.1 hnew]
        exact haim found hget
  · exact h r hold

theorem Steady.start (h : m.Steady) (ha : m.Aimed op) : (m.start op).Steady := by
  refine ⟨?_, h.removesOwn⟩
  intro op' hop'
  obtain rfl | hold := List.mem_cons.1 hop'
  · exact ha
  · exact h.aimed op' hold

theorem Steady.close (h : m.Steady) (client : Nat) : (m.close client).Steady :=
  ⟨h.aimed, h.removesOwn⟩

theorem Steady.shrink (h : m.Steady) (hs : m.Shrinks m') (hops : m'.ops = m.ops)
    (hremovals : m'.RemovesOwn) : m'.Steady := by
  refine ⟨?_, hremovals⟩
  intro op hop
  rw [hops] at hop
  exact hs.aimed (h.aimed op hop)

theorem Steady.removeHost (h : m.Steady) (host : String) :
    (m.removeHost host).Steady := by
  apply h.shrink (removeHost_shrinks m host) (removeHost_ops m host)
  unfold RemovesOwn
  rw [removeHost_removals]
  exact h.removesOwn

theorem Steady.removeByCallback (h : m.Steady)
    (haim : ∀ h ∈ m.getHost host, h.client = client) :
    (m.removeByCallback client host).Steady :=
  h.shrink (removeByCallback_shrinks m client host) (removeByCallback_ops m client host)
    (h.removesOwn.removeByCallback haim)

theorem register_frame (m : RtcdManager) (host : String) (o : RtcdOutcomes) :
    (m.register host o).1.hosts = m.hosts ∧ (m.register host o).1.ops = m.ops ∧
      (m.register host o).1.removals = m.removals := by
  unfold register
  split <;> exact ⟨rfl, rfl, rfl⟩

theorem register_aimed (ha : m.Aimed op) : (m.register host o).1.Aimed op := by
  unfold Aimed getHost
  rw [(register_frame m host o).1]
  exact ha

theorem Steady.register (h : m.Steady) (host : String) (o : RtcdOutcomes) :
    (m.register host o).1.Steady := by
  obtain ⟨-, hops, hremovals⟩ := register_frame m host o
  constructor
  · intro op hop
    rw [hops] at hop
    exact register_aimed (h.aimed op hop)
  · unfold RemovesOwn
    rw [hremovals]
    exact h.removesOwn

/-- A client is added only for a host that no callback may remove any more. -/
theorem Steady.addHost (h : m.Steady)
    (hclear : m.getHost host = none → ∀ op ∈ m.ops, op.aims.map Prod.snd ≠ some host) :
    (m.addHost host client).1.Steady := by
  unfold RtcdManager.addHost
  cases hget : m.getHost host with
  | some found => exact h.close client
  | none =>
      refine ⟨?_, h.removesOwn⟩
      intro op hop client' host' haims h' hh'
      have hne : host' ≠ host := by
        intro heq
        apply hclear hget op hop
        rw [haims, heq]
        rfl
      have hput : (m.hosts.put ⟨host, client, false⟩).find? host' =
          m.hosts.find? host' := by
        rw [Table.find?_put, if_neg hne]
      apply h.aimed op hop client' host' haims h'
      unfold getHost
      rw [← hput]
      exact hh'

/-- An operation that goes on keeps callbacks aimed at their own clients. -/
theorem Steady.next (h : m.Steady) (ha : m.Aimed op)
    (hclear : ∀ host client, op = .adding host client ∨
      (∃ old, op = .readding old host client) →
      m.getHost host = none → ∀ op ∈ m.ops, op.aims.map Prod.snd ≠ some host) :
    (m.next op o).Steady := by
  have hnone : ∀ (m : RtcdManager) (op : RtcdOp), op.aims = none → m.Aimed op := by
    intro m op hop client host haims
    rw [hop] at haims
    cases haims
  have hsame : ∀ op' : RtcdOp, op'.aims = op.aims → m.Aimed op' := by
    intro op' hop' client host haims
    exact ha client host (hop'.symm.trans haims)
  cases op with
  | creating host =>
      show Steady (if !o.config then m else _)
      split
      · exact h
      · have hreg := h.register host o
        show Steady (match m.register host o with
          | (m, none) => m
          | (m, some client) => m.start (.checking host client))
        revert hreg
        generalize m.register host o = r
        obtain ⟨m', res⟩ := r
        intro hreg
        cases res with
        | none => exact hreg
        | some client => exact Steady.start hreg (hnone _ _ rfl)
  | checking host client =>
      show Steady (if o.version then _ else _)
      split
      · exact h.start (hnone _ _ rfl)
      · exact h.close client
  | adding host client => exact h.addHost (hclear host client (.inl rfl))
  | looked client host seen =>
      show Steady (if o.flagged then _ else _)
      split
      · exact h.start (hsame _ rfl)
      · exact h.start (hsame _ rfl)
  | removing client host => exact h.removeByCallback (ha client host rfl)
  | registering client host =>
      have hreg := h.register host o
      have haim : ∀ new, (m.register host o).1.Aimed (.replacing client host new) :=
          fun new =>
        register_aimed (hsame _ rfl)
      show Steady (match m.register host o with
        | (m, none) => m
        | (m, some new) => m.start (.replacing client host new))
      revert hreg haim
      generalize m.register host o = r
      obtain ⟨m', res⟩ := r
      intro hreg haim
      cases res with
      | none => exact hreg
      | some new => exact Steady.start hreg (haim new)
  | replacing client host new =>
      exact (h.removeByCallback (ha client host rfl)).start (hnone _ _ rfl)
  | readding client host new =>
      have hadd : (m.addHost host new).1.Steady :=
        h.addHost (hclear host new (.inr ⟨client, rfl⟩))
      show Steady (match m.addHost host new with
        | (m, true) => m
        | (m, false) => m.close new)
      revert hadd
      generalize m.addHost host new = r
      obtain ⟨m', res⟩ := r
      intro hadd
      cases res with
      | true => exact hadd
      | false => exact hadd.close new

/-! ## Runs -/

/-- What holds in runs whose steps do no harm. -/
structure Sound (m : RtcdManager) : Prop where
  keeps : m.Keeps []
  steady : m.Steady

theorem Started.sound (h : m.Started) : m.Sound := by
  refine ⟨?_, ?_, ?_⟩
  · show Custody (m.hosts.rows.map RtcdHost.client ++ m.ops.flatMap RtcdOp.held) _ _
    rw [h.ops, List.flatMap_nil, List.append_nil]
    exact h.custody
  · rw [h.ops]
    intro op hop
    cases hop
  · unfold RemovesOwn
    rw [h.removals]
    intro r hr
    cases hr

/-- **A harmless step** keeps every client in custody and callbacks at their own
clients. -/
theorem Sound.step (h : m.Sound) {a : RtcdAction} (hen : m.Enabled a)
    (hok : m.Harmless a) :
    (m.step a).Sound := by
  cases a with
  | missingHost host =>
      show Sound (if (m.getHost host).isNone then _ else _)
      split
      · have haim : m.Aimed (.creating host) := fun _ _ haims => by cases haims
        have hkeeps : (m.start (.creating host)).Keeps [] := Keeps.start h.keeps
        exact ⟨hkeeps, h.steady.start haim⟩
      · exact h
  | proceed op o =>
      have hop : op ∈ m.ops := hen.1
      have herased : Steady { m with ops := m.ops.erase op } :=
        ⟨fun op' hop' => h.steady.aimed op' (List.mem_of_mem_erase hop'),
          h.steady.removesOwn⟩
      refine ⟨Keeps.next (h.keeps.erase hop) hok,
        herased.next (h.steady.aimed op hop) ?_⟩
      intro host client hadd hget op' hop'
      have hmem : op' ∈ m.ops := List.mem_of_mem_erase hop'
      obtain rfl | ⟨old, rfl⟩ := hadd
      · exact hok hget op' hmem
      · exact hok hget op' hmem
  | reconnect client attempt =>
      show (m.reconnectCb client (m.clients.getD client "") attempt).Sound
      unfold reconnectCb
      split
      · exact ⟨h.keeps.removeByCallback, h.steady.removeByCallback hok⟩
      · cases hget : m.getHost (m.clients.getD client "") with
        | none => exact h
        | some found =>
            have hkeeps : (m.start
                (.looked client (m.clients.getD client "") found.client)).Keeps [] :=
              Keeps.start h.keeps
            refine ⟨hkeeps, h.steady.start ?_⟩
            intro client' host' haims
            obtain ⟨rfl, rfl⟩ := Prod.mk.inj (Option.some.inj haims)
            exact hok
  | removeHost host => exact ⟨h.keeps.removeHost, h.steady.removeHost host⟩
  | flag host flagged =>
      constructor
      · have hrows : (m.setFlag host flagged).hosts.rows.map RtcdHost.client =
            m.hosts.rows.map RtcdHost.client := by
          show (m.hosts.rows.map _).map _ = _
          rw [List.map_map]
          apply List.map_congr_left
          intro h' _
          show (if h'.host = host then { h' with flagged := flagged } else h').client =
            h'.client
          split <;> rfl
        show Custody ((m.setFlag host flagged).hosts.rows.map RtcdHost.client ++ _) _ _
        rw [hrows]
        exact h.keeps
      · exact h.steady.shrink (setFlag_shrinks m host flagged) rfl h.steady.removesOwn

/-- Clients that no operation holds are owned by the table. -/
theorem Sound.owned (h : m.Sound) (hidle : m.ops = []) : m.Owned := by
  have hcustody : Custody (m.hosts.rows.map RtcdHost.client) m.closed
      m.clients.length := by
    have hkeeps := h.keeps
    unfold Keeps live at hkeeps
    rw [hidle, List.flatMap_nil, List.append_nil] at hkeeps
    exact hkeeps
  intro client hclient
  by_cases hclosed : client ∈ m.closed
  · refine .inl ⟨hclosed, ?_⟩
    intro h' hh' heq
    exact hcustody.once client (heq ▸ List.mem_map_of_mem hh') hclosed
  · refine .inr ⟨hclosed, ?_⟩
    obtain ⟨h', hh', heq⟩ := List.mem_map.1 ((hcustody.live_iff hclient).2 hclosed)
    refine ⟨h', ⟨hh', heq⟩, ?_⟩
    intro h'' ⟨hh'', heq'⟩
    exact List.inj_on_of_nodup_map hcustody.nodup hh'' hh' (heq'.trans heq.symm)

/-- **Ownership of RTCD clients.**  As long as the steps of a run do no harm, callbacks
only remove hosts that have their clients, and when no operation is in progress every
client is closed or the client of exactly one host. -/
theorem clientsOwned_of_runs {m₀ : RtcdManager} (h₀ : m₀.Started)
    (hr : machine.Runs Harmless m₀ m) :
    (m.ops = [] → m.Owned) ∧ m.RemovesOwn := by
  have hsound : m.Sound := hr.inv h₀.sound fun _ _ hen hok h => h.step hen hok
  exact ⟨hsound.owned, hsound.steady.removesOwn⟩

/-! ## Runs on fixed actions -/

/-- No host is known. -/
def noHosts : RtcdManager := ⟨.empty, [], [], [], []⟩

theorem noHosts_started : noHosts.Started := by
  refine ⟨rfl, rfl, List.nodup_nil, ?_, ?_⟩
  · intro client
    constructor
    · intro hclient
      exact absurd hclient (Nat.not_lt_zero client)
    · intro h
      obtain hlive | hclosed := h
      · cases hlive
      · cases hclosed
  · intro client hclient
    cases hclient

/-- Alone with its host a client is replaced by its callback. -/
theorem replaced :
    ∃ m : RtcdManager, (m.hosts.rows, m.closed, m.removals) =
      ([⟨"h", 1, false⟩], [0], [(0, 0)]) ∧
      (m.ops = [] ∧ m.Owned) ∧ m.RemovesOwn := by
  have hrun : ∃ m, machine.Runs Harmless noHosts m ∧
      (m.ops, m.hosts.rows, m.closed, m.removals) =
      ([], [⟨"h", 1, false⟩], [0], [(0, 0)]) :=
    Machine.Runs.exists_of_leads (fun _ _ h => of_decide_eq_true h)
      (show (machine.leads (fun m a => decide (m.Harmless a)) noHosts [.missingHost "h",
        .proceed (.creating "h") {}, .proceed (.checking "h" 0) {},
        .proceed (.adding "h" 0) {},
        .reconnect 0 0, .proceed (.looked 0 "h" 0) {}, .proceed (.registering 0 "h") {},
        .proceed (.replacing 0 "h" 1) {}, .proceed (.readding 0 "h" 1) {}]).map
          (fun m => (m.ops, m.hosts.rows, m.closed, m.removals)) = some
            ([], [⟨"h", 1, false⟩], [0], [(0, 0)]) by decide)
  obtain ⟨m, hm, hres⟩ := hrun
  obtain ⟨hops, hrest⟩ := Prod.mk.inj hres
  obtain ⟨howned, hown⟩ := clientsOwned_of_runs noHosts_started hm
  exact ⟨m, hrest, ⟨hops, howned hops⟩, hown⟩

/-- The client of a registration whose last attempt to connect fails is neither kept nor
closed; and a client that calls back before it is added removes that of another. -/
theorem lost_or_foreign :
    (∃ m, machine.Runs Machine.Always noHosts m ∧ m.ops = [] ∧ ¬ m.Owned) ∧
      ∃ m, machine.Runs Machine.Always noHosts m ∧ ¬ m.RemovesOwn := by
  have hrun : ∀ {β : Type} (f : RtcdManager → β) (l : List RtcdAction) (y : β),
      (machine.leads (fun _ _ => true) noHosts l).map f = some y →
        ∃ m, machine.Runs Machine.Always noHosts m ∧ f m = y := fun f l y h =>
    Machine.Runs.exists_of_leads (fun b a _ => (trivial : Machine.Always b a)) h
  obtain ⟨m, hm, hlost⟩ := hrun (fun m => (m.ops, m.clients, m.closed, m.hosts.rows))
    [.missingHost "h", .proceed
      (.creating "h") { connect := false, reconnect := false }]
    ([], ["h"], [], []) (by decide)
  obtain ⟨m', hm', hforeign⟩ := hrun (fun m => m.removals)
    [.missingHost "h", .missingHost "h", .proceed (.creating "h") {},
      .proceed (.creating "h") {},
      .proceed (.checking "h" 0) {}, .proceed (.adding "h" 0) {}, .reconnect 1 0,
      .proceed (.looked 1 "h" 0) {}, .proceed (.registering 1 "h") {},
      .proceed (.replacing 1 "h" 2) {}] [(1, 0)] (by decide)
  refine ⟨⟨m, hm, congrArg Prod.fst hlost, ?_⟩, m', hm', ?_⟩
  · intro howned
    obtain ⟨-, hclients, hclosed, hhosts⟩ : m.ops = [] ∧ m.clients = ["h"] ∧
        m.closed = [] ∧ m.hosts.rows = [] := by simpa using hlost
    have hclient : 0 < m.clients.length := by
      rw [hclients]
      exact Nat.zero_lt_one
    obtain ⟨hin, -⟩ | ⟨-, h, ⟨hmem, -⟩, -⟩ := howned 0 hclient
    · rw [hclosed] at hin
      cases hin
    · have hrow : h ∈ m.hosts.rows := hmem
      rw [hhosts] at hrow
      cases hrow
  · intro hown
    have hmem : ((1, 0) : Nat × Nat) ∈ m'.removals := by
      rw [show m'.removals = [(1, 0)] from hforeign]
      exact List.mem_singleton_self _
    exact absurd (hown _ hmem) (by decide)

end RtcdManager

end CallsPlugin.Ports
