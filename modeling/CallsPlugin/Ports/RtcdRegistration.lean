import CallsPlugin.Ports.Credentials

/-!
# Registering with rtcd (`server/rtcd.go`)

A client of an rtcd host reads or generates its key before it takes the cluster mutex,
connects with it under the mutex, and registers and stores it where connecting fails. 
The hosts keep the keys they know in memory, each its own, and forget them when they
restart.

As long as nobody registers a key other than the one that is stored, no client is ever
locked out of a host (`noneLockedOut_of_runs`).  Two nodes that both find no key stored
can register different keys with different hosts.
-/

namespace CallsPlugin.Ports.Rtcd

open CallsPlugin.Verified
open CallsPlugin.Ports.Credentials
    (ClientConfig ServiceNode Data trimSlash devBuild checkMinVersion)

/-! ## The code -/

/-- The operations of a client of rtcd. -/
inductive RtcdOp where
  | kvGet
  | newSecureString
  | newClient (cfg : ClientConfig)
  | connect (host : String) (cfg : ClientConfig)
  | register (host : String) (cfg : ClientConfig)
  | kvSet (cfg : ClientConfig)
  | getVersionInfo (host : String)
  deriving DecidableEq

/-- Their answers. -/
@[reducible] def RtcdOp.Resp : RtcdOp → Type
  | .kvGet => Except String Data
  | .newSecureString => Except String String
  | .newClient _ => Except String Unit
  | .connect _ _ => Except String Unit
  | .register _ _ => Except String Unit
  | .kvSet _ => Except String Unit
  | .getVersionInfo _ => Except String String

/-- Code of a client of rtcd. -/
abbrev RtcdCode := Code RtcdOp RtcdOp.Resp

/-- Such code with the mutex. -/
abbrev RtcdProg := Prog RtcdOp RtcdOp.Resp

def kvGet : RtcdCode (Except String Data) := Code.perform RtcdOp.kvGet

/-- `random.NewSecureString(32)` -/
def newSecureString : RtcdCode (Except String String) :=
  Code.perform RtcdOp.newSecureString

/-- `rtcd.NewClient` -/
def newClient (cfg : ClientConfig) : RtcdCode (Except String Unit) :=
  Code.perform (RtcdOp.newClient cfg)

/-- `client.Connect` -/
def connect (host : String) (cfg : ClientConfig) : RtcdCode (Except String Unit) :=
  Code.perform (RtcdOp.connect host cfg)

/-- `client.Register` -/
def register (host : String) (cfg : ClientConfig) : RtcdCode (Except String Unit) :=
  Code.perform (RtcdOp.register host cfg)

def kvSet (cfg : ClientConfig) : RtcdCode (Except String Unit) :=
  Code.perform (RtcdOp.kvSet cfg)

/-- `client.GetVersionInfo` -/
def getVersionInfo (host : String) : RtcdCode (Except String String) :=
  Code.perform (RtcdOp.getVersionInfo host)

/-- `getStoredRTCDConfig` -/
def getStoredRTCDConfig : RtcdCode (Except String ClientConfig) := do
  match ← kvGet with
  | .error e => return .error ("failed to get rtcd config: " ++ e)
  | .ok .absent => return .ok ⟨"", "", ""⟩
  | .ok (.unreadable e) => return .error ("failed to unmarshal rtcd config: " ++ e)
  | .ok (.config cfg) => return .ok cfg

/-- The configuration with the stored key, or with a new one. -/
def withStoredKey (cfg : ClientConfig) (storedKey : String) :
    RtcdCode (Except String ClientConfig) :=
  if storedKey ≠ "" then return .ok { cfg with authKey := storedKey }
  else do
    match ← newSecureString with
    | .error e => return .error ("failed to generate auth key: " ++ e)
    | .ok key => return .ok { cfg with authKey := key }

/-- `getRTCDClientConfig`, without the jitter of the reconnect interval -/
def getRTCDClientConfig (n : ServiceNode) (rtcdURL : String) :
    RtcdCode (Except String ClientConfig) :=
  match n.givenConfig "rtcd URL is missing" rtcdURL with
  | .error e => return .error e
  | .ok cfg =>
      if cfg.authKey ≠ "" then return .ok cfg
      else do
        match ← getStoredRTCDConfig with
        | .error e => return .error ("failed to get stored rtcd config: " ++ e)
        | .ok stored => withStoredKey cfg stored.authKey

/-- `storeConfig` -/
def storeConfig (cfg : ClientConfig) : RtcdCode (Except String Unit) := do
  match ← kvSet cfg with
  | .error e => return .error ("failed to store rtcd client config: " ++ e)
  | .ok _ => return .ok ()

/-- The part of `registerRTCDClient` that runs under the mutex. -/
def registerUnderMutex (host : String) (cfg : ClientConfig) :
    RtcdCode (Except String Unit) := do
  match ← newClient cfg with
  | .error e => return .error ("failed to create rtcd client: " ++ e)
  | .ok _ =>
      match ← connect host cfg with
      | .ok _ => return .ok ()
      | .error _ =>
          match ← register host cfg with
          | .error e => return .error ("failed to register rtcd client: " ++ e)
          | .ok _ =>
              match ← storeConfig cfg with
              | .error e => return .error e
              | .ok _ => connect host cfg

/-- `registerRTCDClient` -/
def registerRTCDClient (host : String) (cfg : ClientConfig) :
    RtcdProg (Except String Unit) :=
  .lock fun locked =>
    if locked then do
      let res ← Prog.lift (registerUnderMutex host cfg)
      .unlock (.ret res)
    else .ret (.error "failed to acquire cluster lock")

/-- `versionCheck` -/
def versionCheck (n : ServiceNode) (host : String) : RtcdCode (Except String Unit) := do
  match ← getVersionInfo host with
  | .error e => return .error ("failed to get rtcd version info: " ++ e)
  | .ok buildVersion =>
      match n.minVersion with
      | none => return .error "failed to get min_rtcd_version from manifest"
      | some minVersion =>
          if devBuild buildVersion then return .ok ()
          else
            match checkMinVersion n.semver minVersion buildVersion with
            | .error e => return .error ("minimum version check failed: " ++ e)
            | .ok _ => return .ok ()

/-- `newRTCDClient` up to the client it returns, with the configuration that its
reconnect callback keeps. -/
def newRTCDClient (n : ServiceNode) (host : String) :
    RtcdProg (Except String ClientConfig) := do
  match ← Prog.lift (getRTCDClientConfig n (trimSlash n.serviceURL)) with
  | .error e => return .error ("failed to get rtcd client config: " ++ e)
  | .ok cfg =>
      match ← registerRTCDClient host cfg with
      | .error e => return .error e
      | .ok _ =>
          match ← Prog.lift (versionCheck n host) with
          | .error e => return .error ("version compatibility check failed: " ++ e)
          | .ok _ => return .ok cfg

/-- The registrations of the reconnect callback, one for each time the connection is
lost; they go on whether one fails or not. -/
def reconnects (n : ServiceNode) (host : String) (cfg : ClientConfig) :
    Nat → RtcdProg Unit
  | 0 => return ()
  | times + 1 => do
      match ← registerRTCDClient host cfg with
      | .error _ => reconnects n host cfg times
      | .ok _ => do
          let _ ← Prog.lift (versionCheck n host)
          reconnects n host cfg times

/-- The life of a client. -/
def rtcdClient (n : ServiceNode) (host : String) (times : Nat) : RtcdProg Unit := do
  match ← newRTCDClient n host with
  | .error _ => return ()
  | .ok cfg => reconnects n host cfg times

/-! ## Their meaning -/

/-- The KV store, the keys that the hosts know by client, and the hosts and
configurations with which clients connected. -/
structure World where
  data : Data
  keys : String → String → Option String
  clients : List (String × ClientConfig)

/-- What decides how an operation ends: the hosts that have restarted since the last
one, and whether a request or a write that fails was made. -/
structure RtcdChoice where
  restarted : List String
  kvGet : Except String Data
  key : Except String String
  newClient : Except String Unit
  connect : Except String Unit
  register : Except String Unit
  registerAnyway : Bool
  kvSet : Except String Unit
  setAnyway : Bool
  versionInfo : Except String String

/-- The keys that are known after the restarts. -/
def RtcdChoice.keysLeft (c : RtcdChoice) (w : World) (host clientID : String) :
    Option String :=
  if host ∈ c.restarted then none else w.keys host clientID

/-- The request to register reaches the host. -/
def RtcdChoice.registers (c : RtcdChoice) : Bool := c.register.isOk || c.registerAnyway

/-- The configuration is written. -/
def RtcdChoice.sets (c : RtcdChoice) : Bool := c.kvSet.isOk || c.setAnyway

/-- The keys with one more. -/
def withKey (keys : String → String → Option String) (host : String)
    (cfg : ClientConfig) :
    String → String → Option String := fun h id =>
  if h = host ∧ id = cfg.clientID then some cfg.authKey else keys h id

/-- The outcome of an operation. -/
def rtcdSem (c : RtcdChoice) (w : World) : (o : RtcdOp) → o.Resp × World
  | .kvGet => (c.kvGet, w)
  | .newSecureString => (c.key, w)
  | .newClient _ => (c.newClient, w)
  | .connect host cfg =>
      (c.connect, { w with
        keys := c.keysLeft w
        clients := if c.connect.isOk then w.clients ++ [(host, cfg)] else w.clients })
  | .register host cfg =>
      (c.register, { w with
        keys := if c.registers then withKey (c.keysLeft w) host cfg else c.keysLeft w })
  | .kvSet cfg => (c.kvSet, if c.sets then { w with data := .config cfg } else w)
  | .getVersionInfo _ => (c.versionInfo, w)

/-- How rtcd and the libraries answer: a client connects only with the key that the host
knows, a client is registered only where the host knows no key for it, and a key that is
generated is not empty. -/
def RtcdChoice.Documented (c : RtcdChoice) (w : World) : RtcdOp → Prop
  | .connect host cfg =>
      c.connect.isOk = true → c.keysLeft w host cfg.clientID = some cfg.authKey
  | .register host cfg => c.registers = true → c.keysLeft w host cfg.clientID = none
  | .newSecureString => c.key.toOption ≠ some ""
  | _ => True

/-- What is registered is what is stored: no answer of a host and no write is lost, and
no key is registered while another is stored. -/
def RtcdChoice.InOrder (c : RtcdChoice) (w : World) : RtcdOp → Prop
  | .register _ cfg => c.registers = true →
      c.register.isOk = true ∧ (w.data.key = "" ∨ w.data.key = cfg.authKey)
  | .kvSet _ => c.sets = true
  | _ => True

/-- Runs in which this is so. -/
def Orderly {T : Type} (_ : List (Event T RtcdChoice))
    (s : Sys RtcdOp RtcdOp.Resp World T T) (t : T) (a : Act RtcdChoice) : Prop :=
  ∀ c o k, a = .op c → s.code t = .op o k → c.Documented s.world o ∧ c.InOrder s.world o

/-- Clients that have not begun, with the mutex free: of any hosts, on any nodes, and
each may lose its connection any number of times. -/
def rtcdClients {T : Type} (n : T → ServiceNode) (host : T → String)
    (times : T → Nat) (w : World) :
    Sys RtcdOp RtcdOp.Resp World T T where
  world := w
  inner _ := none
  owner := none
  polling _ := false
  code t := rtcdClient (n t) (host t) (times t)

/-! ## Nobody is locked out -/

namespace World

/-- The hosts know the stored key only. -/
def Known (w : World) : Prop :=
  ∀ host id key, w.keys host id = some key → key ≠ "" ∧ w.data.key = key

/-- The hosts know the stored key only, if there is one, and the clients have it. -/
structure Agreed (w : World) : Prop where
  keys : ∀ host id key, w.keys host id = some key → w.data.key = "" ∨ w.data.key = key
  clients : ∀ x ∈ w.clients, x.2.authKey ≠ "" ∧ x.2.authKey = w.data.key

/-- No host knows another key of a client that has connected. -/
def NoneLockedOut (w : World) : Prop :=
  ∀ x ∈ w.clients, ∀ host key, w.keys host x.2.clientID = some key → key = x.2.authKey

theorem Agreed.noneLockedOut {w : World} (h : w.Agreed) : w.NoneLockedOut := by
  intro x hx host key hkey
  obtain ⟨hne, hstored⟩ := h.clients x hx
  rcases h.keys host x.2.clientID key hkey with hempty | hsame
  · exact absurd (hstored.trans hempty) hne
  · exact hsame.symm.trans hstored.symm

end World

section Registration

variable {w : World} {c : RtcdChoice}

theorem keysLeft_eq_some {host id key : String} (h : c.keysLeft w host id = some key) :
    w.keys host id = some key := by
  unfold RtcdChoice.keysLeft at h
  split at h
  · cases h
  · exact h

/-- What is asked of the operations under the mutex. -/
def rtcdPre (w : World) : RtcdOp → Prop
  | .connect _ cfg => cfg.authKey ≠ "" ∧ w.Known
  | .register _ cfg => cfg.authKey ≠ "" ∧ w.Known
  | .kvSet cfg => (w.data.key = "" ∨ w.data.key = cfg.authKey) ∧
      ∀ host id key, w.keys host id = some key → cfg.authKey = key
  | _ => True

/-- The mutex guards the keys of the hosts and the stored one. -/
def rtcdLogic : Logic RtcdOp RtcdOp.Resp World RtcdChoice where
  sem := rtcdSem
  allow _ c w o := c.Documented w o ∧ c.InOrder w o
  pre := rtcdPre
  inv w := w.Agreed ∧ w.Known
  lockMayFail := True
  stray := False

theorem World.Agreed.op {o : RtcdOp} (h : w.Agreed) (hpre : rtcdPre w o)
    (hdoc : c.Documented w o) (horder : c.InOrder w o) : (rtcdSem c w o).2.Agreed := by
  cases o with
  | connect host cfg =>
      obtain ⟨hne, hknown⟩ := hpre
      refine ⟨fun h' id key hkey =>
        .inr (hknown h' id key (keysLeft_eq_some hkey)).2, ?_⟩
      simp only [rtcdSem]
      split
      next hok =>
        intro x hx
        rcases List.mem_append.1 hx with hold | hnew
        · exact h.clients x hold
        · rw [List.mem_singleton.1 hnew]
          exact ⟨hne, (hknown _ _ _ (keysLeft_eq_some (hdoc hok))).2.symm⟩
      next => exact h.clients
  | register host cfg =>
      obtain ⟨-, hknown⟩ := hpre
      refine ⟨fun h' id key hkey => ?_, h.clients⟩
      simp only [rtcdSem] at hkey ⊢
      by_cases hreg : c.registers = true
      · rw [if_pos hreg] at hkey
        unfold withKey at hkey
        split at hkey
        · cases hkey
          exact (horder hreg).2
        · exact .inr (hknown h' id key (keysLeft_eq_some hkey)).2
      · rw [if_neg hreg] at hkey
        exact .inr (hknown h' id key (keysLeft_eq_some hkey)).2
  | kvSet cfg =>
      have hset : c.sets = true := horder
      simp only [rtcdSem, hset, if_true]
      refine ⟨fun h' id key hkey => .inr (hpre.2 h' id key hkey), fun x hx => ?_⟩
      obtain ⟨hne, hstored⟩ := h.clients x hx
      refine ⟨hne, ?_⟩
      rcases hpre.1 with hempty | hsame
      · exact absurd (hstored.trans hempty) hne
      · exact hstored.trans hsame
  | kvGet => exact h
  | newSecureString => exact h
  | newClient cfg => exact h
  | getVersionInfo host => exact h

theorem World.Known.restarts (h : w.Known) {w' : World} (hdata : w'.data = w.data)
    (hkeys : w'.keys = c.keysLeft w) : w'.Known := by
  intro host id key hkey
  rw [hkeys] at hkey
  rw [hdata]
  exact h host id key (keysLeft_eq_some hkey)

/-- After a registration that is made, the key of the configuration is the only one. -/
theorem World.Known.registered {host : String} {cfg : ClientConfig} (h : w.Known)
    (hdata : w.data.key = "" ∨ w.data.key = cfg.authKey) :
    ∀ host' id key, withKey (c.keysLeft w) host cfg host' id = some key →
    cfg.authKey = key := by
  intro host' id key hkey
  unfold withKey at hkey
  split at hkey
  · exact Option.some.inj hkey
  · obtain ⟨hkey', hstored⟩ := h host' id key (keysLeft_eq_some hkey)
    rcases hdata with hempty | hsame
    · exact absurd (hstored.symm.trans hempty) hkey'
    · exact hsame.symm.trans hstored

/-- Connecting to a host. -/
theorem connect_wp {host : String} {cfg : ClientConfig} (hne : cfg.authKey ≠ "")
    (h : w.Agreed ∧ w.Known) :
    (connect host cfg).wp rtcdLogic (fun _ w' => w'.Agreed ∧ w'.Known) w := by
  unfold connect
  rw [Code.wp_perform]
  refine ⟨⟨hne, h.2⟩, fun c hc => ?_⟩
  have hagreed := World.Agreed.op (o := .connect host cfg) h.1 ⟨hne, h.2⟩ hc.1 hc.2
  exact ⟨hagreed, h.2.restarts rfl rfl⟩

/-- Storing the configuration after it was registered. -/
theorem storeConfig_wp {cfg : ClientConfig} (hne : cfg.authKey ≠ "") (h : w.Agreed)
    (hpre : rtcdPre w (.kvSet cfg)) :
    (storeConfig cfg).wp rtcdLogic (fun _ w' => w'.Agreed ∧ w'.Known) w := by
  unfold storeConfig kvSet
  rw [Code.perform_bind, Code.wp_op]
  refine ⟨hpre, fun c hc => ?_⟩
  have hagreed := h.op hpre hc.1 hc.2
  have hset : c.sets = true := hc.2
  have hknown : (rtcdSem c w (.kvSet cfg)).2.Known := by
    simp only [rtcdSem, hset, if_true]
    intro host id key hkey
    have hsame := hpre.2 host id key hkey
    exact ⟨hsame ▸ hne, hsame⟩
  show Code.wp rtcdLogic _ _ (rtcdSem c w (.kvSet cfg)).2
  split
  · exact ⟨hagreed, hknown⟩
  · exact ⟨hagreed, hknown⟩

theorem registerUnderMutex_wp {host : String} {cfg : ClientConfig}
    (hne : cfg.authKey ≠ "") (h : w.Agreed ∧ w.Known) :
    (registerUnderMutex host cfg).wp rtcdLogic
      (fun _ w' => w'.Agreed ∧ w'.Known) w := by
  unfold registerUnderMutex newClient
  rw [Code.perform_bind, Code.wp_op]
  refine ⟨trivial, fun c _ => ?_⟩
  show Code.wp rtcdLogic _ _ w
  split
  · exact h
  · rw [Code.wp_bind]
    refine Code.wp_mono (connect_wp hne h) fun res w₁ hw₁ => ?_
    cases res with
    | ok _ => exact hw₁
    | error _ =>
        dsimp only [register]
        rw [Code.perform_bind, Code.wp_op]
        refine ⟨⟨hne, hw₁.2⟩, fun c hc => ?_⟩
        have hagreed :=
          World.Agreed.op (o := .register host cfg) hw₁.1 ⟨hne, hw₁.2⟩ hc.1 hc.2
        show Code.wp rtcdLogic _ _ (rtcdSem c w₁ (.register host cfg)).2
        generalize hres : (rtcdLogic.sem c w₁ (.register host cfg)).1 = res
        have hres : c.register = res := hres
        cases res with
        | error e =>
            -- the host has not been reached
            have hnot : ¬ c.registers = true := fun hreg => by
              have hok := (hc.2 hreg).1
              rw [hres] at hok
              cases hok
            exact ⟨hagreed, hw₁.2.restarts (c := c) rfl (if_neg hnot)⟩
        | ok _ =>
            have hreg : c.registers = true := by rw [RtcdChoice.registers, hres]; rfl
            have hdata := (hc.2 hreg).2
            have hpre : rtcdPre (rtcdSem c w₁ (.register host cfg)).2 (.kvSet cfg) := by
              refine ⟨hdata, ?_⟩
              simp only [rtcdSem, hreg, if_true]
              exact hw₁.2.registered hdata
            dsimp only
            rw [Code.wp_bind]
            refine Code.wp_mono (storeConfig_wp hne hagreed hpre) fun res w₂ hw₂ => ?_
            cases res with
            | error _ => exact hw₂
            | ok _ => exact connect_wp hne hw₂

theorem registerRTCDClient_wp {host : String} {cfg : ClientConfig}
    (hne : cfg.authKey ≠ "") :
    wp rtcdLogic false (registerRTCDClient host cfg) (fun h _ _ => h = false) w := by
  unfold registerRTCDClient
  rw [wp_lock]
  refine ⟨fun w' hw' => ?_, fun _ w' => rfl⟩
  rw [if_pos rfl, wp_bind, wp_lift]
  refine Code.wp_mono (registerUnderMutex_wp hne hw') fun res w'' hw'' => ?_
  rw [wp_unlock]
  exact ⟨hw'', fun _ => rfl⟩

/-- An operation without the mutex that leaves the world alone. -/
theorem wp_quiet {α : Type} {o : RtcdOp} {k : o.Resp → RtcdCode α}
    {Q : Bool → α → World → Prop} (hquiet : ∀ c w', (rtcdSem c w' o).2 = w')
    (hk : ∀ c w', c.Documented w' o →
      ∀ w, wp rtcdLogic false (.lift (k (rtcdSem c w' o).1)) Q w) :
    wp rtcdLogic false (.lift (.op o k)) Q w := by
  intro h c w' _ hc
  exact ⟨.inl (hquiet c w'), hk c w' hc.1⟩

theorem versionCheck_wp {n : ServiceNode} {host : String} :
    wp rtcdLogic false (.lift (versionCheck n host)) (fun h _ _ => h = false) w := by
  unfold versionCheck getVersionInfo
  rw [Code.perform_bind]
  refine wp_quiet (fun _ _ => rfl) fun c _ _ w => ?_
  simp only [rtcdSem]
  cases c.versionInfo with
  | error e => exact rfl
  | ok buildVersion =>
      dsimp only
      split
      · exact rfl
      · split
        · exact rfl
        · split <;> exact rfl

/-- A configuration that is returned without an error has a key. -/
def HasKey (h : Bool) (res : Except String ClientConfig) (_ : World) : Prop :=
  h = false ∧ ∀ cfg, res = .ok cfg → cfg.authKey ≠ ""

theorem HasKey.error {e : String} : HasKey false (.error e) w :=
  ⟨rfl, fun cfg hcfg => by cases hcfg⟩

theorem HasKey.ok {cfg : ClientConfig} (hne : cfg.authKey ≠ "") :
    HasKey false (.ok cfg) w :=
  ⟨rfl, fun cfg' hcfg' => by cases hcfg'; exact hne⟩

theorem withStoredKey_wp {cfg : ClientConfig} {storedKey : String} :
    wp rtcdLogic false (.lift (withStoredKey cfg storedKey)) HasKey w := by
  unfold withStoredKey newSecureString
  split
  next hne => exact HasKey.ok hne
  next =>
    rw [Code.perform_bind]
    refine wp_quiet (fun _ _ => rfl) fun c w' hc w => ?_
    have hc : c.key.toOption ≠ some "" := hc
    simp only [rtcdSem]
    cases hkey : c.key with
    | error e => exact HasKey.error
    | ok key =>
        refine HasKey.ok fun hempty => hc ?_
        rw [hkey]
        exact congrArg some hempty

theorem getRTCDClientConfig_wp {n : ServiceNode} {u : String} :
    wp rtcdLogic false (.lift (getRTCDClientConfig n u)) HasKey w := by
  unfold getRTCDClientConfig
  split
  · exact HasKey.error
  next cfg _ =>
    split
    next hne => exact HasKey.ok hne
    next =>
      unfold getStoredRTCDConfig kvGet
      rw [Code.bind_assoc, Code.perform_bind]
      refine wp_quiet (fun _ _ => rfl) fun c w' _ w => ?_
      simp only [rtcdSem]
      cases c.kvGet with
      | error e => exact HasKey.error
      | ok data =>
          cases data with
          | absent => exact @withStoredKey_wp w cfg ""
          | unreadable e => exact HasKey.error
          | config stored => exact @withStoredKey_wp w cfg stored.authKey

theorem reconnects_wp {n : ServiceNode} {host : String} {cfg : ClientConfig}
    (hne : cfg.authKey ≠ "") (times : Nat) :
    wp rtcdLogic false (reconnects n host cfg times) (fun h _ _ => h = false) w := by
  induction times generalizing w with
  | zero => exact rfl
  | succ times ih =>
      unfold reconnects
      rw [wp_bind]
      refine wp_mono (registerRTCDClient_wp hne) fun h res w' hfree => ?_
      subst hfree
      cases res with
      | error _ => exact ih
      | ok _ =>
          dsimp only
          rw [wp_bind]
          refine wp_mono versionCheck_wp fun h _ w'' hfree => ?_
          subst hfree
          exact ih

theorem rtcdClient_wp {n : ServiceNode} {host : String} {times : Nat} :
    wp rtcdLogic false (rtcdClient n host times) (fun h _ _ => h = false) w := by
  unfold rtcdClient newRTCDClient
  simp only [wp_bind]
  refine wp_mono getRTCDClientConfig_wp fun h res w' hcfg => ?_
  obtain ⟨rfl, hcfg⟩ := hcfg
  cases res with
  | error _ => exact rfl
  | ok cfg =>
      have hne := hcfg cfg rfl
      dsimp only
      rw [wp_bind]
      refine wp_mono (registerRTCDClient_wp hne) fun h res w'' hfree => ?_
      subst hfree
      cases res with
      | error _ => exact rfl
      | ok _ =>
          dsimp only
          rw [wp_bind]
          refine wp_mono versionCheck_wp fun h res w₃ hfree => ?_
          subst hfree
          cases res with
          | error _ => exact rfl
          | ok _ => exact reconnects_wp hne times

end Registration

section Runs

variable {T : Type} [DecidableEq T] {n : T → ServiceNode} {host : T → String}
  {times : T → Nat} {w : World} {tr : List (Event T RtcdChoice)}
  {s : Sys RtcdOp RtcdOp.Resp World T T}

theorem ok_of_runs (hr : Runs rtcdSem id Orderly (rtcdClients n host times w) tr s)
    (h : w.Agreed ∧ w.Known) :
    s.OkFor rtcdLogic (fun _ => rtcdLogic.terms) id ∧ s.world.Agreed := by
  have hstart : (rtcdClients n host times w).OkFor rtcdLogic
      (fun _ => rtcdLogic.terms) id :=
    .start ⟨fun _ => rfl, rfl, fun _ => rfl⟩ h fun t w' => rtcdClient_wp
  have hop : ∀ (tr : List (Event T RtcdChoice))
      (s : Sys RtcdOp RtcdOp.Resp World T T) t c o k,
      Orderly tr s t (.op c) → s.code t = .op o k →
      rtcdLogic.allow (s.holder t) c s.world o :=
    fun _ _ _ c o k hok hk => hok c o k rfl hk
  constructor
  · exact Runs.monitor (L := rtcdLogic) hr hstart hop (fun _ _ _ _ => trivial)
      fun h => h.elim
  · refine Runs.upkeep (L := rtcdLogic) hr hstart hop (fun _ _ _ _ => trivial)
      (fun h => h.elim) h.1 ?_ ?_
    · exact fun _ c w' o hw' hpre hc => hw'.op hpre hc.1 hc.2
    · exact fun w' hw' => hw'.1

/-- **Nobody is locked out**: in every orderly run of clients of any hosts on any nodes,
which may lose their connections and whose hosts may restart, all clients have the
stored key, and no host knows another one for them. -/
theorem noneLockedOut_of_runs
    (hr : Runs rtcdSem id Orderly (rtcdClients n host times w) tr s) (hknown : w.Known)
    (hnone : w.clients = []) : s.world.NoneLockedOut ∧
      (∀ x ∈ s.world.clients, x.2.authKey = s.world.data.key) ∧
      (s.owner = none → s.world.Known) := by
  have hagreed : w.Agreed := by
    refine ⟨fun h id key hkey => .inr (hknown h id key hkey).2, fun x hx => ?_⟩
    rw [hnone] at hx
    cases hx
  obtain ⟨hok, hworld⟩ := ok_of_runs hr ⟨hagreed, hknown⟩
  refine ⟨hworld.noneLockedOut, fun x hx => (hworld.clients x hx).2, fun hfree => ?_⟩
  exact (hok.free hfree).2

end Runs

/-! ## Instances -/

/-- One installation on two nodes, one for each of two hosts. -/
def oneOfTwo (_ : Fin 2) : ServiceNode where
  envClientID := ""
  envAuthKey := ""
  serviceURL := "http://rtcd:8045"
  diagnosticID := "telemetry"
  minVersion := some "1.0.0"
  parse u := .ok ⟨"", "", u⟩
  semver := ⟨Unit, fun _ => .ok (), fun _ _ => 0⟩

def hostOf (t : Fin 2) : String := if t.val = 0 then "a" else "b"

def startWorld : World := ⟨.absent, fun _ _ => none, []⟩

/-- Everything works; this is stored, and this key is generated. -/
def RtcdChoice.works (data : Data) (key : String) : RtcdChoice where
  restarted := []
  kvGet := .ok data
  key := .ok key
  newClient := .ok ()
  connect := .ok ()
  register := .ok ()
  registerAnyway := false
  kvSet := .ok ()
  setAnyway := false
  versionInfo := .ok "master"

/-- A host does not know the key. -/
def RtcdChoice.unknown (data : Data) (key : String) : RtcdChoice :=
  { works data key with connect := .error "unauthorized" }

instance (c : RtcdChoice) (w : World) (o : RtcdOp) : Decidable (c.Documented w o) := by
  cases o <;> unfold RtcdChoice.Documented <;> infer_instance

instance (c : RtcdChoice) (w : World) (o : RtcdOp) : Decidable (c.InOrder w o) := by
  cases o <;> unfold RtcdChoice.InOrder <;> infer_instance

/-- A check of the operations. -/
def checkOps {T : Type} (good : RtcdChoice → World → RtcdOp → Bool)
    (_ : List (Event T RtcdChoice)) (s : Sys RtcdOp RtcdOp.Resp World T T) (t : T) :
    Act RtcdChoice → Bool
  | .op c =>
      match s.code t with
      | .op o _ => good c s.world o
      | _ => true
  | _ => true

theorem orderly_of_check {T : Type} (tr : List (Event T RtcdChoice))
    (s : Sys RtcdOp RtcdOp.Resp World T T) (t : T) (a : Act RtcdChoice)
    (h : checkOps (fun c w o => decide (c.Documented w o ∧ c.InOrder w o)) tr
      s t a = true) :
    Orderly tr s t a := by
  rintro c o k rfl hk
  simp only [checkOps, hk, decide_eq_true_eq] at h
  exact h

/-- Runs in which rtcd answers as documented, whatever else happens. -/
def AsDocumented {T : Type} (_ : List (Event T RtcdChoice))
    (s : Sys RtcdOp RtcdOp.Resp World T T) (t : T) (a : Act RtcdChoice) : Prop :=
  ∀ c o k, a = .op c → s.code t = .op o k → c.Documented s.world o

theorem documented_of_check {T : Type} (tr : List (Event T RtcdChoice))
    (s : Sys RtcdOp RtcdOp.Resp World T T) (t : T) (a : Act RtcdChoice)
    (h : checkOps (fun c w o => decide (c.Documented w o)) tr s t a = true) :
    AsDocumented tr s t a := by
  rintro c o k rfl hk
  simp only [checkOps, hk, decide_eq_true_eq] at h
  exact h

/-- The first registration of a client, from the read of the stored configuration. -/
def firstRegistration (t : Fin 2) (data : Data) (key : String) (reads : Nat) :
    List (Fin 2 × Act RtcdChoice) :=
  List.replicate reads (t, .op (.works data key)) ++
    [(t, .enter), (t, .acquire), (t, .op (.works data key)),
      (t, .op (.unknown data key)),
      (t, .op (.works data key)), (t, .op (.works data key)),
      (t, .op (.works data key)), (t, .unlock), (t, .op (.works data key))]

theorem noneLockedOut_of_two : ∃ (tr : List (Event (Fin 2) RtcdChoice))
    (s : Sys RtcdOp RtcdOp.Resp World (Fin 2) (Fin 2)),
    Runs rtcdSem id Orderly (rtcdClients oneOfTwo hostOf (fun _ => 0) startWorld) tr s ∧
      s.world.clients.map (fun x => (x.1, x.2.authKey)) =
      [("a", "first"), ("b", "first")] ∧
      s.world.NoneLockedOut := by
  have hsched : ((rtcdClients oneOfTwo hostOf (fun _ => 0) startWorld).sched rtcdSem id
      (checkOps fun c w o => decide (c.Documented w o ∧ c.InOrder w o)) []
      (firstRegistration 0 .absent "first" 2 ++
        firstRegistration 1 (.config ⟨"telemetry", "first", "http://rtcd:8045"⟩)
          "second" 1)).map
        (fun r => r.2.world.clients.map fun x => (x.1, x.2.authKey)) =
      some [("a", "first"), ("b", "first")] := by
    decide
  obtain ⟨tr, s, hr, hclients⟩ := Runs.exists_of_sched orderly_of_check hsched
  refine ⟨tr, s, hr, hclients, (noneLockedOut_of_runs hr ?_ rfl).1⟩
  exact fun host id key hkey => by cases hkey

/-- **The race**: two nodes that both find no key stored register different keys with
different hosts.  The client of the second is locked out of the host of the first. -/
theorem lockedOut_of_race : ∃ (tr : List (Event (Fin 2) RtcdChoice))
    (s : Sys RtcdOp RtcdOp.Resp World (Fin 2) (Fin 2)),
    Runs rtcdSem id AsDocumented (rtcdClients oneOfTwo hostOf (fun _ => 0) startWorld)
      tr s ∧ s.owner = none ∧ ¬ s.world.NoneLockedOut := by
  have hsched : ((rtcdClients oneOfTwo hostOf (fun _ => 0) startWorld).sched rtcdSem id
      (checkOps fun c w o => decide (c.Documented w o)) []
      (List.replicate 2 (0, .op (.works .absent "first")) ++
        firstRegistration 1 .absent "second" 2 ++
          firstRegistration 0 .absent "first" 0)).map
        (fun r => (r.2.owner, r.2.world.clients.head?,
          r.2.world.keys "a" "telemetry")) =
      some (none, some ("b", ⟨"telemetry", "second", "http://rtcd:8045"⟩),
        some "first") := by
    decide
  obtain ⟨tr, s, hr, hworld⟩ := Runs.exists_of_sched documented_of_check hsched
  simp only [Prod.mk.injEq] at hworld
  obtain ⟨hfree, hclient, hkey⟩ := hworld
  refine ⟨tr, s, hr, hfree, fun hnone => ?_⟩
  have hsame := hnone _ (List.mem_of_head? hclient) "a" "first" hkey
  simp at hsame

end CallsPlugin.Ports.Rtcd
