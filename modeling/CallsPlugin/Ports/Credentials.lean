import CallsPlugin.Verified.Upkeep
import Mathlib.Tactic.SplitIfs

/-!
# The credentials of the job service (`server/job_service.go`)

A node that starts the job service takes its credentials from the environment, from the
URL or from the KV store, and generates and stores a key where there is none.  It does
so under a cluster mutex, so that all nodes come to use one stored key.
-/

namespace CallsPlugin.Ports.Credentials

open CallsPlugin.Verified

/-! ## What is given to a node -/

/-- `offloader.ClientConfig` and `rtcd.ClientConfig`, as far as they are filled in
here. -/
structure ClientConfig where
  clientID : String
  authKey : String
  url : String
  deriving DecidableEq, Repr

/-- What `url.Parse` returns: the user info, and the URL without it. -/
structure ParsedURL where
  username : String
  password : String
  withoutUser : String

/-- `parseURL` in `utils.go`, over `url.Parse` -/
def parseURL (parse : String → Except String ParsedURL) (u : String) :
    Except String (String × String × String) :=
  match parse u with
  | .error e => .error ("failed to parse URL: " ++ e)
  | .ok parsed => .ok (parsed.withoutUser, parsed.username, parsed.password)

/-- `strings.TrimSuffix(s, "/")` -/
def trimSlash (s : String) : String :=
  if s.toList.getLast? = some '/' then String.ofList s.toList.dropLast else s

/-- The version library. -/
structure Semver where
  Version : Type
  newVersion : String → Except String Version
  compare : Version → Version → Int

/-- `checkMinVersion` in `utils.go` -/
def checkMinVersion (lib : Semver) (minVersion currVersion : String) :
    Except String Unit :=
  match lib.newVersion minVersion with
  | .error e => .error ("failed to parse minVersion: " ++ e)
  | .ok minV =>
      match lib.newVersion currVersion with
      | .error e => .error ("failed to parse currVersion: " ++ e)
      | .ok currV =>
          if lib.compare currV minV < 0 then
            .error ("current version (" ++ currVersion ++
              ") is lower than minimum supported version (" ++ minVersion ++ ")")
          else .ok ()

/-- Builds that are not checked. -/
def devBuild (buildVersion : String) : Bool :=
  buildVersion = "" || buildVersion = "master" || buildVersion.startsWith "dev"

/-- What a node has to go by: the environment, the service URL of its configuration, the
telemetry id, the version its manifest asks for, and the libraries. -/
structure ServiceNode where
  envClientID : String
  envAuthKey : String
  serviceURL : String
  diagnosticID : String
  minVersion : Option String
  parse : String → Except String ParsedURL
  semver : Semver

/-- The credentials that are given to a node, before the KV store is looked at.  The
credentials in the URL count only if the environment has neither. -/
def ServiceNode.givenConfig (n : ServiceNode) (missing serviceURL : String) :
    Except String ClientConfig :=
  match parseURL n.parse serviceURL with
  | .error e => .error ("failed to parse URL: " ++ e)
  | .ok (u, clientID, authKey) =>
      let fromURL : Bool := n.envClientID = "" && n.envAuthKey = ""
      let clientID := if fromURL then clientID else n.envClientID
      let authKey := if fromURL then authKey else n.envAuthKey
      if u = "" then .error missing
      else
        let clientID := if clientID = "" then n.diagnosticID else clientID
        if clientID = "" then .error "client id is missing"
        else .ok ⟨clientID, authKey, u⟩

/-- The key that is given to a node by its environment or by the URL of its job service,
empty if there is none. -/
def ServiceNode.givenKey (n : ServiceNode) : String :=
  match n.givenConfig "URL is missing" (trimSlash n.serviceURL) with
  | .error _ => ""
  | .ok cfg => cfg.authKey

/-! ## The job service -/

/-- What is in the KV store under the key of a configuration. -/
inductive Data where
  | absent
  | unreadable (err : String)
  | config (cfg : ClientConfig)

/-- The stored key, empty if there is none. -/
def Data.key : Data → String
  | .config cfg => cfg.authKey
  | _ => ""

section Service

variable {T : Type}

/-- The operations of `newJobService`; a client is created by a node. -/
inductive JobOp (T : Type) where
  | kvGet
  | newSecureString
  | kvSet (cfg : ClientConfig)
  | newClient (t : T) (cfg : ClientConfig)
  | getVersionInfo

/-- Their answers. -/
@[reducible] def JobOp.Resp : JobOp T → Type
  | .kvGet => Except String Data
  | .newSecureString => Except String String
  | .kvSet _ => Except String Unit
  | .newClient _ _ => Except String Unit
  | .getVersionInfo => Except String String

/-- Code of the job service. -/
abbrev JobCode (T : Type) := Code (JobOp T) JobOp.Resp

/-- Reading the KV store. -/
def kvGet : JobCode T (Except String Data) := Code.perform JobOp.kvGet

/-- `random.NewSecureString(32)` -/
def newSecureString : JobCode T (Except String String) :=
  Code.perform JobOp.newSecureString

/-- Saving the credentials. -/
def kvSet (cfg : ClientConfig) : JobCode T (Except String Unit) :=
  Code.perform (JobOp.kvSet cfg)

/-- `offloader.NewClient` -/
def newClient (t : T) (cfg : ClientConfig) : JobCode T (Except String Unit) :=
  Code.perform (JobOp.newClient t cfg)

/-- `client.GetVersionInfo` -/
def getVersionInfo : JobCode T (Except String String) :=
  Code.perform JobOp.getVersionInfo

/-- `getStoredJobServiceClientConfig` -/
def getStoredJobServiceClientConfig : JobCode T (Except String ClientConfig) := do
  match ← kvGet with
  | .error e => return .error ("failed to get job service client config: " ++ e)
  | .ok .absent => return .ok ⟨"", "", ""⟩
  | .ok (.unreadable e) =>
      return .error ("failed to unmarshal job service client config: " ++ e)
  | .ok (.config cfg) => return .ok cfg

/-- The key that goes with a configuration: the stored one, or a new one. -/
def storedOrNewKey (storedKey : String) : JobCode T (Except String String) :=
  if storedKey ≠ "" then return .ok storedKey
  else do
    match ← newSecureString with
    | .error e => return .error ("failed to generate auth key: " ++ e)
    | .ok key => return .ok key

/-- What is left of `getJobServiceClientConfig` when the stored configuration is
another. -/
def saveConfig (cfg stored : ClientConfig) :
    JobCode T (Except String ClientConfig) := do
  match ← storedOrNewKey stored.authKey with
  | .error e => return .error e
  | .ok key =>
      match ← kvSet { cfg with authKey := key } with
      | .error e => return .error ("failed to store job service client config: " ++ e)
      | .ok _ => return .ok { cfg with authKey := key }

/-- `getJobServiceClientConfig` -/
def getJobServiceClientConfig (n : ServiceNode) (serviceURL : String) :
    JobCode T (Except String ClientConfig) :=
  match n.givenConfig "URL is missing" serviceURL with
  | .error e => return .error e
  | .ok cfg =>
      if cfg.authKey ≠ "" then return .ok cfg
      else do
        match ← getStoredJobServiceClientConfig with
        | .error e => return .error ("failed to get job service credentials: " ++ e)
        | .ok stored =>
            if stored.url = cfg.url ∧ stored.clientID = cfg.clientID then
              return .ok stored
            else saveConfig cfg stored

/-- `jobServiceVersionCheck` -/
def jobServiceVersionCheck (n : ServiceNode) : JobCode T (Except String Unit) := do
  match ← getVersionInfo with
  | .error e => return .error ("failed to get job service version info: " ++ e)
  | .ok buildVersion =>
      match n.minVersion with
      | none => return .error "failed to get min_offloader_version from manifest"
      | some minVersion =>
          if devBuild buildVersion then return .ok ()
          else
            match checkMinVersion n.semver minVersion buildVersion with
            | .error e => return .error ("minimum version check failed: " ++ e)
            | .ok _ => return .ok ()

/-- The part of `newJobService` that runs under the mutex. -/
def createJobService (t : T) (n : ServiceNode) (serviceURL : String) :
    JobCode T (Except String ClientConfig) := do
  match ← getJobServiceClientConfig n serviceURL with
  | .error e => return .error ("failed to get job service client config: " ++ e)
  | .ok cfg =>
      match ← newClient t cfg with
      | .error e => return .error ("failed to create client: " ++ e)
      | .ok _ =>
          match ← jobServiceVersionCheck n with
          | .error e => return .error e
          | .ok _ => return .ok cfg

/-- `newJobService` on the node `t`; its mutex is locked for at most ten seconds'
wait. -/
def newJobService (t : T) (n : ServiceNode) :
    Prog (JobOp T) JobOp.Resp (Except String ClientConfig) :=
  if n.serviceURL = "" then .ret (.error "serviceURL should not be empty")
  else .lock fun locked =>
    if locked then do
      let res ← Prog.lift (createJobService t n (trimSlash n.serviceURL))
      .unlock (.ret res)
    else .ret (.error "failed to acquire cluster lock")

end Service

/-! ## Their meaning -/

/-- The KV store, the keys that were ever stored in it, and the clients of the service
that were created, each with its node. -/
structure KV (T : Type) where
  data : Data
  keys : List String
  clients : List (T × ClientConfig)

/-- What decides how an operation ends: the reader's database may be behind, so that
data of the past is read, and a write that fails may have been made. -/
structure JobChoice where
  kvGet : Option (Except String Data)
  key : Except String String
  kvSet : Except String Unit
  setAnyway : Bool
  newClient : Except String Unit
  versionInfo : Except String String

/-- The store with another configuration. -/
def KV.set {T : Type} (w : KV T) (cfg : ClientConfig) : KV T :=
  { w with data := .config cfg, keys := w.keys ++ [cfg.authKey] }

/-- The outcome of an operation. -/
def jobSem {T : Type} (c : JobChoice) (w : KV T) : (o : JobOp T) → o.Resp × KV T
  | .kvGet => (c.kvGet.getD (.ok w.data), w)
  | .newSecureString => (c.key, w)
  | .kvSet cfg => (c.kvSet, if c.kvSet.isOk || c.setAnyway then w.set cfg else w)
  | .newClient t cfg =>
      (c.newClient, if c.newClient.isOk then
        { w with clients := w.clients ++ [(t, cfg)] } else w)
  | .getVersionInfo => (c.versionInfo, w)

/-- The data that is read is the data that is stored, and `random.NewSecureString`
returns no empty string. -/
structure JobChoice.UpToDate (c : JobChoice) : Prop where
  reads : ∀ data, c.kvGet ≠ some (.ok data)
  key : c.key ≠ .ok ""

/-- Nodes that have not begun, with the mutex free; a node that starts the service
several times is several of them. -/
def jobServices {T N : Type} (n : T → ServiceNode) (w : KV T) :
    Sys (JobOp T) JobOp.Resp (KV T) T N where
  world := w
  inner _ := none
  owner := none
  polling _ := false
  code t := newJobService t (n t) >>= fun _ => .ret PUnit.unit

/-- All that is read is up to date. -/
def ReadsUpToDate {T N : Type} (_ : List (Event T JobChoice))
    (_ : Sys (JobOp T) JobOp.Resp (KV T) T N) (_ : T) (a : Act JobChoice) : Prop :=
  ∀ c, a = .op c → c.UpToDate

/-! ## One stored key -/

section Agreement

variable {T : Type} {n : T → ServiceNode} {w : KV T} {t : T}

/-- The key a client of the node has to have: the one that is given to the node, or the
stored one where none is. -/
def KV.keyOf (n : T → ServiceNode) (w : KV T) (t : T) : String :=
  if (n t).givenKey = "" then w.data.key else (n t).givenKey

/-- A configuration that is stored has a key, and no other was stored before. -/
structure KV.Sound (w : KV T) : Prop where
  key : ∀ cfg, w.data = .config cfg → cfg.authKey ≠ ""
  keys : ∀ key, key ∈ w.keys ↔ key ≠ "" ∧ key = w.data.key

/-- The clients have the keys of their nodes. -/
structure KV.Agreed (n : T → ServiceNode) (w : KV T) : Prop extends w.Sound where
  clients : ∀ x ∈ w.clients, x.2.authKey ≠ "" ∧ x.2.authKey = w.keyOf n x.1

/-- What is asked of the operations under the mutex: a key that is stored is not
replaced by another. -/
def jobPre (n : T → ServiceNode) (w : KV T) : JobOp T → Prop
  | .kvSet cfg => cfg.authKey ≠ "" ∧ (w.data.key = "" ∨ w.data.key = cfg.authKey)
  | .newClient t cfg => cfg.authKey ≠ "" ∧ cfg.authKey = w.keyOf n t
  | _ => True

/-- The mutex guards the stored key. -/
def jobLogic (n : T → ServiceNode) : Logic (JobOp T) JobOp.Resp (KV T) JobChoice where
  sem := jobSem
  allow _ c _ _ := c.UpToDate
  pre := jobPre n
  inv := KV.Agreed n
  lockMayFail := True
  stray := False

/-- A key that there is none of yet, or the same once more. -/
theorem KV.Agreed.set {cfg : ClientConfig} (h : w.Agreed n) (hkey : cfg.authKey ≠ "")
    (hsame : w.data.key = "" ∨ w.data.key = cfg.authKey) : (w.set cfg).Agreed n := by
  refine ⟨⟨fun cfg' hcfg' => ?_, fun key => ?_⟩, fun x hx => ?_⟩
  · cases hcfg'
    exact hkey
  · have hkeys : key ∈ (w.set cfg).keys ↔ key ∈ w.keys ∨ key = cfg.authKey := by
      simp [KV.set]
    rw [hkeys, h.keys]
    show _ ↔ key ≠ "" ∧ key = cfg.authKey
    grind
  · obtain ⟨hne, hor⟩ := h.clients x hx
    refine ⟨hne, hor.trans ?_⟩
    unfold KV.keyOf at hor ⊢
    split
    next hgiven =>
      -- the client has the stored key, so that there is one
      rw [if_pos hgiven] at hor
      exact hsame.resolve_left (hor ▸ hne)
    next => rfl

theorem KV.Agreed.op {c : JobChoice} {o : JobOp T} (h : w.Agreed n)
    (hpre : jobPre n w o) :
    (jobSem c w o).2.Agreed n := by
  cases o with
  | kvSet cfg =>
      simp only [jobSem]
      split
      · exact h.set hpre.1 hpre.2
      · exact h
  | newClient t cfg =>
      simp only [jobSem]
      split
      · refine ⟨⟨h.key, h.keys⟩, fun x hx => ?_⟩
        rcases List.mem_append.1 hx with hold | hnew
        · exact h.clients x hold
        · rw [List.mem_singleton.1 hnew]
          exact hpre
      · exact h
  | kvGet => exact h
  | newSecureString => exact h
  | getVersionInfo => exact h

/-- What the code of the node knows when it has a configuration. -/
def HasConfig (n : T → ServiceNode) (t : T) (r : Except String ClientConfig)
    (w : KV T) : Prop :=
  w.Agreed n ∧ ∀ cfg, r = .ok cfg → cfg.authKey ≠ "" ∧ cfg.authKey = w.keyOf n t

theorem HasConfig.error {e : String} (h : w.Agreed n) : HasConfig n t (.error e) w :=
  ⟨h, fun cfg hcfg => by cases hcfg⟩

/-- Reading what is stored. -/
theorem getStored_wp {Q : Except String ClientConfig → KV T → Prop}
    (herror : ∀ e, Q (.error e) w) (habsent : w.data.key = "" → Q (.ok ⟨"", "", ""⟩) w)
    (hconfig : ∀ cfg, w.data = .config cfg → Q (.ok cfg) w) :
    getStoredJobServiceClientConfig.wp (jobLogic n) Q w := by
  unfold getStoredJobServiceClientConfig kvGet
  rw [Code.perform_bind, Code.wp_op]
  refine ⟨trivial, fun c hc => ?_⟩
  simp only [jobLogic, jobSem]
  cases hget : c.kvGet with
  | some res =>
      cases res with
      | error e => exact herror _
      | ok data => exact absurd hget (hc.reads data)
  | none =>
      rw [Option.getD_none]
      cases hdata : w.data with
      | absent => exact habsent (by rw [hdata]; rfl)
      | unreadable e => exact herror _
      | config cfg => exact hconfig cfg hdata

/-- A key that is not empty, and that is the stored one if there is one. -/
theorem storedOrNewKey_wp {storedKey : String} {Q : Except String String → KV T → Prop}
    (herror : ∀ e, Q (.error e) w)
    (hkey : ∀ key, key ≠ "" → storedKey = "" ∨ storedKey = key → Q (.ok key) w) :
    (storedOrNewKey storedKey).wp (jobLogic n) Q w := by
  unfold storedOrNewKey newSecureString
  split
  next hne => exact hkey storedKey hne (.inr rfl)
  next hempty =>
    rw [Code.perform_bind, Code.wp_op]
    refine ⟨trivial, fun c hc => ?_⟩
    simp only [jobLogic, jobSem]
    cases hres : c.key with
    | error e => exact herror _
    | ok key =>
        have hne : key ≠ "" := fun h => hc.key (h ▸ hres)
        exact hkey key hne (.inl (not_not.1 hempty))

/-- A configuration that is saved keeps the stored key. -/
theorem saveConfig_wp {cfg stored : ClientConfig} (h : w.Agreed n)
    (hgiven : (n t).givenKey = "") (hstored : w.data.key = stored.authKey) :
    (saveConfig cfg stored).wp (jobLogic n) (HasConfig n t) w := by
  unfold saveConfig kvSet
  rw [Code.wp_bind]
  refine storedOrNewKey_wp (fun e => .error h) fun key hne hsame => ?_
  dsimp only
  rw [Code.perform_bind, Code.wp_op]
  have hpre : jobPre n w (.kvSet { cfg with authKey := key }) := ⟨hne, hstored ▸ hsame⟩
  refine ⟨hpre, fun c _ => ?_⟩
  have hnext := KV.Agreed.op (c := c) h hpre
  simp only [jobLogic, jobSem] at hnext ⊢
  cases hset : c.kvSet with
  | error e =>
      rw [hset] at hnext
      exact .error hnext
  | ok _ =>
      rw [hset] at hnext
      refine ⟨hnext, fun cfg' hcfg' => ?_⟩
      cases hcfg'
      exact ⟨hne, (if_pos hgiven).symm⟩

theorem givenConfig_url {n : ServiceNode} {missing u : String} {cfg : ClientConfig}
    (h : n.givenConfig missing u = .ok cfg) : cfg.url ≠ "" := by
  unfold ServiceNode.givenConfig at h
  cases hparsed : parseURL n.parse u with
  | error e =>
      rw [hparsed] at h
      cases h
  | ok parsed =>
      rw [hparsed] at h
      dsimp only at h
      by_cases hurl : parsed.1 = ""
      · rw [if_pos hurl] at h
        cases h
      · rw [if_neg hurl] at h
        split_ifs at h <;> (cases h; exact hurl)

theorem getJobServiceClientConfig_wp (t : T) (h : w.Agreed n) :
    (getJobServiceClientConfig (n t) (trimSlash (n t).serviceURL)).wp (jobLogic n)
      (HasConfig n t) w := by
  unfold getJobServiceClientConfig
  cases hgiven : (n t).givenConfig "URL is missing" (trimSlash (n t).serviceURL) with
  | error e => exact .error h
  | ok cfg =>
      have hkey : (n t).givenKey = cfg.authKey := by rw [ServiceNode.givenKey, hgiven]
      dsimp only
      split
      next hne =>
        refine ⟨h, fun cfg' hcfg' => ?_⟩
        cases hcfg'
        exact ⟨hne, hkey.symm.trans (if_neg (hkey ▸ hne)).symm⟩
      next hempty =>
        have hnone : (n t).givenKey = "" := hkey.trans (not_not.1 hempty)
        rw [Code.wp_bind]
        refine getStored_wp (fun e => .error h) (fun habsent => ?_)
          fun stored hdata => ?_
        · -- the URL that is asked for is not empty
          have hurl := givenConfig_url hgiven
          dsimp only
          rw [if_neg fun hsame => hurl hsame.1.symm]
          exact saveConfig_wp h hnone habsent
        · have hstored : w.data.key = stored.authKey := by rw [hdata]; rfl
          dsimp only
          split
          · refine ⟨h, fun cfg' hcfg' => ?_⟩
            cases hcfg'
            exact ⟨h.key stored hdata, hstored.symm.trans (if_pos hnone).symm⟩
          · exact saveConfig_wp h hnone hstored

theorem jobServiceVersionCheck_wp {n' : ServiceNode}
    {Q : Except String Unit → KV T → Prop}
    (hQ : ∀ r, Q r w) : (jobServiceVersionCheck n').wp (jobLogic n) Q w := by
  unfold jobServiceVersionCheck getVersionInfo
  rw [Code.perform_bind, Code.wp_op]
  refine ⟨trivial, fun c _ => ?_⟩
  simp only [jobLogic, jobSem]
  repeat' split
  all_goals exact hQ _

theorem createJobService_wp (t : T) (h : w.Agreed n) :
    (createJobService t (n t) (trimSlash (n t).serviceURL)).wp (jobLogic n)
      (fun _ w' => w'.Agreed n) w := by
  unfold createJobService newClient
  rw [Code.wp_bind]
  refine Code.wp_mono (getJobServiceClientConfig_wp t h) fun res w' hres => ?_
  obtain ⟨hw, hcfg⟩ := hres
  cases res with
  | error e => exact hw
  | ok cfg =>
      dsimp only
      rw [Code.perform_bind, Code.wp_op]
      refine ⟨hcfg cfg rfl, fun c _ => ?_⟩
      have hnext := KV.Agreed.op (c := c) hw (o := .newClient t cfg) (hcfg cfg rfl)
      show Code.wp (jobLogic n) _ _ (jobSem c w' (.newClient t cfg)).2
      cases (jobLogic n).sem c w' (.newClient t cfg) |>.1 with
      | error e => exact hnext
      | ok _ =>
          dsimp only
          rw [Code.wp_bind]
          refine jobServiceVersionCheck_wp fun r => ?_
          cases r with
          | error e => exact hnext
          | ok _ => exact hnext

/-- A node keeps to the mutex. -/
theorem newJobService_wp (t : T) : wp (jobLogic n) false
    (newJobService t (n t) >>= fun _ => .ret PUnit.unit)
    (fun h _ _ => h = false) w := by
  rw [wp_bind]
  unfold newJobService
  split
  · exact rfl
  · rw [wp_lock]
    refine ⟨fun w' hw' => ?_, fun _ w' => rfl⟩
    rw [if_pos rfl, wp_bind, wp_lift]
    refine Code.wp_mono (createJobService_wp t hw') fun res w'' hw'' => ?_
    rw [wp_unlock]
    exact ⟨hw'', fun _ => rfl⟩

end Agreement

section Runs

variable {T : Type} [DecidableEq T] {n : T → ServiceNode} {w : KV T}
  {tr : List (Event T JobChoice)} {s : Sys (JobOp T) JobOp.Resp (KV T) T T}

theorem agreed_of_runs (hr : Runs jobSem id ReadsUpToDate (jobServices n w) tr s)
    (hagreed : w.Agreed n) : s.world.Agreed n := by
  refine hr.upkeep (L := jobLogic n)
    (m := fun _ => (jobLogic n).terms) ?_ ?_ ?_ ?_ hagreed ?_ ?_
  · exact .start ⟨fun _ => rfl, rfl, fun _ => rfl⟩ hagreed fun t w' =>
      newJobService_wp t
  · exact fun _ _ _ c _ _ hok _ => hok c rfl
  · exact fun _ _ _ _ => trivial
  · exact fun h => h.elim
  · exact fun _ c w' o h hpre _ => h.op hpre
  · exact fun w' h => h

/-- The keys that were stored are kept on record. -/
theorem keys_of_runs (hr : Runs jobSem id ReadsUpToDate (jobServices n w) tr s) :
    w.keys ⊆ s.world.keys := by
  refine hr.world_rel (R := fun w w' => w.keys ⊆ w'.keys) (fun w => List.Subset.refl _)
    (fun _ _ _ => List.Subset.trans) fun c w o => ?_
  cases o with
  | kvSet cfg =>
      simp only [jobSem]
      split
      · exact List.subset_append_left ..
      · exact List.Subset.refl _
  | newClient t cfg =>
      simp only [jobSem]
      split <;> exact List.Subset.refl _
  | _ => exact List.Subset.refl _

/-- **One key**: in every run of nodes that start the job service, as long as what they
read is up to date, each client is created with a key, which is the one that is given to
its node or else the one that is stored, and no other key was ever stored. -/
theorem jobServices_oneKey (hr : Runs jobSem id ReadsUpToDate (jobServices n w) tr s)
    (hsound : w.Sound) (hnone : w.clients = []) :
    (∀ t cfg, (t, cfg) ∈ s.world.clients → cfg.authKey ≠ "" ∧
      cfg.authKey = if (n t).givenKey = "" then s.world.data.key else (n t).givenKey) ∧
    w.keys ⊆ s.world.keys ∧ ∀ key ∈ s.world.keys, key = s.world.data.key := by
  have hagreed : w.Agreed n := ⟨hsound, fun x hx => by rw [hnone] at hx; cases hx⟩
  have hworld := agreed_of_runs hr hagreed
  exact ⟨fun t cfg hcfg => hworld.clients (t, cfg) hcfg, keys_of_runs hr,
    fun key hkey => ((hworld.keys key).1 hkey).2⟩

end Runs

/-! ## Instances -/

/-- Two nodes, with different URLs. -/
def twoNodes (t : Fin 2) : ServiceNode where
  envClientID := ""
  envAuthKey := ""
  serviceURL := if t = 0 then "http://old/" else "http://new"
  diagnosticID := "telemetry"
  minVersion := some "0.1.0"
  parse u := .ok ⟨"", "", u⟩
  semver := ⟨Unit, fun _ => .ok (), fun _ _ => 0⟩

/-- Everything works, and a key that is generated is this one. -/
def JobChoice.works (key : String) : JobChoice :=
  ⟨none, .ok key, .ok (), false, .ok (), .ok "master"⟩

def checkUpToDate {T : Type} (_ : List (Event T JobChoice))
    (_ : Sys (JobOp T) JobOp.Resp (KV T) T T) (_ : T) : Act JobChoice → Bool
  | .op c => c.kvGet.isNone && (match c.key with
      | .ok key => key ≠ ""
      | .error _ => true)
  | _ => true

theorem readsUpToDate_of_check {T : Type} (tr : List (Event T JobChoice))
    (s : Sys (JobOp T) JobOp.Resp (KV T) T T) (t : T) (a : Act JobChoice)
    (h : checkUpToDate tr s t a = true) : ReadsUpToDate tr s t a := by
  rintro c rfl
  simp only [checkUpToDate, Bool.and_eq_true, Option.isNone_iff_eq_none] at h
  refine ⟨fun data hdata => ?_, fun hkey => ?_⟩
  · rw [h.1] at hdata
    cases hdata
  · have hne := h.2
    rw [hkey] at hne
    simp at hne

/-- Nothing is stored yet. -/
def emptyKV : KV (Fin 2) := ⟨.absent, [], []⟩

/-- The second node keeps the key of the first, with its own URL. -/
theorem jobServices_oneKey_two : ∃ (tr : List (Event (Fin 2) JobChoice))
    (s : Sys (JobOp (Fin 2)) JobOp.Resp (KV (Fin 2)) (Fin 2) (Fin 2)),
    Runs jobSem id ReadsUpToDate (jobServices twoNodes emptyKV) tr s ∧
      s.world.clients = [(0, ⟨"telemetry", "first", "http://old"⟩),
        (1, ⟨"telemetry", "first", "http://new"⟩)] ∧
      ∀ key ∈ s.world.keys, key = s.world.data.key := by
  have hsched : ((jobServices twoNodes emptyKV).sched jobSem id checkUpToDate []
      (inTurn 0 5 (JobChoice.works "first") ++
        inTurn 1 4 (JobChoice.works "second"))).map (fun r => r.2.world.clients) =
      some [(0, ⟨"telemetry", "first", "http://old"⟩),
        (1, ⟨"telemetry", "first", "http://new"⟩)] := by
    decide
  have hempty : emptyKV.Sound := by
    exact ⟨fun cfg h => (nomatch h), fun key => iff_of_false List.not_mem_nil
      fun h => h.1 h.2⟩
  obtain ⟨tr, s, hr, hclients⟩ := Runs.exists_of_sched readsUpToDate_of_check hsched
  exact ⟨tr, s, hr, hclients, (jobServices_oneKey hr hempty rfl).2.2⟩

/-- Reads go to a replica of the database.  A node that reads it too early generates
another key, and the first client is left with one that is stored no more. -/
theorem jobServices_staleRead : ∃ (tr : List (Event (Fin 2) JobChoice))
    (s : Sys (JobOp (Fin 2)) JobOp.Resp (KV (Fin 2)) (Fin 2) (Fin 2)),
    Runs jobSem id (fun _ _ _ _ => True) (jobServices twoNodes emptyKV) tr s ∧
      s.world.clients.map (·.2.authKey) = ["first", "second"] ∧
      s.world.data.key = "second" := by
  have hsched : ((jobServices twoNodes emptyKV).sched jobSem id (fun _ _ _ _ => true) []
      (inTurn 0 5 (JobChoice.works "first") ++
        inTurn 1 5 { JobChoice.works "second" with kvGet := some (.ok .absent) })).map
        (fun r => (r.2.world.clients.map (·.2.authKey), r.2.world.data.key)) =
      some (["first", "second"], "second") := by
    decide
  obtain ⟨tr, s, hr, hworld⟩ := Runs.exists_of_sched (fun _ _ _ _ _ => trivial) hsched
  obtain ⟨hclients, hkey⟩ := Prod.mk.inj hworld
  exact ⟨tr, s, hr, hclients, hkey⟩

end CallsPlugin.Ports.Credentials
