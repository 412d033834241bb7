import CallsPlugin.Verified.Paired
import CallsPlugin.Ports.ConfigHooks

/-!
# What users are told of the configuration (`server/configuration.go`, `server/api.go`)

Everybody may ask for the configuration of the clients and for TURN credentials; the
configuration of the plugin and the overrides are for admins.  Requests and the hooks
that load and replace the configuration run at the same time.  The texts in the
configuration that are or hold a credential are its secrets: what users are told is the
same whatever the secrets are, except for what they are told to log in to TURN servers
with.
-/

namespace CallsPlugin.Ports.Config

open CallsPlugin.Verified
open CallsPlugin.Ports.Environment CallsPlugin.Ports.Licensing

/-! ## ICE servers -/

section Servers

variable (isTURN : ICEServerConfig → Bool)

/-- A TURN server without a login of its own. -/
def needsLogin (cfg : ICEServerConfig) : Bool :=
  isTURN cfg && cfg.username = "" && cfg.credential = ""

/-- `getTURNConfigsForCredentials` -/
def getTURNConfigsForCredentials (cfgs : List ICEServerConfig) : List ICEServerConfig :=
  cfgs.filter (needsLogin isTURN)

/-- `getICEServers` -/
def Configuration.getICEServers (c : Configuration) (forClient : Bool) :
    List ICEServerConfig :=
  (c.clientConfig.iceServersConfigs.filter fun cfg =>
    ¬ (forClient && needsLogin isTURN cfg)) ++
    if c.clientConfig.iceServers = [] then [] else [⟨c.clientConfig.iceServers, "", ""⟩]

end Servers

/-! ## Requests -/

/-- What a user is answered. -/
inductive Answer where
  | client (cfg : ClientConfig)
  | admin (cfg : Configuration)
  | env (overrides : List (FieldPath × String))
  | refused (code : Nat) (err : String)
  | turn (configs : Except String (List ICEServerConfig))

/-- The operations of requests; some of them are reads of the license. -/
inductive RequestOp where
  | hasPermissionToManageSystem (userID : String)
  | getLicense
  | hostControlsAllowed
  | groupCallsAllowed
  | getUsername (userID : String)
  | genTURNConfigs (servers : List ICEServerConfig) (username secret : String)
      (minutes : Int)
  | cloneConfiguration
  | configEnvOverrides
  | answer (userID : String) (a : Answer)

/-- Their answers. -/
@[reducible] def RequestOp.Resp : RequestOp → Type
  | .hasPermissionToManageSystem _ => Bool
  | .getLicense => Option License
  | .hostControlsAllowed => Bool
  | .groupCallsAllowed => Bool
  | .getUsername _ => Except String String
  | .genTURNConfigs .. => Except String (List ICEServerConfig)
  | .cloneConfiguration => Option Configuration
  | .configEnvOverrides => List (FieldPath × String)
  | .answer .. => Unit

/-- Operations of hooks and of requests. -/
abbrev SiteOp := HookOp ⊕ RequestOp

/-- Their answers. -/
abbrev SiteResp : SiteOp → Type := Sum.elim HookOp.Resp RequestOp.Resp

/-- Code of requests. -/
abbrev SiteCode := Code SiteOp SiteResp

/-- One operation of a request. -/
def request (o : RequestOp) : SiteCode o.Resp := Code.perform (Sum.inr o : SiteOp)

/-- `http.Error`, or the text and the code of `res` -/
def refuse (userID : String) (code : Nat) (err : String) : SiteCode Unit :=
  request (.answer userID (.refused code err))

section Handlers

variable (isTURN : ICEServerConfig → Bool)

/-- `getClientConfig` -/
def getClientConfig (c : Configuration) : SiteCode ClientConfig := do
  let license ← request .getLicense
  let hostControlsAllowed ← request .hostControlsAllowed
  let groupCallsAllowed ← request .groupCallsAllowed
  return {
    allowEnableCalls := some true
    defaultEnabled := c.clientConfig.defaultEnabled
    iceServers := c.clientConfig.iceServers
    iceServersConfigs := c.getICEServers isTURN true
    maxCallParticipants := c.clientConfig.maxCallParticipants
    needsTURNCredentials := some (c.turnStaticAuthSecret ≠ "" &&
      getTURNConfigsForCredentials isTURN c.clientConfig.iceServersConfigs ≠ [])
    allowScreenSharing := c.clientConfig.allowScreenSharing
    enableRecordings := c.clientConfig.enableRecordings
    enableTranscriptions := c.clientConfig.enableTranscriptions
    enableLiveCaptions := c.enableLiveCaptions
    maxRecordingDuration := c.clientConfig.maxRecordingDuration
    enableSimulcast := c.clientConfig.enableSimulcast
    enableRinging := c.enableRinging
    skuShortName := license.elim "starter" License.skuShortName
    hostControlsAllowed := hostControlsAllowed
    enableAV1 := c.clientConfig.enableAV1
    groupCallsAllowed := groupCallsAllowed
    enableDCSignaling := c.clientConfig.enableDCSignaling
    enableVideo := c.clientConfig.enableVideo }

/-- `getAdminClientConfig` -/
def getAdminClientConfig (c : Configuration) : SiteCode Configuration := do
  let clone ← request .cloneConfiguration
  let cfg ← (deref clone).inl
  let client ← getClientConfig isTURN c
  return { cfg with clientConfig := client }

/-- `handleConfig` -/
def handleConfig (userID : String) : SiteCode Unit := do
  let isAdmin ← request (.hasPermissionToManageSystem userID)
  let c ← getConfiguration.inl
  if isAdmin = true then
    let cfg ← getAdminClientConfig isTURN c
    request (.answer userID (.admin cfg))
  else
    let cfg ← getClientConfig isTURN c
    request (.answer userID (.client cfg))

/-- `handleEnv` -/
def handleEnv (userID : String) : SiteCode Unit := do
  let isAdmin ← request (.hasPermissionToManageSystem userID)
  if isAdmin = true then
    let overrides ← request .configEnvOverrides
    request (.answer userID (.env overrides))
  else refuse userID 403 "Forbidden"

/-- `handleGetTURNCredentials` -/
def handleGetTURNCredentials (userID : String) : SiteCode Unit := do
  let cfg ← getConfiguration.inl
  if cfg.turnStaticAuthSecret = "" then
    refuse userID 403 "TURNStaticAuthSecret should be set"
  else if getTURNConfigsForCredentials isTURN cfg.clientConfig.iceServersConfigs =
      [] then
    refuse userID 403 "No TURN server was configured"
  else
    match ← request (.getUsername userID) with
    | .error err => refuse userID 500 err
    | .ok username =>
        let minutes ← (deref cfg.turnCredentialsExpirationMinutes).inl
        let configs ← request (.genTURNConfigs
          (getTURNConfigsForCredentials isTURN cfg.clientConfig.iceServersConfigs)
          username cfg.turnStaticAuthSecret minutes)
        request (.answer userID (.turn configs))

end Handlers

/-- A hook, or a request of a user. -/
inductive SiteCall where
  | hook (h : Hook)
  | config (userID : String)
  | env (userID : String)
  | turnCredentials (userID : String)

/-- What is done for it. -/
def SiteCall.code (u : Setup) (isTURN : ICEServerConfig → Bool) :
    SiteCall → SiteCode Unit
  | .hook h => (h.code u).inl
  | .config userID => handleConfig isTURN userID
  | .env userID => handleEnv userID
  | .turnCredentials userID => handleGetTURNCredentials isTURN userID

/-! ## Their meaning -/

/-- What decides how an operation ends. -/
structure SiteChoice where
  hook : HookChoice
  manageSystem : Bool
  license : Option License
  hostControlsAllowed : Bool
  groupCallsAllowed : Bool
  username : Except String String
  genTURNConfigs : List ICEServerConfig → String → String → Int →
    Except String (List ICEServerConfig)

/-- The configuration, and the answers so far. -/
structure SiteWorld where
  config : PluginConfig
  answers : List (String × Answer)

/-- Operations of hooks act on the configuration. -/
def siteHookSem (u : Setup) (c : SiteChoice) (w : SiteWorld) (o : HookOp) :
    o.Resp × SiteWorld :=
  ((hookSem u c.hook w.config o).1,
    { w with config := (hookSem u c.hook w.config o).2 })

/-- The outcome of an operation of a request. -/
def requestSem (c : SiteChoice) (w : SiteWorld) : (o : RequestOp) → o.Resp × SiteWorld
  | .hasPermissionToManageSystem _ => (c.manageSystem, w)
  | .getLicense => (c.license, w)
  | .hostControlsAllowed => (c.hostControlsAllowed, w)
  | .groupCallsAllowed => (c.groupCallsAllowed, w)
  | .getUsername _ => (c.username, w)
  | .genTURNConfigs servers username secret minutes =>
      (c.genTURNConfigs servers username secret minutes, w)
  | .cloneConfiguration => (w.config.active.map Configuration.clone, w)
  | .configEnvOverrides => (w.config.configEnvOverrides, w)
  | .answer userID a => ((), { w with answers := w.answers ++ [(userID, a)] })

/-- The outcome of an operation. -/
def siteSem (u : Setup) : SiteChoice → SiteWorld → (o : SiteOp) →
    SiteResp o × SiteWorld :=
  sumSem (siteHookSem u) requestSem

/-- Calls that have not begun, on a plugin that has loaded nothing. -/
def siteStart (u : Setup) (isTURN : ICEServerConfig → Bool) {T N : Type}
    (calls : T → SiteCall) :
    Sys SiteOp SiteResp SiteWorld T N where
  world := ⟨⟨none, [], [], []⟩, []⟩
  inner _ := none
  owner := none
  polling _ := false
  code t := .lift ((calls t).code u isTURN)

/-! ## Secrets -/

/-- The texts of the configuration that are or hold a credential. -/
structure Secrets where
  turnStaticAuthSecret : String
  transcribeAPIAzureSpeechKey : String
  rtcdServiceURL : String
  jobServiceURL : String

/-- The secrets of a configuration. -/
def Configuration.secrets (c : Configuration) : Secrets where
  turnStaticAuthSecret := c.turnStaticAuthSecret
  transcribeAPIAzureSpeechKey := c.transcribeAPIAzureSpeechKey
  rtcdServiceURL := c.rtcdServiceURL
  jobServiceURL := c.jobServiceURL

/-- The configuration with other secrets. -/
def Configuration.setSecrets (c : Configuration) (x : Secrets) : Configuration :=
  { c with
    turnStaticAuthSecret := x.turnStaticAuthSecret
    transcribeAPIAzureSpeechKey := x.transcribeAPIAzureSpeechKey
    rtcdServiceURL := x.rtcdServiceURL
    jobServiceURL := x.jobServiceURL }

/-- Both texts are blank, or neither is; with and without the spaces around them. -/
structure BlankAlike (s s' : String) : Prop where
  plain : s = "" ↔ s' = ""
  trimmed : trimSpace s = "" ↔ trimSpace s' = ""

/-- Whether TURN has a secret and RTCD a URL is not secret. -/
structure Secrets.Alike (x x' : Secrets) : Prop where
  turn : BlankAlike x.turnStaticAuthSecret x'.turnStaticAuthSecret
  rtcd : BlankAlike x.rtcdServiceURL x'.rtcdServiceURL

/-- The configurations differ in nothing but their secrets. -/
def SameButSecrets (c c' : Configuration) : Prop :=
  ∃ x, c' = c.setSecrets x ∧ c.secrets.Alike x

section Same

variable {c c' : Configuration} {s s' : String}

theorem BlankAlike.refl (s : String) : BlankAlike s s := ⟨Iff.rfl, Iff.rfl⟩

theorem BlankAlike.trimSpace (h : BlankAlike s s') :
    BlankAlike (trimSpace s) (Environment.trimSpace s') := by
  refine ⟨h.trimmed, ?_⟩
  rw [trimSpace_trimSpace, trimSpace_trimSpace]
  exact h.trimmed

theorem BlankAlike.overString (h : BlankAlike s s') (lookupEnv : String → Option String)
    (name : String) : BlankAlike (Configuration.overString lookupEnv name s)
      (Configuration.overString lookupEnv name s') := by
  unfold Configuration.overString Configuration.overField
  split
  · exact h
  · exact .refl _

theorem SameButSecrets.refl (c : Configuration) : SameButSecrets c c :=
  ⟨c.secrets, rfl, .refl _, .refl _⟩

namespace SameButSecrets

theorem setDefaults (h : SameButSecrets c c') (tr : Transcriber) :
    SameButSecrets (c.setDefaults tr) (c'.setDefaults tr) := by
  obtain ⟨x, rfl, hx⟩ := h
  exact ⟨x, rfl, hx⟩

theorem clone (h : SameButSecrets c c') : SameButSecrets c.clone c'.clone := by
  obtain ⟨x, rfl, hx⟩ := h
  exact ⟨x, rfl, hx⟩

theorem withDefaultEnabled (h : SameButSecrets c c') (enabled : Option Bool) :
    SameButSecrets (c.withDefaultEnabled enabled) (c'.withDefaultEnabled enabled) := by
  obtain ⟨x, rfl, hx⟩ := h
  exact ⟨x, rfl, hx⟩

/-- No check reads a secret. -/
theorem isValid (h : SameButSecrets c c') (tr : Transcriber) :
    c'.isValid tr = c.isValid tr := by
  obtain ⟨x, rfl, -⟩ := h
  rfl

theorem applyEnv (h : SameButSecrets c c') (P : Parsers Unit (List ICEServerConfig))
    (lookupEnv : String → Option String) :
    SameButSecrets (c.applyEnv P lookupEnv) (c'.applyEnv P lookupEnv) := by
  obtain ⟨x, rfl, hx⟩ := h
  refine ⟨((c.setSecrets x).applyEnv P lookupEnv).secrets, rfl, ?_⟩
  exact ⟨hx.turn.overString lookupEnv _, hx.rtcd.overString lookupEnv _⟩

theorem trimmed (h : SameButSecrets c c') : SameButSecrets c.trimmed c'.trimmed := by
  obtain ⟨x, rfl, hx⟩ := h
  have hrtcd : BlankAlike (trimSpace c.rtcdServiceURL) (trimSpace x.rtcdServiceURL) :=
    hx.rtcd.trimSpace
  exact ⟨(c.setSecrets x).trimmed.secrets, rfl, hx.turn, hrtcd⟩

theorem allowingCalls (h : SameButSecrets c c') :
    SameButSecrets c.allowingCalls c'.allowingCalls := by
  obtain ⟨x, rfl, hx⟩ := h
  exact ⟨x, rfl, hx⟩

theorem setMaxCallParticipants (h : SameButSecrets c c') (n : Int) :
    Option.Rel SameButSecrets (c.setMaxCallParticipants n)
      (c'.setMaxCallParticipants n) := by
  obtain ⟨x, rfl, hx⟩ := h
  simp only [Configuration.setMaxCallParticipants, Configuration.setSecrets]
  cases c.clientConfig.maxCallParticipants with
  | none => exact .none
  | some m => exact .some ⟨x, rfl, hx⟩

theorem overrideDefaultEnabled (h : SameButSecrets c c') (license : Option License) :
    Option.Rel SameButSecrets (c.overrideDefaultEnabled license)
      (c'.overrideDefaultEnabled license) := by
  obtain ⟨x, rfl, hx⟩ := h
  simp only [Configuration.overrideDefaultEnabled, Configuration.setDefaultEnabled,
    Configuration.setSecrets]
  split
  · cases c.clientConfig.defaultEnabled with
    | none => exact .none
    | some b => exact .some ⟨x, rfl, hx⟩
  · exact .some ⟨x, rfl, hx⟩

theorem overrideMaxParticipants (h : SameButSecrets c c')
    (lookupEnv : String → Option String) (license : Option License) :
    Option.Rel SameButSecrets (c.overrideMaxParticipants lookupEnv license)
      (c'.overrideMaxParticipants lookupEnv license) := by
  unfold Configuration.overrideMaxParticipants
  split
  · exact .some h
  · split
    · split
      · exact h.setMaxCallParticipants _
      · exact .some h
    · split
      · exact h.setMaxCallParticipants _
      · exact .some h

/-- One step after the other. -/
theorem rel_bind {f f' : Configuration → Option Configuration}
    {o o' : Option Configuration} (h : Option.Rel SameButSecrets o o')
    (hf : ∀ c c', SameButSecrets c c' → Option.Rel SameButSecrets (f c) (f' c')) :
    Option.Rel SameButSecrets (o >>= f) (o' >>= f') := by
  cases h with
  | none => exact .none
  | some h => exact hf _ _ h

/-- The overrides. -/
theorem setOverrides (h : SameButSecrets c c') (P : Parsers Unit (List ICEServerConfig))
    (lookupEnv : String → Option String) (ls : Licenses) :
    Option.Rel SameButSecrets (c.setOverrides P lookupEnv ls)
      (c'.setOverrides P lookupEnv ls) := by
  unfold Configuration.setOverrides
  refine rel_bind ((h.applyEnv P lookupEnv).allowingCalls.overrideDefaultEnabled _)
    fun c₁ c₁' h₁ => ?_
  exact rel_bind (h₁.overrideMaxParticipants lookupEnv _) fun c₂ c₂' h₂ =>
    .some h₂.trimmed

end SameButSecrets

end Same

/-! ## Two runs -/

/-- What is loaded differs in nothing but secrets, or is the same error. -/
def LoadedAlike : Except String Configuration → Except String Configuration → Prop
  | .ok c, .ok c' => SameButSecrets c c'
  | .error e, .error e' => e = e'
  | _, _ => False

/-- What is set differs in nothing but secrets. -/
inductive HookOp.Alike : HookOp → HookOp → Prop
  | same (o : HookOp) : Alike o o
  | setConfiguration {c c' : Configuration} (h : SameButSecrets c c') :
      Alike (.setConfiguration c) (.setConfiguration c')

/-- What is read differs in nothing but secrets. -/
def HookOp.answersAlike : (o o' : HookOp) → o.Resp → o'.Resp → Prop
  | .loadPluginConfiguration, .loadPluginConfiguration => LoadedAlike
  | .getLicenses, .getLicenses => Eq
  | .getLicense, .getLicense => Eq
  | .rtcdAllowed, .rtcdAllowed => Eq
  | .putEnvOverrides _, .putEnvOverrides _ => Eq
  | .getConfiguration, .getConfiguration => SameButSecrets
  | .setConfiguration _, .setConfiguration _ => Eq
  | .attempt _, .attempt _ => Eq
  | .nilDereference, .nilDereference => Eq
  | _, _ => fun _ _ => False

/-- Hooks that differ in secrets only. -/
def hookLikeness : Likeness HookOp HookOp.Resp := ⟨HookOp.Alike, HookOp.answersAlike⟩

section Hooks

variable {u : Setup} {c c' : Configuration}

theorem deref_paired {α : Type} [Inhabited α] {R : α → α → Prop}
    (hR : R default default) {o o' : Option α} (h : Option.Rel R o o') :
    (deref o).Paired hookLikeness R (deref o') := by
  cases h with
  | some h => exact h
  | none => exact ⟨.same _, fun _ _ _ => hR⟩

theorem deref_same {α : Type} [Inhabited α] (o : Option α) :
    (deref o).Paired hookLikeness Eq (deref o) := by
  cases o with
  | some a => rfl
  | none => exact ⟨.same _, fun _ _ _ => rfl⟩

theorem attempts_paired (l : List String) :
    (attempts l).Paired hookLikeness Eq (attempts l) := by
  induction l with
  | nil => rfl
  | cons step rest ih =>
      refine Code.Paired.bind (Code.paired_perform (.same (.attempt step))) ?_
      rintro res _ rfl
      cases res with
      | error e => rfl
      | ok _ => exact ih

theorem getConfiguration_paired :
    getConfiguration.Paired hookLikeness SameButSecrets getConfiguration :=
  Code.paired_perform (.same .getConfiguration)

theorem setOverrides_paired (h : SameButSecrets c c') :
    (setOverrides u c).Paired hookLikeness SameButSecrets (setOverrides u c') := by
  unfold Config.setOverrides
  rw [reported_eq, reported_eq]
  refine Code.Paired.bind (Code.paired_perform (.same (.putEnvOverrides _)))
    fun _ _ _ => ?_
  refine Code.Paired.bind (Code.paired_perform (.same .getLicenses)) ?_
  rintro ls _ rfl
  exact deref_paired (.refl _) (h.setOverrides _ _ ls)

theorem setConfiguration_paired (h : SameButSecrets c c') :
    (setConfiguration c).Paired hookLikeness Eq (setConfiguration c') := by
  refine Code.Paired.bind (Code.paired_perform (.setConfiguration h)) ?_
  rintro res _ rfl
  exact deref_same res

theorem loadConfig_paired : (loadConfig u).Paired hookLikeness Eq (loadConfig u) := by
  refine Code.Paired.bind (Code.paired_perform (.same .loadPluginConfiguration))
    fun res res' h => ?_
  cases res with
  | error e =>
      cases res' with
      | error e' => exact congrArg _ (congrArg _ h)
      | ok c' => exact h.elim
  | ok c =>
      cases res' with
      | error e' => exact h.elim
      | ok c' =>
          exact Code.Paired.bind
            (setOverrides_paired (SameButSecrets.setDefaults h u.tr))
            fun _ _ h => setConfiguration_paired h

theorem onConfigurationChange_paired :
    (onConfigurationChange u).Paired hookLikeness Eq (onConfigurationChange u) := by
  refine Code.Paired.bind loadConfig_paired ?_
  rintro res _ rfl
  cases res with
  | error e => rfl
  | ok _ => rfl

theorem enableByDefault_paired (h : SameButSecrets c c') :
    (enableByDefault c).Paired hookLikeness LoadedAlike (enableByDefault c') := by
  refine Code.Paired.bind (Code.paired_perform (.same .getLicense)) ?_
  rintro license _ rfl
  split
  · refine Code.Paired.bind (setConfiguration_paired (h.withDefaultEnabled _)) ?_
    rintro res _ rfl
    cases res with
    | error e => rfl
    | ok _ => exact h.withDefaultEnabled _
  · exact h

theorem getRTCDURL_blank (h : SameButSecrets c c') :
    getRTCDURL u c = "" ↔ getRTCDURL u c' = "" := by
  obtain ⟨x, rfl, hx⟩ := h
  unfold getRTCDURL
  split
  · exact Iff.rfl
  · split
    · exact Iff.rfl
    · exact hx.rtcd.plain

theorem rtcServerConfig_paired (h : SameButSecrets c c') :
    Option.Rel (fun _ _ => True) (rtcServerConfig c) (rtcServerConfig c') := by
  obtain ⟨x, rfl, -⟩ := h
  have hsome : (rtcServerConfig c).isSome =
      (rtcServerConfig (c.setSecrets x)).isSome := by
    simp [rtcServerConfig, Configuration.setSecrets, Option.isSome_bind]
  cases hc : rtcServerConfig c with
  | none =>
      rw [hc, Option.isSome_none] at hsome
      rw [Option.not_isSome_iff_eq_none.1 (Bool.eq_false_iff.1 hsome.symm)]
      exact .none
  | some cfg =>
      rw [hc, Option.isSome_some] at hsome
      obtain ⟨cfg', hcfg'⟩ := Option.isSome_iff_exists.1 hsome.symm
      rw [hcfg']
      exact .some trivial

theorem startServer_paired (h : SameButSecrets c c') :
    (startServer u c).Paired hookLikeness Eq (startServer u c') := by
  refine Code.Paired.bind (Code.paired_perform (.same .rtcdAllowed)) ?_
  rintro allowed _ rfl
  refine Code.paired_ite (and_congr_left' (not_congr (getRTCDURL_blank h)))
    (attempts_paired _) ?_
  exact Code.Paired.bind (deref_paired trivial (rtcServerConfig_paired h))
    fun _ _ _ => attempts_paired _

theorem onActivate_paired : (onActivate u).Paired hookLikeness Eq (onActivate u) := by
  refine Code.Paired.bind (attempts_paired _) ?_
  rintro res _ rfl
  cases res with
  | error e => rfl
  | ok _ =>
  refine Code.Paired.bind getConfiguration_paired fun _ _ _ => ?_
  refine Code.Paired.bind (attempts_paired _) ?_
  rintro res _ rfl
  cases res with
  | error e => rfl
  | ok _ =>
  refine Code.Paired.bind loadConfig_paired ?_
  rintro res _ rfl
  cases res with
  | error e => rfl
  | ok _ =>
  refine Code.Paired.bind getConfiguration_paired fun c c' h => ?_
  rw [h.isValid]
  cases c.isValid u.tr with
  | some e => rfl
  | none =>
  refine Code.Paired.bind (enableByDefault_paired h) fun res res' h' => ?_
  cases res with
  | error e =>
      cases res' with
      | error e' => exact congrArg _ h'
      | ok c' => exact h'.elim
  | ok c =>
      cases res' with
      | error e' => exact h'.elim
      | ok c' =>
          refine Code.Paired.bind (attempts_paired _) ?_
          rintro res _ rfl
          cases res with
          | error e => rfl
          | ok _ => exact startServer_paired h'

theorem Reader.pointers_same (r : Reader) (h : SameButSecrets c c') :
    r.pointers c = r.pointers c' := by
  obtain ⟨x, rfl, hx⟩ := h
  cases r with
  | handleGetTURNCredentials =>
      have hblank : c.turnStaticAuthSecret = "" ↔
          x.turnStaticAuthSecret = "" := hx.turn.plain
      exact if_congr hblank rfl rfl
  | notificationWillBePushed => rfl
  | runRecording => rfl
  | runTranscribing => rfl

theorem Hook.code_paired (h : Hook) :
    (h.code u).Paired hookLikeness (fun _ _ => True) (h.code u) := by
  cases h with
  | onConfigurationChange =>
      exact Code.Paired.bind onConfigurationChange_paired fun _ _ _ => trivial
  | onActivate => exact Code.Paired.bind onActivate_paired fun _ _ _ => trivial
  | reader r =>
      refine Code.Paired.bind getConfiguration_paired fun c c' h => ?_
      rw [r.pointers_same h]
      exact (deref_same _).mono fun _ _ _ => trivial

end Hooks

/-- The answer without secrets, and without what users log in to TURN servers with. -/
def Answer.masked : Answer → Answer
  | .admin cfg => .admin (cfg.setSecrets ⟨"", "", "", ""⟩)
  | .turn _ => .turn (.error "")
  | a => a

/-- What is asked for or answered differs in nothing but secrets. -/
inductive RequestOp.Alike : RequestOp → RequestOp → Prop
  | same (o : RequestOp) : Alike o o
  | genTURNConfigs (servers : List ICEServerConfig) (username secret secret' : String)
      (minutes : Int) : Alike (.genTURNConfigs servers username secret minutes)
        (.genTURNConfigs servers username secret' minutes)
  | answer (userID : String) {a a' : Answer} (h : a.masked = a'.masked) :
      Alike (.answer userID a) (.answer userID a')

/-- What is read differs in nothing but secrets and logins. -/
def RequestOp.answersAlike : (o o' : RequestOp) → o.Resp → o'.Resp → Prop
  | .hasPermissionToManageSystem _, .hasPermissionToManageSystem _ => Eq
  | .getLicense, .getLicense => Eq
  | .hostControlsAllowed, .hostControlsAllowed => Eq
  | .groupCallsAllowed, .groupCallsAllowed => Eq
  | .getUsername _, .getUsername _ => Eq
  | .genTURNConfigs .., .genTURNConfigs .. => fun _ _ => True
  | .cloneConfiguration, .cloneConfiguration => Option.Rel SameButSecrets
  | .configEnvOverrides, .configEnvOverrides => Eq
  | .answer .., .answer .. => Eq
  | _, _ => fun _ _ => False

/-- Requests that differ in secrets only. -/
def requestLikeness : Likeness RequestOp RequestOp.Resp :=
  ⟨RequestOp.Alike, RequestOp.answersAlike⟩

/-- Hooks and requests that differ in secrets only. -/
abbrev siteLikeness : Likeness SiteOp SiteResp := hookLikeness.sum requestLikeness

section Requests

variable {u : Setup} {isTURN : ICEServerConfig → Bool} {c c' : Configuration}
  {userID : String}

theorem request_paired {o o' : RequestOp} (h : o.Alike o') :
    (request o).Paired siteLikeness (o.answersAlike o') (request o') :=
  ⟨h, fun _ _ hr => hr⟩

theorem refuse_paired (code : Nat) (err : String) :
    (refuse userID code err).Paired siteLikeness (fun _ _ => True)
      (refuse userID code err) :=
  (request_paired (.same _)).mono fun _ _ _ => trivial

theorem answer_paired {a a' : Answer} (h : a.masked = a'.masked) :
    (request (.answer userID a)).Paired siteLikeness (fun _ _ => True)
      (request (.answer userID a')) :=
  (request_paired (.answer userID h)).mono fun _ _ _ => trivial

/-- The configuration of the clients has no secret. -/
theorem getClientConfig_paired (h : SameButSecrets c c') :
    (getClientConfig isTURN c).Paired siteLikeness Eq (getClientConfig isTURN c') := by
  obtain ⟨x, rfl, hx⟩ := h
  refine Code.Paired.bind (request_paired (.same .getLicense)) ?_
  rintro license _ rfl
  refine Code.Paired.bind (request_paired (.same .hostControlsAllowed)) ?_
  rintro hostControlsAllowed _ rfl
  refine Code.Paired.bind (request_paired (.same .groupCallsAllowed)) ?_
  rintro groupCallsAllowed _ rfl
  have hblank : decide (c.turnStaticAuthSecret ≠ "") =
      decide (x.turnStaticAuthSecret ≠ "") :=
    decide_eq_decide.2 (not_congr hx.turn.plain)
  simp only [Code.pure_eq, Code.paired_ret, hblank]
  rfl

theorem getAdminClientConfig_paired (h : SameButSecrets c c') :
    (getAdminClientConfig isTURN c).Paired siteLikeness SameButSecrets
      (getAdminClientConfig isTURN c') := by
  refine Code.Paired.bind (request_paired (.same .cloneConfiguration))
    fun clone clone' hclone => ?_
  refine Code.Paired.bind (deref_paired (SameButSecrets.refl _) hclone).inl
    fun cfg cfg' hcfg => ?_
  refine Code.Paired.bind (getClientConfig_paired h) ?_
  rintro client _ rfl
  obtain ⟨x, rfl, hx⟩ := hcfg
  exact ⟨x, rfl, hx⟩

theorem handleConfig_paired :
    (handleConfig isTURN userID).Paired siteLikeness (fun _ _ => True)
    (handleConfig isTURN userID) := by
  refine Code.Paired.bind
    (request_paired (.same (.hasPermissionToManageSystem userID))) ?_
  rintro isAdmin _ rfl
  refine Code.Paired.bind getConfiguration_paired.inl fun c c' h => ?_
  split
  · refine Code.Paired.bind (getAdminClientConfig_paired h) fun cfg cfg' hcfg => ?_
    obtain ⟨x, rfl, -⟩ := hcfg
    exact answer_paired rfl
  · refine Code.Paired.bind (getClientConfig_paired h) ?_
    rintro cfg _ rfl
    exact answer_paired rfl

theorem handleEnv_paired : (handleEnv userID).Paired siteLikeness (fun _ _ => True)
    (handleEnv userID) := by
  refine Code.Paired.bind
    (request_paired (.same (.hasPermissionToManageSystem userID))) ?_
  rintro isAdmin _ rfl
  split
  · refine Code.Paired.bind (request_paired (.same .configEnvOverrides)) ?_
    rintro overrides _ rfl
    exact answer_paired rfl
  · exact refuse_paired _ _

theorem handleGetTURNCredentials_paired :
    (handleGetTURNCredentials isTURN userID).Paired siteLikeness (fun _ _ => True)
      (handleGetTURNCredentials isTURN userID) := by
  refine Code.Paired.bind getConfiguration_paired.inl fun c c' h => ?_
  obtain ⟨x, rfl, hx⟩ := h
  refine Code.paired_ite hx.turn.plain (refuse_paired _ _) ?_
  refine Code.paired_ite Iff.rfl (refuse_paired _ _) ?_
  refine Code.Paired.bind (request_paired (.same (.getUsername userID))) ?_
  rintro username _ rfl
  cases username with
  | error err => exact refuse_paired _ _
  | ok username =>
      refine Code.Paired.bind (deref_same _).inl ?_
      rintro minutes _ rfl
      refine Code.Paired.bind (request_paired (.genTURNConfigs _ _ _ _ _))
        fun _ _ _ => ?_
      exact answer_paired rfl

theorem SiteCall.code_paired (call : SiteCall) :
    (call.code u isTURN).Paired siteLikeness (fun _ _ => True)
      (call.code u isTURN) := by
  cases call with
  | hook h => exact h.code_paired.inl
  | config userID => exact handleConfig_paired
  | env userID => exact handleEnv_paired
  | turnCredentials userID => exact handleGetTURNCredentials_paired

end Requests

/-- Choices that differ in nothing but the secrets that are loaded, and in the
logins. -/
structure SiteChoice.Alike (c c' : SiteChoice) : Prop where
  loaded : LoadedAlike c.hook.loaded c'.hook.loaded
  licenses : c.hook.licenses = c'.hook.licenses
  cloudLicense : c.hook.license = c'.hook.license
  rtcdAllowed : c.hook.rtcdAllowed = c'.hook.rtcdAllowed
  attempt : c.hook.attempt = c'.hook.attempt
  manageSystem : c.manageSystem = c'.manageSystem
  license : c.license = c'.license
  hostControlsAllowed : c.hostControlsAllowed = c'.hostControlsAllowed
  groupCallsAllowed : c.groupCallsAllowed = c'.groupCallsAllowed
  username : c.username = c'.username

/-- The configurations differ in nothing but secrets. -/
structure PluginConfig.Alike (w w' : PluginConfig) : Prop where
  active : Option.Rel SameButSecrets w.active w'.active
  overrides : w.configEnvOverrides = w'.configEnvOverrides

/-- What was answered, without secrets and logins. -/
def SiteWorld.told (w : SiteWorld) : List (String × Answer) :=
  w.answers.map fun entry => (entry.1, entry.2.masked)

section Worlds

variable {u : Setup} {w w' : PluginConfig} {cfg cfg' : Configuration}

theorem rel_none_iff {o o' : Option Configuration}
    (h : Option.Rel SameButSecrets o o') :
    o = none ↔ o' = none := by
  cases h with
  | none => exact Iff.rfl
  | some _ =>
      constructor
      · intro hnone
        cases hnone
      · intro hnone
        cases hnone

theorem acceptConfiguration_alike (h : w.Alike w') (hcfg : SameButSecrets cfg cfg') :
    (acceptConfiguration u w cfg).1 = (acceptConfiguration u w' cfg').1 ∧
      (acceptConfiguration u w cfg).2.Alike (acceptConfiguration u w' cfg').2 := by
  unfold acceptConfiguration
  rw [hcfg.isValid]
  cases cfg.isValid u.tr with
  | some e => exact ⟨rfl, h.active, h.overrides⟩
  | none => exact ⟨rfl, .some hcfg, h.overrides⟩

theorem replaceConfiguration_alike (h : w.Alike w') (hcfg : SameButSecrets cfg cfg')
    (ls : Licenses) :
    (replaceConfiguration u ls w cfg).1 = (replaceConfiguration u ls w' cfg').1 ∧
      (replaceConfiguration u ls w cfg).2.Alike
        (replaceConfiguration u ls w' cfg').2 := by
  have hnone : w.active = none ↔ w'.active = none := rel_none_iff h.active
  unfold replaceConfiguration
  by_cases hw : w.active = none
  · rw [if_pos hw, if_pos (hnone.1 hw)]
    have hreported : u.reported cfg = u.reported cfg' := by
      rw [reported_eq, reported_eq]
    have hset := hcfg.setOverrides u.P u.lookupEnv ls
    generalize cfg.setOverrides u.P u.lookupEnv ls = o at hset ⊢
    generalize cfg'.setOverrides u.P u.lookupEnv ls = o' at hset ⊢
    cases hset with
    | none => exact ⟨rfl, h.active, hreported⟩
    | some hset => exact acceptConfiguration_alike ⟨h.active, hreported⟩ hset
  · rw [if_neg hw, if_neg fun hw' => hw (hnone.2 hw')]
    exact acceptConfiguration_alike h hcfg

theorem readConfiguration_alike (h : w.Alike w') :
    SameButSecrets (readConfiguration u w).1 (readConfiguration u w').1 ∧
      (readConfiguration u w).2.Alike (readConfiguration u w').2 := by
  rcases w with ⟨active, overrides, accepted, refused⟩
  rcases w' with ⟨active', overrides', accepted', refused'⟩
  obtain ⟨hactive, hoverrides⟩ := h
  dsimp only at hactive hoverrides
  unfold readConfiguration
  cases hactive with
  | none => exact ⟨.refl _, .some (.refl _), hoverrides⟩
  | some hcfg => exact ⟨hcfg.clone, .some hcfg, hoverrides⟩

end Worlds

section Step

variable {u : Setup} {c c' : SiteChoice} {w w' : SiteWorld}

/-- Worlds that differ in nothing but secrets and logins. -/
structure SiteWorld.Alike (w w' : SiteWorld) : Prop where
  config : w.config.Alike w'.config
  told : w.told = w'.told

theorem siteHookSem_alike {o o' : HookOp} (hc : c.Alike c') (h : w.Alike w')
    (ho : o.Alike o') :
    o.answersAlike o' (siteHookSem u c w o).1 (siteHookSem u c' w' o').1 ∧
      (siteHookSem u c w o).2.Alike (siteHookSem u c' w' o').2 := by
  cases ho with
  | setConfiguration hcfg =>
      have hset := replaceConfiguration_alike (u := u) h.config hcfg c.hook.licenses
      unfold siteHookSem hookSem
      rw [← hc.licenses]
      exact ⟨hset.1, hset.2, h.told⟩
  | same o =>
      cases o with
      | loadPluginConfiguration => exact ⟨hc.loaded, h⟩
      | getLicenses => exact ⟨hc.licenses, h⟩
      | getLicense => exact ⟨hc.cloudLicense, h⟩
      | rtcdAllowed => exact ⟨hc.rtcdAllowed, h⟩
      | putEnvOverrides overrides => exact ⟨rfl, ⟨h.config.active, rfl⟩, h.told⟩
      | getConfiguration =>
          have hread := readConfiguration_alike (u := u) h.config
          exact ⟨hread.1, hread.2, h.told⟩
      | setConfiguration cfg =>
          have hset :=
            replaceConfiguration_alike (u := u) h.config (.refl cfg) c.hook.licenses
          unfold siteHookSem hookSem
          rw [← hc.licenses]
          exact ⟨hset.1, hset.2, h.told⟩
      | attempt step => exact ⟨hc.attempt, h⟩
      | nilDereference => exact ⟨rfl, h⟩

theorem told_answer {userID : String} {a a' : Answer} (h : w.Alike w')
    (ha : a.masked = a'.masked) :
    SiteWorld.Alike { w with answers := w.answers ++ [(userID, a)] }
      { w' with answers := w'.answers ++ [(userID, a')] } := by
  refine ⟨h.config, ?_⟩
  have htold := h.told
  unfold SiteWorld.told at htold ⊢
  rw [List.map_append, List.map_append, htold, List.map_singleton, List.map_singleton,
    ha]

theorem requestSem_alike {o o' : RequestOp} (hc : c.Alike c') (h : w.Alike w')
    (ho : o.Alike o') :
    o.answersAlike o' (requestSem c w o).1 (requestSem c' w' o').1 ∧
      (requestSem c w o).2.Alike (requestSem c' w' o').2 := by
  cases ho with
  | genTURNConfigs servers username secret secret' minutes => exact ⟨trivial, h⟩
  | answer userID ha => exact ⟨rfl, told_answer h ha⟩
  | same o =>
      cases o with
      | hasPermissionToManageSystem userID => exact ⟨hc.manageSystem, h⟩
      | getLicense => exact ⟨hc.license, h⟩
      | hostControlsAllowed => exact ⟨hc.hostControlsAllowed, h⟩
      | groupCallsAllowed => exact ⟨hc.groupCallsAllowed, h⟩
      | getUsername userID => exact ⟨hc.username, h⟩
      | genTURNConfigs servers username secret minutes => exact ⟨trivial, h⟩
      | cloneConfiguration =>
          refine ⟨?_, h⟩
          have hactive := h.config.active
          show Option.Rel _ (w.config.active.map _) (w'.config.active.map _)
          generalize w.config.active = o at hactive ⊢
          generalize w'.config.active = o' at hactive ⊢
          cases hactive with
          | none => exact .none
          | some hcfg => exact .some hcfg.clone
      | configEnvOverrides => exact ⟨h.config.overrides, h⟩
      | answer userID a => exact ⟨rfl, told_answer h rfl⟩

end Step

/-- Hooks on the configuration. -/
def hookPairing (u : Setup) : Pairing HookOp HookOp.Resp SiteWorld SiteChoice where
  toLikeness := hookLikeness
  sem := siteHookSem u
  worlds := SiteWorld.Alike
  choices := SiteChoice.Alike
  step hc hw ho := siteHookSem_alike hc hw ho

/-- Hooks and requests. -/
def sitePairing (u : Setup) : Pairing SiteOp SiteResp SiteWorld SiteChoice :=
  (hookPairing u).sum requestLikeness requestSem requestSem_alike

/-- The same steps, with choices that differ in nothing but secrets and logins. -/
abbrev SiteEventAlike {T : Type} (u : Setup) :
    Event T SiteChoice → Event T SiteChoice → Prop :=
  Event.Paired (sitePairing u)

/-- **Users are not told the secrets**: whatever hooks and requests run at the same
time, other secrets in the settings that are loaded, and other logins made from them,
lead to a run with the same steps in which everybody is answered the same, except for
the secrets in what admins are shown and for the logins. -/
theorem users_notTold {u : Setup} {isTURN : ICEServerConfig → Bool} {T N : Type}
    [DecidableEq T] [DecidableEq N] {node : T → N} {calls : T → SiteCall}
    {ok : List (Event T SiteChoice) → Sys SiteOp SiteResp SiteWorld T N → T →
      Act SiteChoice → Prop}
    {tr tr' : List (Event T SiteChoice)} {s : Sys SiteOp SiteResp SiteWorld T N}
    (hr : Runs (siteSem u) node ok (siteStart u isTURN calls) tr s)
    (htr : List.Forall₂ (SiteEventAlike u) tr tr') :
    ∃ s', Runs (siteSem u) node (fun _ _ _ _ => True) (siteStart u isTURN calls) tr'
      s' ∧ s'.world.told = s.world.told := by
  have hstart : (siteStart u isTURN calls : Sys SiteOp SiteResp SiteWorld T N).Paired
      (sitePairing u) (siteStart u isTURN calls) :=
    ⟨⟨⟨.none, rfl⟩, rfl⟩, rfl, rfl, rfl, fun t => (calls t).code_paired.lift⟩
  obtain ⟨s', hr', hpaired⟩ := Runs.paired hstart hr htr
  exact ⟨s', hr', hpaired.world.told.symm⟩

/-! ## An instance -/

/-- A text that is not blank, replaced by stars. -/
def disguised (s : String) : String := if trimSpace s = "" then s else "********"

theorem blankAlike_disguised (s : String) : BlankAlike s (disguised s) := by
  unfold disguised
  split
  · exact .refl s
  · next htrim =>
      have hstars : trimSpace "********" ≠ "" := by decide
      refine ⟨iff_of_false ?_ (by decide), iff_of_false htrim hstars⟩
      rintro rfl
      exact htrim (by decide)

/-- The secrets, disguised. -/
def Secrets.disguise (x : Secrets) : Secrets where
  turnStaticAuthSecret := disguised x.turnStaticAuthSecret
  transcribeAPIAzureSpeechKey := disguised x.transcribeAPIAzureSpeechKey
  rtcdServiceURL := disguised x.rtcdServiceURL
  jobServiceURL := disguised x.jobServiceURL

theorem alike_disguise (x : Secrets) : x.Alike x.disguise := by
  constructor
  · dsimp only [Secrets.disguise]
    exact blankAlike_disguised x.turnStaticAuthSecret
  · dsimp only [Secrets.disguise]
    exact blankAlike_disguised x.rtcdServiceURL

/-- The choice with the secrets disguised, and without logins. -/
def SiteChoice.disguise (c : SiteChoice) : SiteChoice :=
  { c with
    hook :=
      { c.hook with
          loaded := c.hook.loaded.map fun cfg => cfg.setSecrets cfg.secrets.disguise }
    genTURNConfigs := fun _ _ _ _ => .ok [] }

theorem disguise_alike (c : SiteChoice) : c.Alike c.disguise := by
  refine ⟨?_, rfl, rfl, rfl, rfl, rfl, rfl, rfl, rfl, rfl⟩
  unfold SiteChoice.disguise
  cases c.hook.loaded with
  | error e => rfl
  | ok cfg => exact ⟨_, rfl, alike_disguise cfg.secrets⟩

/-- The settings are loaded while a user asks for the configuration and for a login. -/
def twoRequests (t : Fin 3) : SiteCall :=
  if t.val = 0 then .hook .onConfigurationChange
  else if t.val = 1 then .config "alice" else .turnCredentials "alice"

/-- The settings have a TURN server and the secret for it. -/
def turnChoice : SiteChoice where
  hook :=
    { cloudChoice with
      loaded := .ok { Configuration.new with
        turnStaticAuthSecret := "secret"
        clientConfig := { ClientConfig.zero with
          iceServersConfigs := [⟨["turn:turn.example.com:3478"], "", ""⟩] } } }
  manageSystem := false
  license := none
  hostControlsAllowed := true
  groupCallsAllowed := true
  username := .ok "alice"
  genTURNConfigs servers username secret _ :=
    .ok (servers.map fun cfg => ⟨cfg.urls, username, username ++ secret⟩)

/-- Whether a user is told that there are logins. -/
def Answer.needsTURNCredentials : Answer → Option Bool
  | .client cfg => cfg.needsTURNCredentials
  | _ => none

theorem users_notTold_turn : ∃ (tr : List (Event (Fin 3) SiteChoice))
    (s s' : Sys SiteOp SiteResp SiteWorld (Fin 3) Unit),
    Runs (siteSem onePort) (fun _ => ()) (fun _ _ _ _ => True)
      (siteStart onePort (fun _ => true) twoRequests) tr s ∧
    Runs (siteSem onePort) (fun _ => ()) (fun _ _ _ _ => True)
      (siteStart onePort (fun _ => true) twoRequests)
      (tr.map (Event.mapChoice SiteChoice.disguise)) s' ∧
    s.world.answers.map (fun entry => (entry.1, entry.2.needsTURNCredentials)) =
      [("alice", some true), ("alice", none)] ∧
    s'.world.told = s.world.told := by
  have hsched : ((siteStart onePort (fun _ => true) twoRequests :
      Sys SiteOp SiteResp SiteWorld (Fin 3) Unit).sched (siteSem onePort) (fun _ => ())
      (fun _ _ _ _ => true) [] (List.replicate 4 (0, .op turnChoice) ++
        List.replicate 6 (1, .op turnChoice) ++
          List.replicate 4 (2, .op turnChoice))).map
        (fun r => r.2.world.answers.map fun entry =>
          (entry.1, entry.2.needsTURNCredentials)) =
      some [("alice", some true), ("alice", none)] := by
    decide +kernel
  obtain ⟨tr, s, hr, hanswers⟩ := Runs.exists_of_sched (fun _ _ _ _ _ => trivial) hsched
  obtain ⟨s', hr', htold⟩ := users_notTold hr (forall₂_mapChoice disguise_alike tr)
  exact ⟨tr, s, s', hr, hr', hanswers, htold⟩

end CallsPlugin.Ports.Config
