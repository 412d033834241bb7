import CallsPlugin.Verified.Guarantee
import CallsPlugin.Ports.ConfigFields
import CallsPlugin.Ports.ConfigSave

/-!
# The active configuration (`server/configuration.go`, `server/activate.go`)

The hooks of the plugin load, replace and read the active configuration, any number of
them at the same time; each of `getConfiguration` and `setConfiguration` holds the lock
of the configuration throughout.  What is read is always valid and complete, so that no
hook dereferences a nil pointer, and once a configuration was accepted the overrides of
the environment are in all that is read.  Settings that were accepted when they were
saved are never refused when they are loaded, if the environment does no harm.
-/

namespace CallsPlugin.Ports.Config

open CallsPlugin.Verified
open CallsPlugin.Ports.Environment CallsPlugin.Ports.Licensing

/-! ## The hooks -/

/-- What the plugin has of the configuration; what was accepted and refused is kept on
record. -/
structure PluginConfig where
  active : Option Configuration
  configEnvOverrides : List (FieldPath × String)
  accepted : List Configuration
  refused : List Configuration

/-- The operations of the hooks; `attempt` is a step that leaves the configuration
alone, and `nilDereference` brings the plugin down. -/
inductive HookOp where
  | loadPluginConfiguration
  | getLicenses
  | getLicense
  | rtcdAllowed
  | putEnvOverrides (overrides : List (FieldPath × String))
  | getConfiguration
  | setConfiguration (cfg : Configuration)
  | attempt (step : String)
  | nilDereference

/-- Their answers. -/
@[reducible] def HookOp.Resp : HookOp → Type
  | .loadPluginConfiguration => Except String Configuration
  | .getLicenses => Licenses
  | .getLicense => Option License
  | .rtcdAllowed => Bool
  | .putEnvOverrides _ => Unit
  | .getConfiguration => Configuration
  | .setConfiguration _ => Option (Except String Unit)
  | .attempt _ => Except String Unit
  | .nilDereference => Unit

/-- Code of hooks. -/
abbrev HookCode := Code HookOp HookOp.Resp

/-- `p.getConfiguration()` -/
def getConfiguration : HookCode Configuration := Code.perform HookOp.getConfiguration

/-- A step that may fail. -/
def attempt (step : String) : HookCode (Except String Unit) :=
  Code.perform (HookOp.attempt step)

instance : Inhabited Configuration := ⟨.new⟩

/-- A pointer is dereferenced.  The plugin is down if it is nil, and what would follow
does not matter. -/
def deref {α : Type} [Inhabited α] : Option α → HookCode α
  | some a => return a
  | none => do
      let _ ← (Code.perform HookOp.nilDereference : HookCode Unit)
      return default

/-- The parts of the plugin that do not change: the transcriber, the parsers and the
environment. -/
structure Setup where
  tr : Transcriber
  P : Parsers Unit (List ICEServerConfig)
  lookupEnv : String → Option String

variable (u : Setup)

/-- The overrides of `applyEnvOverrides(cfg, "MM_CALLS")` -/
def Setup.reported (cfg : Configuration) : List (FieldPath × String) :=
  (applyEnvOverrides u.P u.lookupEnv "MM_CALLS" cfg.toValue).2

/-- `p.setOverrides(cfg)` -/
def setOverrides (cfg : Configuration) : HookCode Configuration := do
  let _ ← (Code.perform (HookOp.putEnvOverrides (u.reported cfg)) : HookCode Unit)
  let ls ← (Code.perform HookOp.getLicenses : HookCode Licenses)
  deref (cfg.setOverrides u.P u.lookupEnv ls)

/-- `p.setConfiguration(cfg)` -/
def setConfiguration (cfg : Configuration) : HookCode (Except String Unit) := do
  let res ← (Code.perform (HookOp.setConfiguration cfg) :
    HookCode (Option (Except String Unit)))
  deref res

/-- `loadConfig` -/
def loadConfig : HookCode (Except String Unit) := do
  match ← (Code.perform HookOp.loadPluginConfiguration : HookCode
      (Except String Configuration)) with
  | .error e => return .error ("loadConfig: failed to load plugin configuration: " ++ e)
  | .ok cfg =>
      let cfg ← setOverrides u (cfg.setDefaults u.tr)
      setConfiguration cfg

/-- `OnConfigurationChange` -/
def onConfigurationChange : HookCode (Except String Unit) := do
  match ← loadConfig u with
  | .error e => return .error ("OnConfigurationChange: failed to load config: " ++ e)
  | .ok _ => return .ok ()

/-- `rtc.ServerConfig`, as far as pointers are dereferenced for it -/
structure ServerConfig where
  icePortUDP : Int
  icePortTCP : Int
  credentialsExpirationMinutes : Int
  enableIPv6 : Bool
  staticAuthSecret : String
  iceHostPortOverride : String
  deriving Inhabited

/-- The configuration of the RTC server. -/
def rtcServerConfig (cfg : Configuration) : Option ServerConfig := do
  let udpServerPort ← cfg.udpServerPort
  let tcpServerPort ← cfg.tcpServerPort
  let minutes ← cfg.turnCredentialsExpirationMinutes
  let enableIPv6 ← cfg.enableIPv6
  let serverSideTURN ← cfg.serverSideTURN
  return {
    icePortUDP := udpServerPort
    icePortTCP := tcpServerPort
    credentialsExpirationMinutes := minutes
    enableIPv6 := enableIPv6
    staticAuthSecret := if serverSideTURN then cfg.turnStaticAuthSecret else ""
    iceHostPortOverride := cfg.iceHostPortOverride.elim "" toString }

/-- `getRTCDURL` -/
def getRTCDURL (cfg : Configuration) : String :=
  if Configuration.getenv u.lookupEnv "MM_CALLS_RTCD_SERVICE_URL" ≠ "" then
    Configuration.getenv u.lookupEnv "MM_CALLS_RTCD_SERVICE_URL"
  else if Configuration.getenv u.lookupEnv "MM_CALLS_RTCD_URL" ≠ "" then
    Configuration.getenv u.lookupEnv "MM_CALLS_RTCD_URL"
  else cfg.rtcdServiceURL

/-- The steps one after the other, up to one that fails. -/
def attempts : List String → HookCode (Except String Unit)
  | [] => return .ok ()
  | step :: rest => do
      match ← attempt step with
      | .error e => return .error e
      | .ok _ => attempts rest

/-- The part of `OnActivate` that enables calls by default on Cloud installations. -/
def enableByDefault (cfg : Configuration) : HookCode (Except String Configuration) := do
  let license ← (Code.perform HookOp.getLicense : HookCode (Option License))
  if isCloud license then
    match ← setConfiguration (cfg.withDefaultEnabled (some true)) with
    | .error e => return .error ("failed to set configuration: " ++ e)
    | .ok _ => return .ok (cfg.withDefaultEnabled (some true))
  else return .ok cfg

/-- The last part of `OnActivate`: RTCD is used, or an RTC server is started. -/
def startServer (cfg : Configuration) : HookCode (Except String Unit) := do
  let allowed ← (Code.perform HookOp.rtcdAllowed : HookCode Bool)
  if getRTCDURL u cfg ≠ "" ∧ allowed = true then attempts ["newRTCDClientManager"]
  else do
    let _ ← deref (rtcServerConfig cfg)
    attempts ["rtc.NewServer", "rtcServer.Start"]

/-- `OnActivate` -/
def onActivate : HookCode (Except String Unit) := do
  match ← attempts ["GetBundlePath", "TranslationsPreInit", "initDB"] with
  | .error e => return .error e
  | .ok _ =>
      -- `isSingleHandler` reads the configuration before any was loaded
      let _ ← getConfiguration
      match ← attempts ["cleanUpState", "registerCommands", "GetPluginStatus"] with
      | .error e => return .error e
      | .ok _ =>
          match ← loadConfig u with
          | .error e => return .error e
          | .ok _ =>
              let cfg ← getConfiguration
              match cfg.isValid u.tr with
              | some e => return .error e
              | none =>
                  match ← enableByDefault cfg with
                  | .error e => return .error e
                  | .ok cfg =>
                      match ← attempts ["createBotSession"] with
                      | .error e => return .error e
                      | .ok _ => startServer u cfg

/-- The functions that read the configuration and dereference without a check. -/
inductive Reader where
  | notificationWillBePushed
  | handleGetTURNCredentials
  | runRecording
  | runTranscribing

/-- What they dereference: whether there is anything behind the pointers. -/
def Reader.pointers (cfg : Configuration) : Reader → Option Unit
  | .notificationWillBePushed => cfg.enableRinging.map fun _ => ()
  | .handleGetTURNCredentials =>
      if cfg.turnStaticAuthSecret = "" then some ()
      else cfg.turnCredentialsExpirationMinutes.map fun _ => ()
  | .runRecording => cfg.clientConfig.maxRecordingDuration.map fun _ => ()
  | .runTranscribing => do
      let _ ← cfg.liveCaptionsNumTranscribers
      let _ ← cfg.transcriberNumThreads
      let _ ← cfg.liveCaptionsNumThreadsPerTranscriber
      let _ ← cfg.clientConfig.maxRecordingDuration
      return ()

/-- A hook, or a request that reads the configuration. -/
inductive Hook where
  | onConfigurationChange
  | onActivate
  | reader (r : Reader)

/-- What is done for it. -/
def Hook.code : Hook → HookCode Unit
  | .onConfigurationChange => do let _ ← Config.onConfigurationChange u
  | .onActivate => do let _ ← Config.onActivate u
  | .reader r => do
      let cfg ← getConfiguration
      deref (r.pointers cfg)

/-! ## Their meaning -/

/-- What decides how an operation ends: what is loaded, which licenses are read, and
which steps fail. -/
structure HookChoice where
  loaded : Except String Configuration
  licenses : Licenses
  license : Option License
  rtcdAllowed : Bool
  attempt : Except String Unit

/-- A valid configuration replaces the active one. -/
def acceptConfiguration (w : PluginConfig) (cfg : Configuration) :
    Option (Except String Unit) × PluginConfig :=
  match cfg.isValid u.tr with
  | some e =>
      (some (.error ("setConfiguration: configuration is not valid: " ++ e)),
        { w with refused := cfg :: w.refused })
  | none =>
      (some (.ok ()), { w with active := some cfg, accepted := cfg :: w.accepted })

/-- `setConfiguration`, under the lock; the first configuration is overridden here,
whatever was done before. -/
def replaceConfiguration (ls : Licenses) (w : PluginConfig) (cfg : Configuration) :
    Option (Except String Unit) × PluginConfig :=
  if w.active = none then
    match cfg.setOverrides u.P u.lookupEnv ls with
    | none => (none, { w with configEnvOverrides := u.reported cfg })
    | some cfg' =>
        acceptConfiguration u { w with configEnvOverrides := u.reported cfg } cfg'
  else acceptConfiguration u w cfg

/-- `getConfiguration`, under the lock -/
def readConfiguration (w : PluginConfig) : Configuration × PluginConfig :=
  match w.active with
  | some cfg => (cfg.clone, w)
  | none =>
      ((Configuration.new.setDefaults u.tr).clone,
        { w with active := some (Configuration.new.setDefaults u.tr) })

/-- The outcome of an operation. -/
def hookSem (c : HookChoice) (w : PluginConfig) : (o : HookOp) → o.Resp × PluginConfig
  | .loadPluginConfiguration => (c.loaded, w)
  | .getLicenses => (c.licenses, w)
  | .getLicense => (c.license, w)
  | .rtcdAllowed => (c.rtcdAllowed, w)
  | .putEnvOverrides overrides => ((), { w with configEnvOverrides := overrides })
  | .getConfiguration => readConfiguration u w
  | .setConfiguration cfg => replaceConfiguration u c.licenses w cfg
  | .attempt _ => (c.attempt, w)
  | .nilDereference => ((), w)

/-! ## What is kept -/

/-- The overrides are known from then on, and what was accepted stays on record. -/
structure PluginConfig.Later (w w' : PluginConfig) : Prop where
  overrides : w.configEnvOverrides = Config.reported u.P u.lookupEnv →
    w'.configEnvOverrides = Config.reported u.P u.lookupEnv
  accepted : w.accepted ≠ [] → w'.accepted ≠ []

/-- Which choices there are.  In the strict case what is loaded passes the checks, and
the environment does no harm. -/
structure Mode (u : Setup) where
  Choice : Type
  choose : Choice → HookChoice
  strict : Prop
  harmless : strict → Harmless u.lookupEnv
  loads : strict → ∀ c cfg, (choose c).loaded = .ok cfg →
    (cfg.setDefaults u.tr).isValid u.tr = none

variable {u} (m : Mode u)

/-- What is active is complete and valid, and has the overrides of the environment once
one was accepted.  In the strict case none was refused. -/
structure PluginConfig.Sound (w : PluginConfig) : Prop where
  active : ∀ cfg, w.active = some cfg → cfg.Complete ∧ cfg.isValid u.tr = none
  accepted : w.accepted ≠ [] →
    (∃ cfg, w.active = some cfg ∧ cfg.EnvWins u.P u.lookupEnv) ∧
    w.configEnvOverrides = Config.reported u.P u.lookupEnv
  refused : m.strict → w.refused = []

/-- What is asked of the operations. -/
def hookPre (w : PluginConfig) : HookOp → Prop
  | .putEnvOverrides overrides => overrides = Config.reported u.P u.lookupEnv
  | .setConfiguration cfg => cfg.Complete ∧ cfg.EnvWins u.P u.lookupEnv ∧
      w.configEnvOverrides = Config.reported u.P u.lookupEnv ∧
      (m.strict → cfg.isValid u.tr = none)
  | .nilDereference => False
  | _ => True

section Keeps

variable {m} {w w' : PluginConfig} {cfg : Configuration} {ls : Licenses}

theorem reported_eq : u.reported cfg = Config.reported u.P u.lookupEnv := by
  unfold Setup.reported
  rw [applyEnvOverrides_configuration]

/-- The defaults pass the checks. -/
theorem isValid_default (tr : Transcriber) :
    (Configuration.new.setDefaults tr).isValid tr = none :=
  rfl

theorem PluginConfig.Later.refl (w : PluginConfig) : w.Later u w := ⟨id, id⟩

theorem PluginConfig.Later.trans {w'' : PluginConfig} (h : w.Later u w')
    (h' : w'.Later u w'') :
    w.Later u w'' :=
  ⟨h'.overrides ∘ h.overrides, h'.accepted ∘ h.accepted⟩

theorem acceptConfiguration_keeps (h : w.Sound m) (hcomplete : cfg.Complete)
    (hwins : cfg.EnvWins u.P u.lookupEnv)
    (hover : w.configEnvOverrides = Config.reported u.P u.lookupEnv)
    (hvalid : m.strict → cfg.isValid u.tr = none) :
    (acceptConfiguration u w cfg).2.Sound m ∧
    w.Later u (acceptConfiguration u w cfg).2 := by
  unfold acceptConfiguration
  split
  next e he =>
    refine ⟨⟨h.active, h.accepted, fun hstrict => ?_⟩, id, id⟩
    rw [hvalid hstrict] at he
    cases he
  next hvalid =>
    refine ⟨⟨fun cfg' hcfg' => ?_, fun _ => ⟨⟨cfg, rfl, hwins⟩, hover⟩, h.refused⟩,
      fun _ => hover, fun _ => List.cons_ne_nil _ _⟩
    cases hcfg'
    exact ⟨hcomplete, hvalid⟩

theorem replaceConfiguration_keeps (h : w.Sound m) (hcomplete : cfg.Complete)
    (hwins : cfg.EnvWins u.P u.lookupEnv)
    (hover : w.configEnvOverrides = Config.reported u.P u.lookupEnv)
    (hvalid : m.strict → cfg.isValid u.tr = none) :
    (replaceConfiguration u ls w cfg).2.Sound m ∧
      w.Later u (replaceConfiguration u ls w cfg).2 := by
  unfold replaceConfiguration
  split
  next =>
    obtain ⟨cfg', hset, hcomplete'⟩ := hcomplete.setOverrides ls
    -- what is reported is reported again
    have hsame : ({ w with configEnvOverrides := u.reported cfg } : PluginConfig) =
        w := by
      rw [reported_eq, ← hover]
    rw [hset, hsame]
    exact acceptConfiguration_keeps h hcomplete'
      (Configuration.envWins_setOverrides hset) hover
      fun hstrict => Configuration.isValid_setOverrides (m.harmless hstrict)
      (hvalid hstrict) hset
  next => exact acceptConfiguration_keeps h hcomplete hwins hover hvalid

theorem readConfiguration_keeps (h : w.Sound m) :
    (readConfiguration u w).2.Sound m ∧ w.Later u (readConfiguration u w).2 := by
  unfold readConfiguration
  split
  next => exact ⟨h, .refl w⟩
  next hnone =>
    refine ⟨⟨fun cfg' hcfg' => ?_, fun hacc => ?_, h.refused⟩, id, id⟩
    · cases hcfg'
      exact ⟨Configuration.complete_setDefaults _, isValid_default _⟩
    · obtain ⟨⟨cfg', hcfg', -⟩, -⟩ := h.accepted hacc
      rw [hnone] at hcfg'
      cases hcfg'

/-- What is read is complete and valid, and has the overrides once one was accepted. -/
theorem readConfiguration_spec (h : w.Sound m) :
    (readConfiguration u w).1.Complete ∧ (readConfiguration u w).1.isValid u.tr = none ∧
      (w.accepted ≠ [] → (readConfiguration u w).1.EnvWins u.P u.lookupEnv) := by
  unfold readConfiguration
  split
  next cfg hcfg =>
    obtain ⟨hcomplete, hvalid⟩ := h.active cfg hcfg
    refine ⟨hcomplete.clone, hvalid, fun hacc => ?_⟩
    obtain ⟨⟨cfg', hcfg', hwins⟩, -⟩ := h.accepted hacc
    rw [hcfg] at hcfg'
    cases hcfg'
    exact hwins.clone
  next hnone =>
    refine ⟨(Configuration.complete_setDefaults _).clone, isValid_default _,
      fun hacc => ?_⟩
    obtain ⟨⟨cfg', hcfg', -⟩, -⟩ := h.accepted hacc
    rw [hnone] at hcfg'
    cases hcfg'

/-- A complete configuration is accepted or refused. -/
theorem replaceConfiguration_answer (hcomplete : cfg.Complete) :
    ∃ res, (replaceConfiguration u ls w cfg).1 = some res ∧
      (res = .ok () → (replaceConfiguration u ls w cfg).2.accepted ≠ []) := by
  have haccept : ∀ (w : PluginConfig) (cfg : Configuration), ∃ res,
      (acceptConfiguration u w cfg).1 = some res ∧
        (res = .ok () → (acceptConfiguration u w cfg).2.accepted ≠ []) := by
    intro w cfg
    unfold acceptConfiguration
    split
    next => exact ⟨_, rfl, fun h => by cases h⟩
    next => exact ⟨_, rfl, fun _ => List.cons_ne_nil _ _⟩
  unfold replaceConfiguration
  split
  next =>
    obtain ⟨cfg', hset, -⟩ := hcomplete.setOverrides ls
    rw [hset]
    exact haccept _ _
  next => exact haccept _ _

/-- The operations keep the configuration sound. -/
theorem hookSem_keeps (c : m.Choice) (w : PluginConfig) (o : HookOp) (h : w.Sound m)
    (hpre : hookPre m w o) : (hookSem u (m.choose c) w o).2.Sound m ∧
    w.Later u (hookSem u (m.choose c) w o).2 := by
  cases o with
  | putEnvOverrides overrides =>
      exact ⟨⟨h.active, fun hacc => ⟨(h.accepted hacc).1, hpre⟩, h.refused⟩,
        fun _ => hpre, id⟩
  | getConfiguration => exact readConfiguration_keeps h
  | setConfiguration cfg =>
      exact replaceConfiguration_keeps h hpre.1 hpre.2.1 hpre.2.2.1 hpre.2.2.2
  | nilDereference => exact hpre.elim
  | loadPluginConfiguration => exact ⟨h, .refl w⟩
  | getLicenses => exact ⟨h, .refl w⟩
  | getLicense => exact ⟨h, .refl w⟩
  | rtcdAllowed => exact ⟨h, .refl w⟩
  | attempt step => exact ⟨h, .refl w⟩

end Keeps

/-- The configuration among hooks. -/
@[reducible]
def hookGuarantee : Guarantee HookOp HookOp.Resp PluginConfig m.Choice where
  sem c := hookSem u (m.choose c)
  inv := PluginConfig.Sound m
  later := PluginConfig.Later u
  pre := hookPre m
  later_refl := .refl
  later_trans := .trans
  step c w o h hpre := hookSem_keeps c w o h hpre

section Meets

variable {m} {w w' : PluginConfig} {cfg : Configuration} {α : Type}
  {Q : α → PluginConfig → Prop}

/-- The hook does what is asked of it, from `w` on. -/
abbrev HookMeets (m : Mode u) (q : HookCode α) (Q : α → PluginConfig → Prop)
    (w : PluginConfig) :
    Prop :=
  (Prog.lift q).Meets (hookGuarantee m).rely Q w

/-- The world has gone on. -/
structure After (m : Mode u) (w w' : PluginConfig) : Prop where
  sound : w'.Sound m
  later : w.Later u w'

theorem After.trans {w'' : PluginConfig} (h : After m w w') (h' : After m w' w'') :
    After m w w'' :=
  ⟨h'.sound, h.later.trans h'.later⟩

theorem meets_return {a : α} (hw : w.Sound m) (hQ : ∀ w', After m w w' → Q a w') :
    HookMeets m (return a) Q w :=
  Guarantee.meets_ret hw fun w' hlater hinv => hQ w' ⟨hinv, hlater⟩

theorem meets_bind {β : Type} {q : HookCode β} {k : β → HookCode α}
    {R : β → PluginConfig → Prop}
    (h : HookMeets m q R w) (hk : ∀ b w', R b w' → HookMeets m (k b) Q w') :
    HookMeets m (q >>= k) Q w := by
  unfold HookMeets
  rw [Prog.lift_bind]
  exact h.bind hk

/-- An operation of which nothing is asked. -/
theorem meets_perform {o : HookOp} {k : o.Resp → HookCode α} (hw : w.Sound m)
    (ho : ∀ w', hookPre m w' o)
    (hk : ∀ c w₁ w₂, After m w w₁ → After m w₁ w₂ →
      w₂ = (hookSem u (m.choose c) w₁ o).2 →
      HookMeets m (k (hookSem u (m.choose c) w₁ o).1) Q w₂) :
    HookMeets m (Code.perform o >>= k) Q w :=
  Guarantee.meets_op hw (fun w' _ _ => ho w') fun c w' hlater hinv _ _ => by
    obtain ⟨hsound, hnext⟩ := hookSem_keeps c w' o hinv (ho w')
    exact hk c w' _ ⟨hinv, hlater⟩ ⟨hsound, hnext⟩ rfl

/-- Nothing but the world going on is known after the steps. -/
theorem attempts_meets (hw : w.Sound m) (steps : List String) :
    HookMeets m (attempts steps) (fun _ w' => After m w w') w := by
  induction steps generalizing w with
  | nil => exact meets_return hw fun w' h => h
  | cons step rest ih =>
      refine meets_perform hw (fun _ => trivial) fun c w₁ w₂ h₁ h₂ _ => ?_
      cases (hookSem u (m.choose c) w₁ (.attempt step)).1 with
      | error e => exact meets_return h₂.sound fun w' h => (h₁.trans h₂).trans h
      | ok _ =>
          refine (ih h₂.sound).mono fun _ w' h => (h₁.trans h₂).trans h

theorem getConfiguration_meets (hw : w.Sound m) :
    HookMeets m getConfiguration (fun cfg w' => After m w w' ∧ cfg.Complete ∧
      cfg.isValid u.tr = none ∧ (w.accepted ≠ [] → cfg.EnvWins u.P u.lookupEnv)) w := by
  refine meets_perform hw (fun _ => trivial) fun c w₁ w₂ h₁ h₂ _ => ?_
  obtain ⟨hcomplete, hvalid, hwins⟩ := readConfiguration_spec h₁.sound
  exact meets_return h₂.sound fun w' h => ⟨(h₁.trans h₂).trans h, hcomplete, hvalid,
    fun hacc => hwins (h₁.later.accepted hacc)⟩

theorem setOverrides_meets (hw : w.Sound m) (hcomplete : cfg.Complete)
    (hvalid : m.strict → cfg.isValid u.tr = none) :
    HookMeets m (setOverrides u cfg) (fun cfg' w' => After m w w' ∧ cfg'.Complete ∧
      cfg'.EnvWins u.P u.lookupEnv ∧
      w'.configEnvOverrides = Config.reported u.P u.lookupEnv ∧
      (m.strict → cfg'.isValid u.tr = none)) w := by
  refine meets_perform (o := .putEnvOverrides _) hw (fun _ => reported_eq)
    fun c w₁ w₂ h₁ h₂ hw₂ => ?_
  have hover : w₂.configEnvOverrides = Config.reported u.P u.lookupEnv := by
    rw [hw₂]
    exact reported_eq
  refine meets_perform (o := .getLicenses) h₂.sound (fun _ => trivial)
    fun c w₃ w₄ h₃ h₄ _ => ?_
  obtain ⟨cfg', hset, hcomplete'⟩ :=
    hcomplete.setOverrides (P := u.P) (hookSem u (m.choose c) w₃ .getLicenses).1
  rw [hset]
  exact meets_return h₄.sound fun w' h => ⟨((h₁.trans h₂).trans (h₃.trans h₄)).trans h,
    hcomplete', Configuration.envWins_setOverrides hset,
    h.later.overrides (h₄.later.overrides (h₃.later.overrides hover)),
    fun hstrict => Configuration.isValid_setOverrides (m.harmless hstrict)
      (hvalid hstrict) hset⟩

theorem setConfiguration_meets (hw : w.Sound m) (hcomplete : cfg.Complete)
    (hwins : cfg.EnvWins u.P u.lookupEnv)
    (hover : w.configEnvOverrides = Config.reported u.P u.lookupEnv)
    (hvalid : m.strict → cfg.isValid u.tr = none) :
    HookMeets m (setConfiguration cfg)
      (fun res w' => After m w w' ∧ (res = .ok () → w'.accepted ≠ [])) w := by
  refine Guarantee.meets_op (G := hookGuarantee m) hw
    (fun w' hlater _ => ⟨hcomplete, hwins, hlater.overrides hover, hvalid⟩)
    fun c w' hlater hinv hnext hlater' => ?_
  obtain ⟨res, hres, hok⟩ : ∃ res,
      (replaceConfiguration u (m.choose c).licenses w' cfg).1 = some res ∧ _ :=
    replaceConfiguration_answer hcomplete
  show HookMeets m (deref (replaceConfiguration u (m.choose c).licenses w' cfg).1) _ _
  rw [hres]
  exact meets_return hnext fun w'' h =>
    ⟨⟨h.sound, hlater'.trans h.later⟩, fun hres' => h.later.accepted (hok hres')⟩

/-- **Loading** a configuration. -/
theorem loadConfig_meets (hw : w.Sound m) : HookMeets m (loadConfig u)
    (fun res w' => After m w w' ∧ (res = .ok () → w'.accepted ≠ [])) w := by
  refine meets_perform (o := .loadPluginConfiguration) hw (fun _ => trivial)
    fun c w₁ w₂ h₁ h₂ _ => ?_
  simp only [hookSem]
  cases hloaded : (m.choose c).loaded with
  | error e => exact meets_return h₂.sound fun w' h => ⟨(h₁.trans h₂).trans h,
      fun h => by cases h⟩
  | ok cfg =>
      refine meets_bind (setOverrides_meets h₂.sound
        (Configuration.complete_setDefaults cfg)
        fun hstrict => m.loads hstrict c cfg hloaded) fun cfg' w₃ h₃ => ?_
      obtain ⟨h₃, hcomplete, hwins, hover, hvalid⟩ := h₃
      refine (setConfiguration_meets h₃.sound hcomplete hwins hover hvalid).mono
        fun res w' h => ?_
      exact ⟨((h₁.trans h₂).trans h₃).trans h.1, h.2⟩

theorem onConfigurationChange_meets (hw : w.Sound m) :
    HookMeets m (onConfigurationChange u) (fun _ _ => True) w := by
  refine meets_bind (loadConfig_meets hw) fun res w₁ h₁ => ?_
  cases res with
  | error e => exact meets_return h₁.1.sound fun _ _ => trivial
  | ok _ => exact meets_return h₁.1.sound fun _ _ => trivial

theorem enableByDefault_meets (hw : w.Sound m) (hcomplete : cfg.Complete)
    (hwins : cfg.EnvWins u.P u.lookupEnv) (hvalid : cfg.isValid u.tr = none)
    (hacc : w.accepted ≠ []) : HookMeets m (enableByDefault cfg)
      (fun res w' => After m w w' ∧ ∀ cfg', res = .ok cfg' → cfg'.Complete) w := by
  refine meets_perform (o := .getLicense) hw (fun _ => trivial)
    fun c w₁ w₂ h₁ h₂ _ => ?_
  have h₁₂ := h₁.trans h₂
  split
  next =>
    have hover := (h₂.sound.accepted (h₁₂.later.accepted hacc)).2
    refine meets_bind (setConfiguration_meets h₂.sound hcomplete.enabledByDefault
      hwins.enabledByDefault hover fun _ => hvalid) fun res w₃ h₃ => ?_
    cases res with
    | error e =>
        exact meets_return h₃.1.sound fun w' h =>
          ⟨(h₁₂.trans h₃.1).trans h, fun _ h => by cases h⟩
    | ok _ =>
        refine meets_return h₃.1.sound fun w' h =>
          ⟨(h₁₂.trans h₃.1).trans h, fun cfg' h => ?_⟩
        cases h
        exact hcomplete.enabledByDefault
  next =>
    refine meets_return h₂.sound fun w' h => ⟨h₁₂.trans h, fun cfg' h => ?_⟩
    cases h
    exact hcomplete

theorem rtcServerConfig_isSome (hcomplete : cfg.Complete) :
    ∃ c, rtcServerConfig cfg = some c := by
  obtain ⟨udp, hudp⟩ := Option.isSome_iff_exists.1 hcomplete.udpServerPort
  obtain ⟨tcp, htcp⟩ := Option.isSome_iff_exists.1 hcomplete.tcpServerPort
  obtain ⟨minutes, hminutes⟩ :=
    Option.isSome_iff_exists.1 hcomplete.turnCredentialsExpirationMinutes
  obtain ⟨ipv6, hipv6⟩ := Option.isSome_iff_exists.1 hcomplete.enableIPv6
  obtain ⟨turn, hturn⟩ := Option.isSome_iff_exists.1 hcomplete.serverSideTURN
  unfold rtcServerConfig
  rw [hudp, htcp, hminutes, hipv6, hturn]
  exact ⟨_, rfl⟩

theorem startServer_meets (hw : w.Sound m) (hcomplete : cfg.Complete) :
    HookMeets m (startServer u cfg) (fun _ _ => True) w := by
  refine meets_perform (o := .rtcdAllowed) hw (fun _ => trivial)
    fun c w₁ w₂ h₁ h₂ _ => ?_
  split
  next => exact (attempts_meets h₂.sound _).mono fun _ _ _ => trivial
  next =>
    obtain ⟨cfg', hcfg'⟩ := rtcServerConfig_isSome hcomplete
    rw [hcfg']
    exact (attempts_meets h₂.sound _).mono fun _ _ _ => trivial

theorem onActivate_meets (hw : w.Sound m) :
    HookMeets m (onActivate u) (fun _ _ => True) w := by
  refine meets_bind (attempts_meets hw _) fun res w₁ h₁ => ?_
  cases res with
  | error e => exact meets_return h₁.sound fun _ _ => trivial
  | ok _ =>
  refine meets_bind (getConfiguration_meets h₁.sound) fun _ w₂ h₂ => ?_
  refine meets_bind (attempts_meets h₂.1.sound _) fun res w₃ h₃ => ?_
  cases res with
  | error e => exact meets_return h₃.sound fun _ _ => trivial
  | ok _ =>
  refine meets_bind (loadConfig_meets h₃.sound) fun res w₄ h₄ => ?_
  cases res with
  | error e => exact meets_return h₄.1.sound fun _ _ => trivial
  | ok _ =>
  have hacc := h₄.2 rfl
  refine meets_bind (getConfiguration_meets h₄.1.sound) fun cfg w₅ h₅ => ?_
  obtain ⟨h₅, hcomplete, hvalid, hwins⟩ := h₅
  rw [hvalid]
  refine meets_bind (enableByDefault_meets h₅.sound hcomplete (hwins hacc) hvalid
    (h₅.later.accepted hacc)) fun res w₆ h₆ => ?_
  cases res with
  | error e => exact meets_return h₆.1.sound fun _ _ => trivial
  | ok cfg' =>
  refine meets_bind (attempts_meets h₆.1.sound _) fun res w₇ h₇ => ?_
  cases res with
  | error e => exact meets_return h₇.sound fun _ _ => trivial
  | ok _ => exact startServer_meets h₇.sound (h₆.2 cfg' rfl)

theorem Reader.pointers_isSome (hcomplete : cfg.Complete) (r : Reader) :
    r.pointers cfg = some () := by
  obtain ⟨ring, hring⟩ := Option.isSome_iff_exists.1 hcomplete.enableRinging
  obtain ⟨minutes, hminutes⟩ :=
    Option.isSome_iff_exists.1 hcomplete.turnCredentialsExpirationMinutes
  obtain ⟨duration, hduration⟩ :=
    Option.isSome_iff_exists.1 hcomplete.maxRecordingDuration
  obtain ⟨num, hnum⟩ := Option.isSome_iff_exists.1 hcomplete.liveCaptionsNumTranscribers
  obtain ⟨threads, hthreads⟩ :=
    Option.isSome_iff_exists.1 hcomplete.transcriberNumThreads
  obtain ⟨each, heach⟩ :=
    Option.isSome_iff_exists.1 hcomplete.liveCaptionsNumThreadsPerTranscriber
  cases r <;> simp [Reader.pointers, hring, hminutes, hduration, hnum, hthreads, heach]

theorem Hook.code_meets (hw : w.Sound m) (h : Hook) :
    HookMeets m (h.code u) (fun _ _ => True) w := by
  cases h with
  | onConfigurationChange =>
      exact meets_bind (onConfigurationChange_meets hw) fun _ w' _ => fun _ _ => trivial
  | onActivate =>
      exact meets_bind (onActivate_meets hw) fun _ w' _ => fun _ _ => trivial
  | reader r =>
      refine meets_bind (getConfiguration_meets hw) fun cfg w₁ h₁ => ?_
      obtain ⟨h₁, hcomplete, -, -⟩ := h₁
      rw [r.pointers_isSome hcomplete]
      exact fun _ _ => trivial

end Meets

/-! ## Runs -/

/-- Hooks that have not begun, on a plugin that has loaded nothing. -/
def hooksStart (u : Setup) {T N : Type} (hooks : T → Hook) :
    Sys HookOp HookOp.Resp PluginConfig T N where
  world := ⟨none, [], [], []⟩
  inner _ := none
  owner := none
  polling _ := false
  code t := .lift ((hooks t).code u)

section Runs

variable {T N : Type} [DecidableEq T] [DecidableEq N] {node : T → N} {hooks : T → Hook}
  {s : Sys HookOp HookOp.Resp PluginConfig T N}

theorem hooks_guaranteed
    {ok : List (Event T m.Choice) → Sys HookOp HookOp.Resp PluginConfig T N → T →
      Act m.Choice → Prop} {tr : List (Event T m.Choice)}
    (hr : Runs (fun c => hookSem u (m.choose c)) node ok (hooksStart u hooks) tr s) :
    s.world.Sound m ∧ ∀ t,
    (s.code t).Meets (hookGuarantee m).rely (fun _ _ => True) s.world := by
  have hsound : PluginConfig.Sound m ⟨none, [], [], []⟩ :=
    ⟨fun _ h => (Option.some_ne_none _ h.symm).elim,
      fun h => absurd rfl h, fun _ => rfl⟩
  exact Runs.guaranteed (G := hookGuarantee m) hr hsound fun t =>
    (hooks t).code_meets hsound

/-- Whatever is loaded, in whatever environment. -/
def Mode.free (u : Setup) : Mode u := ⟨HookChoice, id, False, False.elim, False.elim⟩

section Free

variable {ok : List (Event T HookChoice) → Sys HookOp HookOp.Resp PluginConfig T N → T →
    Act HookChoice → Prop} {tr : List (Event T HookChoice)}

/-- **The configuration that is read**: whatever hooks run at the same time, whatever
they load and whichever licenses they read, no nil pointer is dereferenced, and what is
read is valid and complete. -/
theorem configuration_complete
    (hr : Runs (hookSem u) node ok (hooksStart u hooks) tr s) :
    (∀ t k, s.code t ≠ .op .nilDereference k) ∧
      (readConfiguration u s.world).1.Complete ∧
      (readConfiguration u s.world).1.isValid u.tr = none := by
  obtain ⟨hsound, hmeets⟩ := hooks_guaranteed (Mode.free u) hr
  refine ⟨fun t k hk => (hmeets t).good hk, ?_⟩
  obtain ⟨hcomplete, hvalid, -⟩ := readConfiguration_spec hsound
  exact ⟨hcomplete, hvalid⟩

/-- **Overrides are permanent**: once a configuration was accepted, whatever is read has
the overrides of the environment, and these are what is shown to admins. -/
theorem overrides_permanent (hr : Runs (hookSem u) node ok (hooksStart u hooks) tr s)
    (hacc : s.world.accepted ≠ []) :
    (readConfiguration u s.world).1.EnvWins u.P u.lookupEnv ∧
      s.world.configEnvOverrides = Config.reported u.P u.lookupEnv := by
  obtain ⟨hsound, -⟩ := hooks_guaranteed (Mode.free u) hr
  obtain ⟨-, -, hwins⟩ := readConfiguration_spec hsound
  exact ⟨hwins hacc, (hsound.accepted hacc).2⟩

end Free

section Saved

variable {V J : Type} [DecidableEq V]

/-- A choice where what is loaded was accepted when it was saved. -/
def SavedChoice (codec : Codec V J) (tr : Transcriber) : Type :=
  { c : HookChoice // ∀ cfg, c.loaded = .ok cfg → SavedSettings codec tr cfg }

/-- What is loaded was accepted when it was saved. -/
def Mode.saved (codec : Codec V J) (hharm : Harmless u.lookupEnv) : Mode u where
  Choice := SavedChoice codec u.tr
  choose := Subtype.val
  strict := True
  harmless _ := hharm
  loads _ c cfg hcfg := isValid_of_saved (c.2 cfg hcfg)

/-- **What was saved can be loaded**: if all settings that are loaded were accepted when
they were saved, and the environment does no harm, then no configuration is ever
refused, whichever licenses are read. -/
theorem saved_notRefused (codec : Codec V J)
    {ok : List (Event T (SavedChoice codec u.tr)) →
      Sys HookOp HookOp.Resp PluginConfig T N → T →
      Act (SavedChoice codec u.tr) → Prop}
        {tr : List (Event T (SavedChoice codec u.tr))}
    (hr : Runs (fun c => hookSem u c.1) node ok (hooksStart u hooks) tr s)
    (hharm : Harmless u.lookupEnv) : s.world.refused = [] :=
  (hooks_guaranteed (Mode.saved codec hharm) hr).1.refused trivial

end Saved

end Runs

/-! ## An instance -/

/-- One variable is set. -/
def onePort : Setup where
  tr := ⟨fun _ => true, fun _ => true, "base", "whisper", 2, "tiny", 1, 2, "en"⟩
  P := ⟨fun _ => none, fun _ _ => false, fun _ => none, fun _ => none⟩
  lookupEnv key := if key = "MM_CALLS_UDP_SERVER_PORT" then some "8200" else none

/-- The plugin is activated on a Cloud installation while another port is saved. -/
def savedWhileActivated (t : Fin 2) : Hook :=
  if t.val = 0 then .onActivate else .onConfigurationChange

/-- The settings have port 8444, and the license is one for Cloud. -/
def cloudChoice : HookChoice where
  loaded := .ok { Configuration.new with udpServerPort := some 8444 }
  licenses := ⟨some ⟨"starter", some ⟨none, none, some true⟩⟩,
    some ⟨"starter", some ⟨none, none, some true⟩⟩⟩
  license := some ⟨"starter", some ⟨none, none, some true⟩⟩
  rtcdAllowed := false
  attempt := .ok ()

/-- The settings are loaded by both hooks, and set once more by the first. -/
theorem savedWhileActivated_runs : ∃ (tr : List (Event (Fin 2) HookChoice))
    (s : Sys HookOp HookOp.Resp PluginConfig (Fin 2) (Fin 2)),
    Runs (hookSem onePort) id (fun _ _ _ _ => True)
      (hooksStart onePort savedWhileActivated) tr s ∧
      s.world.accepted.map (·.udpServerPort) = [some 8200, some 8200, some 8200] := by
  have hsched : ((hooksStart onePort savedWhileActivated).sched (hookSem onePort) id
      (fun _ _ _ _ => true) []
      (List.replicate 12 (0, .op cloudChoice) ++
        List.replicate 4 (1, .op cloudChoice) ++
        List.replicate 6 (0, .op cloudChoice))).map
        (fun r => r.2.world.accepted.map (·.udpServerPort)) =
      some [some 8200, some 8200, some 8200] := by
    decide
  exact Runs.exists_of_sched (fun _ _ _ _ _ => trivial) hsched

theorem configuration_complete_port : ∃ (tr : List (Event (Fin 2) HookChoice))
    (s : Sys HookOp HookOp.Resp PluginConfig (Fin 2) (Fin 2)),
    Runs (hookSem onePort) id (fun _ _ _ _ => True)
      (hooksStart onePort savedWhileActivated) tr s ∧
      s.world.accepted.length = 3 ∧
      (readConfiguration onePort s.world).1.isValid onePort.tr = none := by
  obtain ⟨tr, s, hr, haccepted⟩ := savedWhileActivated_runs
  have hlength := congrArg List.length haccepted
  rw [List.length_map] at hlength
  exact ⟨tr, s, hr, hlength, (configuration_complete hr).2.2⟩

theorem overrides_permanent_port : ∃ (tr : List (Event (Fin 2) HookChoice))
    (s : Sys HookOp HookOp.Resp PluginConfig (Fin 2) (Fin 2)),
    Runs (hookSem onePort) id (fun _ _ _ _ => True)
      (hooksStart onePort savedWhileActivated) tr s ∧
      s.world.accepted.map (·.udpServerPort) = [some 8200, some 8200, some 8200] ∧
      (readConfiguration onePort s.world).1.EnvWins onePort.P onePort.lookupEnv := by
  obtain ⟨tr, s, hr, haccepted⟩ := savedWhileActivated_runs
  refine ⟨tr, s, hr, haccepted, (overrides_permanent hr fun h => ?_).1⟩
  rw [h] at haccepted
  cases haccepted

/-- Settings of two fields, one of them a secret. -/
def twoSettings : Codec String (List (String × String)) where
  fakeSetting := "********************************"
  marshal := .ok
  unmarshal settings := .ok
    { Configuration.new with
      udpServerAddress := (settings.lookup "UDPServerAddress").getD ""
      turnStaticAuthSecret := (settings.lookup "TURNStaticAuthSecret").getD "" }

/-- Only the URL of RTCD is set. -/
def onlyRTCD : Setup :=
  { onePort with
    lookupEnv := fun key => if key =
      "MM_CALLS_RTCD_SERVICE_URL" then some "http://rtcd" else none }

theorem onlyRTCD_harmless : Harmless onlyRTCD.lookupEnv where
  unset := by decide
  limit n h := by
    have hnone : parseInt
        (Configuration.getenv onlyRTCD.lookupEnv "MM_CALLS_MAX_PARTICIPANTS") =
        none := by
      decide
    rw [hnone] at h
    cases h

/-- The settings are saved with their secret hidden, and loaded with it. -/
def savedChoice : SavedChoice twoSettings onlyRTCD.tr where
  val := { cloudChoice with
    loaded := .ok { Configuration.new with
      udpServerAddress := "127.0.0.1"
      turnStaticAuthSecret := "secret" } }
  property cfg hcfg := by
    cases hcfg
    exact ⟨[("UDPServerAddress", "127.0.0.1"),
      ("TURNStaticAuthSecret", "********************************")], _, [],
      "secret", by decide, rfl, rfl⟩

theorem saved_notRefused_secret :
    ∃ (tr : List (Event Unit (SavedChoice twoSettings onlyRTCD.tr)))
    (s : Sys HookOp HookOp.Resp PluginConfig Unit Unit),
    Runs (fun c => hookSem onlyRTCD c.1) id (fun _ _ _ _ => True)
      (hooksStart onlyRTCD fun _ => .onConfigurationChange) tr s ∧
      s.world.accepted.map (·.turnStaticAuthSecret) = ["secret"] ∧
      s.world.refused = [] := by
  have hsched : ((hooksStart onlyRTCD fun _ : Unit => .onConfigurationChange :
      Sys HookOp HookOp.Resp PluginConfig Unit Unit).sched
      (fun c : SavedChoice twoSettings onlyRTCD.tr => hookSem onlyRTCD c.1) id
      (fun _ _ _ _ => true) [] (List.replicate 4 ((), .op savedChoice))).map
        (fun r => r.2.world.accepted.map (·.turnStaticAuthSecret)) =
        some ["secret"] := by
    decide
  obtain ⟨tr, s, hr, haccepted⟩ :=
    Runs.exists_of_sched (fun _ _ _ _ _ => trivial) hsched
  exact ⟨tr, s, hr, haccepted, saved_notRefused twoSettings hr onlyRTCD_harmless⟩

end CallsPlugin.Ports.Config
