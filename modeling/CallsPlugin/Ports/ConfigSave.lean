import CallsPlugin.Ports.ConfigOverrides

/-!
# Saving the configuration (`ConfigurationWillBeSaved`)

Settings are checked before they are saved, with their secrets hidden and without the
overrides of the environment.  Where no variable of a field that is checked is set, the
overrides keep a valid configuration valid, so that what was saved can be loaded.
-/

namespace CallsPlugin.Ports.Config

open CallsPlugin.Ports.Environment CallsPlugin.Ports.Licensing CallsPlugin.Ports.ParseIP

/-! ## The hook -/

/-- Settings as they are saved, by key: what a hidden secret is shown as, and how
settings become JSON and JSON a configuration. -/
structure Codec (V J : Type) where
  fakeSetting : V
  marshal : List (String × V) → Except String J
  unmarshal : J → Except String Configuration

/-- The configuration that is checked for settings: their secrets are left out. -/
def Codec.configurationOf {V J : Type} [DecidableEq V] (codec : Codec V J)
    (configData : List (String × V)) : Except String Configuration :=
  match codec.marshal (configData.filter fun kv => kv.2 ≠ codec.fakeSetting) with
  | .error e => .error ("failed to marshal config data: " ++ e)
  | .ok js =>
      match codec.unmarshal js with
      | .error e => .error ("failed to unmarshal config data: " ++ e)
      | .ok cfg => .ok cfg

/-- `ConfigurationWillBeSaved`: the message of the error, if there is one -/
def configurationWillBeSaved {V J : Type} [DecidableEq V] (codec : Codec V J)
    (tr : Transcriber) (newCfg : Option (List (String × V))) : Option String :=
  match newCfg with
  | none => none
  | some configData =>
      match codec.configurationOf configData with
      | .error e => some e
      | .ok cfg => (cfg.setDefaults tr).isValid tr

/-- The settings that are secret are others. -/
def Configuration.withSecrets (c : Configuration) (servers : List ICEServerConfig)
    (secret : String) : Configuration :=
  { c with
    turnStaticAuthSecret := secret
    clientConfig := { c.clientConfig with iceServersConfigs := servers } }

/-- The settings have been accepted, and are loaded with their secrets. -/
def SavedSettings {V J : Type} [DecidableEq V] (codec : Codec V J) (tr : Transcriber)
    (loaded : Configuration) : Prop :=
  ∃ configData cfg servers secret,
    configurationWillBeSaved codec tr (some configData) = none ∧
    codec.configurationOf configData = .ok cfg ∧ loaded = cfg.withSecrets servers secret

/-- Secrets are not checked. -/
theorem isValid_of_saved {V J : Type} [DecidableEq V] {codec : Codec V J}
    {tr : Transcriber} {loaded : Configuration} (h : SavedSettings codec tr loaded) :
    (loaded.setDefaults tr).isValid tr = none := by
  obtain ⟨configData, cfg, servers, secret, hsave, hcfg, rfl⟩ := h
  simp only [configurationWillBeSaved, hcfg] at hsave
  exact hsave

/-! ## Overrides that do no harm -/

/-- The fields that are checked. -/
def checkedFields : List String :=
  ["UDPServerAddress", "TCPServerAddress", "UDPServerPort", "TCPServerPort",
   "MaxCallParticipants", "TURNCredentialsExpirationMinutes", "MaxRecordingDuration",
   "RecordingQuality", "EnableRecordings", "EnableTranscriptions",
   "TranscriberModelSize",
   "TranscribeAPI", "TranscriberNumThreads", "ICEHostPortOverride",
   "EnableLiveCaptions", "LiveCaptionsModelSize", "LiveCaptionsNumTranscribers",
   "LiveCaptionsNumThreadsPerTranscriber", "LiveCaptionsLanguage"]

/-- No variable of a field that is checked is set, and the deprecated one of the limit
on participants is no negative number. -/
structure Harmless (lookupEnv : String → Option String) : Prop where
  unset : ∀ name ∈ checkedFields, Configuration.fieldVar lookupEnv name = none
  limit : ∀ n, parseInt (Configuration.getenv lookupEnv "MM_CALLS_MAX_PARTICIPANTS") =
    some n → 0 ≤ n

namespace Configuration

variable {tr : Transcriber} {P : Parsers Unit (List ICEServerConfig)}
  {lookupEnv : String → Option String} {ls : Licenses} {c c' : Configuration}

/-- A configuration with other addresses and another limit on participants. -/
@[reducible] def readdressed (c : Configuration) (udp tcp : String) (max : Option Int) :
    Configuration :=
  { c with
    udpServerAddress := udp
    tcpServerAddress := tcp
    clientConfig := { c.clientConfig with maxCallParticipants := max } }

/-- An address that is none, or one. -/
def AddressOk (s : String) : Prop := s = "" ∨ parseIP s = true

theorem AddressOk.trimSpace {s : String} (h : AddressOk s) :
    AddressOk (trimSpace s) := by
  rcases h with rfl | h
  · exact .inl rfl
  · rw [trimSpace_of_parseIP h]
    exact .inr h

theorem addressOk_iff {s : String} : ¬ (s ≠ "" ∧ ¬ parseIP s = true) ↔ AddressOk s := by
  unfold AddressOk
  tauto

theorem check_eq_none {p : Prop} [Decidable p] {e : String} {rest : Option String} :
    (if p then some e else rest) = none ↔ ¬ p ∧ rest = none := by
  by_cases hp : p
  · simp [hp]
  · simp [hp]

/-- **The checks**, all of which a valid configuration passes. -/
theorem isValid_eq_none : c.isValid tr = none ↔
    ¬ (c.udpServerAddress ≠ "" ∧ ¬ parseIP c.udpServerAddress) ∧
    ¬ (c.tcpServerAddress ≠ "" ∧ ¬ parseIP c.tcpServerAddress) ∧
    ¬ c.udpServerPort = none ∧ ¬ c.tcpServerPort = none ∧
    ¬ (c.udpServerPort.any fun port => ¬ PortAllowed port) ∧
    ¬ (c.tcpServerPort.any fun port => ¬ PortAllowed port) ∧
    ¬ (c.clientConfig.maxCallParticipants.all fun n => n < 0) ∧
    ¬ (c.turnCredentialsExpirationMinutes.any fun n => n < 0) ∧
    ¬ (c.clientConfig.maxRecordingDuration.all fun n =>
      n < minRecDurationMinutes ∨ maxRecDurationMinutes < n) ∧
    ¬ c.recordingQuality ∉ recordingQualities ∧
    c.transcriptionsError tr = none ∧ c.icePortError = none ∧
    c.liveCaptionsError tr = none := by
  unfold isValid
  rw [check_eq_none, check_eq_none, check_eq_none, check_eq_none, check_eq_none,
    check_eq_none, check_eq_none, check_eq_none, check_eq_none, check_eq_none,
    Option.or_eq_none_iff, Option.or_eq_none_iff]

/-- Other addresses and another limit that are valid. -/
theorem isValid_readdressed {udp tcp : String} {n : Int} (h : c.isValid tr = none)
    (hudp : AddressOk udp) (htcp : AddressOk tcp) (hn : 0 ≤ n) :
    (c.readdressed udp tcp (some n)).isValid tr = none := by
  rw [isValid_eq_none] at h ⊢
  obtain ⟨-, -, hudpPort, htcpPort, hudpRange, htcpRange, -, hrest⟩ := h
  refine ⟨addressOk_iff.2 hudp, addressOk_iff.2 htcp, hudpPort, htcpPort, hudpRange,
    htcpRange, ?_, hrest⟩
  simpa using hn

/-- The fields that are checked, and defaults for the others. -/
def checked (c : Configuration) : Configuration :=
  { Configuration.new with
    udpServerAddress := c.udpServerAddress
    tcpServerAddress := c.tcpServerAddress
    udpServerPort := c.udpServerPort
    tcpServerPort := c.tcpServerPort
    turnCredentialsExpirationMinutes := c.turnCredentialsExpirationMinutes
    recordingQuality := c.recordingQuality
    transcriberModelSize := c.transcriberModelSize
    transcribeAPI := c.transcribeAPI
    transcriberNumThreads := c.transcriberNumThreads
    iceHostPortOverride := c.iceHostPortOverride
    enableLiveCaptions := c.enableLiveCaptions
    liveCaptionsModelSize := c.liveCaptionsModelSize
    liveCaptionsNumTranscribers := c.liveCaptionsNumTranscribers
    liveCaptionsNumThreadsPerTranscriber := c.liveCaptionsNumThreadsPerTranscriber
    liveCaptionsLanguage := c.liveCaptionsLanguage
    clientConfig :=
      { ClientConfig.zero with
        maxCallParticipants := c.clientConfig.maxCallParticipants
        maxRecordingDuration := c.clientConfig.maxRecordingDuration
        enableRecordings := c.clientConfig.enableRecordings
        enableTranscriptions := c.clientConfig.enableTranscriptions } }

theorem isValid_checked (c : Configuration) : c.checked.isValid tr = c.isValid tr := rfl

/-- **Harmless overrides** keep a valid configuration valid. -/
theorem isValid_setOverrides (hharm : Harmless lookupEnv) (h : c.isValid tr = none)
    (hset : c.setOverrides P lookupEnv ls = some c') : c'.isValid tr = none := by
  obtain ⟨d, max, rfl, -, hmax⟩ := setOverrides_eq hset
  have hsame : (((c.applyEnv P lookupEnv).withOverrides d max).trimmed).checked =
      (c.readdressed (trimSpace c.udpServerAddress) (trimSpace c.tcpServerAddress)
        max).checked := by
    simp only [checked, trimmed, withOverrides, applyEnv]
    simp (disch := exact hharm.unset _ (by decide)) only [overField_unset,
      overPtr_unset]
  rw [← isValid_checked, hsame, isValid_checked]
  obtain ⟨hudp, htcp, -, -, -, -, hlimit, -⟩ := isValid_eq_none.1 h
  have hnonneg : ∃ n, max = some n ∧ 0 ≤ n := by
    rcases hmax with hmax | ⟨n, hn, -, hparsed | hn'⟩
    · have hunset : max = c.clientConfig.maxCallParticipants := by
        rw [hmax]
        exact overPtr_unset (hharm.unset _ (by decide))
      rw [hunset]
      cases hc : c.clientConfig.maxCallParticipants with
      | none => simp [hc] at hlimit
      | some n => exact ⟨n, rfl, by simpa [hc] using hlimit⟩
    · exact ⟨n, hn, hharm.limit n hparsed⟩
    · exact ⟨n, hn, hn'⟩
  obtain ⟨n, rfl, hn⟩ := hnonneg
  exact isValid_readdressed h (addressOk_iff.1 hudp).trimSpace
    (addressOk_iff.1 htcp).trimSpace hn

end Configuration

end CallsPlugin.Ports.Config
