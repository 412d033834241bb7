import CallsPlugin.Ports.License
import CallsPlugin.Ports.ParseIP

/-!
# The configuration (`server/configuration.go`)

Pointers are options, and what is dereferenced without a check is an option too: none is
a dereference of nil.  The sizes, the interfaces and the defaults of the transcriber are
a parameter.
-/

namespace CallsPlugin.Ports.Config

open CallsPlugin.Ports.Environment CallsPlugin.Ports.Licensing CallsPlugin.Ports.ParseIP

/-- `rtc.ICEServerConfig` -/
structure ICEServerConfig where
  urls : List String
  username : String
  credential : String
  deriving DecidableEq, Repr

/-- `ClientConfig` -/
structure ClientConfig where
  iceServers : List String
  iceServersConfigs : List ICEServerConfig
  allowEnableCalls : Option Bool
  defaultEnabled : Option Bool
  maxCallParticipants : Option Int
  needsTURNCredentials : Option Bool
  allowScreenSharing : Option Bool
  enableRecordings : Option Bool
  enableTranscriptions : Option Bool
  enableLiveCaptions : Option Bool
  maxRecordingDuration : Option Int
  enableSimulcast : Option Bool
  enableRinging : Option Bool
  skuShortName : String
  hostControlsAllowed : Bool
  enableAV1 : Option Bool
  groupCallsAllowed : Bool
  enableDCSignaling : Option Bool
  enableVideo : Option Bool
  deriving DecidableEq, Repr

/-- `configuration`; two of its fields hide those of the same name in `ClientConfig`. -/
structure Configuration where
  iceHostOverride : String
  iceHostPortOverride : Option Int
  udpServerAddress : String
  tcpServerAddress : String
  udpServerPort : Option Int
  tcpServerPort : Option Int
  rtcdServiceURL : String
  turnStaticAuthSecret : String
  turnCredentialsExpirationMinutes : Option Int
  serverSideTURN : Option Bool
  jobServiceURL : String
  recordingQuality : String
  enableIPv6 : Option Bool
  enableRinging : Option Bool
  transcriberModelSize : String
  transcribeAPI : String
  transcribeAPIAzureSpeechKey : String
  transcribeAPIAzureSpeechRegion : String
  transcriberNumThreads : Option Int
  enableLiveCaptions : Option Bool
  liveCaptionsModelSize : String
  liveCaptionsNumTranscribers : Option Int
  liveCaptionsNumThreadsPerTranscriber : Option Int
  liveCaptionsLanguage : String
  clientConfig : ClientConfig
  deriving DecidableEq, Repr

/-- The zero values. -/
def ClientConfig.zero : ClientConfig where
  iceServers := []
  iceServersConfigs := []
  allowEnableCalls := none
  defaultEnabled := none
  maxCallParticipants := none
  needsTURNCredentials := none
  allowScreenSharing := none
  enableRecordings := none
  enableTranscriptions := none
  enableLiveCaptions := none
  maxRecordingDuration := none
  enableSimulcast := none
  enableRinging := none
  skuShortName := ""
  hostControlsAllowed := false
  enableAV1 := none
  groupCallsAllowed := false
  enableDCSignaling := none
  enableVideo := none

/-- `new(configuration)` -/
def Configuration.new : Configuration where
  iceHostOverride := ""
  iceHostPortOverride := none
  udpServerAddress := ""
  tcpServerAddress := ""
  udpServerPort := none
  tcpServerPort := none
  rtcdServiceURL := ""
  turnStaticAuthSecret := ""
  turnCredentialsExpirationMinutes := none
  serverSideTURN := none
  jobServiceURL := ""
  recordingQuality := ""
  enableIPv6 := none
  enableRinging := none
  transcriberModelSize := ""
  transcribeAPI := ""
  transcribeAPIAzureSpeechKey := ""
  transcribeAPIAzureSpeechRegion := ""
  transcriberNumThreads := none
  enableLiveCaptions := none
  liveCaptionsModelSize := ""
  liveCaptionsNumTranscribers := none
  liveCaptionsNumThreadsPerTranscriber := none
  liveCaptionsLanguage := ""
  clientConfig := .zero

/-- The transcriber: what it takes, and what it takes by default. -/
structure Transcriber where
  modelSizeIsValid : String → Bool
  transcribeAPIIsValid : String → Bool
  modelSizeDefault : String
  transcribeAPIDefault : String
  numThreadsDefault : Int
  liveCaptionsModelSizeDefault : String
  liveCaptionsNumTranscribersDefault : Int
  liveCaptionsNumThreadsPerTranscriberDefault : Int
  liveCaptionsLanguageDefault : String

def defaultRecDurationMinutes : Int := 60
def minRecDurationMinutes : Int := 15
def maxRecDurationMinutes : Int := 180
def minAllowedPort : Int := 80
def maxAllowedPort : Int := 49151

/-- The qualities `recorderBaseConfigs` has a configuration for. -/
def recordingQualities : List String := ["low", "medium", "high"]

/-- The licenses that are read in turn. -/
structure Licenses where
  forDefaultEnabled : Option License
  forMaxParticipants : Option License

namespace Configuration

variable (tr : Transcriber) (c : Configuration)

/-! ## Defaults -/

/-- The pointer, or one to a default. -/
def orPtr {α : Type} (o : Option α) (a : α) : Option α := some (o.getD a)

/-- The text, or a default. -/
def orText (s a : String) : String := if s = "" then a else s

/-- `SetDefaults` -/
def setDefaults : Configuration :=
  { c with
    udpServerPort := orPtr c.udpServerPort 8443
    tcpServerPort := orPtr c.tcpServerPort 8443
    turnCredentialsExpirationMinutes := orPtr c.turnCredentialsExpirationMinutes 240
    serverSideTURN := orPtr c.serverSideTURN false
    transcriberNumThreads := orPtr c.transcriberNumThreads tr.numThreadsDefault
    recordingQuality := orText c.recordingQuality "medium"
    enableIPv6 := orPtr c.enableIPv6 false
    enableRinging := orPtr c.enableRinging false
    transcriberModelSize := orText c.transcriberModelSize tr.modelSizeDefault
    transcribeAPI := orText c.transcribeAPI tr.transcribeAPIDefault
    enableLiveCaptions := orPtr c.enableLiveCaptions false
    liveCaptionsModelSize :=
      orText c.liveCaptionsModelSize tr.liveCaptionsModelSizeDefault
    liveCaptionsNumTranscribers :=
      orPtr c.liveCaptionsNumTranscribers tr.liveCaptionsNumTranscribersDefault
    liveCaptionsNumThreadsPerTranscriber :=
      orPtr c.liveCaptionsNumThreadsPerTranscriber
        tr.liveCaptionsNumThreadsPerTranscriberDefault
    liveCaptionsLanguage := orText c.liveCaptionsLanguage tr.liveCaptionsLanguageDefault
    clientConfig :=
      { c.clientConfig with
        allowEnableCalls := some true
        defaultEnabled := orPtr c.clientConfig.defaultEnabled false
        maxCallParticipants := orPtr c.clientConfig.maxCallParticipants 0
        allowScreenSharing := orPtr c.clientConfig.allowScreenSharing true
        enableRecordings := orPtr c.clientConfig.enableRecordings false
        enableTranscriptions := orPtr c.clientConfig.enableTranscriptions false
        maxRecordingDuration :=
          orPtr c.clientConfig.maxRecordingDuration defaultRecDurationMinutes
        enableSimulcast := orPtr c.clientConfig.enableSimulcast false
        enableAV1 := orPtr c.clientConfig.enableAV1 false
        enableDCSignaling := orPtr c.clientConfig.enableDCSignaling false
        enableVideo := orPtr c.clientConfig.enableVideo false } }

/-! ## Validity -/

/-- `recordingsEnabled` -/
def recordingsEnabled : Bool := c.clientConfig.enableRecordings.getD false

/-- `transcriptionsEnabled` -/
def transcriptionsEnabled : Bool :=
  c.recordingsEnabled && c.clientConfig.enableTranscriptions.getD false

/-- `liveCaptionsEnabled` -/
def liveCaptionsEnabled : Bool :=
  c.recordingsEnabled && c.transcriptionsEnabled && c.enableLiveCaptions.getD false

/-- A port is allowed. -/
def PortAllowed (port : Int) : Prop := minAllowedPort ≤ port ∧ port ≤ maxAllowedPort

instance (port : Int) : Decidable (PortAllowed port) :=
  inferInstanceAs (Decidable (_ ∧ _))

/-- The error of a port. -/
def portError (name : String) (port : Int) : String :=
  s!"{name} is not valid: {port} is not in allowed range [{minAllowedPort}, {maxAllowedPort}]"

/-- A pointer to a number that is not positive, or none. -/
def notPositive (n : Option Int) : Bool := n.all fun n => n ≤ 0

/-- The checks of `IsValid` on transcriptions. -/
def transcriptionsError : Option String :=
  if ¬ c.transcriptionsEnabled then none
  else if ¬ tr.modelSizeIsValid c.transcriberModelSize then
    some "TranscriberModelSize is not valid"
  else if ¬ tr.transcribeAPIIsValid c.transcribeAPI then
    some "TranscribeAPI is not valid"
  else if notPositive c.transcriberNumThreads then
    some "TranscriberNumThreads is not valid: should be greater than 0"
  else none

/-- The check of `IsValid` on the port of host candidates. -/
def icePortError : Option String :=
  c.iceHostPortOverride.bind fun port =>
    if port ≠ 0 ∧ ¬ PortAllowed port then some (portError "ICEHostPortOverride" port)
    else none

/-- The checks of `IsValid` on live captions. -/
def liveCaptionsError : Option String :=
  if ¬ c.liveCaptionsEnabled then none
  else if ¬ tr.modelSizeIsValid c.liveCaptionsModelSize then
    some "LiveCaptionsModelSize is not valid"
  else if notPositive c.liveCaptionsNumTranscribers then
    some "LiveCaptionsNumTranscribers is not valid: should be greater than 0"
  else if notPositive c.liveCaptionsNumThreadsPerTranscriber then
    some "LiveCaptionsNumThreadsPerTranscriber is not valid: should be greater than 0"
  else if c.liveCaptionsLanguage ≠ "" ∧ c.liveCaptionsLanguage.utf8ByteSize ≠ 2 then
    some ("LiveCaptionsLanguage is not valid: should be a 2-letter ISO 639 set 1 language " ++
      "code, or blank for default")
  else none

/-- `IsValid`: the error, if there is one -/
def isValid : Option String :=
  if c.udpServerAddress ≠ "" ∧ ¬ parseIP c.udpServerAddress then
    some "UDPServerAddress parsing failed"
  else if c.tcpServerAddress ≠ "" ∧ ¬ parseIP c.tcpServerAddress then
    some "TCPServerAddress parsing failed"
  else if c.udpServerPort = none then some "UDPServerPort should not be nil"
  else if c.tcpServerPort = none then some "TCPServerPort should not be nil"
  else if c.udpServerPort.any fun port => ¬ PortAllowed port then
    some (portError "UDPServerPort" (c.udpServerPort.getD 0))
  else if c.tcpServerPort.any fun port => ¬ PortAllowed port then
    some (portError "TCPServerPort" (c.tcpServerPort.getD 0))
  else if c.clientConfig.maxCallParticipants.all fun n => n < 0 then
    some "MaxCallParticipants is not valid"
  else if c.turnCredentialsExpirationMinutes.any fun n => n < 0 then
    some "TURNCredentialsExpirationMinutes is not valid"
  else if c.clientConfig.maxRecordingDuration.all fun n =>
      n < minRecDurationMinutes ∨ maxRecDurationMinutes < n then
    some ("MaxRecordingDuration is not valid: range should be " ++
      s!"[{minRecDurationMinutes}, {maxRecDurationMinutes}]")
  else if c.recordingQuality ∉ recordingQualities then
    some "RecordingQuality is not valid"
  else (c.transcriptionsError tr).or (c.icePortError.or (c.liveCaptionsError tr))

/-! ## Copies -/

/-- `Clone`: the fields it does not copy are those that `getClientConfig` computes anew,
and those that are hidden. -/
def clone : Configuration :=
  { c with
    clientConfig :=
      { c.clientConfig with
        allowEnableCalls := some true
        needsTURNCredentials := none
        enableLiveCaptions := none
        enableRinging := none
        skuShortName := ""
        hostControlsAllowed := false
        groupCallsAllowed := false } }

/-! ## The environment -/

variable (P : Parsers Unit (List ICEServerConfig)) (lookupEnv : String → Option String)

/-- The variable of a field, if it is set. -/
def fieldVar (name : String) : Option String :=
  lookupEnv ("MM_CALLS_" ++ fieldNameToEnvKey name)

/-- A field with the value of its variable, if that parses. -/
def overField {α : Type} (parse : String → Option α) (name : String) (old : α) : α :=
  match fieldVar lookupEnv name with
  | none => old
  | some s => (parse s).getD old

/-- A pointer, which is allocated before the variable is parsed. -/
def overPtr {α : Type} (zero : α) (parse : String → Option α) (name : String)
    (old : Option α) :
    Option α :=
  match fieldVar lookupEnv name with
  | none => old
  | some s => some ((parse s).getD (old.getD zero))

/-- A text. -/
abbrev overString (name old : String) : String := overField lookupEnv some name old

/-- A pointer to a flag. -/
abbrev overBool (name : String) (old : Option Bool) : Option Bool :=
  overPtr lookupEnv false parseBool name old

/-- A pointer to a number. -/
abbrev overInt (name : String) (old : Option Int) : Option Int :=
  overPtr lookupEnv 0 parseInt name old

/-- `p.applyEnvOverrides(cfg, "MM_CALLS")` -/
def applyEnv : Configuration where
  iceHostOverride := overString lookupEnv "ICEHostOverride" c.iceHostOverride
  iceHostPortOverride := overInt lookupEnv "ICEHostPortOverride" c.iceHostPortOverride
  udpServerAddress := overString lookupEnv "UDPServerAddress" c.udpServerAddress
  tcpServerAddress := overString lookupEnv "TCPServerAddress" c.tcpServerAddress
  udpServerPort := overInt lookupEnv "UDPServerPort" c.udpServerPort
  tcpServerPort := overInt lookupEnv "TCPServerPort" c.tcpServerPort
  rtcdServiceURL := overString lookupEnv "RTCDServiceURL" c.rtcdServiceURL
  turnStaticAuthSecret :=
    overString lookupEnv "TURNStaticAuthSecret" c.turnStaticAuthSecret
  turnCredentialsExpirationMinutes :=
    overInt lookupEnv "TURNCredentialsExpirationMinutes"
      c.turnCredentialsExpirationMinutes
  serverSideTURN := overBool lookupEnv "ServerSideTURN" c.serverSideTURN
  jobServiceURL := overString lookupEnv "JobServiceURL" c.jobServiceURL
  recordingQuality := overString lookupEnv "RecordingQuality" c.recordingQuality
  enableIPv6 := overBool lookupEnv "EnableIPv6" c.enableIPv6
  enableRinging := overBool lookupEnv "EnableRinging" c.enableRinging
  transcriberModelSize :=
    overString lookupEnv "TranscriberModelSize" c.transcriberModelSize
  transcribeAPI := overString lookupEnv "TranscribeAPI" c.transcribeAPI
  transcribeAPIAzureSpeechKey :=
    overString lookupEnv "TranscribeAPIAzureSpeechKey" c.transcribeAPIAzureSpeechKey
  transcribeAPIAzureSpeechRegion :=
    overString lookupEnv "TranscribeAPIAzureSpeechRegion"
      c.transcribeAPIAzureSpeechRegion
  transcriberNumThreads :=
    overInt lookupEnv "TranscriberNumThreads" c.transcriberNumThreads
  enableLiveCaptions := overBool lookupEnv "EnableLiveCaptions" c.enableLiveCaptions
  liveCaptionsModelSize :=
    overString lookupEnv "LiveCaptionsModelSize" c.liveCaptionsModelSize
  liveCaptionsNumTranscribers :=
    overInt lookupEnv "LiveCaptionsNumTranscribers" c.liveCaptionsNumTranscribers
  liveCaptionsNumThreadsPerTranscriber :=
    overInt lookupEnv "LiveCaptionsNumThreadsPerTranscriber"
      c.liveCaptionsNumThreadsPerTranscriber
  liveCaptionsLanguage :=
    overString lookupEnv "LiveCaptionsLanguage" c.liveCaptionsLanguage
  clientConfig :=
    { iceServers :=
        overField lookupEnv (fun s => some ((s.splitOn ",").map trimSpace)) "ICEServers"
        c.clientConfig.iceServers
      iceServersConfigs := overField lookupEnv P.unmarshalICEServers "ICEServersConfigs"
        c.clientConfig.iceServersConfigs
      allowEnableCalls :=
        overBool lookupEnv "AllowEnableCalls" c.clientConfig.allowEnableCalls
      defaultEnabled :=
        overBool lookupEnv "DefaultEnabled" c.clientConfig.defaultEnabled
      maxCallParticipants :=
        overInt lookupEnv "MaxCallParticipants" c.clientConfig.maxCallParticipants
      needsTURNCredentials :=
        overBool lookupEnv "NeedsTURNCredentials" c.clientConfig.needsTURNCredentials
      allowScreenSharing :=
        overBool lookupEnv "AllowScreenSharing" c.clientConfig.allowScreenSharing
      enableRecordings :=
        overBool lookupEnv "EnableRecordings" c.clientConfig.enableRecordings
      enableTranscriptions :=
        overBool lookupEnv "EnableTranscriptions" c.clientConfig.enableTranscriptions
      enableLiveCaptions :=
        overBool lookupEnv "EnableLiveCaptions" c.clientConfig.enableLiveCaptions
      maxRecordingDuration :=
        overInt lookupEnv "MaxRecordingDuration" c.clientConfig.maxRecordingDuration
      enableSimulcast :=
        overBool lookupEnv "EnableSimulcast" c.clientConfig.enableSimulcast
      enableRinging := overBool lookupEnv "EnableRinging" c.clientConfig.enableRinging
      skuShortName := overString lookupEnv "SkuShortName" c.clientConfig.skuShortName
      hostControlsAllowed :=
        overField lookupEnv parseBool "HostControlsAllowed"
          c.clientConfig.hostControlsAllowed
      enableAV1 := overBool lookupEnv "EnableAV1" c.clientConfig.enableAV1
      groupCallsAllowed :=
        overField lookupEnv parseBool "GroupCallsAllowed"
          c.clientConfig.groupCallsAllowed
      enableDCSignaling :=
        overBool lookupEnv "EnableDCSignaling" c.clientConfig.enableDCSignaling
      enableVideo := overBool lookupEnv "EnableVideo" c.clientConfig.enableVideo }

/-- `os.Getenv` -/
def getenv (key : String) : String := (lookupEnv key).getD ""

/-- `*cfg.MaxCallParticipants = n` -/
def setMaxCallParticipants (n : Int) : Option Configuration :=
  c.clientConfig.maxCallParticipants.map fun _ =>
    { c with clientConfig := { c.clientConfig with maxCallParticipants := some n } }

/-- `*cfg.DefaultEnabled = true` -/
def setDefaultEnabled : Option Configuration :=
  c.clientConfig.defaultEnabled.map fun _ =>
    { c with clientConfig := { c.clientConfig with defaultEnabled := some true } }

def cloudStarterMaxParticipantsDefault : Int := 8
def cloudPaidMaxParticipantsDefault : Int := 200

/-- The override of the limit on participants. -/
def overrideMaxParticipants (license : Option License) : Option Configuration :=
  if getenv lookupEnv "MM_CALLS_MAX_CALL_PARTICIPANTS" ≠ "" then some c
  else if getenv lookupEnv "MM_CALLS_MAX_PARTICIPANTS" ≠ "" then
    match parseInt (getenv lookupEnv "MM_CALLS_MAX_PARTICIPANTS") with
    | some n => c.setMaxCallParticipants n
    | none => some c
  else if isCloud license then
    c.setMaxCallParticipants
      (if isCloudStarter license then cloudStarterMaxParticipantsDefault
        else cloudPaidMaxParticipantsDefault)
  else some c

/-- Spaces around texts are dropped. -/
def trimmed : Configuration :=
  { c with
    iceHostOverride := trimSpace c.iceHostOverride
    udpServerAddress := trimSpace c.udpServerAddress
    tcpServerAddress := trimSpace c.tcpServerAddress
    rtcdServiceURL := trimSpace c.rtcdServiceURL
    jobServiceURL := trimSpace c.jobServiceURL }

/-- `AllowEnableCalls` is always true. -/
def allowingCalls : Configuration :=
  { c with clientConfig := { c.clientConfig with allowEnableCalls := some true } }

/-- On Cloud calls are enabled in all channels. -/
def overrideDefaultEnabled (license : Option License) : Option Configuration :=
  if isCloud license then c.setDefaultEnabled else some c

/-- `setOverrides` -/
def setOverrides (ls : Licenses) : Option Configuration := do
  let c ← (c.applyEnv P lookupEnv).allowingCalls.overrideDefaultEnabled
      ls.forDefaultEnabled
  let c ← c.overrideMaxParticipants lookupEnv ls.forMaxParticipants
  return c.trimmed

end Configuration

end CallsPlugin.Ports.Config
