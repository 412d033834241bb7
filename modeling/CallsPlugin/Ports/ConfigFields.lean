import CallsPlugin.Ports.Configuration

/-!
# The configuration under reflection

`applyEnvOverrides` walks a configuration by its fields.  On the configuration of the
plugin it computes the overrides field by field (`Configuration.applyEnv`), and what it
reports depends on the environment alone.
-/

namespace CallsPlugin.Ports.Config

open CallsPlugin.Ports.Environment

/-- The values of the fields. -/
abbrev FieldValue := Value Unit (List ICEServerConfig)

def str (s : String) : FieldValue := .scalar (.string s)

def flag (b : Bool) : FieldValue := .scalar (.bool b)

def strs (l : List String) : FieldValue := .scalar (.strings l)

def servers (l : List ICEServerConfig) : FieldValue := .scalar (.iceServers l)

/-- `*bool` -/
def boolPtr : Option Bool → FieldValue
  | none => .nil (flag false)
  | some b => .ptr (flag b)

/-- `*int` -/
def intPtr : Option Int → FieldValue
  | none => .nil (.scalar (.int 64 0))
  | some n => .ptr (.scalar (.int 64 n))

/-- An exported field. -/
def field (name : String) : StructField := ⟨name, true, false⟩

/-- A struct with these fields. -/
def fieldsOf : List (StructField × FieldValue) → Fields Unit (List ICEServerConfig)
  | [] => .nil
  | (f, v) :: rest => .cons f v (fieldsOf rest)

/-- The fields of `ClientConfig`, in order. -/
def ClientConfig.fields (c : ClientConfig) : List (StructField × FieldValue) :=
  [(field "ICEServers", strs c.iceServers),
   (field "ICEServersConfigs", servers c.iceServersConfigs),
   (field "AllowEnableCalls", boolPtr c.allowEnableCalls),
   (field "DefaultEnabled", boolPtr c.defaultEnabled),
   (field "MaxCallParticipants", intPtr c.maxCallParticipants),
   (field "NeedsTURNCredentials", boolPtr c.needsTURNCredentials),
   (field "AllowScreenSharing", boolPtr c.allowScreenSharing),
   (field "EnableRecordings", boolPtr c.enableRecordings),
   (field "EnableTranscriptions", boolPtr c.enableTranscriptions),
   (field "EnableLiveCaptions", boolPtr c.enableLiveCaptions),
   (field "MaxRecordingDuration", intPtr c.maxRecordingDuration),
   (field "EnableSimulcast", boolPtr c.enableSimulcast),
   (field "EnableRinging", boolPtr c.enableRinging),
   (field "SkuShortName", str c.skuShortName),
   (field "HostControlsAllowed", flag c.hostControlsAllowed),
   (field "EnableAV1", boolPtr c.enableAV1),
   (field "GroupCallsAllowed", flag c.groupCallsAllowed),
   (field "EnableDCSignaling", boolPtr c.enableDCSignaling),
   (field "EnableVideo", boolPtr c.enableVideo)]

/-- The fields of `configuration`, in order; the last is embedded. -/
def Configuration.fields (c : Configuration) : List (StructField × FieldValue) :=
  [(field "ICEHostOverride", str c.iceHostOverride),
   (field "ICEHostPortOverride", intPtr c.iceHostPortOverride),
   (field "UDPServerAddress", str c.udpServerAddress),
   (field "TCPServerAddress", str c.tcpServerAddress),
   (field "UDPServerPort", intPtr c.udpServerPort),
   (field "TCPServerPort", intPtr c.tcpServerPort),
   (field "RTCDServiceURL", str c.rtcdServiceURL),
   (field "TURNStaticAuthSecret", str c.turnStaticAuthSecret),
   (field "TURNCredentialsExpirationMinutes",
     intPtr c.turnCredentialsExpirationMinutes),
   (field "ServerSideTURN", boolPtr c.serverSideTURN),
   (field "JobServiceURL", str c.jobServiceURL),
   (field "RecordingQuality", str c.recordingQuality),
   (field "EnableIPv6", boolPtr c.enableIPv6),
   (field "EnableRinging", boolPtr c.enableRinging),
   (field "TranscriberModelSize", str c.transcriberModelSize),
   (field "TranscribeAPI", str c.transcribeAPI),
   (field "TranscribeAPIAzureSpeechKey", str c.transcribeAPIAzureSpeechKey),
   (field "TranscribeAPIAzureSpeechRegion", str c.transcribeAPIAzureSpeechRegion),
   (field "TranscriberNumThreads", intPtr c.transcriberNumThreads),
   (field "EnableLiveCaptions", boolPtr c.enableLiveCaptions),
   (field "LiveCaptionsModelSize", str c.liveCaptionsModelSize),
   (field "LiveCaptionsNumTranscribers", intPtr c.liveCaptionsNumTranscribers),
   (field "LiveCaptionsNumThreadsPerTranscriber",
     intPtr c.liveCaptionsNumThreadsPerTranscriber),
   (field "LiveCaptionsLanguage", str c.liveCaptionsLanguage),
   (⟨"ClientConfig", true, true⟩, .struct (fieldsOf c.clientConfig.fields))]

/-- A pointer to the configuration. -/
def Configuration.toValue (c : Configuration) : FieldValue :=
  .ptr (.struct (fieldsOf c.fields))

/-! ## The report -/

/-- A kind of field: its variable parses. -/
inductive Kind where
  | text
  | bool
  | int
  | servers

variable (P : Parsers Unit (List ICEServerConfig)) (lookupEnv : String → Option String)

/-- The variable parses. -/
def Kind.accepts (s : String) : Kind → Bool
  | text => true
  | bool => (parseBool s).isSome
  | int => (parseInt s).isSome
  | servers => (P.unmarshalICEServers s).isSome

/-- The fields of `configuration` by name and kind. -/
def ownKinds : List (String × Kind) :=
  [("ICEHostOverride", .text), ("ICEHostPortOverride", .int),
   ("UDPServerAddress", .text),
   ("TCPServerAddress", .text), ("UDPServerPort", .int), ("TCPServerPort", .int),
   ("RTCDServiceURL", .text), ("TURNStaticAuthSecret", .text),
   ("TURNCredentialsExpirationMinutes", .int), ("ServerSideTURN", .bool),
   ("JobServiceURL", .text), ("RecordingQuality", .text), ("EnableIPv6", .bool),
   ("EnableRinging", .bool), ("TranscriberModelSize", .text), ("TranscribeAPI", .text),
   ("TranscribeAPIAzureSpeechKey", .text), ("TranscribeAPIAzureSpeechRegion", .text),
   ("TranscriberNumThreads", .int), ("EnableLiveCaptions", .bool),
   ("LiveCaptionsModelSize", .text), ("LiveCaptionsNumTranscribers", .int),
   ("LiveCaptionsNumThreadsPerTranscriber", .int), ("LiveCaptionsLanguage", .text)]

/-- Those of `ClientConfig`. -/
def clientKinds : List (String × Kind) :=
  [("ICEServers", .text), ("ICEServersConfigs", .servers), ("AllowEnableCalls", .bool),
   ("DefaultEnabled", .bool), ("MaxCallParticipants", .int),
   ("NeedsTURNCredentials", .bool),
   ("AllowScreenSharing", .bool), ("EnableRecordings", .bool),
   ("EnableTranscriptions", .bool),
   ("EnableLiveCaptions", .bool), ("MaxRecordingDuration", .int),
   ("EnableSimulcast", .bool),
   ("EnableRinging", .bool), ("SkuShortName", .text), ("HostControlsAllowed", .bool),
   ("EnableAV1", .bool), ("GroupCallsAllowed", .bool), ("EnableDCSignaling", .bool),
   ("EnableVideo", .bool)]

/-- What is reported of a field. -/
def report (f : String × Kind) : List (FieldPath × String) :=
  match Configuration.fieldVar lookupEnv f.1 with
  | none => []
  | some s => if f.2.accepts P s then [([f.1], s)] else []

/-- What is reported: the variables that are set and parse. -/
def reported : List (FieldPath × String) :=
  (ownKinds ++ clientKinds).flatMap (report P lookupEnv)

/-! ## The walk -/

section Walk

variable {P lookupEnv}

/-- What the walk goes by. -/
abbrev callsEnviron (lookupEnv : String → Option String) : Environ :=
  ⟨lookupEnv, normalized "MM_CALLS"⟩

theorem field_var (name : String) :
    (field name).var (callsEnviron lookupEnv) =
    Configuration.fieldVar lookupEnv name := by
  have hpre : normalized "MM_CALLS" = "MM_CALLS_" := by decide
  show lookupEnv (normalized "MM_CALLS" ++ fieldNameToEnvKey name) = _
  rw [hpre]
  rfl

/-- A field that is walked through, and what is added to the report. -/
def Walks (P : Parsers Unit (List ICEServerConfig)) (lookupEnv : String → Option String)
    (name : String) (kind : Kind) (v v' : FieldValue) : Prop :=
  processField P (callsEnviron lookupEnv) [] (field name) v =
    (v', report P lookupEnv (name, kind))

/-- A number that is parsed fits 64 bits. -/
theorem parseInt_fits {s : String} {n : Int} (h : parseInt s = some n) :
    overflowInt 64 n = false := by
  have hbound : -2 ^ 63 ≤ n ∧ n < 2 ^ 63 := by
    unfold parseInt at h
    split at h
    next digits _ =>
      obtain ⟨m, hm, rfl⟩ := Option.map_eq_some_iff.1 h
      obtain ⟨k, hk, hkm⟩ := Option.bind_eq_some_iff.1 hm
      obtain rfl : (k : Int) = m := Option.some.inj hkm
      obtain ⟨-, hle⟩ := Option.filter_eq_some_iff.1 hk
      simp only [decide_eq_true_eq] at hle
      omega
    next digits _ =>
      obtain ⟨m, hm, rfl⟩ := Option.map_eq_some_iff.1 h
      obtain ⟨-, hlt⟩ := Option.filter_eq_some_iff.1 hm
      simp only [decide_eq_true_eq] at hlt
      simp only [Int.ofNat_eq_natCast]
      omega
    next digits _ _ =>
      obtain ⟨m, hm, rfl⟩ := Option.map_eq_some_iff.1 h
      obtain ⟨-, hlt⟩ := Option.filter_eq_some_iff.1 hm
      simp only [decide_eq_true_eq] at hlt
      simp only [Int.ofNat_eq_natCast]
      omega
  unfold overflowInt
  simp only [Bool.or_eq_false_iff, decide_eq_false_iff_not]
  omega

/-- A field that is no struct. -/
theorem walks_of_parse {name : String} {kind : Kind} {v v' : FieldValue}
    (hleaf : processField P (callsEnviron lookupEnv) [] (field name) v =
      processLeaf P (callsEnviron lookupEnv) [] (field name) v)
    (hnone : Configuration.fieldVar lookupEnv name = none → v' = v)
    (hsome : ∀ s, Configuration.fieldVar lookupEnv name = some s →
      kind.accepts P s = (v.parse P s).isSome ∧ v' = (v.parse P s).getD v.allocated) :
    Walks P lookupEnv name kind v v' := by
  unfold Walks report
  rw [hleaf]
  unfold processLeaf
  rw [field_var]
  cases hvar : Configuration.fieldVar lookupEnv name with
  | none =>
      rw [hnone hvar]
  | some s =>
      obtain ⟨haccepts, rfl⟩ := hsome s hvar
      dsimp only
      rw [setFieldFromEnv_eq, haccepts]
      cases v.parse P s <;> rfl

section Kinds

variable (name : String)

theorem walks_str (s : String) :
    Walks P lookupEnv name .text (str s)
      (str (Configuration.overString lookupEnv name s)) := by
  apply walks_of_parse rfl
  · intro hvar
    simp only [Configuration.overString, Configuration.overField, hvar]
  · intro s' hvar
    simp only [Configuration.overString, Configuration.overField, hvar]
    exact ⟨rfl, rfl⟩

theorem walks_strs (l : List String) :
    Walks P lookupEnv name .text (strs l) (strs (Configuration.overField lookupEnv
      (fun s => some ((s.splitOn ",").map trimSpace)) name l)) := by
  apply walks_of_parse rfl
  · intro hvar
    simp only [Configuration.overField, hvar]
  · intro s' hvar
    simp only [Configuration.overField, hvar]
    exact ⟨rfl, rfl⟩

theorem walks_flag (b : Bool) :
    Walks P lookupEnv name .bool (flag b)
      (flag (Configuration.overField lookupEnv parseBool name b)) := by
  apply walks_of_parse rfl
  · intro hvar
    simp only [Configuration.overField, hvar]
  · intro s' hvar
    simp only [Configuration.overField, hvar, Kind.accepts, flag, Value.parse,
      Scalar.parse, Value.allocated]
    cases parseBool s' <;> exact ⟨rfl, rfl⟩

theorem walks_servers (l : List ICEServerConfig) :
    Walks P lookupEnv name .servers (servers l)
      (servers (Configuration.overField lookupEnv P.unmarshalICEServers name l)) := by
  apply walks_of_parse rfl
  · intro hvar
    simp only [Configuration.overField, hvar]
  · intro s' hvar
    simp only [Configuration.overField, hvar, Kind.accepts, servers, Value.parse,
      Scalar.parse, Value.allocated]
    cases P.unmarshalICEServers s' <;> exact ⟨rfl, rfl⟩

theorem walks_boolPtr (o : Option Bool) :
    Walks P lookupEnv name .bool (boolPtr o)
      (boolPtr (Configuration.overBool lookupEnv name o)) := by
  apply walks_of_parse (by cases o <;> rfl)
  · intro hvar
    simp only [Configuration.overBool, Configuration.overPtr, hvar]
  · intro s' hvar
    simp only [Configuration.overBool, Configuration.overPtr, hvar, Kind.accepts]
    cases o <;>
      simp only [boolPtr, flag, Value.parse, Scalar.parse, Value.allocated] <;>
      cases parseBool s' <;> exact ⟨rfl, rfl⟩

theorem walks_intPtr (o : Option Int) :
    Walks P lookupEnv name .int (intPtr o)
      (intPtr (Configuration.overInt lookupEnv name o)) := by
  apply walks_of_parse (by cases o <;> rfl)
  · intro hvar
    simp only [Configuration.overInt, Configuration.overPtr, hvar]
  · intro s' hvar
    have hfits : (parseInt s').filter (fun n => !overflowInt 64 n) = parseInt s' := by
      cases hparse : parseInt s' with
      | none => rfl
      | some n => simp [Option.filter, parseInt_fits hparse]
    simp only [Configuration.overInt, Configuration.overPtr, hvar, Kind.accepts]
    cases o <;>
      simp only [intPtr, Value.parse, Scalar.parse, Value.allocated, hfits] <;>
      cases parseInt s' <;> exact ⟨rfl, rfl⟩

end Kinds

/-- Fields one after the other. -/
theorem walk_cons {name : String} {kind : Kind} {v v' : FieldValue}
    {rest rest' : Fields Unit (List ICEServerConfig)} {kinds : List (String × Kind)}
    (h : Walks P lookupEnv name kind v v')
    (hrest : processStructFields P (callsEnviron lookupEnv) [] rest =
      (rest', kinds.flatMap (report P lookupEnv))) :
    processStructFields P (callsEnviron lookupEnv) [] (.cons (field name) v rest) =
      (.cons (field name) v' rest',
        ((name, kind) :: kinds).flatMap (report P lookupEnv)) := by
  unfold Walks at h
  unfold processStructFields
  rw [h, hrest]
  rfl

theorem processStructFields_clientConfig (c : Configuration) :
    processStructFields P (callsEnviron lookupEnv) [] (fieldsOf c.clientConfig.fields) =
      (fieldsOf (c.applyEnv P lookupEnv).clientConfig.fields,
        clientKinds.flatMap (report P lookupEnv)) := by
  simp only [ClientConfig.fields, fieldsOf, clientKinds, Configuration.applyEnv]
  iterate 19
    refine walk_cons (by first
      | exact walks_str _ _ | exact walks_strs _ _ | exact walks_servers _ _
      | exact walks_flag _ _ | exact walks_boolPtr _ _ | exact walks_intPtr _ _) ?_
  rfl

/-- The embedded struct. -/
theorem walk_embedded {inner inner' : Fields Unit (List ICEServerConfig)}
    {l : List (FieldPath × String)}
    (h : processStructFields P (callsEnviron lookupEnv) [] inner = (inner', l)) :
    processStructFields P (callsEnviron lookupEnv) []
        (.cons ⟨"ClientConfig", true, true⟩ (.struct inner) .nil) =
      (.cons ⟨"ClientConfig", true, true⟩ (.struct inner') .nil, l) := by
  show (Fields.cons _ (.struct
    (processStructFields P (callsEnviron lookupEnv) [] inner).1) .nil,
    (processStructFields P (callsEnviron lookupEnv) [] inner).2 ++ []) = _
  rw [h, List.append_nil]

theorem processStructFields_configuration (c : Configuration) :
    processStructFields P (callsEnviron lookupEnv) [] (fieldsOf c.fields) =
      (fieldsOf (c.applyEnv P lookupEnv).fields, reported P lookupEnv) := by
  have hclient : processStructFields P (callsEnviron lookupEnv) []
      (fieldsOf c.clientConfig.fields) =
      _ := processStructFields_clientConfig c
  simp only [Configuration.fields, fieldsOf, reported, ownKinds, List.cons_append,
    List.nil_append]
  iterate 24
    refine walk_cons (by first
      | exact walks_str _ _ | exact walks_boolPtr _ _ | exact walks_intPtr _ _) ?_
  exact walk_embedded hclient

end Walk

/-- **Overrides by reflection**: the walk over the configuration computes the overrides
field by field, and reports the variables that are set and parse, whatever the
configuration. -/
theorem applyEnvOverrides_configuration (P : Parsers Unit (List ICEServerConfig))
    (lookupEnv : String → Option String) (c : Configuration) :
    applyEnvOverrides P lookupEnv "MM_CALLS" c.toValue =
      ((c.applyEnv P lookupEnv).toValue, reported P lookupEnv) := by
  have hfields : processStructFields P (callsEnviron lookupEnv) []
      (fieldsOf c.fields) = _ :=
    processStructFields_configuration c
  show (Value.ptr (.struct (processStructFields P (callsEnviron lookupEnv) []
    (fieldsOf c.fields)).1), (processStructFields P (callsEnviron lookupEnv) []
    (fieldsOf c.fields)).2) = _
  rw [hfields]
  rfl

end CallsPlugin.Ports.Config
