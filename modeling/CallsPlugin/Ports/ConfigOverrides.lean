import Mathlib.Data.List.DropRight
import CallsPlugin.Ports.Configuration

/-!
# What defaults, overrides and copies keep

A configuration with its defaults is complete, and stays complete (`Complete`). 
Overrides are permanent: where they were made, making them again changes nothing that
`Clone` copies, and the deprecated variable of the limit on participants decides the
limit where the other one is not set (`EnvWins`).
-/

namespace CallsPlugin.Ports.Config

open CallsPlugin.Ports.Environment CallsPlugin.Ports.Licensing

/-! ## Texts -/

/-- What starts with no space has a start with none. -/
theorem dropWhile_of_prefix {α : Type} {p : α → Bool} {l l' : List α} (hl : l' <+: l)
    (h : l.dropWhile p = l) : l'.dropWhile p = l' := by
  rw [List.dropWhile_eq_self_iff] at h ⊢
  intro hpos
  rw [hl.getElem hpos]
  exact h (hpos.trans_le hl.length_le)

@[simp] theorem trimSpace_trimSpace (s : String) :
    trimSpace (trimSpace s) = trimSpace s := by
  have hstart := List.dropWhile_idempotent isSpace s.toList
  have hend := dropWhile_of_prefix (List.rdropWhile_prefix isSpace (l := _)) hstart
  unfold List.rdropWhile at hend
  unfold trimSpace
  rw [String.toList_ofList, hend, List.reverse_reverse, List.dropWhile_idempotent]

namespace Configuration

variable {tr : Transcriber} {P : Parsers Unit (List ICEServerConfig)}
  {lookupEnv : String → Option String} {ls : Licenses} {c c' : Configuration}

/-! ## Fields -/

section Fields

variable {α : Type} {zero : α} {parse : String → Option α} {name : String}

/-- An override is made once and for all. -/
@[simp] theorem overField_overField (old : α) :
    overField lookupEnv parse name (overField lookupEnv parse name old) =
    overField lookupEnv parse name old := by
  unfold overField
  cases fieldVar lookupEnv name with
  | none => rfl
  | some s =>
      dsimp only
      cases parse s <;> rfl

@[simp] theorem overPtr_overPtr (old : Option α) :
    overPtr lookupEnv zero parse name (overPtr lookupEnv zero parse name old) =
      overPtr lookupEnv zero parse name old := by
  unfold overPtr
  cases fieldVar lookupEnv name with
  | none => rfl
  | some s =>
      dsimp only
      cases parse s <;> rfl

/-- A text is overridden as a whole, so that it may have been trimmed in between. -/
@[simp] theorem trimSpace_overString (old : String) :
    trimSpace (overString lookupEnv name (trimSpace (overString lookupEnv name old))) =
      trimSpace (overString lookupEnv name old) := by
  unfold overString overField
  cases fieldVar lookupEnv name with
  | none => exact trimSpace_trimSpace old
  | some s => rfl

theorem isSome_overPtr {old : Option α} (h : old.isSome = true) :
    (overPtr lookupEnv zero parse name old).isSome = true := by
  unfold overPtr
  cases fieldVar lookupEnv name with
  | none => exact h
  | some s => rfl

/-- A variable that does not parse leaves a pointer alone. -/
theorem overPtr_some {a : α}
    (h : ∀ s, fieldVar lookupEnv name = some s → parse s = none) :
    overPtr lookupEnv zero parse name (some a) = some a := by
  unfold overPtr
  cases hvar : fieldVar lookupEnv name with
  | none => rfl
  | some s =>
      dsimp only
      rw [h s hvar]
      rfl

/-- A field whose variable is not set. -/
theorem overField_unset {old : α} (h : fieldVar lookupEnv name = none) :
    overField lookupEnv parse name old = old := by
  unfold overField
  rw [h]

theorem overPtr_unset {old : Option α} (h : fieldVar lookupEnv name = none) :
    overPtr lookupEnv zero parse name old = old := by
  unfold overPtr
  rw [h]

end Fields

/-- `DefaultEnabled` is another. -/
def withDefaultEnabled (c : Configuration) (o : Option Bool) : Configuration :=
  { c with clientConfig := { c.clientConfig with defaultEnabled := o } }

/-! ## Completeness -/

/-- No pointer with a default is nil. -/
structure Complete (c : Configuration) : Prop where
  udpServerPort : c.udpServerPort.isSome = true
  tcpServerPort : c.tcpServerPort.isSome = true
  turnCredentialsExpirationMinutes : c.turnCredentialsExpirationMinutes.isSome = true
  serverSideTURN : c.serverSideTURN.isSome = true
  enableIPv6 : c.enableIPv6.isSome = true
  enableRinging : c.enableRinging.isSome = true
  transcriberNumThreads : c.transcriberNumThreads.isSome = true
  enableLiveCaptions : c.enableLiveCaptions.isSome = true
  liveCaptionsNumTranscribers : c.liveCaptionsNumTranscribers.isSome = true
  liveCaptionsNumThreadsPerTranscriber :
    c.liveCaptionsNumThreadsPerTranscriber.isSome = true
  allowEnableCalls : c.clientConfig.allowEnableCalls.isSome = true
  defaultEnabled : c.clientConfig.defaultEnabled.isSome = true
  maxCallParticipants : c.clientConfig.maxCallParticipants.isSome = true
  allowScreenSharing : c.clientConfig.allowScreenSharing.isSome = true
  enableRecordings : c.clientConfig.enableRecordings.isSome = true
  enableTranscriptions : c.clientConfig.enableTranscriptions.isSome = true
  maxRecordingDuration : c.clientConfig.maxRecordingDuration.isSome = true
  enableSimulcast : c.clientConfig.enableSimulcast.isSome = true
  enableAV1 : c.clientConfig.enableAV1.isSome = true
  enableDCSignaling : c.clientConfig.enableDCSignaling.isSome = true
  enableVideo : c.clientConfig.enableVideo.isSome = true

theorem complete_setDefaults (c : Configuration) : (c.setDefaults tr).Complete := by
  constructor <;> rfl

theorem Complete.applyEnv (h : c.Complete) : (c.applyEnv P lookupEnv).Complete := by
  cases h
  constructor <;> (apply isSome_overPtr; assumption)

theorem Complete.allowingCalls (h : c.Complete) : c.allowingCalls.Complete := by
  cases h
  constructor <;> first | rfl | assumption

theorem Complete.enabledByDefault (h : c.Complete) :
    (c.withDefaultEnabled (some true)).Complete := by
  cases h
  constructor <;> first | rfl | assumption

theorem Complete.trimmed (h : c.Complete) : c.trimmed.Complete := by
  cases h
  constructor <;> assumption

theorem Complete.clone (h : c.Complete) : c.clone.Complete := by
  cases h
  constructor <;> first | rfl | assumption

theorem Complete.setMaxCallParticipants (h : c.Complete) (n : Int) :
    ∃ c', c.setMaxCallParticipants n = some c' ∧ c'.Complete := by
  obtain ⟨m, hm⟩ := Option.isSome_iff_exists.1 h.maxCallParticipants
  refine ⟨_, by rw [Configuration.setMaxCallParticipants, hm]; rfl, ?_⟩
  cases h
  constructor <;> first | rfl | assumption

theorem Complete.setDefaultEnabled (h : c.Complete) :
    ∃ c', c.setDefaultEnabled = some c' ∧ c'.Complete := by
  obtain ⟨b, hb⟩ := Option.isSome_iff_exists.1 h.defaultEnabled
  exact ⟨_, by rw [Configuration.setDefaultEnabled, hb]; rfl, h.enabledByDefault⟩

theorem Complete.overrideMaxParticipants (h : c.Complete) (license : Option License) :
    ∃ c', c.overrideMaxParticipants lookupEnv license = some c' ∧ c'.Complete := by
  unfold Configuration.overrideMaxParticipants
  split
  next => exact ⟨c, rfl, h⟩
  next =>
    split
    next =>
      split
      next n _ => exact h.setMaxCallParticipants n
      next => exact ⟨c, rfl, h⟩
    next =>
      split
      next => exact h.setMaxCallParticipants _
      next => exact ⟨c, rfl, h⟩

theorem Complete.overrideDefaultEnabled (h : c.Complete) (license : Option License) :
    ∃ c', c.overrideDefaultEnabled license = some c' ∧ c'.Complete := by
  unfold Configuration.overrideDefaultEnabled
  split
  next => exact h.setDefaultEnabled
  next => exact ⟨c, rfl, h⟩

/-- **Overrides** of a complete configuration dereference no nil pointer. -/
theorem Complete.setOverrides (h : c.Complete) (ls : Licenses) :
    ∃ c', c.setOverrides P lookupEnv ls = some c' ∧ c'.Complete := by
  have hallowing : (c.applyEnv P lookupEnv).allowingCalls.Complete :=
    h.applyEnv.allowingCalls
  obtain ⟨c₁, h₁, hc₁⟩ := hallowing.overrideDefaultEnabled ls.forDefaultEnabled
  obtain ⟨c₂, h₂, hc₂⟩ : ∃ c₂,
      c₁.overrideMaxParticipants lookupEnv ls.forMaxParticipants = some c₂ ∧
      c₂.Complete :=
    hc₁.overrideMaxParticipants ls.forMaxParticipants
  refine ⟨c₂.trimmed, ?_, hc₂.trimmed⟩
  simp only [Configuration.setOverrides, h₁, h₂, Option.bind_eq_bind, Option.bind_some,
    Option.pure_def]

/-! ## Permanence -/

/-- The limit on participants is that of `MM_CALLS_MAX_PARTICIPANTS`, which is
deprecated, where that variable parses and `MM_CALLS_MAX_CALL_PARTICIPANTS` is not
set. -/
def DeprecatedLimit (lookupEnv : String → Option String) (c : Configuration) : Prop :=
  getenv lookupEnv "MM_CALLS_MAX_CALL_PARTICIPANTS" = "" →
    ∀ n, parseInt (getenv lookupEnv "MM_CALLS_MAX_PARTICIPANTS") = some n →
      c.clientConfig.maxCallParticipants = some n

/-- The overrides of the environment are made: but for `DefaultEnabled`, which may have
been set since, making them again changes nothing that `Clone` copies. -/
structure EnvWins (P : Parsers Unit (List ICEServerConfig))
    (lookupEnv : String → Option String) (c : Configuration) : Prop where
  again : ∃ o, ((c.withDefaultEnabled o).applyEnv P lookupEnv).trimmed.clone =
      (c.withDefaultEnabled o).clone ∧
    (c.clientConfig.defaultEnabled = o ∨ c.clientConfig.defaultEnabled = some true)
  deprecated : c.DeprecatedLimit lookupEnv

/-- What the overrides change besides the fields with variables. -/
def withOverrides (c : Configuration) (defaultEnabled : Option Bool)
    (max : Option Int) :
    Configuration :=
  { c with
    clientConfig :=
      { c.clientConfig with
        allowEnableCalls := some true
        defaultEnabled := defaultEnabled
        maxCallParticipants := max } }

/-- The limit on participants that is set where `MM_CALLS_MAX_CALL_PARTICIPANTS` is
not. -/
def LimitSet (lookupEnv : String → Option String) (n : Int) : Prop :=
  getenv lookupEnv "MM_CALLS_MAX_CALL_PARTICIPANTS" = "" ∧
    (parseInt (getenv lookupEnv "MM_CALLS_MAX_PARTICIPANTS") = some n ∨ 0 ≤ n)

theorem overrideMaxParticipants_eq {license : Option License}
    (h : c.overrideMaxParticipants lookupEnv license = some c') :
    c' = c ∨ ∃ n, LimitSet lookupEnv n ∧ c.setMaxCallParticipants n = some c' := by
  unfold overrideMaxParticipants at h
  split at h
  next => exact .inl (Option.some.inj h).symm
  next hunset =>
    split at h
    next =>
      split at h
      next n hn => exact .inr ⟨n, ⟨not_not.1 hunset, .inl hn⟩, h⟩
      next => exact .inl (Option.some.inj h).symm
    next =>
      split at h
      next =>
        refine .inr ⟨_, ⟨not_not.1 hunset, .inr ?_⟩, h⟩
        split <;> decide
      next => exact .inl (Option.some.inj h).symm

/-- **What the overrides do** -/
theorem setOverrides_eq (h : c.setOverrides P lookupEnv ls = some c') :
    ∃ defaultEnabled max,
      c' = ((c.applyEnv P lookupEnv).withOverrides defaultEnabled max).trimmed ∧
      (defaultEnabled = (c.applyEnv P lookupEnv).clientConfig.defaultEnabled ∨
        defaultEnabled = some true) ∧
      (max = (c.applyEnv P lookupEnv).clientConfig.maxCallParticipants ∨
        ∃ n, max = some n ∧ LimitSet lookupEnv n) := by
  simp only [setOverrides, Option.bind_eq_bind, Option.pure_def,
    Option.bind_eq_some_iff] at h
  obtain ⟨c₁, h₁, c₂, h₂, h₃⟩ := h
  cases h₃
  have hdefault : ∃ o,
      c₁ = (c.applyEnv P lookupEnv).allowingCalls.withDefaultEnabled o ∧
      (o = (c.applyEnv P lookupEnv).clientConfig.defaultEnabled ∨ o = some true) := by
    unfold overrideDefaultEnabled setDefaultEnabled at h₁
    split at h₁
    next =>
      obtain ⟨b, -, rfl⟩ := Option.map_eq_some_iff.1 h₁
      exact ⟨some true, rfl, .inr rfl⟩
    next => exact ⟨_, (Option.some.inj h₁).symm, .inl rfl⟩
  obtain ⟨o, rfl, ho⟩ := hdefault
  rcases overrideMaxParticipants_eq h₂ with rfl | ⟨n, hlimit, hn⟩
  · exact ⟨o, _, rfl, ho, .inl rfl⟩
  · obtain ⟨m, -, rfl⟩ := Option.map_eq_some_iff.1 hn
    exact ⟨o, some n, rfl, ho, .inr ⟨n, rfl, hlimit⟩⟩

/-- The variable of the limit on participants, if it is set at all, is empty. -/
theorem maxCallParticipants_unset
    (h : getenv lookupEnv "MM_CALLS_MAX_CALL_PARTICIPANTS" = "") {s : String}
    (hs : fieldVar lookupEnv "MaxCallParticipants" = some s) : parseInt s = none := by
  have hkey : "MM_CALLS_" ++ fieldNameToEnvKey "MaxCallParticipants" =
      "MM_CALLS_MAX_CALL_PARTICIPANTS" := by
    decide
  unfold fieldVar at hs
  rw [hkey] at hs
  unfold getenv at h
  rw [hs] at h
  obtain rfl : s = "" := h
  decide

theorem deprecatedLimit_overrideMaxParticipants {license : Option License}
    (h : c.overrideMaxParticipants lookupEnv license = some c') :
    c'.DeprecatedLimit lookupEnv := by
  intro hunset n hn
  have hset : getenv lookupEnv "MM_CALLS_MAX_PARTICIPANTS" ≠ "" := by
    intro hempty
    have hnone : parseInt "" = none := by decide
    rw [hempty, hnone] at hn
    cases hn
  rw [overrideMaxParticipants, if_neg (not_not.2 hunset), if_pos hset, hn] at h
  obtain ⟨m, -, rfl⟩ := Option.map_eq_some_iff.1 h
  rfl

/-- The deprecated variable is looked at after the others. -/
theorem deprecatedLimit_setOverrides (h : c.setOverrides P lookupEnv ls = some c') :
    c'.DeprecatedLimit lookupEnv := by
  simp only [setOverrides, Option.bind_eq_bind, Option.pure_def,
    Option.bind_eq_some_iff] at h
  obtain ⟨c₁, -, c₂, h₂, h₃⟩ := h
  cases h₃
  have hlimit : c₂.DeprecatedLimit lookupEnv :=
    deprecatedLimit_overrideMaxParticipants h₂
  exact hlimit

/-- **Overrides are permanent**. -/
theorem envWins_setOverrides (h : c.setOverrides P lookupEnv ls = some c') :
    c'.EnvWins P lookupEnv := by
  refine ⟨?_, deprecatedLimit_setOverrides h⟩
  obtain ⟨o, max, rfl, ho, hmax⟩ := setOverrides_eq h
  refine ⟨(c.applyEnv P lookupEnv).clientConfig.defaultEnabled, ?_, ho⟩
  have hsame : overInt lookupEnv "MaxCallParticipants" max = max := by
    rcases hmax with rfl | ⟨n, rfl, hlimit⟩
    · exact overPtr_overPtr _
    · exact overPtr_some fun s hs => maxCallParticipants_unset hlimit.1 hs
  simp only [applyEnv, trimmed, clone, withDefaultEnabled, withOverrides,
    overField_overField, overPtr_overPtr, trimSpace_overString, hsame]

theorem EnvWins.clone (h : c.EnvWins P lookupEnv) : c.clone.EnvWins P lookupEnv := by
  obtain ⟨⟨o, hsame, ho⟩, hlimit⟩ := h
  exact ⟨⟨o, hsame, ho⟩, hlimit⟩

theorem EnvWins.enabledByDefault (h : c.EnvWins P lookupEnv) :
    (c.withDefaultEnabled (some true)).EnvWins P lookupEnv := by
  obtain ⟨⟨o, hsame, -⟩, hlimit⟩ := h
  exact ⟨⟨o, hsame, .inr rfl⟩, hlimit⟩

end Configuration

end CallsPlugin.Ports.Config
