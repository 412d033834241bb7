import Mathlib.Tactic.Common

/-!
# The timing of a cluster mutex (`server/cluster/mutex.go`)

`NewMutex` checks the three intervals as durations, in nanoseconds; the entries of
the KV store carry their expiry in whole seconds, and 0 there stands for none.  The
plugin API is a parameter: any state and any reply of the KV store.

A mutex is `Timely` when every entry it writes expires, no earlier than in a
second and later than the next refresh.  It is exactly when its TTL reaches one
second, which `IsValid` does not ask for.
-/

namespace CallsPlugin.Ports.Cluster

/-- `time.Second`: a `time.Duration` counts nanoseconds. -/
def second : Int := 1000000000

/-- `time.Millisecond`. -/
def millisecond : Int := 1000000

def mutexPrefix : String := "mutex_"

def defaultTTL : Int := 10 * second

def defaultRefreshInterval : Int := defaultTTL.tdiv 2

def defaultPollInterval : Int := 500 * millisecond

def maxPollInterval : Int := 1 * second

structure MutexConfig where
  TTL : Int
  RefreshInterval : Int
  PollInterval : Int
  MetricsGroup : String
  deriving DecidableEq, Repr

namespace MutexConfig

def setDefaults (c : MutexConfig) : MutexConfig where
  TTL := if c.TTL = 0 then defaultTTL else c.TTL
  RefreshInterval :=
    if c.RefreshInterval = 0 then defaultRefreshInterval else c.RefreshInterval
  PollInterval := if c.PollInterval = 0 then defaultPollInterval else c.PollInterval
  MetricsGroup := c.MetricsGroup

def isValid (c : MutexConfig) : Except String Unit :=
  if c.TTL ≤ 0 then
    .error "TTL should be positive"
  else if c.RefreshInterval ≤ 0 then
    .error "RefreshInterval should be positive"
  else if c.PollInterval ≤ 0 then
    .error "PollInterval should be positive"
  else if c.PollInterval > maxPollInterval then
    .error "PollInterval should not be higher than 1s"
  else if c.RefreshInterval > c.TTL.tdiv 2 then
    .error "RefreshInterval should not be higher than half the TTL"
  else
    .ok ()

/-- What an accepted configuration satisfies. -/
theorem of_isValid {c : MutexConfig} (h : c.isValid = .ok ()) :
    0 < c.TTL ∧ 0 < c.RefreshInterval ∧ 0 < c.PollInterval ∧
      c.PollInterval ≤ maxPollInterval ∧ c.RefreshInterval ≤ c.TTL.tdiv 2 := by
  unfold isValid at h
  split at h
  · cases h
  · split at h
    · cases h
    · split at h
      · cases h
      · split at h
        · cases h
        · split at h
          · cases h
          · omega

theorem setDefaults_TTL (c : MutexConfig) :
    second ≤ c.setDefaults.TTL ↔ c.TTL = 0 ∨ second ≤ c.TTL := by
  by_cases hTTL : c.TTL = 0
  · simp [setDefaults, hTTL, defaultTTL, second]
  · simp [setDefaults, hTTL]

end MutexConfig

/-- The part of `Mutex` that `NewMutex` sets and nothing changes afterwards. -/
structure Mutex where
  key : String
  config : MutexConfig
  deriving DecidableEq, Repr

def newMutex (key : String) (cfg : MutexConfig) : Except String Mutex :=
  if key = "" then
    .error "key should not be empty"
  else
    match cfg.setDefaults.isValid with
    | .error err => .error err
    | .ok () => .ok { key := mutexPrefix ++ key, config := cfg.setDefaults }

/-- `model.PluginKVSetOptions`. -/
structure PluginKVSetOptions where
  Atomic : Bool
  OldValue : Option (List UInt8)
  ExpireInSeconds : Int
  deriving DecidableEq, Repr

/-- How long the store keeps an entry: 0 seconds is no expiry. -/
def PluginKVSetOptions.expiry (options : PluginKVSetOptions) : Option Int :=
  if options.ExpireInSeconds = 0 then none else some (options.ExpireInSeconds * second)

/-- A call of `KVSetWithOptions`. -/
structure KVSet where
  key : String
  value : List UInt8
  options : PluginKVSetOptions
  deriving DecidableEq, Repr

/-- The plugin API over its own state: whether the entry was set, or an error. -/
structure MutexPluginAPI (σ : Type) where
  KVSetWithOptions : KVSet → σ → Except String Bool × σ

namespace Mutex

/-- The call that sets the key if its value is `oldValue`. -/
def set (m : Mutex) (oldValue : Option (List UInt8)) : KVSet where
  key := m.key
  value := [1]
  options :=
    { Atomic := true
      OldValue := oldValue
      ExpireInSeconds := m.config.TTL.tdiv second }

variable {σ : Type} (api : MutexPluginAPI σ) (m : Mutex)

def tryLock (s : σ) : Except String Bool × σ :=
  match api.KVSetWithOptions (m.set none) s with
  | (.error err, s') => (.error s!"failed to set mutex kv: {err}", s')
  | (.ok ok, s') => (.ok ok, s')

def refreshLock (s : σ) : Except String Unit × σ :=
  match api.KVSetWithOptions (m.set (some [1])) s with
  | (.error err, s') => (.error s!"failed to refresh mutex kv: {err}", s')
  | (.ok false, s') => (.error "unexpectedly failed to refresh mutex kv", s')
  | (.ok true, s') => (.ok (), s')

/-- The two writers of the key. -/
inductive Writer where
  | tryLock
  | refreshLock
  deriving DecidableEq, Repr

/-- The state one attempt to write leaves. -/
def write (s : σ) : Writer → σ
  | .tryLock => (m.tryLock api s).2
  | .refreshLock => (m.refreshLock api s).2

end Mutex

/-- The plugin API with the calls that set an entry written down. -/
def MutexPluginAPI.recorded {σ : Type} (api : MutexPluginAPI σ) :
    MutexPluginAPI (σ × List KVSet) where
  KVSetWithOptions call s :=
    match api.KVSetWithOptions call s.1 with
    | (.ok true, s') => (.ok true, (s', s.2 ++ [call]))
    | (reply, s') => (reply, (s', s.2))

namespace Mutex

/-- The entries written in the course of any attempts to lock and to refresh. -/
def written {σ : Type} (m : Mutex) (api : MutexPluginAPI σ) (s : σ)
    (ops : List Writer) :
    List KVSet :=
  (ops.foldl (m.write api.recorded) (s, [])).2

/-- The entry expires, no earlier than in a second and after the next refresh. -/
def Outlasts (m : Mutex) (call : KVSet) : Prop :=
  ∃ expiry, call.options.expiry = some expiry ∧ second ≤ expiry ∧
    m.config.RefreshInterval < expiry

/-- Every entry the mutex ever writes is one of its key that outlasts a refresh. -/
def Timely (m : Mutex) : Prop :=
  ∀ (σ : Type) (api : MutexPluginAPI σ) (s : σ) (ops : List Writer),
    ∀ call ∈ m.written api s ops, call.key = m.key ∧ m.Outlasts call

theorem tryLock_state {σ : Type} (m : Mutex) (api : MutexPluginAPI σ) (s : σ) :
    (m.tryLock api s).2 = (api.KVSetWithOptions (m.set none) s).2 := by
  unfold tryLock
  split
  · next hCall => rw [hCall]
  · next hCall => rw [hCall]

theorem refreshLock_state {σ : Type} (m : Mutex) (api : MutexPluginAPI σ) (s : σ) :
    (m.refreshLock api s).2 = (api.KVSetWithOptions (m.set (some [1])) s).2 := by
  unfold refreshLock
  split
  · next hCall => rw [hCall]
  · next hCall => rw [hCall]
  · next hCall => rw [hCall]

theorem mem_recorded {σ : Type} {api : MutexPluginAPI σ} {call call' : KVSet}
    {s : σ × List KVSet} (h : call' ∈ (api.recorded.KVSetWithOptions call s).2.2) :
    call' ∈ s.2 ∨ call' = call := by
  unfold MutexPluginAPI.recorded at h
  dsimp only at h
  split at h
  · rw [List.mem_append, List.mem_singleton] at h
    exact h
  · exact .inl h

/-- One attempt to write adds no other call than one that sets the key. -/
theorem mem_write {σ : Type} {m : Mutex} {api : MutexPluginAPI σ} {s : σ × List KVSet}
    {op : Writer} {call : KVSet} (h : call ∈ (m.write api.recorded s op).2) :
    call ∈ s.2 ∨ ∃ oldValue, call = m.set oldValue := by
  cases op with
  | tryLock =>
      have hCall : call ∈ (m.tryLock api.recorded s).2.2 := h
      rw [tryLock_state] at hCall
      exact (mem_recorded hCall).imp_right fun hEq => ⟨none, hEq⟩
  | refreshLock =>
      have hCall : call ∈ (m.refreshLock api.recorded s).2.2 := h
      rw [refreshLock_state] at hCall
      exact (mem_recorded hCall).imp_right fun hEq => ⟨some [1], hEq⟩

theorem mem_written {σ : Type} {m : Mutex} {api : MutexPluginAPI σ} {ops : List Writer}
    {call : KVSet} {s : σ × List KVSet}
    (h : call ∈ (ops.foldl (m.write api.recorded) s).2) :
    call ∈ s.2 ∨ ∃ oldValue, call = m.set oldValue := by
  induction ops generalizing s with
  | nil => exact .inl h
  | cons op ops ih =>
      cases ih h with
      | inl hCall => exact mem_write hCall
      | inr hSet => exact .inr hSet

/-- A store that sets whatever it is asked to. -/
def obliging : MutexPluginAPI Unit where
  KVSetWithOptions _ _ := (.ok true, ())

theorem written_obliging (m : Mutex) :
    m.written obliging () [.tryLock] = [m.set none] := rfl

/-- A mutex is timely as soon as the entries its two methods ask for outlast a
refresh. -/
theorem timely_iff (m : Mutex) :
    m.Timely ↔ ∀ oldValue, m.Outlasts (m.set oldValue) := by
  constructor
  · intro h oldValue
    obtain ⟨_, hOut⟩ := h Unit obliging () [.tryLock] (m.set none) (by
      rw [written_obliging]
      exact List.mem_singleton_self _)
    exact hOut
  · intro h σ api s ops call hCall
    cases mem_written hCall with
    | inl hNil => cases hNil
    | inr hSet =>
        obtain ⟨oldValue, rfl⟩ := hSet
        exact ⟨rfl, h oldValue⟩

/-- The whole seconds of a positive TTL: at least one of them exactly when the TTL
reaches one, and then half the TTL is less than they are. -/
theorem wholeSeconds {TTL RefreshInterval : Int} (hTTL : 0 < TTL)
    (hHalf : RefreshInterval ≤ TTL.tdiv 2) :
    (TTL.tdiv second ≠ 0 ↔ second ≤ TTL) ∧
      (second ≤ TTL → second ≤ TTL.tdiv second * second ∧
        RefreshInterval < TTL.tdiv second * second) := by
  rw [Int.tdiv_eq_ediv_of_nonneg (by omega)] at hHalf
  rw [Int.tdiv_eq_ediv_of_nonneg (by omega)]
  unfold second
  omega

/-- For an accepted configuration the entries outlast a refresh exactly when the TTL
is not below one second. -/
theorem outlasts_set {m : Mutex} (hValid : m.config.isValid = .ok ())
    (oldValue : Option (List UInt8)) :
    m.Outlasts (m.set oldValue) ↔ second ≤ m.config.TTL := by
  obtain ⟨hTTL, _, _, _, hHalf⟩ := MutexConfig.of_isValid hValid
  obtain ⟨hZero, hWhole⟩ := wholeSeconds hTTL hHalf
  constructor
  · rintro ⟨expiry, hExpiry, _⟩
    apply hZero.mp
    intro hNone
    simp [PluginKVSetOptions.expiry, set, hNone] at hExpiry
  · intro hSecond
    have hExpiry : (m.set oldValue).options.expiry =
        some (m.config.TTL.tdiv second * second) :=
      if_neg (hZero.mpr hSecond)
    exact ⟨_, hExpiry, hWhole hSecond⟩

end Mutex

theorem of_newMutex {key : String} {cfg : MutexConfig} {m : Mutex}
    (h : newMutex key cfg = .ok m) :
    m.config = cfg.setDefaults ∧ m.config.isValid = .ok () := by
  unfold newMutex at h
  split at h
  · cases h
  · split at h
    · cases h
    · next hValid =>
        cases h
        exact ⟨rfl, hValid⟩

/-- **The accepted configurations whose entries expire in time**: those with a TTL of
a second or more, or with the default one. -/
theorem newMutex_timely_iff {key : String} {cfg : MutexConfig} {m : Mutex}
    (h : newMutex key cfg = .ok m) : m.Timely ↔ cfg.TTL = 0 ∨ second ≤ cfg.TTL := by
  obtain ⟨hConfig, hValid⟩ := of_newMutex h
  have hSet : (∀ oldValue, m.Outlasts (m.set oldValue)) ↔ second ≤ m.config.TTL :=
    ⟨fun hAll => (Mutex.outlasts_set hValid none).mp (hAll none),
      fun hSecond oldValue => (Mutex.outlasts_set hValid oldValue).mpr hSecond⟩
  rw [Mutex.timely_iff, hSet, hConfig]
  exact cfg.setDefaults_TTL

/-- The mutex of a call, as `lockCall` makes it. -/
theorem newMutex_timely_call : ∃ m,
    newMutex "call_chan" ⟨4 * second, 1 * second, 50 * millisecond, "mutex_call"⟩ =
      .ok m ∧
      m.Timely := by
  have hNew : newMutex "call_chan" ⟨4 * second, 1 * second, 50 * millisecond,
      "mutex_call"⟩ =
      .ok ⟨"mutex_call_chan",
        ⟨4 * second, 1 * second, 50 * millisecond, "mutex_call"⟩⟩ := by
    decide
  exact ⟨_, hNew, (newMutex_timely_iff hNew).mpr (.inr (by decide))⟩

/-- A TTL of 900 ms is accepted, and the entries it writes never expire. -/
theorem newMutex_never_expires :
    ∃ m, newMutex "call" ⟨900 * millisecond, 400 * millisecond, 0, ""⟩ = .ok m ∧
      ¬ m.Timely := by
  refine ⟨_, rfl, ?_⟩
  intro h
  obtain ⟨_, expiry, hExpiry, _⟩ := h Unit Mutex.obliging () [.tryLock] _
    (List.mem_singleton_self _)
  cases hExpiry

end CallsPlugin.Ports.Cluster
