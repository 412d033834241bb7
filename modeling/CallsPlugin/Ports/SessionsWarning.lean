import CallsPlugin.Verified.Machine
import CallsPlugin.Verified.Backoff
import CallsPlugin.Ports.MutexConfig

/-!
# The warning about many sessions (`server/limits.go`)

Without RTCD, every session that joins a call on any node of the cluster may warn the
admins that there are many of them.  `shouldSendConcurrentSessionsWarning` counts the
sessions and then sets a key that expires after the backoff time; whoever sets it warns.
Any number of checks run here on any nodes, each with the threshold and the backoff time
of its node's environment.  What the count is, is left open.  The KV store is a
parameter, of which only what is documented is assumed; a call that fails may have set
the key.

Times are nanoseconds, as for `time.Duration`.  `Seconds` of a duration is exact here:
its rounding to a float64 shows only in times of more than half a year that are not
whole seconds.
-/

namespace CallsPlugin.Ports.SessionsWarning

open CallsPlugin.Verified
open CallsPlugin.Ports.Cluster

def concurrentSessionsThresholdDefault : Int := 50

/-- One week. -/
def concurrentSessionsWarningBackoffTimeDefault : Int := 24 * 7 * (3600 * second)

/-- What a node has read: whether it has an RTCD manager, and the two variables of its
environment as `strconv.Atoi` and `time.ParseDuration` understand them. -/
structure WarningNode where
  rtcdManager : Bool
  threshold : Option Int
  backoff : Option Int
  deriving DecidableEq, Repr

def WarningNode.getConcurrentSessionsThreshold (n : WarningNode) : Int :=
  n.threshold.getD concurrentSessionsThresholdDefault

def WarningNode.getConcurrentSessionsWarningBackoffTime (n : WarningNode) : Int :=
  n.backoff.getD concurrentSessionsWarningBackoffTimeDefault

/-- The call that sets the key. -/
def WarningNode.set (n : WarningNode) : KVSet where
  key := "concurrent_sessions_warning"
  value := [1]
  options :=
    { Atomic := true
      OldValue := none
      ExpireInSeconds := n.getConcurrentSessionsWarningBackoffTime.tdiv second }

/-- A value of the KV store. -/
structure KVEntry where
  value : List UInt8
  expiresAt : Option Int
  deriving DecidableEq, Repr

/-- The value is there still. -/
def KVEntry.live (now : Nat) (e : KVEntry) : Bool := ∀ t ∈ e.expiresAt, (now : Int) < t

/-- The KV store over its own state, at the times it is called.  The entry of the key,
and whether a call sets it, can be seen also where the call fails. -/
structure WarningKV (σ : Type) where
  KVSetWithOptions : Nat → KVSet → σ → Except String Bool × σ
  sets : Nat → KVSet → σ → Bool
  entry : σ → Option KVEntry

namespace WarningKV

variable {σ : Type} (kv : WarningKV σ)

/-- The value that is read. -/
def value (now : Nat) (s : σ) : Option (List UInt8) :=
  ((kv.entry s).filter (KVEntry.live now)).map KVEntry.value

/-- What is documented of `KVSetWithOptions`: it says whether it sets the key, which
then lasts for the time that is given, and otherwise stays as it is; and an atomic call
sets the key only if its value is the old one, and is refused only if it is not. -/
structure Documented : Prop where
  reply : ∀ {now call s ok}, (kv.KVSetWithOptions now call s).1 = .ok ok →
    kv.sets now call s = ok
  set : ∀ {now call s}, kv.sets now call s = true →
    kv.entry (kv.KVSetWithOptions now call s).2 =
      some ⟨call.value, call.options.expiry.map fun d => now + d⟩
  kept : ∀ {now call s}, kv.sets now call s = false →
    kv.entry (kv.KVSetWithOptions now call s).2 = kv.entry s
  atomic : ∀ {now call s}, call.options.Atomic = true → kv.sets now call s = true →
    kv.value now s = call.options.OldValue
  refused : ∀ {now call s}, call.options.Atomic = true →
    (kv.KVSetWithOptions now call s).1 = .ok false →
    kv.value now s ≠ call.options.OldValue

end WarningKV

/-- Where a check is. -/
inductive WarningPc where
  | count
  | set
  | returned (result : Except String Bool)
  deriving Repr

/-- A call of `shouldSendConcurrentSessionsWarning`. -/
structure WarningCheck where
  node : WarningNode
  pc : WarningPc
  deriving Repr

/-- The KV store and the checks so far; who has set the key, and when a check has found
it set. -/
structure Warnings (σ : Type) where
  now : Nat
  store : σ
  checks : List WarningCheck
  settings : List (Setting Nat)
  refused : List Nat

/-- Time passes, a session joins, or a check goes on, with the number of sessions if it
counts them. -/
inductive WarningAction where
  | tick (d : Nat)
  | join (node : WarningNode)
  | proceed (check : Nat) (sessions : Except String Int)

namespace Warnings

variable {σ : Type}

/-- A check goes on. -/
def goto (s : Warnings σ) (n : Nat) (check : WarningCheck) (pc : WarningPc) :
    Warnings σ :=
  { s with checks := s.checks.set n { check with pc := pc } }

/-- The check has called the KV store. -/
def called (kv : WarningKV σ) (s : Warnings σ) (n : Nat) (check : WarningCheck) :
    Warnings σ :=
  { s with
    store := (kv.KVSetWithOptions s.now check.node.set s.store).2
    settings :=
      if kv.sets s.now check.node.set s.store
      then ⟨n, s.now, check.node.set.options.expiry⟩ :: s.settings else s.settings }

/-- `shouldSendConcurrentSessionsWarning`, a step of it. -/
def next (kv : WarningKV σ) (s : Warnings σ) (n : Nat) (check : WarningCheck)
    (sessions : Except String Int) : Warnings σ :=
  match check.pc with
  | .count =>
      if check.node.rtcdManager then s.goto n check (.returned (.ok false))
      else
        match sessions with
        | .error err =>
            s.goto n check (.returned
              (.error s!"failed to get total active sessions: {err}"))
        | .ok count =>
            if count < check.node.getConcurrentSessionsThreshold then
              s.goto n check (.returned (.ok false))
            else s.goto n check .set
  | .set =>
      match (kv.KVSetWithOptions s.now check.node.set s.store).1 with
      | .error err =>
          (s.called kv n check).goto n check
            (.returned (.error s!"failed to set kv: {err}"))
      | .ok true => (s.called kv n check).goto n check (.returned (.ok true))
      | .ok false =>
          { (s.called kv n check).goto n check (.returned (.ok false)) with
            refused := s.now :: s.refused }
  | .returned _ => s

def step (kv : WarningKV σ) (s : Warnings σ) : WarningAction → Warnings σ
  | .tick d => { s with now := s.now + d }
  | .join node => { s with checks := s.checks ++ [⟨node, .count⟩] }
  | .proceed n sessions =>
      match s.checks[n]? with
      | some check => s.next kv n check sessions
      | none => s

/-- Any number of checks on any nodes. -/
def machine (kv : WarningKV σ) : Machine (Warnings σ) WarningAction :=
  ⟨fun _ _ => True, step kv⟩

instance (kv : WarningKV σ) (s : Warnings σ) (a : WarningAction) :
    Decidable ((machine kv).Enabled s a) :=
  inferInstanceAs (Decidable True)

/-- Nobody has checked. -/
def initial (store : σ) : Warnings σ := ⟨0, store, [], [], []⟩

/-- The check has told its caller to warn. -/
def Warns (s : Warnings σ) (n : Nat) (node : WarningNode) : Prop :=
  s.checks[n]? = some ⟨node, .returned (.ok true)⟩

/-- **Backing off**: every warning is one setting of the key for the backoff time of its
node, no two of them of one check; none was made while an earlier one lasted; and a
check that found many sessions was refused only while one lasted. -/
structure BacksOff (s : Warnings σ) : Prop where
  each : ∀ n node, s.Warns n node →
    ∃ w ∈ s.settings, w.setBy = n ∧ w.lasts = node.set.options.expiry
  once : (s.settings.map Setting.setBy).Nodup
  apart : Spaced s.settings
  refused : ∀ t ∈ s.refused, ∃ w ∈ s.settings, w.time ≤ t ∧ w.Covers t

end Warnings

/-! ## The key and its settings -/

/-- The value a setting leaves in the store. -/
def entryOf (w : Setting Nat) : KVEntry := ⟨[1], w.lasts.map fun d => w.time + d⟩

theorem live_entryOf {now : Nat} (w : Setting Nat) :
    (entryOf w).live now = true ↔ w.Covers now := by
  cases hlasts : w.lasts with
  | none => simp [KVEntry.live, entryOf, Setting.Covers, hlasts]
  | some d => simp [KVEntry.live, entryOf, Setting.Covers, hlasts]

section Value

variable {σ : Type} {kv : WarningKV σ} {now : Nat} {store : σ}
  {newest : Option (Setting Nat)}

/-- There is no value if the newest setting is past. -/
theorem value_eq_none (hentry : kv.entry store = newest.map entryOf) :
    kv.value now store = none ↔ ∀ w ∈ newest, ¬ w.Covers now := by
  unfold WarningKV.value
  rw [Option.map_eq_none_iff, hentry]
  cases newest with
  | none => simp
  | some w =>
      rw [Option.map_some, Option.filter_eq_none_iff]
      simp only [Option.some.injEq, forall_eq', live_entryOf, Option.mem_def]

end Value

namespace Warnings

variable {σ : Type} {kv : WarningKV σ} {s : Warnings σ} {n : Nat} {check : WarningCheck}

/-- The entry is the newest setting; the settings keep apart, and each is one of a check
that has returned. -/
structure Sound (kv : WarningKV σ) (s : Warnings σ) : Prop where
  entry : kv.entry s.store = s.settings.head?.map entryOf
  past : ∀ w ∈ s.settings, w.time ≤ s.now
  apart : Spaced s.settings
  refused : ∀ t ∈ s.refused, ∃ w ∈ s.settings, w.time ≤ t ∧ w.Covers t
  done : ∀ w ∈ s.settings, ∃ node result, s.checks[w.setBy]? =
    some ⟨node, .returned result⟩ ∧
    w.lasts = node.set.options.expiry
  once : (s.settings.map Setting.setBy).Nodup
  each : ∀ n node, s.Warns n node →
    ∃ w ∈ s.settings, w.setBy = n ∧ w.lasts = node.set.options.expiry

theorem getElem?_goto (hcheck : s.checks[n]? = some check) (pc : WarningPc) (m : Nat) :
    (s.goto n check pc).checks[m]? =
      if n = m then some { check with pc := pc } else s.checks[m]? := by
  unfold goto
  obtain ⟨hlt, -⟩ := List.getElem?_eq_some_iff.1 hcheck
  rw [List.getElem?_set, if_pos hlt]

/-- What a check that has not returned does not change. -/
theorem Sound.goto (h : Sound kv s) (hcheck : s.checks[n]? = some check)
    (hrunning : ∀ result, check.pc ≠ .returned result) {pc : WarningPc}
    (hpc : pc = .returned (.ok true) →
      ∃ w ∈ s.settings, w.setBy = n ∧ w.lasts = check.node.set.options.expiry) :
    Sound kv (s.goto n check pc) := by
  refine ⟨h.entry, h.past, h.apart, h.refused, ?_, h.once, ?_⟩
  · intro w hw
    obtain ⟨node, result, hdone, hlasts⟩ := h.done w hw
    refine ⟨node, result, ?_, hlasts⟩
    rw [getElem?_goto hcheck, if_neg, hdone]
    intro heq
    rw [← heq, hcheck] at hdone
    cases hdone
    exact hrunning result rfl
  · intro m node hwarns
    unfold Warns at hwarns
    rw [getElem?_goto hcheck] at hwarns
    split at hwarns
    · next heq =>
        cases hwarns
        exact heq ▸ hpc rfl
    · exact h.each m node hwarns

/-- A check sets the key, whatever it answers. -/
theorem Sound.set (h : Sound kv s) (hkv : kv.Documented)
    (hcheck : s.checks[n]? = some check)
    (hrunning : ∀ result, check.pc ≠ .returned result)
    (hset : kv.sets s.now check.node.set s.store = true) (result : Except String Bool) :
    Sound kv ((s.called kv n check).goto n check (.returned result)) := by
  have hget := getElem?_goto (s := s.called kv n check) hcheck (.returned result)
  have hfresh : ∀ w ∈ s.settings, n ≠ w.setBy := by
    intro w hw heq
    obtain ⟨node, result', hdone, -⟩ := h.done w hw
    rw [← heq, hcheck] at hdone
    cases hdone
    exact hrunning result' rfl
  have hsettings : (s.called kv n check).settings =
      ⟨n, s.now, check.node.set.options.expiry⟩ :: s.settings := if_pos hset
  constructor
  case entry =>
    show kv.entry _ = (s.called kv n check).settings.head?.map entryOf
    rw [hsettings]
    exact hkv.set hset
  case past =>
    show ∀ w ∈ (s.called kv n check).settings, w.time ≤ s.now
    rw [hsettings]
    exact List.forall_mem_cons.2 ⟨Nat.le_refl _, h.past⟩
  case apart =>
    show Spaced (s.called kv n check).settings
    rw [hsettings]
    exact h.apart.cons h.past ((value_eq_none h.entry).1 (hkv.atomic rfl hset))
  case refused =>
    intro t ht
    obtain ⟨w, hw, hcovers⟩ := h.refused t ht
    exact ⟨w, hsettings ▸ List.mem_cons_of_mem _ hw, hcovers⟩
  case done =>
    show ∀ w ∈ (s.called kv n check).settings, _
    rw [hsettings]
    refine List.forall_mem_cons.2 ⟨⟨check.node, result, ?_, rfl⟩, ?_⟩
    · rw [hget, if_pos rfl]
    · intro w hw
      obtain ⟨node, result', hdone, hlasts⟩ := h.done w hw
      refine ⟨node, result', ?_, hlasts⟩
      rw [hget, if_neg (hfresh w hw)]
      exact hdone
  case once =>
    show ((s.called kv n check).settings.map Setting.setBy).Nodup
    rw [hsettings]
    refine List.nodup_cons.2 ⟨?_, h.once⟩
    intro hmem
    obtain ⟨w, hw, heq⟩ := List.mem_map.1 hmem
    exact hfresh w hw heq.symm
  case each =>
    intro m node hwarns
    show ∃ w ∈ (s.called kv n check).settings, _
    rw [hsettings]
    unfold Warns at hwarns
    rw [hget] at hwarns
    split at hwarns
    · next heq =>
        cases hwarns
        exact ⟨_, List.mem_cons_self, heq, rfl⟩
    · obtain ⟨w, hw, hown⟩ := h.each m node hwarns
      exact ⟨w, List.mem_cons_of_mem _ hw, hown⟩

/-- A call leaves the key alone. -/
theorem Sound.unset (h : Sound kv s) (hkv : kv.Documented)
    (hset : kv.sets s.now check.node.set s.store = false) :
    Sound kv (s.called kv n check) := by
  have hsettings : (s.called kv n check).settings = s.settings :=
    if_neg (Bool.eq_false_iff.1 hset)
  constructor
  case entry =>
    rw [hsettings]
    exact (hkv.kept hset).trans h.entry
  case past => exact hsettings ▸ h.past
  case apart => exact hsettings ▸ h.apart
  case refused => exact hsettings ▸ h.refused
  case done => exact hsettings ▸ h.done
  case once => exact hsettings ▸ h.once
  case each => exact hsettings ▸ h.each

/-- A check finds the key set. -/
theorem Sound.refuse (h : Sound kv s) (hvalue : kv.value s.now s.store ≠ none) :
    Sound kv { s with refused := s.now :: s.refused } := by
  refine ⟨h.entry, h.past, h.apart, List.forall_mem_cons.2 ⟨?_, h.refused⟩, h.done,
    h.once, h.each⟩
  have hcovered : ¬ ∀ w ∈ s.settings.head?, ¬ w.Covers s.now :=
    fun hpast => hvalue ((value_eq_none h.entry).2 hpast)
  push Not at hcovered
  obtain ⟨w, hw, hcovers⟩ := hcovered
  have hmem : w ∈ s.settings := List.mem_of_head? hw
  exact ⟨w, hmem, h.past w hmem, hcovers⟩

/-- What a check returns that does not warn. -/
theorem Sound.returns (h : Sound kv s) (hcheck : s.checks[n]? = some check)
    (hrunning : ∀ result, check.pc ≠ .returned result) {result : Except String Bool}
    (hresult : result ≠ .ok true) : Sound kv (s.goto n check (.returned result)) := by
  refine h.goto hcheck hrunning fun heq => ?_
  cases heq
  exact absurd rfl hresult

/-- **One step of a check.** -/
theorem Sound.next (h : Sound kv s) (hkv : kv.Documented)
    (hcheck : s.checks[n]? = some check)
    (sessions : Except String Int) : Sound kv (s.next kv n check sessions) := by
  unfold Warnings.next
  cases hpc : check.pc with
  | returned result => exact h
  | count =>
      have hrunning : ∀ result, check.pc ≠ .returned result := fun result heq => by
        rw [hpc] at heq
        cases heq
      dsimp only
      split
      · exact h.returns hcheck hrunning nofun
      · split
        · exact h.returns hcheck hrunning nofun
        · split
          · exact h.returns hcheck hrunning nofun
          · exact h.goto hcheck hrunning fun heq => by cases heq
  | set =>
      have hrunning : ∀ result, check.pc ≠ .returned result := fun result heq => by
        rw [hpc] at heq
        cases heq
      dsimp only
      split
      · -- a call that fails may have set the key
        cases hset : kv.sets s.now check.node.set s.store with
        | true => exact h.set hkv hcheck hrunning hset _
        | false => exact (h.unset hkv hset).returns hcheck hrunning nofun
      · next hreply => exact h.set hkv hcheck hrunning (hkv.reply hreply) _
      · next hreply =>
          have hrefused := h.refuse (hkv.refused rfl hreply)
          exact (hrefused.unset hkv (hkv.reply hreply)).returns hcheck hrunning nofun

/-- A new check has not returned. -/
theorem getElem?_join {checks : List WarningCheck} {node node' : WarningNode} {m : Nat}
    {result : Except String Bool} :
    (checks ++ [⟨node, .count⟩])[m]? = some ⟨node', .returned result⟩ ↔
      checks[m]? = some ⟨node', .returned result⟩ := by
  cases Nat.lt_or_ge m checks.length with
  | inl hlt => rw [List.getElem?_append_left hlt]
  | inr hge =>
      rw [List.getElem?_append_right hge, List.getElem?_eq_none hge]
      cases m - checks.length with
      | zero =>
          constructor
          · intro h
            cases h
          · intro h
            cases h
      | succ k => exact Iff.rfl

theorem Sound.step (h : Sound kv s) (hkv : kv.Documented) (a : WarningAction) :
    Sound kv (s.step kv a) := by
  cases a with
  | tick d =>
      exact ⟨h.entry, fun w hw => Nat.le_trans (h.past w hw) (Nat.le_add_right _ _),
        h.apart, h.refused, h.done, h.once, h.each⟩
  | join node =>
      refine ⟨h.entry, h.past, h.apart, h.refused, fun w hw => ?_, h.once,
        fun m node' hwarns => ?_⟩
      · obtain ⟨node', result, hdone, hlasts⟩ := h.done w hw
        exact ⟨node', result, getElem?_join.2 hdone, hlasts⟩
      · exact h.each m node' (getElem?_join.1 hwarns)
  | proceed n sessions =>
      unfold Warnings.step
      dsimp only
      cases hcheck : s.checks[n]? with
      | none => exact h
      | some check => exact h.next hkv hcheck sessions

/-- **The warnings back off**, on any nodes and in any order of their checks, if the key
was not set before. -/
theorem backsOff_of_runs {store : σ} (hkv : kv.Documented)
    (hnone : kv.entry store = none)
    (hr : (machine kv).Runs Machine.Always (initial store) s) : s.BacksOff := by
  have h : Sound kv s := by
    refine hr.inv ?_ fun _ a _ _ h => h.step hkv a
    refine ⟨hnone, ?_, List.Pairwise.nil, ?_, ?_, List.nodup_nil, ?_⟩
    · exact fun w hw => absurd hw List.not_mem_nil
    · exact fun t ht => absurd ht List.not_mem_nil
    · exact fun w hw => absurd hw List.not_mem_nil
    · intro n node hwarns
      cases hwarns
  exact ⟨h.each, h.once, h.apart, h.refused⟩

/-- The call may set the key of this entry. -/
def allowed (now : Nat) (call : KVSet) (entry : Option KVEntry) : Bool :=
  !call.options.Atomic ||
    decide ((entry.filter (KVEntry.live now)).map KVEntry.value = call.options.OldValue)

/-- A store of the one key, whose calls fail before the time `up`, and set the key all
the same. -/
def failingUntil (up : Nat) : WarningKV (Option KVEntry) where
  KVSetWithOptions now call entry :=
    (if now < up then .error "unavailable" else .ok (allowed now call entry),
      if allowed now call entry then
        some ⟨call.value, call.options.expiry.map fun d => now + d⟩
      else entry)
  sets := allowed
  entry := id

theorem failingUntil_documented (up : Nat) : (failingUntil up).Documented where
  reply {now call entry ok} h := by
    simp only [failingUntil] at h ⊢
    split at h
    · cases h
    · exact Except.ok.inj h
  set h := if_pos h
  kept h := if_neg (Bool.eq_false_iff.1 h)
  atomic hatomic h := by
    have h : allowed _ _ _ = true := h
    rw [allowed, hatomic] at h
    exact of_decide_eq_true h
  refused {now call entry} hatomic h := by
    simp only [failingUntil] at h
    split at h
    · cases h
    · have h := Except.ok.inj h
      rw [allowed, hatomic] at h
      exact of_decide_eq_false h

/-- Two nodes that both count many sessions.  The call of the first fails, and has set
the key; the second finds it set and tries again when the first node's ten seconds are
over. -/
def twoNodes : List WarningAction :=
  [.join ⟨false, some 2, some (10 * second)⟩, .join ⟨false, none, none⟩,
    .proceed 0 (.ok 50), .proceed 1 (.ok 50), .proceed 0 (.ok 50), .tick 9999999999,
    .proceed 1 (.ok 50), .join ⟨false, none, none⟩, .proceed 2 (.ok 60), .tick 1,
    .proceed 2 (.ok 60)]

theorem backsOff_twoNodes : ∃ s : Warnings (Option KVEntry),
    s.BacksOff ∧ s.settings.map Setting.time = [10000000000, 0] ∧
    s.refused = [9999999999] := by
  have hleads :
      ((machine (failingUntil 1)).leads (fun _ _ => true) (initial none) twoNodes).map
      (fun s => (s.settings.map Setting.time, s.refused)) =
        some ([10000000000, 0], [9999999999]) := by decide
  obtain ⟨s, hr, hs⟩ :=
    Machine.Runs.exists_of_leads (fun s a _ => (trivial : Machine.Always s a)) hleads
  obtain ⟨htimes, hrefused⟩ := Prod.mk.inj hs
  exact ⟨s, backsOff_of_runs (failingUntil_documented 1) rfl hr, htimes, hrefused⟩

end Warnings

end CallsPlugin.Ports.SessionsWarning
