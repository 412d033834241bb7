import CallsPlugin.Verified.Machine
import CallsPlugin.Verified.RateBound
import Mathlib.Logic.Function.Basic

/-!
# The rate limit of the API (`checkAPIRateLimits` in `server/api.go`)

A user's limiter is looked up under one lock and, where it is missing, made and stored
under another, so requests that arrive together may each make one.  Any number of
requests run here, one step for each lookup, each insertion and each `Allow`.  A limiter
is what it admits: it may do so as long as its own admissions keep to its rate.

Times are nanoseconds.
-/

namespace CallsPlugin.Ports

open CallsPlugin.Verified

/-- The first argument of `rate.NewLimiter(1, 10)` is one event in so many ticks. -/
def apiLimitUnit : Nat := 1000000000

/-- The second argument of `rate.NewLimiter(1, 10)`. -/
def apiLimitBurst : Nat := 10

/-- What a call of `checkAPIRateLimits` does next; limiters are numbered as they are
made. -/
inductive LimitPc where
  | lookup
  | insert (limiter : Nat)
  | allow (limiter : Nat)
  | returned (err : Option String)
  deriving DecidableEq, Repr

/-- A call of `checkAPIRateLimits`. -/
structure LimitCall where
  userID : String
  pc : LimitPc
  deriving DecidableEq, Repr

/-- The limiter of a call that is at its `Allow`. -/
def LimitPc.limiter : LimitPc → Option Nat
  | .allow limiter => some limiter
  | _ => none

/-- The user a call is about to store a limiter for. -/
def LimitCall.stores (call : LimitCall) : Option String :=
  match call.pc with
  | .insert _ => some call.userID
  | _ => none

/-- A request that a limiter has let pass. -/
structure Admission where
  userID : String
  limiter : Nat
  time : Nat
  deriving DecidableEq, Repr

/-- The limiters of the plugin, and the requests so far. -/
structure ApiLimits where
  now : Nat
  apiLimiters : String → Option Nat
  made : Nat
  calls : List LimitCall
  admitted : List Admission

/-- What happens next; `admits` is what the limiter answers. -/
inductive LimitAction where
  | tick (d : Nat)
  | request (userID : String)
  | proceed (call : Nat) (admits : Bool)
  deriving DecidableEq, Repr

namespace ApiLimits

/-- A call goes on. -/
def goto (s : ApiLimits) (n : Nat) (call : LimitCall) (pc : LimitPc) : ApiLimits :=
  { s with calls := s.calls.set n { call with pc := pc } }

/-- `checkAPIRateLimits`, a step of it. -/
def next (s : ApiLimits) (n : Nat) (call : LimitCall) (admits : Bool) : ApiLimits :=
  match call.pc with
  | .lookup =>
      match s.apiLimiters call.userID with
      | some limiter => s.goto n call (.allow limiter)
      | none => { s.goto n call (.insert s.made) with made := s.made + 1 }
  | .insert limiter =>
      { s.goto n call (.allow limiter) with
        apiLimiters := Function.update s.apiLimiters call.userID (some limiter) }
  | .allow limiter =>
      if admits then
        { s.goto n call (.returned none) with
          admitted := ⟨call.userID, limiter, s.now⟩ :: s.admitted }
      else s.goto n call
        (.returned
          (some "\x7b\"message\": \"too many requests\", \"status_code\": 429\x7d"))
  | .returned _ => s

def step (s : ApiLimits) : LimitAction → ApiLimits
  | .tick d => { s with now := s.now + d }
  | .request userID => { s with calls := s.calls ++ [⟨userID, .lookup⟩] }
  | .proceed n admits =>
      match s.calls[n]? with
      | some call => s.next n call admits
      | none => s

/-- When a limiter has admitted requests. -/
def limiterTimes (s : ApiLimits) (limiter : Nat) : List Nat :=
  (s.admitted.filter fun adm => adm.limiter = limiter).map Admission.time

/-- When requests of a user were admitted. -/
def userTimes (s : ApiLimits) (userID : String) : List Nat :=
  (s.admitted.filter fun adm => adm.userID = userID).map Admission.time

/-- A limiter admits no more than its rate allows. -/
def Enabled (s : ApiLimits) : LimitAction → Prop
  | .proceed n admits => ∀ call ∈ s.calls[n]?, admits = true →
      ∀ limiter ∈ call.pc.limiter,
        RateBound apiLimitBurst apiLimitUnit (s.now :: s.limiterTimes limiter)
  | _ => True

instance (s : ApiLimits) (a : LimitAction) : Decidable (s.Enabled a) := by
  unfold Enabled
  cases a <;> infer_instance

/-- Any number of requests of any users. -/
def machine : Machine ApiLimits LimitAction := ⟨Enabled, step⟩

instance (s : ApiLimits) (a : LimitAction) : Decidable (machine.Enabled s a) :=
  inferInstanceAs (Decidable (s.Enabled a))

/-- The plugin has just been activated. -/
def initial : ApiLimits := ⟨0, fun _ => none, 0, [], []⟩

/-- **The rate limit**: no more requests of a user are admitted in any window than one
limiter would let pass. -/
def Limited (s : ApiLimits) : Prop :=
  ∀ userID, RateBound apiLimitBurst apiLimitUnit (s.userTimes userID)

/-- No limiter replaces another one of its user. -/
def FirstOnly (s : ApiLimits) : LimitAction → Prop
  | .proceed n _ => ∀ call ∈ s.calls[n]?, ∀ userID ∈ call.stores,
      s.apiLimiters userID = none
  | _ => True

instance (s : ApiLimits) (a : LimitAction) : Decidable (s.FirstOnly a) := by
  unfold FirstOnly
  cases a <;> infer_instance

/-! ## One limiter for each user -/

variable {s s' : ApiLimits} {n : Nat} {call : LimitCall} {admits : Bool}

/-- Every call uses the limiter that is stored for its user, every admission is one of
it, and no limiter exceeds its rate. -/
structure Sound (s : ApiLimits) : Prop where
  calls : ∀ call ∈ s.calls, ∀ limiter ∈ call.pc.limiter,
    s.apiLimiters call.userID = some limiter
  admitted : ∀ adm ∈ s.admitted, s.apiLimiters adm.userID = some adm.limiter
  limiters : ∀ limiter, RateBound apiLimitBurst apiLimitUnit (s.limiterTimes limiter)

/-- A call moves on to a place where it has no limiter, or the one stored for its
user. -/
theorem Sound.goto (h : s.Sound) {pc : LimitPc}
    (hPc : ∀ limiter ∈ pc.limiter, s.apiLimiters call.userID = some limiter) :
    (s.goto n call pc).Sound := by
  refine ⟨?_, h.admitted, h.limiters⟩
  intro call' hMem
  cases List.mem_or_eq_of_mem_set hMem with
  | inl hOld => exact h.calls call' hOld
  | inr hNew =>
      rw [hNew]
      exact hPc

/-- A limiter is stored where there was none. -/
theorem Sound.store (h : s.Sound) {userID : String} {limiter : Nat}
    (hNone : s.apiLimiters userID = none) :
    Sound { s with
      apiLimiters := Function.update s.apiLimiters userID (some limiter) } := by
  have hKeeps : ∀ {userID' limiter'}, s.apiLimiters userID' = some limiter' →
      Function.update s.apiLimiters userID (some limiter) userID' = some limiter' := by
    intro userID' limiter' hSome
    have hNe : userID' ≠ userID := by
      intro hEq
      rw [hEq, hNone] at hSome
      cases hSome
    rw [Function.update_of_ne hNe, hSome]
  exact ⟨fun call hMem limiter' hLimiter =>
    hKeeps (h.calls call hMem limiter' hLimiter),
    fun adm hMem => hKeeps (h.admitted adm hMem), h.limiters⟩

theorem limiterTimes_after (s : ApiLimits) (userID : String) (limiter limiter' : Nat) :
    limiterTimes { s with admitted := ⟨userID, limiter, s.now⟩ :: s.admitted }
      limiter' =
      if limiter = limiter' then s.now :: s.limiterTimes limiter'
        else s.limiterTimes limiter' := by
  show ((⟨userID, limiter, s.now⟩ :: s.admitted : List Admission).filter _).map _ = _
  rw [List.filter_cons]
  by_cases hEq : limiter = limiter'
  · rw [if_pos (decide_eq_true hEq), if_pos hEq]
    rfl
  · rw [if_neg (by simpa using hEq), if_neg hEq]
    rfl

/-- A limiter admits a request of its user. -/
theorem Sound.admitted_cons (h : s.Sound) {userID : String} {limiter : Nat}
    (hStored : s.apiLimiters userID = some limiter)
    (hRate : RateBound apiLimitBurst apiLimitUnit (s.now :: s.limiterTimes limiter)) :
    Sound { s with admitted := ⟨userID, limiter, s.now⟩ :: s.admitted } := by
  refine ⟨h.calls, ?_, ?_⟩
  · intro adm hMem
    cases List.mem_cons.mp hMem with
    | inl hNew =>
        rw [hNew]
        exact hStored
    | inr hOld => exact h.admitted adm hOld
  · intro limiter'
    rw [limiterTimes_after]
    split
    · next hEq => exact hEq ▸ hRate
    · exact h.limiters limiter'

/-- **One step of a request**, if it does not replace a limiter. -/
theorem Sound.next (h : s.Sound) (hMem : call ∈ s.calls)
    (hRate : admits = true → ∀ limiter ∈ call.pc.limiter,
      RateBound apiLimitBurst apiLimitUnit (s.now :: s.limiterTimes limiter))
    (hFirst : ∀ userID ∈ call.stores, s.apiLimiters userID = none) :
    (s.next n call admits).Sound := by
  unfold ApiLimits.next
  cases hPc : call.pc with
  | lookup =>
      dsimp only
      split
      · next limiter hStored =>
          apply h.goto
          intro limiter' hLimiter
          rw [hStored]
          exact hLimiter
      · have hMade : Sound (s.goto n call (.insert s.made)) := by
          apply h.goto
          intro limiter hLimiter
          cases hLimiter
        exact ⟨hMade.calls, hMade.admitted, hMade.limiters⟩
  | insert limiter =>
      have hStores : call.stores = some call.userID := by
        unfold LimitCall.stores
        rw [hPc]
      apply (h.store (hFirst call.userID hStores)).goto
      intro limiter' hLimiter
      cases hLimiter
      exact Function.update_self ..
  | allow limiter =>
      have hLimiter : limiter ∈ call.pc.limiter := by
        rw [hPc]
        rfl
      dsimp only
      split
      · next hAdmits =>
          have hStored := h.calls call hMem limiter hLimiter
          have hAdmitted := h.admitted_cons hStored (hRate hAdmits limiter hLimiter)
          apply hAdmitted.goto
          intro limiter' hNone
          cases hNone
      · apply h.goto
        intro limiter' hNone
        cases hNone
  | returned err => exact h

theorem Sound.step {a : LimitAction} (h : s.Sound) (hEn : s.Enabled a)
    (hFirst : s.FirstOnly a) :
    (s.step a).Sound := by
  cases a with
  | tick d => exact ⟨h.calls, h.admitted, h.limiters⟩
  | request userID =>
      refine ⟨?_, h.admitted, h.limiters⟩
      intro call hMem
      cases List.mem_append.mp hMem with
      | inl hOld => exact h.calls call hOld
      | inr hNew =>
          rw [List.mem_singleton.mp hNew]
          intro limiter hNone
          cases hNone
  | proceed n admits =>
      unfold ApiLimits.step
      dsimp only
      cases hCall : s.calls[n]? with
      | none => exact h
      | some call =>
          have hMem : call ∈ s.calls := List.mem_of_getElem? hCall
          exact h.next hMem (hEn call hCall) (hFirst call hCall)

/-- With one limiter for each user, its rate is the user's. -/
theorem Sound.limited (h : s.Sound) : s.Limited := by
  intro userID
  cases hStored : s.apiLimiters userID with
  | none =>
      have hNone : s.userTimes userID = [] := by
        unfold userTimes
        rw [List.map_eq_nil_iff, List.filter_eq_nil_iff]
        intro adm hMem hUser
        have hSome := h.admitted adm hMem
        rw [of_decide_eq_true hUser, hStored] at hSome
        cases hSome
      rw [hNone]
      exact rateBound_of_length (Nat.zero_le _)
  | some limiter =>
      apply (h.limiters limiter).sublist
      have hFilter : (s.admitted.filter fun adm => adm.userID = userID) =
          (s.admitted.filter fun adm => adm.limiter = limiter).filter fun adm =>
            adm.userID = userID := by
        rw [List.filter_filter]
        apply List.filter_congr
        intro adm hMem
        by_cases hUser : adm.userID = userID
        · have hLimiter : adm.limiter = limiter := by
            have hSome := h.admitted adm hMem
            rw [hUser, hStored] at hSome
            exact (Option.some.inj hSome).symm
          simp [hUser, hLimiter]
        · simp [hUser]
      unfold userTimes limiterTimes
      rw [hFilter]
      exact List.filter_sublist.map _

/-- **The rate limit holds** as long as no limiter replaces another one of its user. -/
theorem limited_of_runs (hr : machine.Runs FirstOnly initial s) : s.Limited := by
  have hSound : s.Sound := by
    apply hr.inv _ fun _ _ hEn hFirst h => h.step hEn hFirst
    refine ⟨?_, ?_, fun _ => rateBound_of_length (Nat.zero_le _)⟩
    · intro call hMem
      cases hMem
    · intro adm hMem
      cases hMem
  exact hSound.limited

/-! ## Runs on fixed actions -/

/-- Two requests of a user, one after the other. -/
theorem limited_two : ∃ s : ApiLimits, s.userTimes "alice" = [5, 0] ∧ s.Limited := by
  obtain ⟨s, hr, hs⟩ := Machine.Runs.exists_of_leads (fun _ _ h => of_decide_eq_true h)
    (show (machine.leads (fun s a => decide (s.FirstOnly a)) initial
      [.request "alice", .proceed 0 true, .proceed 0 true, .proceed 0 true,
        .request "alice",
        .tick 5, .proceed 1 true, .proceed 1 true]).map (fun s => s.userTimes "alice") =
          some [5, 0] by decide)
  exact ⟨s, hs, limited_of_runs hr⟩

/-- The first two requests of a user come at the same time, and nine others follow:
eleven of them are admitted at once. -/
theorem firstRequests_exceed : ∃ s : ApiLimits,
    machine.Runs Machine.Always initial s ∧ ¬ s.Limited := by
  obtain ⟨s, hr, hs⟩ := Machine.Runs.exists_of_leads
    (fun s a _ => (trivial : Machine.Always s a))
    (show (machine.leads (fun _ _ => true) initial
      ([.request "alice", .request "alice", .proceed 0 true, .proceed 1 true,
        .proceed 0 true, .proceed 0 true, .proceed 1 true, .proceed 1 true] ++
        (List.range 9).flatMap fun i =>
          [.request "alice", .proceed (i + 2) true, .proceed (i + 2) true])).map
          (fun s => s.userTimes "alice") = some (List.replicate 11 0) by decide)
  refine ⟨s, hr, ?_⟩
  intro h
  have hAlice := h "alice" 0 0
  rw [hs] at hAlice
  exact absurd hAlice (by decide)

end ApiLimits

end CallsPlugin.Ports
