import CallsPlugin.Ports.CallHost
import CallsPlugin.Verified.Minimum
import Mathlib.Data.List.MinMax

/-!
# The host and the order of the sessions map

`getHostID` goes over the sessions of a call once, in whatever order the map yields
them.  The locked user and the present host are found in every order; without them
the first of several earliest sessions is kept, so with a tie of join times between
two users the order decides.
-/

namespace CallsPlugin.Ports

open CallsPlugin.Verified
open CallsPlugin.Ports.Public CallsPlugin.Ports.Db

/-! ## The scan as a running minimum -/

/-- What the scan keeps of a session: its user and join time. -/
def standing (session : CallSession) : String × Int := (session.userID, session.joinAt)

/-- An empty user stands for no candidate. -/
def Unnamed (candidate : String × Int) : Prop := candidate.1 = ""

instance : DecidablePred Unnamed :=
  fun candidate => inferInstanceAs (Decidable (candidate.1 = ""))

/-- The scan compares join times. -/
abbrev keepEarliest : String × Int → String × Int → String × Int :=
  keep Unnamed Prod.snd

/-- The sessions that are not the bot's, as the scan compares them. -/
def standings (botID : String) (l : List CallSession) : List (String × Int) :=
  (l.filter fun session => session.userID ≠ botID).map standing

theorem mem_standings {botID : String} {l : List CallSession} {c : String × Int} :
    c ∈ standings botID l ↔ ∃ x ∈ l, x.userID ≠ botID ∧ standing x = c := by
  simp only [standings, List.mem_map, List.mem_filter, decide_eq_true_eq, and_assoc]

/-- Where the present host is not in the list, the scan is the running minimum of the
others. -/
theorem hostLoop_eq_foldl {botID cur : String} {l : List CallSession}
    (h : ∀ x ∈ l, x.userID ≠ cur) (hostUserID : String) (hostJoinAt : Int) :
    hostLoop botID cur l hostUserID hostJoinAt =
      ((standings botID l).foldl keepEarliest (hostUserID, hostJoinAt)).1 := by
  induction l generalizing hostUserID hostJoinAt with
  | nil => rfl
  | cons x rest ih =>
      have hRest := ih fun y hy => h y (List.mem_cons_of_mem x hy)
      unfold hostLoop
      rw [if_neg (h x List.mem_cons_self)]
      by_cases hBot : x.userID = botID
      · have hSkip : standings botID (x :: rest) = standings botID rest := by
          simp [standings, hBot]
        rw [if_pos hBot, hSkip, hRest]
      · have hTake : standings botID (x :: rest) =
            standing x :: standings botID rest := by
          simp [standings, hBot]
        rw [if_neg hBot, hTake, List.foldl_cons]
        by_cases hNone : hostUserID = ""
        · have hKeep : keepEarliest (hostUserID, hostJoinAt)
              (standing x) = standing x :=
            if_pos (.inl hNone)
          rw [if_pos hNone, hKeep, hRest]
          rfl
        · rw [if_neg hNone]
          by_cases hLess : x.joinAt < hostJoinAt
          · have hKeep : keepEarliest (hostUserID, hostJoinAt)
                (standing x) = standing x :=
              if_pos (.inr hLess)
            rw [if_pos hLess, hKeep, hRest]
            rfl
          · have hKeep : keepEarliest (hostUserID, hostJoinAt) (standing x) =
                (hostUserID, hostJoinAt) := by
              apply if_neg
              rintro (hVoid | hLow)
              · exact hNone hVoid
              · exact hLess hLow
            rw [if_neg hLess, hKeep, hRest]

/-! ## The rule -/

namespace CallState

/-- The sessions whose users may become host when the present one is gone. -/
def candidates (cs : CallState) (botID : String) : List CallSession :=
  cs.sessions.rows.filter fun session => session.userID ≠ botID

/-- No candidate joined before this one. -/
def Earliest (cs : CallState) (botID : String) (session : CallSession) : Prop :=
  session ∈ cs.candidates botID ∧ ∀ x ∈ cs.candidates botID, session.joinAt ≤ x.joinAt

/-- The locked user has a session. -/
def LockedHost (cs : CallState) : Prop :=
  cs.call.props.hostLockedUserID ≠ "" ∧
    cs.isUserIDInCall cs.call.props.hostLockedUserID = true

/-- Who is to be the host: the locked user if in the call, else the present host if in
the call, else the user of an earliest candidate, or nobody. -/
def HostRule (cs : CallState) (botID host : String) : Prop :=
  (cs.LockedHost → host = cs.call.props.hostLockedUserID) ∧
  (¬ cs.LockedHost → cs.isUserIDInCall cs.call.getHostID = true →
    host = cs.call.getHostID) ∧
  (¬ cs.LockedHost → cs.isUserIDInCall cs.call.getHostID = false →
    (∃ session, cs.Earliest botID session ∧ host = session.userID) ∨
      cs.candidates botID = [] ∧ host = "")

/-- The same host, the one the rule asks for, in every order of the sessions map. -/
def OneHost (cs : CallState) (botID : String) : Prop :=
  ∃ host, cs.HostRule botID host ∧ ∀ env : Env, cs.getHostID env botID = host

/-- No two users share the earliest join time.  Sessions without a user, which the store
refuses, give way to any other; they must not be the only earliest ones unless there are
no others. -/
def EarliestUser (cs : CallState) (botID : String) : Prop :=
  (∀ x y, cs.Earliest botID x → cs.Earliest botID y → x.userID ≠ "" → y.userID ≠ "" →
    x.userID = y.userID) ∧
  ((∃ x ∈ cs.candidates botID, x.userID ≠ "") → ∃ x, cs.Earliest botID x ∧
    x.userID ≠ "")

/-- The locked user or the present host is in the call, or one user joined first. -/
def HostSettled (cs : CallState) (botID : String) : Prop :=
  cs.LockedHost ∨ cs.isUserIDInCall cs.call.getHostID = true ∨ cs.EarliestUser botID

section Orders

variable {cs : CallState} {botID : String}

theorem exists_earliest (h : cs.candidates botID ≠ []) : ∃ x, cs.Earliest botID x := by
  cases hMin : (cs.candidates botID).argmin CallSession.joinAt with
  | none => exact absurd (List.argmin_eq_none.mp hMin) h
  | some x => exact ⟨x, List.argmin_mem hMin, fun y hy => List.le_of_mem_argmin hy hMin⟩

/-- An order of the sessions map. -/
def orderEnv (rows order : List CallSession) (h : order.Perm rows) : Env :=
  { Env.sample 1 with
    iter := fun l => if l = rows then order else l
    iter_perm := by
      intro l
      split
      · next hRows => exact hRows ▸ h
      · exact .refl l }

theorem getHostID_locked (h : cs.LockedHost) (env : Env) :
    cs.getHostID env botID = cs.call.props.hostLockedUserID := if_pos h

theorem getHostID_present (h : ¬ cs.LockedHost)
    (hCur : cs.isUserIDInCall cs.call.getHostID = true)
    (env : Env) : cs.getHostID env botID = cs.call.getHostID := by
  obtain ⟨x, hx, hUser⟩ := isUserIDInCall_iff.mp hCur
  have hLoop := @hostLoop_of_mem botID cs.call.getHostID (env.iter cs.sessions.rows)
    ⟨x, (env.iter_perm _).mem_iff.mpr hx, hUser⟩ "" 0
  exact (if_neg h).trans hLoop

/-- With neither of the two in the call, the host is the running minimum of an order. -/
theorem getHostID_scan (h : ¬ cs.LockedHost)
    (hCur : cs.isUserIDInCall cs.call.getHostID = false)
    (env : Env) : cs.getHostID env botID =
      ((standings botID (env.iter cs.sessions.rows)).foldl keepEarliest ("", 0)).1 := by
  have hAbsent : ∀ x ∈ env.iter cs.sessions.rows, x.userID ≠ cs.call.getHostID := by
    intro x hx hUser
    have hIn := isUserIDInCall_iff.mpr ⟨x, (env.iter_perm _).mem_iff.mp hx, hUser⟩
    rw [hCur] at hIn
    cases hIn
  exact (if_neg h).trans (hostLoop_eq_foldl hAbsent "" 0)

theorem getHostID_order (h : ¬ cs.LockedHost)
    (hCur : cs.isUserIDInCall cs.call.getHostID = false)
    {order : List CallSession} (hOrder : order.Perm cs.sessions.rows) :
    cs.getHostID (orderEnv _ order hOrder) botID =
      ((standings botID order).foldl keepEarliest ("", 0)).1 := by
  rw [getHostID_scan h hCur]
  show ((standings botID (if cs.sessions.rows = cs.sessions.rows then order else
    cs.sessions.rows)).foldl keepEarliest ("", 0)).1 = _
  rw [if_pos rfl]

theorem mem_candidates {x : CallSession} :
    x ∈ cs.candidates botID ↔ x ∈ cs.sessions.rows ∧ x.userID ≠ botID := by
  simp only [candidates, List.mem_filter, decide_eq_true_eq]

/-- The standings of an order are those of the candidates. -/
theorem standing_of_mem {order : List CallSession}
    (hOrder : order.Perm cs.sessions.rows)
    {c : String × Int} : c ∈ standings botID order ↔
    ∃ x ∈ cs.candidates botID, standing x = c := by
  rw [mem_standings]
  constructor
  · rintro ⟨x, hx, hBot, rfl⟩
    exact ⟨x, mem_candidates.mpr ⟨hOrder.mem_iff.mp hx, hBot⟩, rfl⟩
  · rintro ⟨x, hx, rfl⟩
    obtain ⟨hRow, hBot⟩ := mem_candidates.mp hx
    exact ⟨x, hOrder.mem_iff.mpr hRow, hBot, rfl⟩

/-! ## The host is settled -/

/-- The earliest user is found in every order. -/
theorem scan_of_earliestUser {order : List CallSession}
    (hOrder : order.Perm cs.sessions.rows)
    (h : cs.EarliestUser botID) {x : CallSession} (hx : cs.Earliest botID x)
    (hUser : x.userID ≠ "") :
    (standings botID order).foldl keepEarliest ("", 0) = standing x := by
  have hNamed : ¬ Unnamed (standing x) := hUser
  apply foldl_keep_sole hNamed ((standing_of_mem hOrder).mpr ⟨x, hx.1, rfl⟩)
  · intro c hc
    obtain ⟨y, hy, rfl⟩ := (standing_of_mem hOrder).mp hc
    exact hx.2 y hy
  · intro c hc hyNamed hLow
    obtain ⟨y, hy, rfl⟩ := (standing_of_mem hOrder).mp hc
    have hJoin : y.joinAt = x.joinAt := le_antisymm hLow (hx.2 y hy)
    have hEarliest : cs.Earliest botID y := ⟨hy, fun z hz => hJoin ▸ hx.2 z hz⟩
    exact Prod.ext (h.1 y x hEarliest hx hyNamed hUser) hJoin
  · exact .inl rfl

theorem oneHost_of_earliestUser (hLocked : ¬ cs.LockedHost)
    (hCur : cs.isUserIDInCall cs.call.getHostID = false) (h : cs.EarliestUser botID) :
    cs.OneHost botID := by
  have hRule : ∀ host, ((∃ x, cs.Earliest botID x ∧ host = x.userID) ∨
      cs.candidates botID = [] ∧ host = "") → cs.HostRule botID host := by
    intro host hHost
    refine ⟨fun hYes => absurd hYes hLocked, ?_, fun _ _ => hHost⟩
    intro _ hYes
    rw [hCur] at hYes
    cases hYes
  by_cases hNamed : ∃ x ∈ cs.candidates botID, x.userID ≠ ""
  · obtain ⟨x, hx, hUser⟩ := h.2 hNamed
    refine ⟨x.userID, hRule _ (.inl ⟨x, hx, rfl⟩), ?_⟩
    intro env
    rw [getHostID_scan hLocked hCur, scan_of_earliestUser (env.iter_perm _) h hx hUser]
    rfl
  · have hVoid : ∀ x ∈ cs.candidates botID, x.userID = "" := by
      intro x hx
      by_contra hUser
      exact hNamed ⟨x, hx, hUser⟩
    refine ⟨"", hRule _ ?_, ?_⟩
    · by_cases hNone : cs.candidates botID = []
      · exact .inr ⟨hNone, rfl⟩
      · obtain ⟨x, hx⟩ := exists_earliest hNone
        exact .inl ⟨x, hx, (hVoid x hx.1).symm⟩
    · intro env
      rw [getHostID_scan hLocked hCur]
      have hNone : Unnamed ("", 0) := rfl
      apply foldl_keep_void hNone
      intro c hc
      obtain ⟨x, hx, rfl⟩ := (standing_of_mem (env.iter_perm _)).mp hc
      exact hVoid x hx

/-! ## The order decides -/

/-- In some order, an earliest candidate with a user becomes host. -/
theorem exists_env_first (hLocked : ¬ cs.LockedHost)
    (hCur : cs.isUserIDInCall cs.call.getHostID = false) {x : CallSession}
    (hx : cs.Earliest botID x) (hUser : x.userID ≠ "") :
    ∃ env : Env, cs.getHostID env botID = x.userID := by
  obtain ⟨hRow, hBot⟩ := mem_candidates.mp hx.1
  have hOrder : (x :: cs.sessions.rows.erase x).Perm cs.sessions.rows :=
    (List.perm_cons_erase hRow).symm
  have hHead : standings botID (x :: cs.sessions.rows.erase x) =
      standing x :: standings botID (cs.sessions.rows.erase x) := by
    simp [standings, hBot]
  refine ⟨orderEnv _ _ hOrder, ?_⟩
  rw [getHostID_order hLocked hCur hOrder, hHead]
  have hFirst : (standing x :: standings botID (cs.sessions.rows.erase x)).foldl
      keepEarliest ("", 0) = standing x := by
    have hNone : Unnamed ("", 0) := rfl
    have hNamed : ¬ Unnamed (standing x) := hUser
    apply foldl_keep_first hNone hNamed
    intro c hc
    have hMem : c ∈ standings botID (x :: cs.sessions.rows.erase x) := by
      rw [hHead]
      exact List.mem_cons_of_mem _ hc
    obtain ⟨y, hy, rfl⟩ := (standing_of_mem hOrder).mp hMem
    exact hx.2 y hy
  rw [hFirst]
  rfl

/-- An order that ends with a given candidate. -/
theorem exists_env_last (hLocked : ¬ cs.LockedHost)
    (hCur : cs.isUserIDInCall cs.call.getHostID = false) {x : CallSession}
    (hx : x ∈ cs.candidates botID) :
    ∃ (env : Env) (l : List (String × Int)), cs.getHostID env botID =
        ((l ++ [standing x]).foldl keepEarliest ("", 0)).1 ∧
      ∀ c ∈ l, ∃ y ∈ cs.candidates botID, standing y = c := by
  obtain ⟨hRow, hBot⟩ := mem_candidates.mp hx
  have hOrder : (cs.sessions.rows.erase x ++ [x]).Perm cs.sessions.rows :=
    List.perm_append_comm.trans (List.perm_cons_erase hRow).symm
  have hLast : standings botID (cs.sessions.rows.erase x ++ [x]) =
      standings botID (cs.sessions.rows.erase x) ++ [standing x] := by
    simp [standings, hBot]
  refine ⟨orderEnv _ _ hOrder, standings botID (cs.sessions.rows.erase x), ?_, ?_⟩
  · rw [getHostID_order hLocked hCur hOrder, hLast]
  · intro c hc
    apply (standing_of_mem hOrder).mp
    rw [hLast]
    exact List.mem_append_left _ hc

theorem earliestUser_of_oneHost (hLocked : ¬ cs.LockedHost)
    (hCur : cs.isUserIDInCall cs.call.getHostID = false) (h : cs.OneHost botID) :
    cs.EarliestUser botID := by
  obtain ⟨host, _, hHost⟩ := h
  constructor
  · intro x y hx hy hxUser hyUser
    obtain ⟨env, hEnv⟩ := exists_env_first hLocked hCur hx hxUser
    obtain ⟨env', hEnv'⟩ := exists_env_first hLocked hCur hy hyUser
    rw [← hEnv, ← hEnv', hHost, hHost]
  · rintro ⟨x, hx, hUser⟩
    by_contra hNone
    have hVoid : ∀ y, cs.Earliest botID y → y.userID = "" := by
      intro y hy
      by_contra hyUser
      exact hNone ⟨y, hy, hyUser⟩
    -- ending with `x` the scan has a user, ending with the earliest it has none
    obtain ⟨env, l, hEnv, _⟩ := exists_env_last hLocked hCur hx
    obtain ⟨y, hy⟩ := exists_earliest (List.ne_nil_of_mem hx)
    obtain ⟨env', l', hEnv', hl'⟩ := exists_env_last hLocked hCur hy.1
    have hSome : host ≠ "" := by
      rw [← hHost env, hEnv]
      have hNamed : ¬ Unnamed (standing x) := hUser
      exact not_void_foldl_concat hNamed
    have hEmpty : host = "" := by
      rw [← hHost env', hEnv']
      have hKept : (l' ++ [standing y]).foldl keepEarliest ("", 0) = standing y := by
        have hStart : Unnamed ("", 0) := rfl
        apply foldl_keep_last hStart
        intro c hc hNamed
        obtain ⟨z, hz, rfl⟩ := hl' c hc
        apply lt_of_not_ge
        intro hLow
        have hzEarliest : cs.Earliest botID z :=
          ⟨hz, fun w hw => le_trans hLow (hy.2 w hw)⟩
        exact hNamed (hVoid z hzEarliest)
      rw [hKept]
      exact hVoid y hy
    exact hSome hEmpty

end Orders

/-- **When the order of the map does not matter**: every order gives the host of the
rule exactly when it is settled. -/
theorem oneHost_iff (cs : CallState) (botID : String) :
    cs.OneHost botID ↔ cs.HostSettled botID := by
  by_cases hLocked : cs.LockedHost
  · refine ⟨fun _ => .inl hLocked, fun _ => ⟨cs.call.props.hostLockedUserID, ?_, ?_⟩⟩
    · exact ⟨fun _ => rfl, fun h => absurd hLocked h, fun h => absurd hLocked h⟩
    · exact getHostID_locked hLocked
  cases hCur : cs.isUserIDInCall cs.call.getHostID with
  | true =>
      refine ⟨fun _ => .inr (.inl hCur), fun _ => ⟨cs.call.getHostID, ?_, ?_⟩⟩
      · refine ⟨fun h => absurd h hLocked, fun _ _ => rfl, fun _ h => ?_⟩
        rw [hCur] at h
        cases h
      · exact getHostID_present hLocked hCur
  | false =>
      constructor
      · intro h
        exact .inr (.inr (earliestUser_of_oneHost hLocked hCur h))
      · rintro (h | h | h)
        · exact absurd h hLocked
        · rw [hCur] at h
          cases h
        · exact oneHost_of_earliestUser hLocked hCur h

/-- Two users who joined in the same millisecond, with no host. -/
def tied : CallState where
  call := { sampleCall with props := { sampleCall.props with hosts := [] } }
  sessions :=
    ⟨[sampleSession, { sampleSession with id := "s2", userID := "bob" }], by decide⟩
  recording := none
  transcription := none
  liveCaptions := none

/-- Either of them may become host. -/
theorem tied_not_oneHost : ¬ tied.OneHost "bot" := by
  rintro ⟨host, _, hHost⟩
  have hAlice : tied.getHostID (Env.sample 1) "bot" = "alice" := by decide
  have hBob : tied.getHostID (orderEnv tied.sessions.rows tied.sessions.rows.reverse
      (List.reverse_perm _)) "bot" = "bob" := by decide
  rw [hHost] at hAlice hBob
  exact absurd (hAlice.symm.trans hBob) (by decide)

end CallState

end CallsPlugin.Ports
