import CallsPlugin.Ports.JoinPlan

/-!
# `addUserSession` and its errors

On error `addUserSession` returns the state it was given, but not the store: the
writes before the one that failed stay.  `addUserSession_atomic_iff` says when
they change nothing.

The argument is about any sequence of writes to different rows.  A write is
refused, or keeps its row, depending on that row alone; so both can be read off
the store before the first write, and a changed row is not changed back.
-/

namespace CallsPlugin.Ports.Db

open CallsPlugin.Verified
open CallsPlugin.Ports.Public

/-! ## The row of a write -/

/-- The row a write of `addUserSession` is about. -/
inductive Address where
  | call (id : String)
  | session (id : String)
  | job (id : String)
  deriving DecidableEq

/-- The address of a write; of the others nothing is needed. -/
def StoreOp.address : StoreOp → Option Address
  | .createCall c => some (.call c.id)
  | .updateCall c => some (.call c.id)
  | .createCallSession r => some (.session r.id)
  | .updateCallJob j => some (.job j.id)
  | _ => none

/-- Two stores have the same row at an address, or none. -/
def Store.Same (s t : Store) : Address → Prop
  | .call id => ∀ x : Call, x.id = id → (x ∈ s.calls ↔ x ∈ t.calls)
  | .session id => ∀ x : CallSession, x.id = id → (x ∈ s.sessions ↔ x ∈ t.sessions)
  | .job id => ∀ x : CallJob, x.id = id → (x ∈ s.jobs ↔ x ∈ t.jobs)

/-- A working database refuses the write: the row is not valid, or the id of a new
row is taken. -/
def StoreOp.Refused (s : Store) : StoreOp → Prop
  | .createCall c => c.isValid ≠ .ok () ∨ ∃ x ∈ s.calls, x.id = c.id
  | .updateCall c => c.isValid ≠ .ok ()
  | .createCallSession r => r.isValid ≠ .ok () ∨ ∃ x ∈ s.sessions, x.id = r.id
  | .updateCallJob j => j.isValid ≠ .ok ()
  | _ => False

/-- The write finds its row as it would leave it. -/
def StoreOp.Keeps (s : Store) : StoreOp → Prop
  | .updateCall c => ∀ x ∈ s.calls, x.id = c.id → Store.setCall x c = x
  | .updateCallJob j => ∀ x ∈ s.jobs, x.id = j.id → Store.setJob x j = x
  | _ => False

theorem insertRow_eq_ok {ρ : Type} {key : ρ → String} {what : String}
    {valid : Except String Unit} {t t' : Table key} {r : ρ} :
    insertRow what valid t r = .ok t' ↔ valid = .ok () ∧ t.insert? r = some t' := by
  unfold insertRow
  cases valid with
  | error e => simp
  | ok _ => cases h : t.insert? r <;> simp

/-- An insertion is refused for an invalid row or a taken id, and nothing else. -/
theorem insertRow_isOk_iff {ρ : Type} {key : ρ → String} {what : String}
    {valid : Except String Unit} {t : Table key} {r : ρ} :
    (∃ t', insertRow what valid t r = .ok t') ↔
      ¬ (valid ≠ .ok () ∨ ∃ x ∈ t, key x = key r) := by
  simp only [insertRow_eq_ok, not_or, not_not, not_exists, not_and]
  constructor
  · rintro ⟨t', hv, hi⟩
    exact ⟨hv, (Table.insert?_eq_some.1 hi).1⟩
  · rintro ⟨hv, hf⟩
    obtain ⟨t', hi⟩ := Table.insert?_isSome hf
    exact ⟨t', hv, hi⟩

section Exec

variable {s t : Store} {o : StoreOp} {a b : Address}

/-- The outcome of a write depends on whether it is refused. -/
theorem StoreOp.exec_of_refused (ha : o.address = some a) (h : o.Refused s) :
    ∃ e, o.exec s = (.error e, s) := by
  suffices he : ∃ e, (o.exec s).1 = .error e by
    obtain ⟨e, he⟩ := he
    exact ⟨e, Prod.ext he (StoreOp.exec_error he)⟩
  cases o <;> simp only [StoreOp.address, reduceCtorEq] at ha <;>
    simp only [StoreOp.Refused] at h <;> simp only [StoreOp.exec]
  case createCall c =>
    cases hi : insertRow "call" c.isValid s.calls c with
    | error e => exact ⟨e, rfl⟩
    | ok u => exact absurd h (insertRow_isOk_iff.1 ⟨u, hi⟩)
  case createCallSession r =>
    cases hi : insertRow "call session" r.isValid s.sessions r with
    | error e => exact ⟨e, rfl⟩
    | ok u => exact absurd h (insertRow_isOk_iff.1 ⟨u, hi⟩)
  case updateCall c =>
    cases hv : c.isValid with
    | error e => exact ⟨_, rfl⟩
    | ok u => exact absurd hv h
  case updateCallJob j =>
    cases hv : j.isValid with
    | error e => exact ⟨_, rfl⟩
    | ok u => exact absurd hv h

/-- An accepted write changes at most the row it is about, and leaves that one only
if it found it as it wants it. -/
theorem StoreOp.exec_of_not_refused (ha : o.address = some a) (h : ¬ o.Refused s) :
    ∃ u t, o.exec s = (.ok u, t) ∧ (∀ b ≠ a, Store.Same s t b) ∧
      (Store.Same s t a ↔ o.Keeps s) ∧ (o.Keeps s → t = s) := by
  cases o <;> simp only [StoreOp.address, reduceCtorEq, Option.some.injEq] at ha <;>
    subst ha <;> simp only [StoreOp.Refused] at h
  case createCall c =>
    obtain ⟨u, hi⟩ : ∃ u, insertRow "call" c.isValid s.calls c = .ok u :=
      insertRow_isOk_iff.2 h
    have hm := fun x => Table.mem_of_insert? (x := x) (insertRow_eq_ok.1 hi).2
    simp only [StoreOp.exec, hi, Keeps, iff_false, false_imp_iff, and_true]
    refine ⟨(), _, rfl, fun b hb => ?_, fun hs => h (.inr ⟨c, ?_, rfl⟩)⟩
    · cases b with
      | call id =>
          intro x hx
          rw [hm x, or_iff_left]
          rintro rfl
          exact hb (by rw [hx])
      | session id => exact fun _ _ => Iff.rfl
      | job id => exact fun _ _ => Iff.rfl
    · exact (hs c rfl).2 ((hm c).2 (.inr rfl))
  case createCallSession r =>
    obtain ⟨u, hi⟩ : ∃ u, insertRow "call session" r.isValid s.sessions r = .ok u :=
      insertRow_isOk_iff.2 h
    have hm := fun x => Table.mem_of_insert? (x := x) (insertRow_eq_ok.1 hi).2
    simp only [StoreOp.exec, hi, Keeps, iff_false, false_imp_iff, and_true]
    refine ⟨(), _, rfl, fun b hb => ?_, fun hs => h (.inr ⟨r, ?_, rfl⟩)⟩
    · cases b with
      | session id =>
          intro x hx
          rw [hm x, or_iff_left]
          rintro rfl
          exact hb (by rw [hx])
      | call id => exact fun _ _ => Iff.rfl
      | job id => exact fun _ _ => Iff.rfl
    · exact (hs r rfl).2 ((hm r).2 (.inr rfl))
  case updateCall c =>
    have hv : c.isValid = .ok () := by simpa using h
    simp only [StoreOp.exec, hv, Keeps]
    refine ⟨(), _, rfl, fun b hb => ?_,
      ⟨fun hs x hx hk => ?_, fun hk x hx => ?_⟩, fun hk => ?_⟩
    · cases b with
      | call id =>
          exact fun x hx =>
            (Table.mem_modify_of_ne (Store.setCall_id · c)
              fun he => hb (congrArg _ (hx.symm.trans he))).symm
      | session id => exact fun _ _ => Iff.rfl
      | job id => exact fun _ _ => Iff.rfl
    · exact (Table.mem_modify_self (Store.setCall_id · c) hx hk).1 ((hs x hk).1 hx)
    · rw [Store.updateCall, Table.modify_eq_self hk]
    · rw [Store.updateCall, Table.modify_eq_self hk]
  case updateCallJob j =>
    have hv : j.isValid = .ok () := by simpa using h
    simp only [StoreOp.exec, hv, Keeps]
    refine ⟨(), _, rfl, fun b hb => ?_,
      ⟨fun hs x hx hk => ?_, fun hk x hx => ?_⟩, fun hk => ?_⟩
    · cases b with
      | job id =>
          exact fun x hx =>
            (Table.mem_modify_of_ne (Store.setJob_id · j)
              fun he => hb (congrArg _ (hx.symm.trans he))).symm
      | session id => exact fun _ _ => Iff.rfl
      | call id => exact fun _ _ => Iff.rfl
    · exact (Table.mem_modify_self (Store.setJob_id · j) hx hk).1 ((hs x hk).1 hx)
    · rw [Store.updateCallJob, Table.modify_eq_self hk]
    · rw [Store.updateCallJob, Table.modify_eq_self hk]

/-- Whether a write is refused is a matter of its row. -/
theorem StoreOp.refused_congr (ha : o.address = some a) (h : Store.Same s t a) :
    o.Refused s ↔ o.Refused t := by
  cases o <;> simp only [StoreOp.address, reduceCtorEq, Option.some.injEq] at ha <;>
    subst ha
  case createCall c =>
    exact or_congr Iff.rfl (exists_congr fun x => and_congr_left fun hx => h x hx)
  case createCallSession r =>
    exact or_congr Iff.rfl (exists_congr fun x => and_congr_left fun hx => h x hx)
  all_goals exact Iff.rfl

theorem Store.same_refl (s : Store) (a : Address) : Store.Same s s a := by
  cases a <;> exact fun _ _ => Iff.rfl

theorem Store.Same.symm (h : Store.Same s t a) : Store.Same t s a := by
  cases a <;> exact fun x hx => (h x hx).symm

theorem Store.Same.trans {u : Store} (h : Store.Same s t a) (h' : Store.Same t u a) :
    Store.Same s u a := by
  cases a <;> exact fun x hx => (h x hx).trans (h' x hx)

end Exec

end CallsPlugin.Ports.Db

namespace CallsPlugin.Ports

open CallsPlugin.Verified
open CallsPlugin.Ports.Public CallsPlugin.Ports.Db

/-! ## A sequence of writes -/

/-- The database fails the store calls `fails` picks.  No store call occurs twice
in one run of `addUserSession`. -/
def failing (fails : StoreOp → Bool) (s : Store) (o : Op) : o.Resp × Store :=
  match o with
  | .store w => attempt (fails w) s w
  | o => exec .works s o

/-- The write is not made: the database fails it or refuses it. -/
def Write.Fails (fails : StoreOp → Bool) (s : Store) (w : Write) : Prop :=
  fails w.op = true ∨ w.op.Refused s

/-- The writes made in order up to the first that fails: whether all succeeded,
and the store. -/
def wrote (fails : StoreOp → Bool) : Store → List Write → Bool × Store
  | s, [] => (true, s)
  | s, w :: ws =>
      match attempt (fails w.op) s w.op with
      | (.error _, s) => (false, s)
      | (.ok _, s) => wrote fails s ws

section

variable {fails : StoreOp → Bool} {s : Store} {w : Write} {ws : List Write}
  {a : Address}

theorem wrote_cons_of_fails (ha : w.op.address = some a) (h : w.Fails fails s) :
    wrote fails s (w :: ws) = (false, s) := by
  by_cases hf : fails w.op = true
  · simp [wrote, attempt, hf]
  · obtain ⟨e, he⟩ := StoreOp.exec_of_refused ha (h.resolve_left hf)
    simp [wrote, attempt, hf, he]

theorem wrote_cons_of_not_fails (ws : List Write) (ha : w.op.address = some a)
    (h : ¬ w.Fails fails s) :
    ∃ t, wrote fails s (w :: ws) = wrote fails t ws ∧ (∀ b ≠ a, Store.Same s t b) ∧
      (Store.Same s t a ↔ w.op.Keeps s) ∧ (w.op.Keeps s → t = s) := by
  obtain ⟨hf, hr⟩ := not_or.1 h
  obtain ⟨u, t, he, hrest⟩ := StoreOp.exec_of_not_refused ha hr
  exact ⟨t, by simp [wrote, attempt, hf, he], hrest⟩

theorem Write.fails_congr {t : Store} (ha : w.op.address = some a)
    (h : Store.Same s t a) :
    w.Fails fails s ↔ w.Fails fails t :=
  or_congr Iff.rfl (StoreOp.refused_congr ha h)

end

theorem run_write (fails : StoreOp → Bool) (s : Store) (w : Write) :
    (write w).run (failing fails) s =
      ((attempt (fails w.op) s w.op).1.map (fun _ => ()) |>.mapError (w.what ++ ·),
        (attempt (fails w.op) s w.op).2) := by
  simp only [write, store, Code.perform_bind, Code.run_op, failing]
  rcases attempt (fails w.op) s w.op with ⟨_ | _, s'⟩ <;> rfl

/-- What `writeAll` does when nobody interferes. -/
theorem run_writeAll (fails : StoreOp → Bool) (s : Store) (ws : List Write) :
    ((writeAll ws).run (failing fails) s).2 = (wrote fails s ws).2 ∧
      (((writeAll ws).run (failing fails) s).1 = .ok () ↔
        (wrote fails s ws).1 = true) := by
  induction ws generalizing s with
  | nil => simp [writeAll, wrote]
  | cons w ws ih =>
      simp only [writeAll, Code.run_bind, run_write, wrote]
      rcases attempt (fails w.op) s w.op with ⟨_ | _, s'⟩
      · simp [Except.map, Except.mapError]
      · exact ih s'

/-- No write fails after one that changed its row. -/
def FailsClean (fails : StoreOp → Bool) (s : Store) : List Write → Prop
  | [] => True
  | w :: ws =>
      w.Fails fails s ∨
        ((∃ v ∈ ws, v.Fails fails s) → w.op.Keeps s) ∧ FailsClean fails s ws

/-- The writes are about rows, and no two about the same. -/
def Apart (ws : List Write) : Prop :=
  (∀ w ∈ ws, w.op.address ≠ none) ∧ (ws.map fun w => w.op.address).Nodup

/-- Later writes leave the row of an earlier one. -/
theorem wrote_frame (fails : StoreOp → Bool) {a : Address} {ws : List Write} :
    ∀ s : Store, (∀ w ∈ ws, w.op.address ≠ none) → (∀ w ∈ ws, w.op.address ≠ some a) →
      Store.Same s (wrote fails s ws).2 a := by
  induction ws with
  | nil => exact fun s _ _ => s.same_refl a
  | cons w ws ih =>
      intro s hsome hne
      obtain ⟨b, hb⟩ := Option.ne_none_iff_exists'.1 (hsome w (by simp))
      have hab : a ≠ b := fun e => hne w (by simp) (e ▸ hb)
      by_cases hf : w.Fails fails s
      · rw [wrote_cons_of_fails hb hf]
        exact s.same_refl a
      · obtain ⟨t, ht, hframe, -⟩ := wrote_cons_of_not_fails ws hb hf
        rw [ht]
        exact (hframe a hab).trans (ih t (fun v hv => hsome v (by simp [hv]))
          fun v hv => hne v (by simp [hv]))

theorem Apart.tail {w : Write} {ws : List Write} (h : Apart (w :: ws)) : Apart ws :=
  ⟨fun v hv => h.1 v (by simp [hv]), (List.nodup_cons.1 h.2).2⟩

/-- The first write has a row of its own. -/
theorem Apart.head {w : Write} {ws : List Write} (h : Apart (w :: ws)) :
    ∃ a, w.op.address = some a ∧ ∀ v ∈ ws, v.op.address ≠ some a := by
  obtain ⟨a, ha⟩ := Option.ne_none_iff_exists'.1 (h.1 w (by simp))
  refine ⟨a, ha, fun v hv e => (List.nodup_cons.1 h.2).1 ?_⟩
  show w.op.address ∈ _
  rw [ha, ← e]
  exact List.mem_map_of_mem hv

/-- What fails among later writes does not depend on the first. -/
theorem Apart.fails_iff {fails : StoreOp → Bool} {s t : Store} {a : Address}
    {ws : List Write} (hsome : ∀ w ∈ ws, w.op.address ≠ none)
    (hne : ∀ w ∈ ws, w.op.address ≠ some a) (hframe : ∀ b ≠ a, Store.Same s t b) :
    (∃ v ∈ ws, v.Fails fails s) ↔ ∃ v ∈ ws, v.Fails fails t := by
  refine exists_congr fun v => and_congr_right fun hv => ?_
  obtain ⟨b, hb⟩ := Option.ne_none_iff_exists'.1 (hsome v hv)
  exact Write.fails_congr hb (hframe b fun e => hne v hv (e ▸ hb))

/-- The sequence stops if a write of it fails. -/
theorem wrote_fst (fails : StoreOp → Bool) {ws : List Write} :
    ∀ s : Store, Apart ws →
    ((wrote fails s ws).1 = false ↔ ∃ w ∈ ws, w.Fails fails s) := by
  induction ws with
  | nil => exact fun s _ => by simp [wrote]
  | cons w ws ih =>
      intro s h
      obtain ⟨a, ha, hne⟩ := h.head
      by_cases hf : w.Fails fails s
      · rw [wrote_cons_of_fails ha hf]
        exact iff_of_true rfl ⟨w, by simp, hf⟩
      · obtain ⟨t, ht, hframe, -⟩ := wrote_cons_of_not_fails ws ha hf
        rw [ht, ih t h.tail, ← Apart.fails_iff h.tail.1 hne hframe]
        simp [hf]

theorem FailsClean.of_none {fails : StoreOp → Bool} {s : Store} {ws : List Write}
    (h : ¬ ∃ w ∈ ws, w.Fails fails s) : FailsClean fails s ws := by
  induction ws with
  | nil => trivial
  | cons w ws ih =>
      have hws : ¬ ∃ v ∈ ws, v.Fails fails s :=
        fun ⟨v, hv, hf⟩ => h ⟨v, by simp [hv], hf⟩
      exact .inr ⟨fun he => absurd he hws, ih hws⟩

/-- Writes to different rows that do not all go through leave the store as it was
if and only if they fail before anything has changed. -/
theorem wrote_eq_self_iff (fails : StoreOp → Bool) {ws : List Write} :
    ∀ s : Store, Apart ws → (((wrote fails s ws).1 = false → (wrote fails s ws).2 = s) ↔
      FailsClean fails s ws) := by
  induction ws with
  | nil => exact fun s _ => by simp [wrote, FailsClean]
  | cons w ws ih =>
      intro s h
      obtain ⟨a, ha, hne⟩ := h.head
      by_cases hf : w.Fails fails s
      · rw [wrote_cons_of_fails ha hf]
        exact iff_of_true (fun _ => rfl) (.inl hf)
      obtain ⟨t, ht, hframe, hsame, hkeep⟩ := wrote_cons_of_not_fails ws ha hf
      rw [ht, FailsClean, or_iff_right hf]
      by_cases hk : w.op.Keeps s
      · rw [hkeep hk, ih s h.tail]
        simp [hk]
      -- the row of `w` has changed and stays changed
      have hchanged : (wrote fails t ws).2 ≠ s := fun he =>
        by
        have hlater := wrote_frame fails t h.tail.1 hne
        rw [he] at hlater
        exact hk (hsame.1 hlater.symm)
      rw [wrote_fst fails t h.tail, ← Apart.fails_iff h.tail.1 hne hframe]
      constructor
      · intro hall
        have hnone : ¬ ∃ v ∈ ws, v.Fails fails s := fun he => hchanged (hall he)
        exact ⟨fun he => absurd he hnone, .of_none hnone⟩
      · rintro ⟨hk', -⟩ he
        exact absurd (hk' he) hk

/-! ## The writes of a join -/

/-- The captioning and the transcribing job are different jobs. -/
def CallState.JobsApart (state : CallState) : Prop :=
  ∀ lc ∈ state.liveCaptions, ∀ tr ∈ state.transcription, lc.id ≠ tr.id

theorem stateOfCall_jobsApart (s : Store) (call : Call) :
    (stateOfCall s call).JobsApart := by
  intro lc hlc tr htr e
  obtain ⟨hlc, -, -, hlctype⟩ := Store.getActiveCallJobs_eq_some (Option.mem_def.1 hlc)
  obtain ⟨htr, -, -, htrtype⟩ := Store.getActiveCallJobs_eq_some (Option.mem_def.1 htr)
  rw [s.jobs.eq_of_key_eq hlc htr e, htrtype] at hlctype
  cases hlctype

/-- The jobs a bot takes over are different jobs. -/
theorem jobsOf_nodup {p : Plugin} {state : CallState} {r : JoinRequest}
    {jobs : List CallJob} (hstate : state.JobsApart) (h : jobsOf p state r = .ok jobs) :
    (jobs.map CallJob.id).Nodup := by
  unfold jobsOf at h
  split at h
  case isFalse => cases h; exact List.nodup_nil
  unfold jobsTaken at h
  split at h
  case isTrue => cases h
  split at h
  case h_1 => cases h; exact List.nodup_singleton _
  split at h
  case h_2 => cases h
  case h_1 trState htr =>
    cases h
    have htr' := (Option.filter_eq_some_iff.1 htr).1
    cases hlc : startingCaptions state with
    | none => exact List.nodup_singleton _
    | some lcState =>
        have hlc' := (Option.filter_eq_some_iff.1 hlc).1
        simpa using hstate lcState hlc' trState htr'

/-- What the checks accept: the ongoing call, or a new one without jobs. -/
theorem joinChecks_eq_ok {p : Plugin} {env : Env} {state : Option CallState}
    {r : JoinRequest} {channelID : String} {st : CallState} {jobs : List CallJob}
    (h : joinChecks p env state r channelID = .ok (st, jobs)) :
    callToJoin p env state r channelID = .ok st ∧ checkJoin p st r.connID = .ok () ∧
      jobsOf p st r = .ok jobs := by
  unfold joinChecks at h
  cases hcall : callToJoin p env state r channelID with
  | error e => rw [hcall] at h; cases h
  | ok st' =>
      rw [hcall] at h
      dsimp only at h
      cases hcheck : checkJoin p st' r.connID with
      | error e => rw [hcheck] at h; cases h
      | ok _ =>
          rw [hcheck] at h
          dsimp only at h
          cases hjobs : jobsOf p st' r with
          | error e => rw [hjobs] at h; cases h
          | ok jobs' =>
              rw [hjobs] at h
              cases h
              exact ⟨rfl, hcheck, hjobs⟩

theorem callWrite_address (state : CallState) :
    (callWrite state).op.address = some (.call state.call.id) := by
  unfold callWrite
  split <;> rfl

/-- A join writes to different rows. -/
theorem joinWrites_apart (p : Plugin) (env : Env) (state : CallState) (r : JoinRequest)
    {jobs : List CallJob} (h : (jobs.map CallJob.id).Nodup) :
    Apart (joinWrites p env state jobs r) := by
  constructor
  · intro w hw
    simp only [joinWrites, List.mem_append, List.mem_map, List.mem_cons,
      List.not_mem_nil, or_false] at hw
    rcases hw with ⟨job, -, rfl⟩ | rfl | rfl
    · exact Option.some_ne_none _
    · rw [callWrite_address]
      exact Option.some_ne_none _
    · exact Option.some_ne_none _
  · simp only [joinWrites, List.map_append, List.map_map, List.map_cons, List.map_nil,
      callWrite_address]
    refine List.nodup_append'.2 ⟨?_, by simp [sessionWrite, StoreOp.address], ?_⟩
    · have : (fun w : Write => w.op.address) ∘
          (fun job => jobWrite (withBotConnID job r.connID))
          = (fun id => some (Address.job id)) ∘ CallJob.id := rfl
      rw [this, ← List.map_map]
      exact h.map fun a b e => by simpa using e
    · intro a ha hb
      obtain ⟨job, -, rfl⟩ := List.mem_map.1 ha
      simp [jobWrite, sessionWrite, StoreOp.address] at hb

/-- Announcing leaves the store alone. -/
@[simp] theorem run_announceHost (fails : StoreOp → Bool) (env : Env)
    (oldHostID : String) (state : CallState) (channelID : String) (s : Store) :
    (announceHost env oldHostID state channelID).run (failing fails) s = ((), s) := by
  unfold announceHost
  split <;> rfl

@[simp] theorem run_announceRefusal (fails : StoreOp → Bool) (r : JoinRequest)
    (channelID e : String) (s : Store) :
    (announceRefusal r channelID e).run (failing fails) s = ((), s) := by
  unfold announceRefusal
  split <;> rfl

/-- What `addUserSession` returns and leaves when nobody interferes. -/
theorem run_addUserSession {p : Plugin} {env : Env} {state : Option CallState}
    {r : JoinRequest} {channelID : String} {st : CallState} {jobs : List CallJob}
    (h : joinChecks p env state r channelID = .ok (st, jobs))
    (fails : StoreOp → Bool) (s : Store) :
    ((wrote fails s (joinWrites p env st jobs r)).1 = true ∧
      (addUserSession p env state r channelID).run (failing fails) s =
        ((some (joined p env st r), .ok ()),
          (wrote fails s (joinWrites p env st jobs r)).2)) ∨
    ((wrote fails s (joinWrites p env st jobs r)).1 = false ∧ ∃ e,
      (addUserSession p env state r channelID).run (failing fails) s =
        ((state, .error e), (wrote fails s (joinWrites p env st jobs r)).2)) := by
  obtain ⟨hstore, hok⟩ := run_writeAll fails s (joinWrites p env st jobs r)
  simp only [addUserSession, tryAddUserSession_eq, h, Code.bind_assoc, Code.run_bind,
    hstore]
  cases hres : ((writeAll (joinWrites p env st jobs r)).run (failing fails) s).1 with
  | error e =>
      refine .inr ⟨?_, e, by simp⟩
      rw [← Bool.not_eq_true, ← hok, hres]
      simp
  | ok u =>
      exact .inl ⟨hok.1 hres, by simp⟩

/-- A refused join changes nothing. -/
theorem run_addUserSession_refused {p : Plugin} {env : Env} {state : Option CallState}
    {r : JoinRequest} {channelID e : String}
    (h : joinChecks p env state r channelID = .error e)
    (fails : StoreOp → Bool) (s : Store) :
    (addUserSession p env state r channelID).run (failing fails) s =
    ((state, .error e), s) := by
  simp [addUserSession, tryAddUserSession_eq, h]

@[simp] theorem withJobs_call (p : Plugin) (state : CallState) (r : JoinRequest) :
    (withJobs p state r).call = state.call := by
  unfold withJobs takeJobs
  repeat' split
  all_goals rfl

@[simp] theorem withJobs_sessions (p : Plugin) (state : CallState) (r : JoinRequest) :
    (withJobs p state r).sessions = state.sessions := by
  unfold withJobs takeJobs
  repeat' split
  all_goals rfl

/-- The host is chosen from the call and its sessions. -/
theorem CallState.getHostID_congr {env : Env} {cs cs' : CallState} {botID : String}
    (hcall : cs.call = cs'.call) (hsessions : cs.sessions = cs'.sessions) :
    cs.getHostID env botID = cs'.getHostID env botID := by
  cases cs
  cases cs'
  cases hcall
  cases hsessions
  rfl

/-- The state with the session of a join in it. -/
def withSession (env : Env) (state : CallState) (r : JoinRequest) : CallState :=
  { state with sessions := state.sessions.put (newSession env state r.userID r.connID) }

/-- The call after a join. -/
theorem joined_call (p : Plugin) (env : Env) (state : CallState) (r : JoinRequest) :
    (joined p env state r).call = { state.call with
      props := { state.call.props with
        hosts :=
          if (withSession env state r).getHostID env p.botID ≠ state.call.getHostID
          then [(withSession env state r).getHostID env p.botID]
            else state.call.props.hosts
        participants :=
          if r.userID ≠ p.botID ∧ r.userID ∉ state.call.props.participants
          then state.call.props.participants ++ [r.userID]
          else state.call.props.participants } } := by
  have hhost : CallState.getHostID env
      { withJobs p state r with
        sessions := (withJobs p state r).sessions.put
          (newSession env (withJobs p state r) r.userID r.connID) } p.botID =
      (withSession env state r).getHostID env p.botID :=
    CallState.getHostID_congr (by simp [withSession])
      (by simp [withSession, newSession])
  dsimp only at hhost
  simp only [joined, admitted]
  rw [hhost]
  simp only [withJobs_call]

/-- The session a join adds is a new one. -/
theorem joined_sessions {p : Plugin} (env : Env) {state : CallState} {r : JoinRequest}
    (h : checkJoin p state r.connID = .ok ()) :
    (joined p env state r).sessions.rows =
      state.sessions.rows ++ [newSession env state r.userID r.connID] := by
  have hfresh : state.sessions.find? r.connID = none := by
    unfold checkJoin at h
    split at h
    · cases h
    split at h
    · cases h
    next hs => simpa using hs
  simp only [joined, admitted, withJobs_sessions, newSession, withJobs_call]
  exact Table.put_rows_of_fresh fun x hx => Table.find?_eq_none.1 hfresh x hx

/-- Writing a job a bot takes over keeps its row if and only if the job has the
connection of the bot already. -/
theorem jobWrite_keeps_iff {s : Store} {job : CallJob} {connID : String}
    (hjob : job ∈ s.jobs) :
    (jobWrite (withBotConnID job connID)).op.Keeps s ↔
    job.props.botConnID = connID := by
  have hrow : (jobWrite (withBotConnID job connID)).op.Keeps s ↔
      Store.setJob job (withBotConnID job connID) = job := by
    constructor
    · exact fun hk => hk job hjob rfl
    · intro hk x hx hid
      rw [s.jobs.eq_of_key_eq hx hjob hid]
      exact hk
  rw [hrow]
  constructor
  · exact fun h => (congrArg (fun j => j.props.botConnID) h).symm
  · rintro rfl
    rfl

/-- A call row keeps its hosts and participants only if they are the ones written. -/
theorem setCall_eq_self_iff {c : Call} {hosts participants : List String} :
    Store.setCall c { c with
      props := { c.props with hosts := hosts, participants := participants } } = c ↔
      hosts = c.props.hosts ∧ participants = c.props.participants := by
  constructor
  · intro h
    have hprops := congrArg Call.props h
    exact ⟨congrArg CallProps.hosts hprops, congrArg CallProps.participants hprops⟩
  · rintro ⟨rfl, rfl⟩
    rfl

/-- Writing the call of a join keeps its row if and only if there is a call, whose
host stays, and the user is the bot or a participant already. -/
theorem callWrite_keeps_iff {p : Plugin} {env : Env} {s : Store} {state : CallState}
    {r : JoinRequest} (hcall : state.call ∈ s.calls)
    (h : checkJoin p state r.connID = .ok ()) :
    (callWrite (joined p env state r)).op.Keeps s ↔ state.sessions.rows ≠ [] ∧
      (withSession env state r).getHostID env p.botID = state.call.getHostID ∧
      (r.userID = p.botID ∨ r.userID ∈ state.call.props.participants) := by
  have hlen : (joined p env state r).sessions.rows.length = 1 ↔
      state.sessions.rows = [] := by
    rw [joined_sessions env h, List.length_append, List.length_singleton,
      Nat.add_eq_right, List.length_eq_zero_iff]
  rw [callWrite]
  split
  next hfirst => simp [StoreOp.Keeps, hlen.1 hfirst]
  next hlater =>
    have hrow : (StoreOp.updateCall (joined p env state r).call).Keeps s ↔
        Store.setCall state.call (joined p env state r).call = state.call := by
      rw [StoreOp.Keeps, joined_call]
      constructor
      · exact fun hk => hk state.call hcall rfl
      · intro hk x hx hid
        rw [s.calls.eq_of_key_eq hx hcall hid]
        exact hk
    rw [hrow, joined_call, and_iff_right fun e => hlater (hlen.2 e)]
    rw [setCall_eq_self_iff]
    refine and_congr ?_ ?_
    · split
      next hne =>
        refine iff_of_false (fun he => hne ?_) hne
        rw [Call.getHostID, ← he, List.headD_cons]
      next he => exact iff_of_true rfl (not_not.1 he)
    · split
      next hnew =>
        exact iff_of_false (fun he => by simpa using congrArg List.length he)
          (not_or.2 hnew)
      next hold =>
        exact iff_of_true rfl (by rwa [not_and_or, not_not, not_not] at hold)

/-- `addUserSession` that fails has changed nothing if and only if no write of it
fails after one that changed its row. -/
theorem addUserSession_atomic_iff (p : Plugin) (env : Env) (state : Option CallState)
    (r : JoinRequest) (channelID : String) (fails : StoreOp → Bool) (s : Store)
    (hstate : ∀ st ∈ state, st.JobsApart) :
    (∀ e, ((addUserSession p env state r channelID).run (failing fails) s).1.2 =
      .error e →
      (addUserSession p env state r channelID).run (failing fails) s =
        ((state, .error e), s)) ↔
    ∀ st jobs, joinChecks p env state r channelID = .ok (st, jobs) →
      FailsClean fails s (joinWrites p env st jobs r) := by
  cases h : joinChecks p env state r channelID with
  | error e =>
      rw [run_addUserSession_refused h]
      refine iff_of_true (fun e' he => ?_) (fun _ _ h' => by cases h')
      cases he
      rfl
  | ok res =>
      obtain ⟨st, jobs⟩ := res
      obtain ⟨hcall, -, hjobs⟩ := joinChecks_eq_ok h
      have hapart : st.JobsApart := by
        rcases callToJoin_eq_ok hcall with rfl | ⟨-, host, rfl⟩
        · exact hstate st rfl
        · rintro lc ⟨⟩
      have hiff := wrote_eq_self_iff fails s (joinWrites_apart p env st r
        (jobsOf_nodup hapart hjobs))
      have hclean : (∀ st' jobs', (Except.ok (st, jobs) : Except String _) =
          .ok (st', jobs') → FailsClean fails s (joinWrites p env st' jobs' r)) ↔
          FailsClean fails s (joinWrites p env st jobs r) :=
        ⟨fun hc => hc st jobs rfl, fun hc st' jobs' he => by cases he; exact hc⟩
      rw [hclean, ← hiff]
      rcases run_addUserSession h fails s with ⟨hw, hrun⟩ | ⟨hw, e, hrun⟩
      · rw [hrun, hw]
        simp
      · rw [hrun, hw]
        constructor
        · intro hall _
          exact congrArg Prod.snd (hall e rfl)
        · intro hs e' he
          cases he
          rw [hs rfl]

/-! ## Instances -/

/-- The database fails the insertion of session rows. -/
def failsSessions : StoreOp → Bool
  | .createCallSession _ => true
  | _ => false

/-- The host of the sample call joins on another connection. -/
def aliceJoins : JoinRequest := ⟨"alice", "s2", "", some true, .other⟩

/-- A new user joins. -/
def bobJoins : JoinRequest := ⟨"bob", "s2", "", some true, .other⟩

/-- A second connection of a participant changes nothing when its session row
cannot be stored. -/
theorem addUserSession_atomic_of_rejoin :
    storedState sampleStore "chan" = some sampleState ∧
    ∀ e, ((addUserSession .sample (.sample 20) (some sampleState) aliceJoins "chan").run
        (failing failsSessions) sampleStore).1.2 = .error e →
      (addUserSession .sample (.sample 20) (some sampleState) aliceJoins "chan").run
        (failing failsSessions) sampleStore =
        ((some sampleState, .error e), sampleStore) := by
  refine ⟨by decide, (addUserSession_atomic_iff .sample (.sample 20) (some sampleState)
    aliceJoins "chan" failsSessions sampleStore ?_).2 ?_⟩
  · rintro st ⟨⟩
    exact stateOfCall_jobsApart sampleStore sampleCall
  · intro st jobs h
    have hchecks : joinChecks .sample (.sample 20) (some sampleState) aliceJoins
      "chan" = .ok (sampleState, []) := rfl
    rw [hchecks] at h
    cases h
    have hkeeps :
        (callWrite (joined .sample (.sample 20) sampleState aliceJoins)).op.Keeps
        sampleStore :=
      (callWrite_keeps_iff List.mem_cons_self rfl).2 ⟨by decide, by decide,
        .inr (by decide)⟩
    exact .inr ⟨fun _ => hkeeps, .inl (.inl rfl)⟩

/-- The first join of a channel leaves a call behind when its session row cannot be
stored. -/
theorem addUserSession_leaves_call :
    storedState emptyStore "chan" = none ∧
    ∃ e t, (addUserSession .sample (.sample 20) none bobJoins "chan").run
        (failing failsSessions) emptyStore = ((none, .error e), t) ∧ t ≠ emptyStore :=
  ⟨by decide, _, _, rfl, by decide⟩

end CallsPlugin.Ports
