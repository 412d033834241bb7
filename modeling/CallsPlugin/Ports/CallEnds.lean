import CallsPlugin.Verified.Rely
import CallsPlugin.Ports.Participants

/-!
# The participants of a call that has ended

When a call ends its participants go to the row and to the call's post.  The last leave
of a call updates the post after `setCallEnded` has cleared the participants it passes
on, and a clean-up or the delayed step of `hostEnd` that comes to a call that is over
updates the post again with the participants it finds, which are none.
-/

namespace CallsPlugin.Ports

open CallsPlugin.Verified
open CallsPlugin.Ports.Public CallsPlugin.Ports.Db

/-! ## Moments -/

/-- A step as it is remembered: the store before it, and the post it updates with its
participants, if it does. -/
structure Moment where
  store : Store
  post : Option (String × List String)

/-- The update of a post, if it takes effect: `updateCallPostEnded` refuses an empty id,
and may fail to read or to write the post. -/
def endedPost (ch : Choice) : Op → Option (String × List String)
  | .updateCallPostEnded postID participants =>
      if ch.storeFails = true ∨ postID = "" then none else some (postID, participants)
  | _ => none

theorem endedPost_update (ch : Choice) (postID : String) (participants : List String) :
    endedPost ch (.updateCallPostEnded postID participants) =
      if ch.storeFails = true ∨ postID = "" then none
        else some (postID, participants) := rfl

theorem endedPost_eq_some {ch : Choice} {o : Op} {postID : String}
    {participants : List String} (h : endedPost ch o = some (postID, participants)) :
    o = .updateCallPostEnded postID participants ∧ postID ≠ "" := by
  cases o with
  | updateCallPostEnded id ps =>
      rw [endedPost_update, Option.ite_none_left_eq_some] at h
      obtain ⟨hne, heq⟩ := h
      cases heq
      exact ⟨rfl, fun he => hne (.inr he)⟩
  | _ => cases h

/-- The participants a moment stores on a post. -/
def Moment.posted (postID : String) (m : Moment) : Option (List String) :=
  (m.post.filter fun post => post.1 = postID).map (·.2)

/-- The participants last stored on a post. -/
def postedParticipants (postID : String) (l : List Moment) : Option (List String) :=
  (l.filterMap (Moment.posted postID)).getLast?

theorem postedParticipants_concat (postID : String) (l : List Moment) (m : Moment) :
    postedParticipants postID (l ++ [m]) =
      (m.posted postID).or (postedParticipants postID l) := by
  unfold postedParticipants
  rw [List.filterMap_append, List.getLast?_append]
  cases hm : m.posted postID with
  | none => simp [hm]
  | some ps => simp [hm]

theorem Moment.posted_eq_some {m : Moment} {postID : String}
    {participants : List String} :
    m.posted postID = some participants ↔ m.post = some (postID, participants) := by
  unfold Moment.posted
  cases m.post with
  | none => simp
  | some post =>
      obtain ⟨id, ps⟩ := post
      simp only [Option.filter_some, decide_eq_true_eq, Option.some.injEq,
        Prod.mk.injEq]
      split
      next h => simp [h]
      next h => simp [h]

/-- A participant had a session of the call, in the course of what is remembered or
now. -/
def HadSession (callID userID : String) (l : List Moment) (s : Store) : Prop :=
  HasSession callID userID s ∨ ∃ m ∈ l, HasSession callID userID m.store

/-- The post of the call was updated with the participants. -/
def Noted (callID postID : String) (participants : List String) (l : List Moment) :
    Prop :=
  ∃ m ∈ l, m.post = some (postID, participants) ∧
    ∃ c ∈ m.store.calls, c.id = callID ∧ c.postID = postID

/-! ## How the call goes on -/

/-- The call keeps its row and its post, and once it has ended it stays so. -/
def KeepsCall (callID : String) (s s' : Store) : Prop :=
  ∀ c ∈ s.calls, c.id = callID → ∃ c' ∈ s'.calls, c'.id = callID ∧
    (c.postID ≠ "" → c'.postID = c.postID) ∧ (c.endAt ≠ 0 → c'.endAt ≠ 0)

theorem KeepsCall.refl (callID : String) (s : Store) : KeepsCall callID s s :=
  fun c hc hid => ⟨c, hc, hid, fun _ => rfl, fun h => h⟩

theorem KeepsCall.trans {callID : String} {s s' s'' : Store} (h : KeepsCall callID s s')
    (h' : KeepsCall callID s' s'') : KeepsCall callID s s'' := by
  intro c hc hid
  obtain ⟨c', hc', hid', hpost, hend⟩ := h c hc hid
  obtain ⟨c'', hc'', hid'', hpost', hend'⟩ := h' c' hc' hid'
  refine ⟨c'', hc'', hid'', fun hp => ?_, fun he => hend' (hend he)⟩
  have hsame : c'.postID = c.postID := hpost hp
  exact (hpost' (hsame.symm ▸ hp)).trans hsame

theorem Noted.mono {callID postID : String} {participants : List String}
    {l l' : List Moment} (h : Noted callID postID participants l) (hl : l ⊆ l') :
    Noted callID postID participants l' := by
  obtain ⟨m, hm, hpost⟩ := h
  exact ⟨m, hl hm, hpost⟩

/-! ## Requests that end a call -/

/-- The update of the post of the call by a request that ends it does not fail. -/
def PostUpdated (callID : String) (h : Handler) (ch : Choice) (s : Store) (o : Op) :
    Prop :=
  h.Ends → ∀ postID participants, o = .updateCallPostEnded postID participants →
    (∃ c ∈ s.calls, c.id = callID ∧ c.postID = postID) → ch.storeFails = false

/-- A request among the others: the call goes on, and nothing that is remembered is
forgotten.  The end of the call may be written after the post was updated with the same
participants. -/
@[reducible]
def endRely (callID : String) (h : Handler) :
    Rely Op Op.Resp (Store × List Moment) where
  along x y := x.2 ⊆ y.2 ∧ KeepsCall callID x.1 y.1
  can x o r y := (x.2 ⊆ y.2 ∧ KeepsCall callID x.1 y.1) ∧ ∃ holder ch,
    EndingAllow callID h holder ch x.1 o ∧ PostUpdated callID h ch x.1 o ∧
      r = (exec ch x.1 o).1 ∧ y = ((exec ch x.1 o).2, x.2 ++ [⟨x.1, endedPost ch o⟩])
  good x o := h.Ends → ∀ c, o = .store (.updateCall c) → c.id = callID → c.postID ≠ "" →
    Noted callID c.postID c.participants x.2
  along_refl _ := ⟨List.Subset.refl _, .refl _ _⟩
  along_trans h h' := ⟨List.Subset.trans h.1 h'.1, h.2.trans h'.2⟩
  can_along h := h.1

section Meets

variable {callID : String} {h : Handler} {call : Call} {x y : Store × List Moment}

/-- The copy of a call row that was read before. -/
def Copied (callID : String) (call : Call) (s : Store) : Prop :=
  call.id = callID → call.postID ≠ "" →
    ∃ c ∈ s.calls, c.id = callID ∧ c.postID = call.postID ∧
    (call.endAt ≠ 0 → c.endAt ≠ 0)

theorem Copied.of_mem (callID : String) {s : Store} (hc : call ∈ s.calls) :
    Copied callID call s :=
  fun hid _ => ⟨call, hc, hid, rfl, fun h => h⟩

theorem Copied.later {s s' : Store} (hcopy : Copied callID call s)
    (hl : KeepsCall callID s s') :
    Copied callID call s' := by
  intro hid hne
  obtain ⟨c, hc, hcid, hpost, hend⟩ := hcopy hid hne
  obtain ⟨c', hc', hid', hpost', hend'⟩ := hl c hc hcid
  exact ⟨c', hc', hid', (hpost' (hpost.symm ▸ hne)).trans hpost,
    fun he => hend' (hend he)⟩

/-- The operation does not write the call. -/
def Op.SparesCall : Op → Prop
  | .store (.updateCall _) => False
  | _ => True

theorem Op.JobsOnly.sparesCall {o : Op} (ho : o.JobsOnly) : o.SparesCall := by
  cases o with
  | store o => cases o <;> trivial
  | _ => trivial

theorem sparesCall_good (callID : String) (h : Handler) (x : Store × List Moment)
    (o : Op) (ho : o.SparesCall) : (endRely callID h).good x o := by
  rintro - c rfl
  exact ho.elim

/-- The row that `cleanCallState` writes was noted on the post before. -/
theorem cleanCall_noted (hh : h.Ends) (hcopy : Copied callID call x.1)
    (hcan : (endRely callID h).can x
      (.updateCallPostEnded call.postID call.props.participants) ()
      y) (hid : call.id = callID) (hne : call.postID ≠ "") :
    call.endAt = 0 ∧ Noted callID call.postID call.props.participants y.2 := by
  obtain ⟨-, holder, ch, hallow, hupdated, -, rfl⟩ := hcan
  obtain ⟨c, hc, hcid, hpost, hend⟩ := hcopy hid hne
  have hgoes : c.endAt = 0 := (hallow.post _ _ rfl hne c hc hcid hpost).1
  have hworks : ch.storeFails = false := hupdated hh _ _ rfl ⟨c, hc, hcid, hpost⟩
  have hmoment : endedPost ch
      (.updateCallPostEnded call.postID call.props.participants) =
      some (call.postID, call.props.participants) := by
    rw [endedPost_update, if_neg]
    rintro (hfails | hempty)
    · exact Bool.false_ne_true (hworks.symm.trans hfails)
    · exact hne hempty
  refine ⟨by_contra fun he => hend he hgoes, _,
    List.mem_append_right _ (List.mem_singleton_self _),
    hmoment, c, hc, hcid, hpost⟩

/-- The row to write was noted on its post. -/
def Saved (callID : String) (call : Call) (x : Store × List Moment) : Prop :=
  call.id = callID → call.postID ≠ "" → Noted callID call.postID call.participants x.2

theorem Saved.mono (hs : Saved callID call x) (hl : x.2 ⊆ y.2) : Saved callID call y :=
  fun hid hne => (hs hid hne).mono hl

/-- Cleaning a call notes its participants before it writes its end. -/
theorem cleanCallState_meets (env : Env) (hh : h.Ends)
    (hcopy : Copied callID call x.1) :
    (Prog.lift (cleanCallState env call)).Meets (endRely callID h)
      (fun _ _ => True) x := by
  intro x₁ h₁
  refine ⟨sparesCall_good _ _ _ _ trivial, fun r x₂ h₂ => ?_⟩
  have hcopy₁ : Copied callID call x₁.1 := hcopy.later h₁.2
  -- what is known from here on of the row to write
  have hsaved : Saved callID
      (if call.endAt = 0 then setCallEnded env call else call) x₂ := by
    intro hid hne
    split at hid
    next h0 =>
      rw [if_pos h0] at hne ⊢
      exact (cleanCall_noted hh hcopy₁ h₂ hid hne).2
    next h0 =>
      rw [if_neg h0] at hne
      exact absurd (cleanCall_noted hh hcopy₁ h₂ hid hne).1 h0
  generalize (if call.endAt = 0 then setCallEnded env call else call) = saved at hsaved
  have hsave : ∀ x, Saved callID saved x → (Prog.lift (store (.updateCall saved))).Meets
      (endRely callID h) (fun _ _ => True) x := by
    refine fun x hx _ hx' => ⟨fun _ c hc hid hne => ?_, fun _ _ _ _ _ => trivial⟩
    cases hc
    exact (hx.mono hx'.1) hid hne
  refine fun x₃ h₃ => ⟨sparesCall_good _ _ _ _ trivial, fun _ x₄ h₄ x₅ h₅ =>
    ⟨sparesCall_good _ _ _ _ trivial, fun res x₆ h₆ => ?_⟩⟩
  have hsaved : Saved callID saved x₆ :=
    (((hsaved.mono h₃.1).mono h₄.1.1).mono h₅.1).mono h₆.1.1
  cases res with
  | error e => exact hsave x₆ hsaved
  | ok jobs =>
      have hjobs : (Prog.lift (endJobs env saved (env.iterJobs
          ([JobType.recording, JobType.transcribing,
            JobType.captioning].filterMap jobs)))).Only
          Op.SparesCall :=
        Prog.Only.lift ((endJobs_jobsOnly env saved _).mono fun _ =>
          Op.JobsOnly.sparesCall)
      have hended := (Prog.Meets.of_only hjobs (sparesCall_good callID h) x₆).frame
        (fun hx hF => Saved.mono hF hx.1) hsaved
      show (Prog.lift (endJobs env saved
        (env.iterJobs ([JobType.recording, JobType.transcribing,
        JobType.captioning].filterMap jobs)) >>= fun _ =>
          store (.updateCall saved))).Meets _ _ _
      rw [Prog.lift_bind]
      exact hended.bind fun _ x hx => hsave x hx.2

/-- The clean-up of one call. -/
theorem cleanUpCall_meets (p : Plugin) (env : Env) (hh : h.Ends)
    (hcopy : Copied callID call x.1) :
    (cleanUpCall p env call).Meets (endRely callID h) (fun _ _ => True) x := by
  simp only [cleanUpCall, lockCall, unlockCall, Prog.lock_bind, Prog.ret_bind]
  intro locked
  cases locked with
  | false => exact fun _ _ => trivial
  | true =>
      simp only [if_true]
      split
      · exact fun _ _ => trivial
      · refine (cleanCallState_meets env hh hcopy).bind fun res y _ => ?_
        cases res <;> exact fun _ _ => trivial

/-- The loop of a clean-up over copies of call rows. -/
theorem cleanUpCalls_meets (p : Plugin) (env : Env) (hh : h.Ends) (calls : List Call)
    (hcopies : ∀ c ∈ calls, Copied callID c x.1) :
    (cleanUpCalls p env calls).Meets (endRely callID h) (fun _ _ => True) x := by
  induction calls generalizing x with
  | nil => exact fun _ _ => trivial
  | cons call rest ih =>
      have hcall := cleanUpCall_meets p env hh (hcopies call (List.mem_cons_self ..))
      refine (hcall.frame (F := fun y => ∀ c ∈ rest, Copied callID c y.1)
          (fun hx hF c hc =>
        (hF c hc).later hx.2) fun c hc => hcopies c (List.mem_cons_of_mem _ hc)).bind
        fun res y hy => ?_
      cases res with
      | error e => exact fun _ _ => trivial
      | ok _ => exact ih hy.2

/-- What a read gives: an error, or what the store has. -/
theorem can_read {o : StoreOp} (ho : o.isWrite = false) {r : Except String o.Result}
    (hcan : (endRely callID h).can x (.store o) r y) :
    y.1 = x.1 ∧ ∀ a, r = .ok a → (o.exec y.1).1 = .ok a := by
  obtain ⟨-, holder, ch, -, -, hr, rfl⟩ := hcan
  have hsame : (exec ch x.1 (.store o)).2 = x.1 := attempt_read ho ch.storeFails x.1
  refine ⟨hsame, fun a ha => ?_⟩
  rw [hsame]
  have hread : (attempt ch.storeFails x.1 o).1 = .ok a := hr.symm.trans ha
  unfold attempt at hread
  split at hread
  · cases hread
  · exact hread

/-- The clean-up of a channel. -/
theorem cleanUpState_meets (p : Plugin) (env : Env) (channelID : String) (hh : h.Ends) :
    (cleanUpState p env channelID).Meets (endRely callID h) (fun _ _ => True) x := by
  intro x₁ h₁
  refine ⟨sparesCall_good _ _ _ _ trivial, fun r x₂ h₂ => ?_⟩
  obtain ⟨-, hread⟩ := can_read rfl h₂
  cases r with
  | error e => exact fun _ _ => trivial
  | ok calls =>
      obtain rfl : x₂.1.getAllActiveCalls = calls := Except.ok.inj (hread calls rfl)
      refine cleanUpCalls_meets p env hh _ fun c hc => .of_mem callID ?_
      have hactive := (List.mem_filter.1 hc).1
      unfold Store.getAllActiveCalls at hactive
      rw [List.mem_insertionSort, Table.mem_select] at hactive
      exact hactive.1

/-- The delayed step of `hostEnd`. -/
theorem forceEnd_meets (env : Env) (id : String) (hh : h.Ends) :
    (Prog.lift (forceEnd env id)).Meets (endRely callID h) (fun _ _ => True) x := by
  intro x₁ h₁
  refine ⟨sparesCall_good _ _ _ _ trivial, fun r x₂ h₂ => ?_⟩
  obtain ⟨-, hread⟩ := can_read rfl h₂
  match r, hread with
  | .error e, _ => exact fun _ _ => trivial
  | .ok none, _ => exact fun _ _ => trivial
  | .ok (some call), hread =>
      have hcall : call ∈ x₂.1.calls :=
        (Table.find?_eq_some.1 (Except.ok.inj (hread _ rfl))).1
      refine fun x₃ h₃ => ⟨sparesCall_good _ _ _ _ trivial, fun _ x₄ h₄ => ?_⟩
      have hclean := cleanCallState_meets env hh
        (((Copied.of_mem callID hcall).later h₃.2).later h₄.1.2)
      show (Prog.lift (cleanCallState env call >>= fun _ => .ret ())).Meets _ _ _
      rw [Prog.lift_bind]
      exact hclean.bind fun _ _ _ _ _ => trivial

/-- A request that ends the call notes the participants before it writes its end. -/
theorem Handler.code_meets (h : Handler) (p : Plugin) (env : Env) (channelID : String)
    (x : Store × List Moment) :
    (h.code p env channelID).Meets (endRely callID h) (fun _ _ => True) x := by
  by_cases hh : h.Ends
  · rcases id hh with rfl | ⟨id, rfl⟩
    · exact (cleanUpState_meets p env channelID hh).bind fun _ _ _ _ _ => trivial
    · exact forceEnd_meets env id hh
  · exact Prog.Meets.of_only (Prog.only_of_forall (fun _ => trivial) _)
      (fun _ _ _ he => absurd he hh) x

end Meets

/-! ## What a step does to the call -/

/-- The end of the call is written, which its post was updated with before. -/
structure EndsNoted (callID : String) (l : List Moment) (c c' : Call) : Prop extends
    EndsAsStored c c' where
  ended : c'.endAt ≠ 0
  noted : c'.postID ≠ "" → Noted callID c'.postID c'.participants l

/-- What a step does to the rows of the call and of its sessions, and to its post. -/
structure Moves (callID botID : String) (l : List Moment) (s s' : Store)
    (post : Option (String × List String)) : Prop where
  row : ∀ c ∈ s.calls, c.id = callID → ∃ c' ∈ s'.calls, c'.id = callID ∧
    (c' = c ∨ RecordGoesOn c c' ∨ EndsNoted callID l c c')
  created : ∀ c' ∈ s'.calls, c'.id = callID →
    (∀ c ∈ s.calls, c.id ≠ callID) → c'.endAt = 0
  session : ∀ u, u ≠ botID → HasSession callID u s' →
    HasSession callID u s ∨ ∃ c ∈ s.calls, c.id = callID ∧ u ∈ recorded c
  post : ∀ postID participants, post = some (postID, participants) →
    postID ≠ "" ∧ s' = s ∧ ∀ c ∈ s.calls, c.id = callID → c.postID = postID →
      c.endAt = 0 ∧ ∀ u, u ∈ participants ↔ u ∈ c.props.participants

section Moves

variable {callID botID : String} {l : List Moment} {s s' : Store} {c c' : Call}
  {post : Option (String × List String)}

/-- Nothing happens. -/
theorem Moves.rest (callID botID : String) (l : List Moment) (s : Store) :
    Moves callID botID l s s none where
  row c hc hid := ⟨c, hc, hid, .inl rfl⟩
  created c hc hid hnew := absurd hid (hnew c hc)
  session _ _ hu := .inl hu
  post _ _ h := nomatch h

/-- The call goes on as `KeepsCall` says. -/
theorem Moves.later (hm : Moves callID botID l s s' post) : KeepsCall callID s s' := by
  intro c hc hid
  obtain ⟨c', hc', hid', hrow⟩ := hm.row c hc hid
  refine ⟨c', hc', hid', ?_⟩
  rcases hrow with rfl | hgoes | hends
  · exact ⟨fun _ => rfl, fun h => h⟩
  · exact ⟨hgoes.post, fun he => absurd hgoes.before he⟩
  · exact ⟨fun _ => hends.post, fun _ => hends.ended⟩

/-- Who is recorded stays recorded. -/
theorem Moves.recorded (hm : Moves callID botID l s s' post) {u : String}
    (hu : ∃ c ∈ s.calls, c.id = callID ∧ u ∈ recorded c) :
    ∃ c ∈ s'.calls, c.id = callID ∧ u ∈ Ports.recorded c := by
  obtain ⟨c, hc, hid, hmem⟩ := hu
  obtain ⟨c', hc', hid', hrow⟩ := hm.row c hc hid
  refine ⟨c', hc', hid', ?_⟩
  rcases hrow with rfl | hgoes | hends
  · exact hmem
  · rw [recorded_ongoing hgoes.before] at hmem
    rw [recorded_ongoing hgoes.after]
    exact hgoes.participants u hmem
  · rw [recorded_ongoing hends.ongoing] at hmem
    rw [recorded_ended hends.ended]
    exact (hends.participants u).2 hmem

end Moves

/-! ## What is remembered of the call -/

/-- The post of the call: while the call goes on, what was noted on it is on it, and
nobody is but participants; once the call has ended, its participants are. -/
structure PostKept (callID : String) (l : List Moment) (c : Call) : Prop where
  ongoing : c.endAt = 0 → ∀ participants, Noted callID c.postID participants l →
    ∃ posted, postedParticipants c.postID l = some posted ∧
      (∀ u ∈ participants, u ∈ posted) ∧
      ∀ u ∈ posted, u ∈ c.props.participants
  ended : c.endAt ≠ 0 → ∃ posted, postedParticipants c.postID l = some posted ∧
    ∀ u, u ∈ posted ↔ u ∈ c.participants

/-- What is remembered of the call, and what the store has of it, in the course of a
run. -/
structure Remembered (callID botID : String) (l : List Moment) (s : Store) : Prop where
  seen : ∀ u, u ≠ botID → HadSession callID u l s →
    ∃ c ∈ s.calls, c.id = callID ∧ u ∈ recorded c
  later : ∀ m ∈ l, KeepsCall callID m.store s
  posted : ∀ c ∈ s.calls, c.id = callID → c.postID ≠ "" → PostKept callID l c
  untouched : ∀ m ∈ l, ∀ c ∈ m.store.calls, c.id = callID → c.endAt ≠ 0 →
    ∀ participants, m.post ≠ some (c.postID, participants)

section Remembered

variable {callID botID : String} {l : List Moment} {s s' : Store} {c c' : Call}
  {m : Moment} {post : Option (String × List String)}

/-- A moment that does not update the post leaves what is on it. -/
theorem postedParticipants_other {postID : String}
    (h : ∀ ps, m.post ≠ some (postID, ps)) :
    postedParticipants postID (l ++ [m]) = postedParticipants postID l := by
  rw [postedParticipants_concat]
  have hnone : m.posted postID = none := by
    cases hm : m.posted postID with
    | none => rfl
    | some ps => exact absurd (Moment.posted_eq_some.1 hm) (h ps)
  rw [hnone, Option.none_or]

theorem Noted.of_other {postID : String} {participants : List String}
    (hn : Noted callID postID participants (l ++ [m]))
    (h : ∀ ps, m.post ≠ some (postID, ps)) :
    Noted callID postID participants l := by
  obtain ⟨m', hm', hpost, hrow⟩ := hn
  rcases List.mem_append.1 hm' with hm' | hm'
  · exact ⟨m', hm', hpost, hrow⟩
  · obtain rfl := List.mem_singleton.1 hm'
    exact absurd hpost (h _)

/-- What is noted on a post is noted on the post of the call. -/
theorem Remembered.noted_post (hr : Remembered callID botID l s) {postID : String}
    {participants : List String} (hne : postID ≠ "")
    (hn : Noted callID postID participants l) :
    ∃ c ∈ s.calls, c.id = callID ∧ c.postID = postID := by
  obtain ⟨m, hm, -, c, hc, hid, rfl⟩ := hn
  obtain ⟨c', hc', hid', hpost, -⟩ := hr.later m hm c hc hid
  exact ⟨c', hc', hid', hpost hne⟩

/-- A step that does not update the post of the call. -/
theorem Remembered.posted_other (hr : Remembered callID botID l s)
    (hm : Moves callID botID l s s' post) (hc' : c' ∈ s'.calls) (hid' : c'.id = callID)
    (hne : c'.postID ≠ "") (hother : ∀ ps, post ≠ some (c'.postID, ps)) :
    PostKept callID (l ++ [⟨s, post⟩]) c' := by
  have hposted : postedParticipants c'.postID (l ++ [⟨s, post⟩]) =
      postedParticipants c'.postID l := postedParticipants_other hother
  have hnoted : ∀ ps, Noted callID c'.postID ps (l ++ [⟨s, post⟩]) →
      Noted callID c'.postID ps l := fun ps hn => hn.of_other hother
  by_cases hold : ∃ c ∈ s.calls, c.id = callID
  · obtain ⟨c, hc, hid⟩ := hold
    -- the post that was noted is the one the call has
    have hkept : ∀ ps, Noted callID c'.postID ps l →
        c.postID = c'.postID ∧ PostKept callID l c := by
      intro ps hn
      obtain ⟨r, hr', hrid, hrpost⟩ := hr.noted_post hne hn
      obtain rfl : r = c := s.calls.eq_of_key_eq hr' hc (hrid.trans hid.symm)
      exact ⟨hrpost, hr.posted r hc hid (hrpost.symm ▸ hne)⟩
    obtain ⟨x, hx, hxid, hrow⟩ := hm.row c hc hid
    obtain rfl : x = c' := s'.calls.eq_of_key_eq hx hc' (hxid.trans hid'.symm)
    rcases hrow with rfl | hgoes | hends
    · have hpost := hr.posted x hc hid hne
      refine ⟨fun he ps hn => ?_, fun he => ?_⟩
      · rw [hposted]
        exact hpost.ongoing he ps (hnoted ps hn)
      · rw [hposted]
        exact hpost.ended he
    · refine ⟨fun _ ps hn => ?_, fun he => absurd hgoes.after he⟩
      obtain ⟨hsame, hpost⟩ := hkept ps (hnoted ps hn)
      obtain ⟨posted, hp, hin, hout⟩ :=
        hpost.ongoing hgoes.before ps (hsame ▸ hnoted ps hn)
      exact ⟨posted, hposted.trans (hsame ▸ hp), hin,
        fun u hu => hgoes.participants u (hout u hu)⟩
    · refine ⟨fun he => absurd he hends.ended, fun _ => ?_⟩
      have hn := hends.noted hne
      obtain ⟨hsame, hpost⟩ := hkept _ hn
      obtain ⟨posted, hp, hin, hout⟩ := hpost.ongoing hends.ongoing _ (hsame ▸ hn)
      refine ⟨posted, hposted.trans (hsame ▸ hp), fun u => ⟨fun hu => ?_, hin u⟩⟩
      exact (hends.participants u).2 (hout u hu)
  · have hnew : ∀ c ∈ s.calls, c.id ≠ callID := fun c hc hid => hold ⟨c, hc, hid⟩
    refine ⟨fun _ ps hn => ?_, fun he => absurd (hm.created c' hc' hid' hnew) he⟩
    obtain ⟨r, hr', hrid, -⟩ := hr.noted_post hne (hnoted ps hn)
    exact absurd hrid (hnew r hr')

/-- A step that updates the post of the call. -/
theorem Remembered.posted_post (hr : Remembered callID botID l s)
    (hm : Moves callID botID l s s' post) (hc' : c' ∈ s'.calls) (hid' : c'.id = callID)
    {participants : List String} (hpost : post = some (c'.postID, participants)) :
    PostKept callID (l ++ [⟨s, post⟩]) c' := by
  obtain ⟨hne, rfl, hrow⟩ := hm.post _ _ hpost
  obtain ⟨hgoes, hparticipants⟩ := hrow c' hc' hid' rfl
  have hposted : postedParticipants c'.postID (l ++ [⟨s', post⟩]) =
      some participants := by
    rw [postedParticipants_concat, Moment.posted_eq_some.2 hpost, Option.some_or]
  refine ⟨fun _ ps hn =>
    ⟨participants, hposted, ?_, fun u hu => (hparticipants u).1 hu⟩,
    fun he => absurd hgoes he⟩
  obtain ⟨m, hmem, hmpost, hmrow⟩ := hn
  rcases List.mem_append.1 hmem with hmem | hmem
  · obtain ⟨posted, -, hin, hout⟩ :=
      (hr.posted c' hc' hid' hne).ongoing hgoes ps ⟨m, hmem, hmpost, hmrow⟩
    exact fun u hu => (hparticipants u).2 (hout u (hin u hu))
  · obtain rfl := List.mem_singleton.1 hmem
    cases hpost.symm.trans hmpost
    exact fun _ hu => hu

/-- A step keeps what is remembered. -/
theorem Remembered.step (hr : Remembered callID botID l s)
    (hm : Moves callID botID l s s' post) :
    Remembered callID botID (l ++ [⟨s, post⟩]) s' where
  seen u hu hhad := by
    refine hm.recorded ?_
    rcases hhad with hnow | ⟨m, hmem, hthen⟩
    · rcases hm.session u hu hnow with hbefore | hrec
      · exact hr.seen u hu (.inl hbefore)
      · exact hrec
    · rcases List.mem_append.1 hmem with hmem | hmem
      · exact hr.seen u hu (.inr ⟨m, hmem, hthen⟩)
      · obtain rfl := List.mem_singleton.1 hmem
        exact hr.seen u hu (.inl hthen)
  later m hmem := by
    rcases List.mem_append.1 hmem with hmem | hmem
    · exact (hr.later m hmem).trans hm.later
    · obtain rfl := List.mem_singleton.1 hmem
      exact hm.later
  posted c' hc' hid' hne := by
    by_cases hpost : ∃ ps, post = some (c'.postID, ps)
    · obtain ⟨ps, hpost⟩ := hpost
      exact hr.posted_post hm hc' hid' hpost
    · exact hr.posted_other hm hc' hid' hne fun ps h => hpost ⟨ps, h⟩
  untouched m hmem c hc hid hend participants hpost := by
    rcases List.mem_append.1 hmem with hmem | hmem
    · exact hr.untouched m hmem c hc hid hend participants hpost
    · obtain rfl := List.mem_singleton.1 hmem
      obtain ⟨-, -, hrow⟩ := hm.post _ _ hpost
      exact hend (hrow c hc hid rfl).1

end Remembered

/-! ## What a request does to the call -/

/-- An operation that is permitted to a request: the conditions on it, and what is
required of it under the lock, unless it does nothing or is the request's that ends the
call. -/
structure Permits (callID botID : String) (h : Handler) (holder : Holder) (ch : Choice)
    (s : Store) (o : Op) : Prop where
  allow : EndingAllow callID h holder ch s o
  updated : PostUpdated callID h ch s o
  ends : h.Ends → o.EndsCall
  keeps : (exec ch s o).2 = s ∨ KeepsRecord callID botID h s o ∨ h.Ends

/-- Where a session row comes from. -/
theorem exec_session {ch : Choice} {s : Store} {o : Op} {r : CallSession}
    (hr : r ∈ (exec ch s o).2.sessions) :
    (∃ r' ∈ s.sessions, r'.callID = r.callID ∧ r'.userID = r.userID) ∨
      o = .store (.createCallSession r) := by
  have hold : r ∈ s.sessions → ∃ r' ∈ s.sessions, r'.callID = r.callID ∧
      r'.userID = r.userID :=
    fun hmem => ⟨r, hmem, rfl, rfl⟩
  cases o with
  | store so =>
      rw [exec_store] at hr
      unfold attempt at hr
      split at hr
      · exact .inl (hold hr)
      cases so with
      | createCallSession x =>
          simp only [StoreOp.exec] at hr
          split at hr
          · exact .inl (hold hr)
          next hi =>
            rcases (Table.mem_of_insert? (insertRow_eq_ok.1 hi).2).1 hr with hr | rfl
            · exact .inl (hold hr)
            · exact .inr rfl
      | updateCallSession x =>
          simp only [StoreOp.exec] at hr
          split at hr
          · exact .inl (hold hr)
          · obtain ⟨y, hy, rfl⟩ := Store.mem_updateCallSession.1 hr
            exact .inl ⟨y, hy, by split <;> exact ⟨rfl, rfl⟩⟩
      | deleteCallSession id => exact .inl (hold (Store.mem_deleteCallSession.1 hr).1)
      | deleteCallsSessions id =>
          exact .inl (hold (Store.mem_deleteCallsSessions.1 hr).1)
      | createCall x =>
          simp only [StoreOp.exec] at hr
          split at hr <;> exact .inl (hold hr)
      | updateCall x =>
          simp only [StoreOp.exec] at hr
          split at hr <;> exact .inl (hold hr)
      | createCallJob x =>
          simp only [StoreOp.exec] at hr
          split at hr <;> exact .inl (hold hr)
      | updateCallJob x =>
          simp only [StoreOp.exec] at hr
          split at hr <;> exact .inl (hold hr)
      | _ => exact .inl (hold hr)
  | _ => exact .inl (hold hr)

section Permits

variable {callID botID : String} {h : Handler} {holder : Holder} {ch : Choice}
  {s : Store} {o : Op} {c c' : Call} {l : List Moment}

/-- The row of the call after a permitted operation. -/
theorem Permits.row (hp : Permits callID botID h holder ch s o)
    (hgood : (endRely callID h).good (s, l) o) (hc : c ∈ s.calls)
    (hc' : c' ∈ (exec ch s o).2.calls) (hid : c.id = callID) (hid' : c'.id = callID) :
    c' = c ∨ RecordGoesOn c c' ∨ EndsNoted callID l c c' := by
  rcases exec_call_eq hc hc' (hid'.trans hid.symm) with rfl | ⟨x, rfl, hx, rfl⟩
  · exact .inl rfl
  have hx : x.id = callID := hx.trans hid
  have hends : h.Ends → EndsNoted callID l c (Store.setCall c x) := by
    intro hh
    have hstored : EndsAsStored c x := hp.allow.ends hh x rfl hx c hc hid
    exact ⟨⟨hstored.ongoing, hstored.post, hstored.participants⟩, hp.ends hh,
      hgood hh x rfl hx⟩
  rcases hp.keeps with hsame | hkeeps | hh
  · rw [hsame] at hc'
    exact .inl (s.calls.eq_of_key_eq hc' hc rfl)
  · rcases hkeeps hx with hh | ⟨hleave, hend⟩ | hgoes
    · exact .inr (.inr (hends hh))
    · exact absurd (hp.allow.leave hleave x rfl hx) hend
    · have hgoes : RecordGoesOn c x := hgoes c hc hid
      exact .inr (.inl ⟨hgoes.before, hgoes.after, hgoes.participants, hgoes.post⟩)
  · exact .inr (.inr (hends hh))

/-- What a permitted operation does to the call. -/
theorem Permits.moves (hp : Permits callID botID h holder ch s o)
    (hgood : (endRely callID h).good (s, l) o) :
    Moves callID botID l s (exec ch s o).2 (endedPost ch o) where
  row c hc hid := by
    obtain ⟨c', hc', hid'⟩ := exec_call_kept hc ch o
    exact ⟨c', hc', hid'.trans hid, hp.row hgood hc hc' hid (hid'.trans hid)⟩
  created c' hc' hid' hnew := by
    obtain rfl := exec_call_new hc' fun c hc hid => hnew c hc (hid.trans hid')
    rcases hp.keeps with hsame | hkeeps | hh
    · rw [hsame] at hc'
      exact absurd hid' (hnew c' hc')
    · rcases hkeeps hid' with ⟨c, hc, hid⟩ | hgoes
      · exact absurd hid (hnew c hc)
      · exact hgoes
    · exact absurd (hp.ends hh) Bool.noConfusion
  session u hu hhas := by
    obtain ⟨r, hr, hcall, rfl⟩ := hhas
    rcases exec_session hr with ⟨r', hr', hcall', huser⟩ | rfl
    · exact .inl ⟨r', hr', hcall'.trans hcall, huser⟩
    rcases hp.keeps with hsame | hkeeps | hh
    · exact .inl ⟨r, hsame ▸ hr, hcall, rfl⟩
    · exact .inr (hkeeps hcall hu)
    · exact absurd (hp.ends hh) Bool.noConfusion
  post postID participants hpost := by
    obtain ⟨rfl, hne⟩ := endedPost_eq_some hpost
    exact ⟨hne, rfl, fun c hc hid hid' => hp.allow.post _ _ rfl hne c hc hid hid'⟩

end Permits

/-! ## Runs -/

theorem cleanUpCall_only (p : Plugin) (env : Env) (call : Call) :
    (cleanUpCall p env call).Only Op.EndsCall := by
  simp only [cleanUpCall, lockCall, unlockCall, Prog.lock_bind, Prog.ret_bind]
  intro locked
  cases locked with
  | false => trivial
  | true =>
      simp only [if_true]
      split
      · trivial
      · refine Prog.Only.bind (Prog.Only.lift (cleanCallState_endsCall env call))
          fun res => ?_
        cases res <;> trivial

theorem cleanUpCalls_only (p : Plugin) (env : Env) (calls : List Call) :
    (cleanUpCalls p env calls).Only Op.EndsCall := by
  induction calls with
  | nil => trivial
  | cons call rest ih =>
      refine Prog.Only.bind (cleanUpCall_only p env call) fun res => ?_
      cases res with
      | error e => trivial
      | ok _ => exact ih

/-- A request that ends the call does nothing else to it. -/
theorem Handler.code_ends (h : Handler) (p : Plugin) (env : Env) (channelID : String) :
    (h.code p env channelID).Only fun o => h.Ends → o.EndsCall := by
  by_cases hh : h.Ends
  · have honly : (h.code p env channelID).Only Op.EndsCall := by
      rcases id hh with rfl | ⟨id, rfl⟩
      · refine Prog.Only.bind (p := cleanUpState p env channelID) ⟨rfl, fun res => ?_⟩
          fun _ => trivial
        cases res with
        | error e => trivial
        | ok calls => exact cleanUpCalls_only p env _
      · exact Prog.Only.lift (forceEnd_endsCall env id)
    exact honly.mono fun _ ho _ => ho
  · exact Prog.only_of_forall (fun _ he => absurd he hh) _

section Runs

variable {T N : Type} [DecidableEq T] [DecidableEq N] {callID botID channelID : String}

/-- The post that a step updates. -/
def stepPost (s : Sys Op Op.Resp Store T N) (t : T) :
    Act Choice → Option (String × List String)
  | .op ch =>
      match s.code t with
      | .op o _ => endedPost ch o
      | _ => none
  | _ => none

/-- A step adds its moment. -/
def AddsMoment (s : Sys Op Op.Resp Store T N) (t : T) (a : Act Choice)
    (_ : Sys Op Op.Resp Store T N) (new : List Moment) : Prop :=
  new = [⟨s.world, stepPost s t a⟩]

/-- Every step of a request meets the conditions. -/
def EndsRecorded (callID : String) (h : T → Handler) (_ : List (Event T Choice))
    (s : Sys Op Op.Resp Store T N) (t : T) (a : Act Choice) : Prop :=
  ∀ ch o k, a = .op ch → s.code t = .op o k →
    EndingAllow callID (h t) (s.holder t) ch s.world o ∧
    PostUpdated callID (h t) ch s.world o

/-- What the requests share. -/
@[reducible]
def recordLogic (callID botID : String) (who : Option String) :
    Logic Op Op.Resp Store Choice :=
  callRules (fun _ _ _ _ => True) (fun _ _ => True) (Recorded callID botID who) True

section Step

variable {node : T → N} {p : T → Plugin} {env : T → Env} {h : T → Handler}
  {s s' : Sys Op Op.Resp Store T N} {tr : List (Event T Choice)} {t : T}
  {a : Act Choice} {l : List Moment}

/-- A permitted step of the pool. -/
theorem EndsRecorded.moves
    (hok : s.OkFor (recordLogic callID botID none)
      (fun t => recordTerms callID botID none (h t)) node)
    (honly : ∀ t, (s.code t).Only fun o => (h t).Ends → o.EndsCall)
    (hmeets : (s.code t).Meets (endRely callID (h t)) (fun _ _ => True) (s.world, l))
    (hallow : EndsRecorded callID h tr s t a) (hs : s.step exec node t a = some s') :
    Moves callID botID l s.world s'.world (stepPost s t a) := by
  have hrest : s'.world = s.world → stepPost s t a = none →
      Moves callID botID l s.world s'.world (stepPost s t a) := by
    intro hw hpost
    rw [hw, hpost]
    exact .rest callID botID l s.world
  obtain ⟨k, rfl, hk, hp, hn, rfl⟩ | ⟨k, rfl, hk, hp, ho, rfl⟩ | ⟨k, rfl, hk, hp, rfl⟩ |
    ⟨k, rfl, hk, rfl⟩ | ⟨ch, o, k, rfl, hk, rfl⟩ := Sys.step_cases hs
  · exact hrest rfl rfl
  · exact hrest rfl rfl
  · exact hrest rfl rfl
  · refine hrest ?_ rfl
    unfold Sys.release
    split <;> rfl
  · obtain ⟨hending, hupdated⟩ := hallow ch o k rfl hk
    have hends := honly t
    rw [hk] at hends
    have hpost : stepPost s t (.op ch) = endedPost ch o := by
      unfold stepPost
      rw [hk]
    rw [hpost]
    refine Permits.moves ⟨hending, hupdated, hends.1, ?_⟩ (hmeets.good hk)
    by_cases hown : s.owner = some t
    · exact .inr (.inl (hok.pre_of_op hown hk))
    · by_cases hh : (h t).Ends
      · exact .inr (.inr hh)
      · have hother : RecordAllow callID none (h t) .other ch s.world o :=
          ⟨⟨hending.join, hending.leave, hending.ends, hending.post,
            fun id so hid => absurd (.inr ⟨id, hid⟩) hh⟩, fun _ hu => nomatch hu⟩
        rcases hok.harmless hown hk (by simp) hother with hw | ⟨hno, -⟩
        · exact .inl hw
        · cases hno

/-- A permitted step, for all that is known of a run. -/
theorem EndsRecorded.step
    (hok : s.OkFor (recordLogic callID botID none)
      (fun t => recordTerms callID botID none (h t)) node)
    (honly : ∀ t, (s.code t).Only fun o => (h t).Ends → o.EndsCall)
    (hallow : EndsRecorded callID h tr s t a) (hs : s.step exec node t a = some s')
    (hr : Remembered callID botID l s.world)
    (hmeets : ∀ t, (s.code t).Meets (endRely callID (h t)) (fun _ _ => True)
      (s.world, l)) :
    Remembered callID botID (l ++ [⟨s.world, stepPost s t a⟩]) s'.world ∧
      ∀ t', (s'.code t').Meets (endRely callID (h t')) (fun _ _ => True)
        (s'.world, l ++ [⟨s.world, stepPost s t a⟩]) := by
  have hmoves := hallow.moves hok honly (hmeets t) hs
  have halong : l ⊆ l ++ [⟨s.world, stepPost s t a⟩] ∧
      KeepsCall callID s.world s'.world :=
    ⟨List.subset_append_left .., hmoves.later⟩
  refine ⟨hr.step hmoves, Sys.step_meets hmeets hs (fun ch o k ha hk => ?_)
    fun _ => halong⟩
  obtain ⟨hending, hupdated⟩ := hallow ch o k ha hk
  refine ⟨halong, s.holder t, ch, hending, hupdated, rfl, ?_⟩
  subst ha
  simp only [Sys.step, hk, Option.some.injEq] at hs
  simp only [← hs, stepPost, hk]

end Step

/-- The call has not begun, or its participants are those who have a session. -/
structure Begun (callID botID : String) (s : Store) : Prop where
  calls : ∀ c ∈ s.calls, c.id = callID →
    c.endAt = 0 ∧ ∀ u, u ∈ c.props.participants ↔ u ≠ botID ∧ HasSession callID u s
  sessions : ∀ r ∈ s.sessions, r.callID = callID → ∃ c ∈ s.calls, c.id = callID

theorem Begun.recorded {store : Store} (hb : Begun callID botID store)
    (who : Option String) :
    Recorded callID botID who store where
  bot c hc hid hmem := by
    obtain ⟨hgoes, hparticipants⟩ := hb.calls c hc hid
    rw [recorded_ongoing hgoes] at hmem
    exact ((hparticipants _).1 hmem).1 rfl
  present r hr hcall hne := by
    obtain ⟨c, hc, hid⟩ := hb.sessions r hr hcall
    obtain ⟨hgoes, hparticipants⟩ := hb.calls c hc hid
    refine ⟨c, hc, hid, ?_⟩
    rw [recorded_ongoing hgoes]
    exact (hparticipants _).2 ⟨hne, r, hr, hcall, rfl⟩
  seen u _ c hc hid hmem := by
    obtain ⟨hgoes, hparticipants⟩ := hb.calls c hc hid
    rw [recorded_ongoing hgoes] at hmem
    exact ((hparticipants u).1 hmem).2

theorem Begun.remembered {store : Store} (hb : Begun callID botID store) :
    Remembered callID botID [] store where
  seen u hu hhad := by
    rcases hhad with ⟨r, hr, hcall, rfl⟩ | ⟨m, hm, -⟩
    · exact (hb.recorded none).present r hr hcall hu
    · cases hm
  later m hm := nomatch hm
  posted c hc hid _ := ⟨fun _ _ ⟨_, hm, _⟩ => (nomatch hm), fun he =>
    absurd (hb.calls c hc hid).1 he⟩
  untouched m hm := nomatch hm

section Run

variable {node : T → N} {p : T → Plugin} {env : T → Env} {h : T → Handler}
  {store : Store} {s : Sys Op Op.Resp Store T N} {tr : List (Event T Choice)}
  {l : List Moment}

omit [DecidableEq T] [DecidableEq N] in
/-- Requests that have not begun, in the logic of the record. -/
theorem requests_recorded (node : T → N) (env : T → Env) (channelID : String)
    (hh : ∀ t, (h t).OnCall) (hbot : ∀ t, (p t).botID = botID)
    (hb : Begun callID botID store) (who : Option String) :
    (requests p env channelID store h : Sys Op Op.Resp Store T N).OkFor
      (recordLogic callID botID who)
      (fun t => recordTerms callID botID who (h t)) node :=
  Sys.OkFor.start (start_unlocked _ _) (hb.recorded who) fun t w =>
    (record_callRule (hbot t)).code (hh t) w

/-- What is remembered in the course of a run. -/
theorem remembered_of_runs (hh : ∀ t, (h t).OnCall) (hbot : ∀ t, (p t).botID = botID)
    (hb : Begun callID botID store)
    (hr : Histories exec node (EndsRecorded callID h) AddsMoment
      (requests p env channelID store h) tr s l) :
      Remembered callID botID l s.world := by
  have hends :
      ∀ t, ((requests p env channelID store h : Sys Op Op.Resp Store T N).code t).Only
      fun o => (h t).Ends → o.EndsCall :=
      fun t => (h t).code_ends (p t) (env t) channelID
  exact (hr.invariant (L := recordLogic callID botID none)
    (requests_recorded node env channelID hh hbot hb none)
    (fun _ _ _ c o k hok hk => ⟨(hok c o k rfl hk).1, fun _ hu => nomatch hu⟩)
    (fun _ _ _ _ => trivial) (fun hf => hf.elim)
    (J := fun s l => Remembered callID botID l s.world ∧
      ∀ t, (s.code t).Meets (endRely callID (h t)) (fun _ _ => True) (s.world, l))
    ⟨hb.remembered, fun t => (h t).code_meets (p t) (env t) channelID _⟩
    fun tr s t a s' l new hruns hok hallow hs hnew hj => by
      subst hnew
      exact hallow.step hok (hruns.only hends) hs hj.1 hj.2).1

/-- Who is recorded had a session. -/
theorem hadSession_of_recorded (hh : ∀ t, (h t).OnCall)
    (hbot : ∀ t, (p t).botID = botID) (hb : Begun callID botID store)
    (hr : Histories exec node (EndsRecorded callID h) AddsMoment
      (requests p env channelID store h) tr s l) (hfree : s.owner = none) {c : Call}
    (hc : c ∈ s.world.calls) (hid : c.id = callID) {u : String} (hu : u ∈ recorded c) :
    u ≠ botID ∧ HadSession callID u l s.world := by
  by_contra hno
  have hrun := requests_recorded node env channelID hh hbot hb
  have hbotless : botID ∉ recorded c :=
    ((hr.runs.monitor (L := recordLogic callID botID none) (hrun none)
      (fun _ _ _ c o k hok hk => ⟨(hok c o k rfl hk).1, fun _ hu => nomatch hu⟩)
      (fun _ _ _ _ => trivial) fun hf => hf.elim).free hfree).bot c hc hid
  have hne : u ≠ botID := fun heq => hbotless (heq ▸ hu)
  have hnever : ¬ HadSession callID u l s.world := fun hhad => hno ⟨hne, hhad⟩
  -- in a run in which the user never has a session it is never recorded
  have hunseen : Runs exec node (fun tr s t a => EndsRecorded callID h tr s t a ∧
      ¬ HasSession callID u s.world) (requests p env channelID store h) tr s :=
    hr.runs_of (fun m => ¬ HasSession callID u m.store)
      (fun s t a s' new hnew hall => by
        subst hnew
        exact hall _ (List.mem_singleton_self _))
      fun m hm hhas => hnever (.inr ⟨m, hm, hhas⟩)
  have hseen :=
    ((hunseen.monitor (L := recordLogic callID botID (some u)) (hrun (some u))
    (fun _ s _ c o k hok hk => ⟨(hok.1 c o k rfl hk).1, fun v hv => by
      cases hv
      exact hok.2⟩)
    (fun _ _ _ _ => trivial) fun hf => hf.elim).free hfree).seen u rfl c hc hid hu
  exact hnever (.inl hseen)

end Run

end Runs

/-! ## Instances -/

/-- The history of a schedule. -/
def addMoment {T N : Type} (s : Sys Op Op.Resp Store T N) (t : T) (a : Act Choice)
    (_ : Sys Op Op.Resp Store T N) : List Moment := [⟨s.world, stepPost s t a⟩]

theorem addsMoment_add {T N : Type} (s : Sys Op Op.Resp Store T N) (t : T)
    (a : Act Choice) (s' : Sys Op Op.Resp Store T N) :
    AddsMoment s t a s' (addMoment s t a s') := rfl

/-- Who holds the lock at the end of a run, and what the calls and the post then
have. -/
def shownAtEnd {T N : Type}
    (r : List (Event T Choice) × Sys Op Op.Resp Store T N × List Moment) :
    Option T × List (Int × List String) × Option (List String) :=
  (r.2.1.owner, r.2.1.world.calls.rows.map fun c => (c.endAt, c.participants),
    postedParticipants "post" r.2.2)

/-- Alice, who is alone in the call, leaves. -/
def lastLeaves (_ : Unit) : Handler := .leave ⟨⟨"alice", "s1", "s1"⟩, .sample 20⟩

/-- The plugin cleans up after a restart. -/
def cleansUp (_ : Unit) : Handler := .cleanUp

/-- A check that a clean-up meets the conditions. -/
def checkEndsRecorded (_ : List (Event Unit Choice))
    (s : Sys Op Op.Resp Store Unit Unit) (t : Unit) (a : Act Choice) : Bool :=
  match a, s.code t with
  | .op _, .op (.store (.updateCall x)) _ => s.world.calls.rows.all fun c =>
      c.endAt = 0 ∧ x.postID = c.postID ∧ x.participants = c.props.participants
  | .op ch, .op (.updateCallPostEnded _ participants) _ => ch.storeFails = false ∧
      s.world.calls.rows.all fun c => c.endAt = 0 ∧ participants = c.props.participants
  | _, _ => true

theorem endsRecorded_of_check (tr : List (Event Unit Choice))
    (s : Sys Op Op.Resp Store Unit Unit)
    (t : Unit) (a : Act Choice) (h : checkEndsRecorded tr s t a = true) :
    EndsRecorded "call" cleansUp tr s t a := by
  rintro ch o k rfl hk
  refine ⟨⟨fun hne => absurd rfl hne, fun hne => absurd rfl hne,
    fun _ x hx _ c hc _ => ?_,
    fun postID participants hpost _ c hc _ _ => ?_, fun _ _ hh => nomatch hh⟩,
    fun _ postID participants hpost _ => ?_⟩
  · subst hx
    simp only [checkEndsRecorded, hk, List.all_eq_true, decide_eq_true_eq] at h
    obtain ⟨hgoes, hsame, hparticipants⟩ := h c hc
    exact ⟨hgoes, hsame, fun u => hparticipants ▸ Iff.rfl⟩
  · subst hpost
    simp only [checkEndsRecorded, hk, List.all_eq_true, decide_eq_true_eq] at h
    obtain ⟨hgoes, hparticipants⟩ := h.2 c hc
    exact ⟨hgoes, fun u => hparticipants ▸ Iff.rfl⟩
  · subst hpost
    simp only [checkEndsRecorded, hk, List.all_eq_true, decide_eq_true_eq] at h
    exact h.1

/-- Alice is the participant of the call, and she has a session. -/
theorem sampleStore_begun : Begun "call" "bot" sampleStore where
  calls c hc _ := by
    obtain rfl := List.mem_singleton.1 hc
    refine ⟨rfl, fun u => ⟨fun hu => ?_, fun ⟨_, r, hr, _, huser⟩ => ?_⟩⟩
    · obtain rfl := List.mem_singleton.1 hu
      exact ⟨by decide, sampleSession, List.mem_singleton_self _, rfl, rfl⟩
    · obtain rfl := List.mem_singleton.1 hr
      exact huser ▸ List.mem_singleton_self _
  sessions r hr _ := ⟨sampleCall, List.mem_singleton_self _, rfl⟩

end CallsPlugin.Ports
