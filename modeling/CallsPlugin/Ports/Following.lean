import CallsPlugin.Ports.Announced

/-!
# Observers that follow a call

An observer follows a call if what it knows is tied to the state in memory: a join and a
leave that do not give up then need only be shown to keep the tie through what they
announce.  Under the lock this ties the observer to what the store has.
-/

namespace CallsPlugin.Ports

open CallsPlugin.Verified
open CallsPlugin.Ports.Public CallsPlugin.Ports.Db

/-- A tie between an observer and the state of the call.  It depends on what a client is
shown of the state, and a call that ended is no call. -/
structure Tie (D : Type) where
  holds : Option CallState → Store → D → Prop
  sight : ∀ {st st' : CallState} {w : Store} {d : D}, SameSight st st' →
    holds (some st) w d → holds (some st') w d
  ended : ∀ {st : CallState} {w : Store} {d : D}, st.sessions.rows = [] →
    holds (some st) w d → holds none w d

/-- Calls are never deleted. -/
def Grew (w w' : Store) : Prop := ∀ c ∈ w.calls, ∃ c' ∈ w'.calls, c'.id = c.id

/-- The id of a call that did not exist is new. -/
def Reread (w : Store) (state state' : Option CallState) : Prop :=
  state = none → ∀ st, state' = some st → ∀ c ∈ w.calls, c.id ≠ st.call.id

/-- What joins announce keeps the tie. -/
def Tie.KeptByJoin {D : Type} (F : Tie D) (hear : WsEvent → WebSocketBroadcast → D → D)
    (allow : Choice → Store → Op → Prop) (userOf : String → String) (p : Plugin)
    (channelID : String) (j : Join) : Prop :=
  ∀ state w d state' w' d', JoinMirror p.botID channelID userOf state w →
    F.holds state w d →
    Grew w w' → Reread w state state' →
    JoinTold hear allow p j.env j.req channelID state w d state' d' →
    F.holds state' w' d'

/-- What leaves announce keeps the tie. -/
def Tie.KeptByLeave {D : Type} (F : Tie D) (hear : WsEvent → WebSocketBroadcast → D → D)
    (userOf : String → String) (p : Plugin) (channelID : String) (l : Leave) : Prop :=
  ∀ state w d state' w' d', LeaveMirror p.botID channelID userOf state w →
    F.holds state w d →
    Grew w w' → LeaveTold hear p l.env l.req channelID state d state' d' →
    F.holds state' w' d'

section Tie

variable {D : Type} {F : Tie D} {botID channelID : String} {userOf : String → String}
  {state : Option CallState} {w : Store} {d : D}

/-- What holds of the store and an observer whenever the lock is free. -/
def Tie.Stored (F : Tie D) (botID channelID : String) (userOf : String → String)
    (wd : Store × D) :
    Prop :=
  Healthy channelID wd.1 ∧ Owned botID userOf wd.1 ∧
    F.holds (storedState wd.1 channelID) wd.1 wd.2

/-- After joins. -/
theorem JoinMirror.tied (h : JoinMirror botID channelID userOf state w)
    (hF : F.holds state w d) :
    F.Stored botID channelID userOf (w, d) := by
  refine ⟨h.1.healthy, h.2.1, ?_⟩
  show F.holds (storedState w channelID) w d
  rcases h.stored with ⟨rfl, hst⟩ | ⟨st, st', rfl, hst, hsight⟩
  · rwa [hst]
  · rw [hst]
    exact F.sight hsight hF

/-- After leaves. -/
theorem LeaveMirror.tied (h : LeaveMirror botID channelID userOf state w)
    (hF : F.holds state w d) :
    F.Stored botID channelID userOf (w, d) := by
  refine ⟨h.1.healthy, h.2.1, ?_⟩
  show F.holds (storedState w channelID) w d
  rcases h.stored with ⟨hnil, hst⟩ | ⟨st, st', rfl, -, hst, hsight⟩
  · rw [hst]
    cases state with
    | none => exact hF
    | some st => exact F.ended (hnil st rfl) hF
  · rw [hst]
    exact F.sight hsight hF

theorem Tie.Stored.joinMirror (h : F.Stored botID channelID userOf (w, d)) :
    JoinMirror botID channelID userOf (storedState w channelID) w :=
  h.1.joinMirror h.2.1

theorem Tie.Stored.leaveMirror (h : F.Stored botID channelID userOf (w, d)) :
    LeaveMirror botID channelID userOf (storedState w channelID) w :=
  h.1.leaveMirror h.2.1

end Tie

/-! ## Rows of calls -/

section Rows

variable {w w' w'' : Store}

theorem Grew.refl (w : Store) : Grew w w := fun c hc => ⟨c, hc, rfl⟩

theorem Grew.trans (h : Grew w w') (h' : Grew w' w'') : Grew w w'' := by
  intro c hc
  obtain ⟨c', hc', hid⟩ := h c hc
  obtain ⟨c'', hc'', hid'⟩ := h' c' hc'
  exact ⟨c'', hc'', hid'.trans hid⟩

theorem grew_of_calls (h : w'.calls = w.calls) : Grew w w' :=
  fun c hc => ⟨c, h ▸ hc, rfl⟩

theorem grew_updateCall (w : Store) (call : Call) : Grew w (w.updateCall call) := by
  intro c hc
  refine ⟨_, Store.mem_updateCall.2 ⟨c, hc, rfl⟩, ?_⟩
  split <;> rfl

theorem grew_insert {call : Call} {t : Table Call.id}
    (hi : w.calls.insert? call = some t) :
    Grew w { w with calls := t } :=
  fun c hc => ⟨c, (Table.mem_of_insert? hi).2 (.inl hc), rfl⟩

/-- No operation deletes a call. -/
theorem grew_exec (c : Choice) (w : Store) (o : Op) : Grew w (exec c w o).2 := by
  cases o with
  | store o =>
      rw [exec_store]
      cases hf : c.storeFails with
      | true => exact .refl w
      | false =>
          rw [attempt_false]
          cases o with
          | createCall call =>
              simp only [StoreOp.exec]
              split
              · exact .refl w
              next hi => exact grew_insert (insertRow_eq_ok.1 hi).2
          | updateCall call =>
              simp only [StoreOp.exec]
              split
              · exact .refl w
              · exact grew_updateCall w call
          | _ =>
              simp only [StoreOp.exec]
              first | exact .refl w | (split <;> exact grew_of_calls rfl)
  | _ => exact .refl w

/-- No code deletes a call. -/
theorem wp_grew {allow : Choice → Store → Op → Prop} {inv : Store → Prop}
    {lockMayFail : Prop} {α : Type} (p : Body α) :
    ∀ w : Store, p.wp (callLogic allow inv lockMayFail) (fun _ w' => Grew w w') w := by
  induction p with
  | ret a => exact fun w => .refl w
  | op o k ih =>
      intro w
      refine ⟨trivial, fun c _ => Code.wp_mono (ih _ _) fun _ w' hw' => ?_⟩
      exact (grew_exec c w o).trans hw'

end Rows

/-- Requests that do not give up. -/
abbrev notGivenUpLogic : Logic Op Op.Resp Store Choice :=
  callRules (fun _ => NotGivenUp) (fun _ _ => True) (fun _ => True) True

/-! ## Joins -/

section Join

variable {allow : Choice → Store → Op → Prop} {p : Plugin} {env : Env} {r : JoinRequest}
  {channelID : String}

/-- The calls of `w₀` are still there, and a call the join starts is none of them. -/
def Started (w₀ : Store) (state₀ state : Option CallState) (w : Store) : Prop :=
  Grew w₀ w ∧ Reread w₀ state₀ state

/-- A call that a join starts has a new id. -/
theorem started_rule (w₀ : Store) (state₀ : Option CallState) :
    JoinRule allow (fun _ _ => True) p env r channelID (Started w₀ state₀)
      (fun state st w => Started w₀ state₀ state w ∧ Reread w₀ state₀ (some st)) where
  jobs c state w o ho h := ⟨h.1.trans (grew_exec c w o), h.2⟩
  created state st w t h _ _ _ _ hi := by
    refine ⟨⟨h.1.trans (grew_insert hi), h.2⟩, fun _ st' hst' c hc hid => ?_⟩
    obtain rfl := Option.some.inj hst'
    obtain ⟨c', hc', hid'⟩ := h.1 c hc
    exact (Table.insert?_eq_some.1 hi).1 c' hc' (hid'.trans hid)
  updated state st w h hcall hcheck hlen _ := by
    refine ⟨⟨h.1.trans (grew_updateCall w _), h.2⟩, fun hstate₀ st' hst' => ?_⟩
    obtain rfl := Option.some.inj hst'
    rw [joined_id]
    exact h.2 hstate₀ st (callToJoin_of_length hcall hcheck hlen)
  create _ _ _ _ _ _ _ := trivial
  update _ _ _ _ _ _ _ := trivial
  gaveUp _ _ _ h _ := h.1
  session _ _ _ _ := trivial
  entered _ _ _ _ h _ _ := ⟨h.1.1, h.2⟩
  unposted st w postID threadID h _ _ := by
    refine ⟨h.1, fun hstate₀ st' hst' => ?_⟩
    obtain rfl := Option.some.inj hst'
    exact h.2 hstate₀ st rfl
  posted st w postID threadID h _ _ _ := by
    refine ⟨h.1.trans (grew_updateCall w _), fun hstate₀ st' hst' => ?_⟩
    obtain rfl := Option.some.inj hst'
    exact h.2 hstate₀ st rfl
  post _ _ _ _ _ _ _ := trivial

variable {D : Type} {F : Tie D} {hear : WsEvent → WebSocketBroadcast → D → D}
  {inv : Store × D → Prop} {userOf : String → String} {state : Option CallState}
  {wd : Store × D}

/-- A join keeps the tie if what it announces does. -/
theorem follow_join (hhear : Aloof hear) (hgave : ∀ c s, ¬ allow c s (.reach .gaveUp))
    (hopens : env.opensRTC = true) (huser : r.userID = userOf r.connID)
    (hstep : F.KeptByJoin hear allow userOf p channelID ⟨r, env⟩)
    (hmirror : JoinMirror p.botID channelID userOf state wd.1)
    (hF : F.holds state wd.1 wd.2) :
    (addSessionToCall p env r channelID state).wp (watchLogic allow hear inv)
      (fun res wd' =>
      JoinMirror p.botID channelID userOf res.1 wd'.1 ∧
        F.holds res.1 wd'.1 wd'.2) wd := by
  have hallow : ∀ c w o, allow c w o → NotGivenUp c w o :=
    fun c w o hc ho => hgave c w (ho ▸ hc)
  have hjoin : (addSessionToCall p env r channelID state).wp notGivenUpLogic
      (fun res w' => JoinMirror p.botID channelID userOf res.1 w') wd.1 :=
    (mirrorJoin_rule huser).addSessionToCall lenient_true hmirror
  have hstarted : (addSessionToCall p env r channelID state).wp notGivenUpLogic
      (fun res w' => Started wd.1 state res.1 w') wd.1 :=
    (started_rule wd.1 state).addSessionToCall lenient_true
      ⟨.refl _, fun h st hst => nomatch h.symm.trans hst⟩
  have hstore : (addSessionToCall p env r channelID state).wp
      (callLogic allow (fun _ => True) True)
      (fun res w' => JoinMirror p.botID channelID userOf res.1 w' ∧
        Started wd.1 state res.1 w')
      wd.1 := Code.wp_restrict (L := notGivenUpLogic) rfl hallow (fun _ _ _ => trivial)
      (Code.wp_and hjoin hstarted)
  refine Code.wp_mono (Code.wp_and (Code.wp_watched hstore wd.2)
    (addSessionToCall_told hhear hgave hopens)) fun res wd' hwd' => ?_
  obtain ⟨⟨hm, hgrew, hfresh⟩, htold⟩ := hwd'
  exact ⟨hm, hstep state wd.1 wd.2 _ _ _ hmirror hF hgrew hfresh htold⟩

/-- A batch of joins. -/
theorem follow_joinBatch {js : List Join} (hhear : Aloof hear)
    (hgave : ∀ c s, ¬ allow c s (.reach .gaveUp))
    (hjs : ∀ j ∈ js, j.env.opensRTC = true ∧ j.req.userID = userOf j.req.connID)
    (hstep : ∀ j ∈ js, F.KeptByJoin hear allow userOf p channelID j) :
    wp (watchLogic allow hear (F.Stored p.botID channelID userOf)) false
      (joinBatch p channelID js) (fun h _ _ => h = false) wd := by
  refine underLock_told fun w d hwd => ?_
  refine Code.wp_mono (addSessionsToCall_rule (I := fun state wd =>
    JoinMirror p.botID channelID userOf state wd.1 ∧ F.holds state wd.1 wd.2) js
    (fun j hj state wd hI => follow_join hhear hgave (hjs j hj).1 (hjs j hj).2
      (hstep j hj) hI.1 hI.2)
    _ (w, d) ⟨hwd.joinMirror, hwd.2.2⟩) fun _ wd' hwd' => ?_
  obtain ⟨state', hm, hF⟩ := hwd'
  exact hm.tied hF

/-- A join by itself. -/
theorem follow_handleJoin {j : Join} (hhear : Aloof hear)
    (hgave : ∀ c s, ¬ allow c s (.reach .gaveUp)) (hopens : j.env.opensRTC = true)
    (huser : j.req.userID = userOf j.req.connID)
    (hstep : F.KeptByJoin hear allow userOf p channelID j) :
    wp (watchLogic allow hear (F.Stored p.botID channelID userOf)) false
      (handleJoin p channelID j) (fun h _ _ => h = false) wd := by
  refine underLock_told fun w d hwd => ?_
  exact Code.wp_bind.2
    (Code.wp_mono (follow_join hhear hgave hopens huser hstep hwd.joinMirror hwd.2.2)
    fun _ _ h => h.1.tied h.2)

end Join

/-! ## Leaves -/

section Leave

variable {allow : Choice → Store → Op → Prop} {p : Plugin} {channelID : String}
  {D : Type} {F : Tie D} {hear : WsEvent → WebSocketBroadcast → D → D}
  {inv : Store × D → Prop} {userOf : String → String} {env : Env} {r : LeaveRequest}
  {state : Option CallState} {wd : Store × D}

/-- A leave keeps the tie if what it announces does. -/
theorem follow_leave (hhear : Aloof hear) (hgave : ∀ c s, ¬ allow c s (.reach .gaveUp))
    (hstep : F.KeptByLeave hear userOf p channelID ⟨r, env⟩)
    (hmirror : LeaveMirror p.botID channelID userOf state wd.1)
    (hF : F.holds state wd.1 wd.2) :
    (removeUserSession p env r channelID state).wp (watchLogic allow hear inv)
      (fun res wd' =>
      LeaveMirror p.botID channelID userOf res.1 wd'.1 ∧
        F.holds res.1 wd'.1 wd'.2) wd := by
  have hallow : ∀ c w o, allow c w o → NotGivenUp c w o :=
    fun c w o hc ho => hgave c w (ho ▸ hc)
  have hleave : (removeUserSession p env r channelID state).wp notGivenUpLogic
      (fun res w' => LeaveMirror p.botID channelID userOf res.1 w') wd.1 :=
    mirrorLeave_rule.removeUserSession lenient_true (fun _ _ => Iff.rfl) hmirror
  have hstore : (removeUserSession p env r channelID state).wp
      (callLogic allow (fun _ => True) True)
      (fun res w' => LeaveMirror p.botID channelID userOf res.1 w' ∧
        Grew wd.1 w') wd.1 :=
    Code.wp_and (Code.wp_restrict (L := notGivenUpLogic) rfl hallow
      (fun _ _ _ => trivial) hleave) (wp_grew _ _)
  refine Code.wp_mono (Code.wp_and (Code.wp_watched hstore wd.2)
    (removeUserSession_told hhear hgave)) fun res wd' hwd' => ?_
  obtain ⟨⟨hm, hgrew⟩, htold⟩ := hwd'
  exact ⟨hm, hstep state wd.1 wd.2 _ _ _ hmirror hF hgrew htold⟩

/-- A batch of leaves. -/
theorem follow_leaveBatch {ls : List Leave} (hhear : Aloof hear)
    (hgave : ∀ c s, ¬ allow c s (.reach .gaveUp))
    (hstep : ∀ l ∈ ls, F.KeptByLeave hear userOf p channelID l) :
    wp (watchLogic allow hear (F.Stored p.botID channelID userOf)) false
      (leaveBatch p channelID ls) (fun h _ _ => h = false) wd := by
  refine underLock_told fun w d hwd => ?_
  refine Code.wp_mono (removeSessionsFromCall_rule (R := fun state wd =>
    LeaveMirror p.botID channelID userOf state wd.1 ∧ F.holds state wd.1 wd.2) ls
    (fun l hl state wd hI => follow_leave hhear hgave (hstep l hl) hI.1 hI.2)
    _ (w, d) ⟨hwd.leaveMirror, hwd.2.2⟩) fun _ wd' hwd' => ?_
  obtain ⟨state', hm, hF⟩ := hwd'
  exact hm.tied hF

/-- A leave by itself. -/
theorem follow_removeSession {l : Leave} (hhear : Aloof hear)
    (hgave : ∀ c s, ¬ allow c s (.reach .gaveUp))
    (hstep : F.KeptByLeave hear userOf p channelID l) :
    wp (watchLogic allow hear (F.Stored p.botID channelID userOf)) false
      (removeSession p channelID l) (fun h _ _ => h = false) wd := by
  refine underLock_told fun w d hwd => ?_
  exact Code.wp_bind.2
    (Code.wp_mono (follow_leave hhear hgave hstep hwd.leaveMirror hwd.2.2)
    fun _ _ h => h.1.tied h.2)

end Leave

/-! ## Observers that come later -/

section Once

variable {D : Type} {hear : WsEvent → WebSocketBroadcast → D → D}

/-- An observer that hears nothing before it is there. -/
def hearLater (hear : WsEvent → WebSocketBroadcast → D → D) (ev : WsEvent)
    (b : WebSocketBroadcast) (od : Option D) : Option D := od.map (hear ev b)

/-- The tie of such an observer. -/
def Tie.later (F : Tie D) : Tie (Option D) where
  holds state w od := ∀ d, od = some d → F.holds state w d
  sight hsight h d hd := F.sight hsight (h d hd)
  ended hnil h d hd := F.ended hnil (h d hd)

theorem hearLater_aloof (hhear : Aloof hear) : Aloof (hearLater hear) where
  join connID b od := by
    cases od with
    | none => rfl
    | some d => exact congrArg some (hhear.join connID b d)
  error e connID b od := by
    cases od with
    | none => rfl
    | some d => exact congrArg some (hhear.error e connID b d)
  jobs callID job b od := by
    cases od with
    | none => rfl
    | some d => exact congrArg some (hhear.jobs callID job b d)

variable {allow : Choice → Store → Op → Prop} {p : Plugin} {env : Env}
  {channelID : String} {state state' : Option CallState} {st : CallState} {w : Store}
  {od od' : Option D}

theorem tellHost_later (oldHostID : String) :
    tellHost (hearLater hear) env oldHostID st channelID od =
    od.map (tellHost hear env oldHostID st channelID) := by
  unfold tellHost
  cases od with
  | none => split <;> rfl
  | some d => simp only [Option.map_some]; split <;> rfl

theorem tellJoin_later {r : JoinRequest} :
    tellJoin (hearLater hear) p env st r channelID od =
    od.map (tellJoin hear p env st r channelID) := by
  cases od <;> rfl

theorem tellStart_later : tellStart (hearLater hear) st channelID od =
    od.map (tellStart hear st channelID) := rfl

theorem tellLeave_later {r : LeaveRequest} {us : CallSession} :
    tellLeave (hearLater hear) p env r channelID us st od =
      od.map (tellLeave hear p env r channelID us st) := by
  unfold tellLeave tellHostLeft tellVideoLeft tellScreenLeft
  cases od with
  | none => repeat' first | rfl | split
  | some d => simp only [Option.map_some]; repeat' first | rfl | split

/-- What an observer that is there is told of a join. -/
theorem JoinTold.of_later {r : JoinRequest}
    (h : JoinTold (hearLater hear) allow p env r channelID state w od state' od')
    {d' : D} (hd' : od' = some d') :
    ∃ d, od = some d ∧ JoinTold hear allow p env r channelID state w d state' d' := by
  cases h with
  | refused => exact ⟨d', hd', .refused⟩
  | started st jobs postID threadID hchecks henter hlen =>
      rw [tellJoin_later, tellStart_later, tellHost_later, Option.map_map,
        Option.map_map] at hd'
      obtain ⟨d, hd, rfl⟩ := Option.map_eq_some_iff.1 hd'
      exact ⟨d, hd, .started st jobs postID threadID hchecks henter hlen⟩
  | entered st jobs hchecks henter hlen =>
      rw [tellJoin_later, tellHost_later, Option.map_map] at hd'
      obtain ⟨d, hd, rfl⟩ := Option.map_eq_some_iff.1 hd'
      exact ⟨d, hd, .entered st jobs hchecks henter hlen⟩

/-- What it is told of a leave. -/
theorem LeaveTold.of_later {r : LeaveRequest}
    (h : LeaveTold (hearLater hear) p env r channelID state od state' od') {d' : D}
    (hd' : od' = some d') :
    ∃ d, od = some d ∧ LeaveTold hear p env r channelID state d state' d' := by
  cases h with
  | refused => exact ⟨d', hd', .refused⟩
  | left st us st' hstate hus hst' =>
      rw [tellLeave_later] at hd'
      obtain ⟨d, hd, rfl⟩ := Option.map_eq_some_iff.1 hd'
      exact ⟨d, hd, .left st us st' hstate hus hst'⟩

variable {F : Tie D} {userOf : String → String}

theorem Tie.KeptByJoin.later {j : Join}
    (h : F.KeptByJoin hear allow userOf p channelID j) :
    F.later.KeptByJoin (hearLater hear) allow userOf p channelID j := by
  intro state w od state' w' od' hmirror hF hgrew hfresh htold d' hd'
  obtain ⟨d, hd, htold⟩ := htold.of_later hd'
  exact h state w d state' w' d' hmirror (hF d hd) hgrew hfresh htold

theorem Tie.KeptByLeave.later {l : Leave}
    (h : F.KeptByLeave hear userOf p channelID l) :
    F.later.KeptByLeave (hearLater hear) userOf p channelID l := by
  intro state w od state' w' od' hmirror hF hgrew htold d' hd'
  obtain ⟨d, hd, htold⟩ := htold.of_later hd'
  exact h state w d state' w' d' hmirror (hF d hd) hgrew htold

end Once

end CallsPlugin.Ports
