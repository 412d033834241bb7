import CallsPlugin.Ports.Session

/-!
# The jobs of a call, in the store and in memory

`Coupled` is what the job handlers are to keep: at most one active job of each
type in a call, captions only with a transcription and a transcription only
with a recording.  `Mirrors` ties the in-memory jobs of a call to the table:
every active row is the row of the job in memory, though that one may be marked
as ended before it is written.
-/

namespace CallsPlugin.Ports

open CallsPlugin.Verified
open CallsPlugin.Ports.Public CallsPlugin.Ports.Db

/-- The rows of `calls_jobs`. -/
abbrev JobTable := Table CallJob.id

/-- The table after `UpdateCallJob`. -/
def JobTable.update (t : JobTable) (j : CallJob) : JobTable :=
  t.modify j.id (Store.setJob · j) (Store.setJob_id · j)

/-- A job of the call and type that has not ended. -/
structure ActiveJob (t : JobTable) (callID : String) (type : JobType) (j : CallJob) :
    Prop where
  mem : j ∈ t
  callID : j.callID = callID
  type : j.type = type
  endAt : j.endAt = 0

/-- No job of the call and type is active. -/
def NoneActive (t : JobTable) (callID : String) (type : JobType) : Prop :=
  ∀ j, ¬ ActiveJob t callID type j

/-- The coupling of the jobs of every call; `serve` is what the active captions and
transcription of a call have in common. -/
structure CoupledBy (serve : String → CallJob → CallJob → Prop) (t : JobTable) :
    Prop where
  unique : ∀ {callID type j j'}, ActiveJob t callID type j →
    ActiveJob t callID type j' → j = j'
  captions : ∀ {callID lc}, ActiveJob t callID .captioning lc →
    ∃ tr, ActiveJob t callID .transcribing tr ∧ serve callID lc tr
  transcription : ∀ {callID tr}, ActiveJob t callID .transcribing tr →
    ∃ r, ActiveJob t callID .recording r

/-- Captions and transcription are served by one bot, and the captions do not start
before the transcription. -/
def Served (_ : String) (lc tr : CallJob) : Prop :=
  lc.props.botConnID = tr.props.botConnID ∧ (tr.startAt = 0 → lc.startAt = 0)

/-- The coupling of jobs between handlers. -/
abbrev Coupled : JobTable → Prop := CoupledBy Served

/-! ## Ending jobs -/

/-- From `t` to `t'` only jobs of the call have ended. -/
structure Ends (callID : String) (t t' : JobTable) : Prop where
  active : ∀ {c type j}, ActiveJob t' c type j → ActiveJob t c type j
  other : ∀ {c type j}, c ≠ callID → ActiveJob t c type j → ActiveJob t' c type j

theorem Ends.refl (callID : String) (t : JobTable) : Ends callID t t :=
  ⟨id, fun _ => id⟩

theorem Ends.trans {callID : String} {t t' t'' : JobTable} (h : Ends callID t t')
    (h' : Ends callID t' t'') : Ends callID t t'' :=
  ⟨fun hj => h.active (h'.active hj), fun hc hj => h'.other hc (h.other hc hj)⟩

theorem Ends.noneActive {callID c : String} {type : JobType} {t t' : JobTable}
    (h : Ends callID t t') (hn : NoneActive t c type) : NoneActive t' c type :=
  fun j hj => hn j (h.active hj)

section Coupled

variable {serve : String → CallJob → CallJob → Prop} {callID : String} {t t' : JobTable}

/-- A job that was active has ended, or still is. -/
theorem CoupledBy.active_or_none {type : JobType} {j : CallJob} (h : CoupledBy serve t)
    (he : Ends callID t t') (hj : ActiveJob t callID type j) :
    ActiveJob t' callID type j ∨ NoneActive t' callID type := by
  by_cases hn : NoneActive t' callID type
  · exact .inr hn
  · obtain ⟨j', hj'⟩ := not_forall_not.1 hn
    rw [h.unique hj (he.active hj')]
    exact .inl hj'

/-- Ending jobs keeps the coupling if no recording leaves a transcription behind and
no transcription captions. -/
theorem CoupledBy.ends (h : CoupledBy serve t) (he : Ends callID t t')
    (hrec : NoneActive t' callID .recording → NoneActive t' callID .transcribing)
    (htr : NoneActive t' callID .transcribing → NoneActive t' callID .captioning) :
    CoupledBy serve t' where
  unique hj hj' := h.unique (he.active hj) (he.active hj')
  captions {c lc} hlc := by
    obtain ⟨tr, htr', hk⟩ := h.captions (he.active hlc)
    by_cases hc : c = callID
    · subst hc
      rcases h.active_or_none he htr' with ha | hn
      · exact ⟨tr, ha, hk⟩
      · exact absurd hlc (htr hn lc)
    · exact ⟨tr, he.other hc htr', hk⟩
  transcription {c tr} htr' := by
    obtain ⟨r, hr⟩ := h.transcription (he.active htr')
    by_cases hc : c = callID
    · subst hc
      rcases h.active_or_none he hr with ha | hn
      · exact ⟨r, ha⟩
      · exact absurd htr' (hrec hn tr)
    · exact ⟨r, he.other hc hr⟩

theorem CoupledBy.noneActive_transcribing (h : CoupledBy serve t)
    (hn : NoneActive t callID .recording) : NoneActive t callID .transcribing :=
    fun _ htr =>
  let ⟨r, hr⟩ := h.transcription htr
  hn r hr

theorem CoupledBy.noneActive_captioning (h : CoupledBy serve t)
    (hn : NoneActive t callID .transcribing) : NoneActive t callID .captioning :=
    fun _ hlc =>
  let ⟨tr, htr, _⟩ := h.captions hlc
  hn tr htr

theorem CoupledBy.served {c : String} {lc tr : CallJob} (h : CoupledBy serve t)
    (hlc : ActiveJob t c .captioning lc) (htr : ActiveJob t c .transcribing tr) :
    serve c lc tr := by
  obtain ⟨tr', htr', hs⟩ := h.captions hlc
  rwa [h.unique htr htr']

end Coupled

/-! ## The jobs in memory -/

/-- The in-memory job of a call and type: its row exists and is equal to it as long as
it is running, and it is the only one that may be active. -/
structure Mirrors (t : JobTable) (callID : String) (type : JobType)
    (m : Option CallJob) : Prop
    where
  covers : ∀ x, ActiveJob t callID type x → ∃ j, m = some j ∧ j.id = x.id
  row : ∀ j, m = some j → j.callID = callID ∧ j.type = type ∧
    ∃ x ∈ t, x.id = j.id ∧ x.callID = callID ∧ x.type = type ∧ (j.endAt = 0 → x = j)

/-- The in-memory jobs of a state. -/
def StateMirrors (t : JobTable) (st : CallState) : Prop :=
  ∀ type, Mirrors t st.call.id type (st.job type)

/-- The active job of the type is the one in memory. -/
def Settled (t : JobTable) (st : CallState) (type : JobType) : Prop :=
  ∀ x, ActiveJob t st.call.id type x → st.job type = some x

theorem Mirrors.noneActive {t : JobTable} {callID : String} {type : JobType}
    (h : Mirrors t callID type none) : NoneActive t callID type := fun x hx => by
  obtain ⟨j, hj, -⟩ := h.covers x hx
  cases hj

/-- A job that runs in memory is active. -/
theorem Mirrors.active {t : JobTable} {callID : String} {type : JobType} {j : CallJob}
    (h : Mirrors t callID type (some j)) (hj : j.endAt = 0) :
    ActiveJob t callID type j := by
  obtain ⟨hc, ht, x, hx, -, -, -, he⟩ := h.row j rfl
  exact ⟨he hj ▸ hx, hc, ht, hj⟩

/-- Two versions of a job. -/
def SameJob (j j' : CallJob) : Prop :=
  j'.id = j.id ∧ j'.callID = j.callID ∧ j'.type = j.type

/-- Marking the job in memory as ended. -/
theorem Mirrors.mark {t : JobTable} {callID : String} {type : JobType} {j j' : CallJob}
    (h : Mirrors t callID type (some j)) (hs : SameJob j j') (hend : j'.endAt ≠ 0) :
    Mirrors t callID type (some j') where
  covers x hx := by
    obtain ⟨i, hi, hid⟩ := h.covers x hx
    cases hi
    exact ⟨j', rfl, hs.1.trans hid⟩
  row i hi := by
    cases hi
    obtain ⟨hc, ht, x, hx, hid, hxc, hxt, -⟩ := h.row j rfl
    exact ⟨hs.2.1.trans hc, hs.2.2.trans ht, x, hx, hid.trans hs.1.symm, hxc, hxt,
      fun he => absurd he hend⟩

/-- What is active after a job was written as ended. -/
theorem activeJob_update_ended {t : JobTable} {c : String} {type : JobType}
    {j y : CallJob} (hend : j.endAt ≠ 0) :
    ActiveJob (t.update j) c type y ↔ ActiveJob t c type y ∧ y.id ≠ j.id := by
  constructor
  · rintro ⟨hy, hyc, hyt, hye⟩
    obtain ⟨r, hr, rfl⟩ := (Table.mem_modify (Store.setJob_id · j)).1 hy
    by_cases hk : r.id = j.id
    · rw [if_pos hk] at hye
      exact absurd hye hend
    · rw [if_neg hk] at hyc hyt hye ⊢
      exact ⟨⟨hr, hyc, hyt, hye⟩, hk⟩
  · rintro ⟨⟨hy, hyc, hyt, hye⟩, hk⟩
    exact ⟨(Table.mem_modify_of_ne (Store.setJob_id · j) hk).2 hy, hyc, hyt, hye⟩

/-- Writing the ended job in memory ends its row and nothing else. -/
theorem Mirrors.ends {t : JobTable} {callID : String} {type : JobType} {j : CallJob}
    (h : Mirrors t callID type (some j)) (hend : j.endAt ≠ 0) :
    Ends callID t (t.update j) ∧ NoneActive (t.update j) callID type := by
  obtain ⟨-, -, x, hx, hid, hxc, -, -⟩ := h.row j rfl
  refine ⟨⟨fun hy => ((activeJob_update_ended hend).1 hy).1, fun hc hy =>
    (activeJob_update_ended hend).2 ⟨hy, fun hk => hc ?_⟩⟩, fun y hy => ?_⟩
  · rw [← hy.callID, t.eq_of_key_eq hy.mem hx (hk.trans hid.symm), hxc]
  · obtain ⟨hy, hk⟩ := (activeJob_update_ended hend).1 hy
    obtain ⟨i, hi, hid'⟩ := h.covers y hy
    cases hi
    exact hk hid'.symm

/-- Writing a job of the call leaves the mirror of the other types. -/
theorem Mirrors.update_other {t : JobTable} {callID : String} {type type' : JobType}
    {j j' : CallJob} {m : Option CallJob} (h : Mirrors t callID type (some j))
    (h' : Mirrors t callID type' m) (hne : type' ≠ type) (hjid : j'.id = j.id) :
    Mirrors (t.update j') callID type' m := by
  obtain ⟨-, -, x, hx, hid, -, hxt, -⟩ := h.row j rfl
  -- a row of another type is another row
  have hrow : ∀ y ∈ t, y.type = type' → y.id ≠ j'.id := fun y hy hyt hk => by
    rw [t.eq_of_key_eq hy hx (hk.trans (hjid.trans hid.symm)), hxt] at hyt
    exact hne hyt.symm
  refine ⟨fun y hy => ?_, fun i hi => ?_⟩
  · obtain ⟨hym, hyc, hyt, hye⟩ := hy
    obtain ⟨r, hr, rfl⟩ := (Table.mem_modify (Store.setJob_id · j')).1 hym
    by_cases hk : r.id = j'.id
    · rw [if_pos hk] at hyt
      exact absurd hk (hrow r hr hyt)
    · rw [if_neg hk] at hyc hyt hye ⊢
      exact h'.covers r ⟨hr, hyc, hyt, hye⟩
  · obtain ⟨hc, ht, y, hy, hyid, hyc, hyt, he⟩ := h'.row i hi
    exact ⟨hc, ht, y, (Table.mem_modify_of_ne (Store.setJob_id · j') (hrow y hy hyt)).2
      hy, hyid, hyc, hyt, he⟩

/-- Writing the ended job in memory keeps the mirror of its type. -/
theorem Mirrors.update_ended {t : JobTable} {callID : String} {type : JobType}
    {j : CallJob} (h : Mirrors t callID type (some j)) (hend : j.endAt ≠ 0) :
    Mirrors (t.update j) callID type (some j) where
  covers y hy := absurd hy ((h.ends hend).2 y)
  row i hi := by
    cases hi
    obtain ⟨hc, ht, x, hx, hid, hxc, hxt, -⟩ := h.row j rfl
    refine ⟨hc, ht, Store.setJob x j,
      (Table.mem_modify (Store.setJob_id · j)).2 ⟨x, hx, ?_⟩, hid,
      hxc, hxt, fun he => absurd he hend⟩
    rw [if_pos hid]

/-- What is active after a running job was written with new start and props. -/
theorem Mirrors.activeJob_update {t : JobTable} {callID c : String}
    {type type' : JobType} {j j' y : CallJob} (h : Mirrors t callID type (some j))
    (hj : j.endAt = 0) (hset : Store.setJob j j' = j') (hend : j'.endAt = 0) :
    ActiveJob (t.update j') c type' y ↔
      ActiveJob t c type' y ∧ y.id ≠ j.id ∨ y = j' ∧ c = callID ∧ type' = type := by
  have hact := h.active hj
  have hid : j'.id = j.id := (congrArg CallJob.id hset).symm
  have hcall : j'.callID = j.callID := (congrArg CallJob.callID hset).symm
  have htype : j'.type = j.type := (congrArg CallJob.type hset).symm
  constructor
  · rintro ⟨hy, rfl, rfl, hye⟩
    obtain ⟨r, hr, rfl⟩ := (Table.mem_modify (Store.setJob_id · j')).1 hy
    by_cases hk : r.id = j'.id
    · obtain rfl : r = j := t.eq_of_key_eq hr hact.mem (hk.trans hid)
      rw [if_pos hk, hset]
      exact .inr ⟨rfl, hcall.trans hact.callID, htype.trans hact.type⟩
    · rw [if_neg hk] at hye ⊢
      exact .inl ⟨⟨hr, rfl, rfl, hye⟩, fun e => hk (e.trans hid.symm)⟩
  · rintro (⟨⟨hy, hyc, hyt, hye⟩, hk⟩ | ⟨rfl, rfl, rfl⟩)
    · exact ⟨(Table.mem_modify_of_ne (Store.setJob_id · j') fun e => hk (e.trans hid)).2
        hy, hyc, hyt, hye⟩
    · refine ⟨(Table.mem_modify (Store.setJob_id · y)).2 ⟨j, hact.mem, ?_⟩,
        hcall.trans hact.callID, htype.trans hact.type, hend⟩
      rw [if_pos hid.symm, hset]

/-- The same, where jobs are unique: the written job is the active one of its type, and
the others stay. -/
theorem CoupledBy.activeJob_update {serve : String → CallJob → CallJob → Prop}
    {t : JobTable} {callID c : String} {type type' : JobType} {j j' y : CallJob}
    (h : CoupledBy serve t) (hm : Mirrors t callID type (some j)) (hj : j.endAt = 0)
    (hset : Store.setJob j j' = j')
    (hend : j'.endAt = 0) : ActiveJob (t.update j') c type' y ↔
      if c = callID ∧ type' = type then y = j' else ActiveJob t c type' y := by
  have hact := hm.active hj
  rw [hm.activeJob_update hj hset hend]
  split
  next hc =>
    obtain ⟨rfl, rfl⟩ := hc
    constructor
    · rintro (⟨hy, hk⟩ | ⟨rfl, -⟩)
      · exact absurd (congrArg CallJob.id (h.unique hy hact)) hk
      · rfl
    · exact fun hy => .inr ⟨hy, rfl, rfl⟩
  next hc =>
    constructor
    · rintro (⟨hy, -⟩ | ⟨-, hc'⟩)
      · exact hy
      · exact absurd hc' hc
    · refine fun hy => .inl ⟨hy, fun hk => hc ?_⟩
      rw [← hy.callID, ← hy.type, t.eq_of_key_eq hy.mem hact.mem hk]
      exact ⟨hact.callID, hact.type⟩

/-- Writing a running job keeps the coupling, up to what captions and transcription
have in common. -/
theorem CoupledBy.update {serve serve' : String → CallJob → CallJob → Prop}
    {t : JobTable} {callID : String} {type : JobType} {j j' : CallJob}
    (h : CoupledBy serve t) (hm : Mirrors t callID type (some j)) (hj : j.endAt = 0)
    (hset : Store.setJob j j' = j') (hend : j'.endAt = 0)
    (hserve : ∀ c lc tr, ActiveJob (t.update j') c .captioning lc →
      ActiveJob (t.update j') c .transcribing tr → serve' c lc tr) :
    CoupledBy serve' (t.update j') := by
  -- the calls and types with an active job stay the same
  have hsome : ∀ {c type' y}, ActiveJob t c type' y →
      ∃ y', ActiveJob (t.update j') c type' y' := by
    intro c type' y hy
    by_cases hc : c = callID ∧ type' = type
    · exact ⟨j', (h.activeJob_update hm hj hset hend).2 (by rw [if_pos hc])⟩
    · exact ⟨y, (h.activeJob_update hm hj hset hend).2 (by rwa [if_neg hc])⟩
  have hback : ∀ {c type' y}, ActiveJob (t.update j') c type' y →
      ∃ y', ActiveJob t c type' y' := by
    intro c type' y hy
    have := (h.activeJob_update hm hj hset hend).1 hy
    split at this
    next hc =>
      obtain ⟨rfl, rfl⟩ := hc
      exact ⟨j, hm.active hj⟩
    next => exact ⟨y, this⟩
  refine ⟨fun {c type' y y'} hy hy' => ?_, fun {c lc} hlc => ?_, fun {c tr} htr => ?_⟩
  · have hy := (h.activeJob_update hm hj hset hend).1 hy
    have hy' := (h.activeJob_update hm hj hset hend).1 hy'
    split at hy
    next hc =>
      rw [if_pos hc] at hy'
      rw [hy, hy']
    next hc =>
      rw [if_neg hc] at hy'
      exact h.unique hy hy'
  · obtain ⟨lc', hlc'⟩ := hback hlc
    obtain ⟨tr, htr, -⟩ := h.captions hlc'
    obtain ⟨tr', htr'⟩ := hsome htr
    exact ⟨tr', htr', hserve c lc tr' hlc htr'⟩
  · obtain ⟨tr', htr'⟩ := hback htr
    obtain ⟨r, hr⟩ := h.transcription htr'
    exact hsome hr

/-- What is active after a job was inserted. -/
theorem activeJob_insert {t t' : JobTable} {j y : CallJob} {c : String} {type : JobType}
    (hi : t.insert? j = some t') (hend : j.endAt = 0) : ActiveJob t' c type y ↔
      ActiveJob t c type y ∨ y = j ∧ c = j.callID ∧ type = j.type := by
  constructor
  · rintro ⟨hy, rfl, rfl, hye⟩
    rcases (Table.mem_of_insert? hi).1 hy with hy | rfl
    · exact .inl ⟨hy, rfl, rfl, hye⟩
    · exact .inr ⟨rfl, rfl, rfl⟩
  · rintro (⟨hy, hyc, hyt, hye⟩ | ⟨rfl, rfl, rfl⟩)
    · exact ⟨(Table.mem_of_insert? hi).2 (.inl hy), hyc, hyt, hye⟩
    · exact ⟨(Table.mem_of_insert? hi).2 (.inr rfl), rfl, rfl, hend⟩

/-- Inserting a job of a type that has no active one, with the jobs it needs active. -/
theorem CoupledBy.insert {serve : String → CallJob → CallJob → Prop} {t t' : JobTable}
    {j : CallJob} (h : CoupledBy serve t) (hi : t.insert? j = some t')
    (hend : j.endAt = 0) (hnone : NoneActive t j.callID j.type)
    (htr : j.type = .transcribing → ∃ r, ActiveJob t j.callID .recording r)
    (hlc : j.type = .captioning →
      ∃ tr, ActiveJob t j.callID .transcribing tr ∧ serve j.callID j tr) :
      CoupledBy serve t' := by
  have hkeep : ∀ {c type y}, ActiveJob t c type y → ActiveJob t' c type y := fun hy =>
    (activeJob_insert hi hend).2 (.inl hy)
  refine ⟨fun {c type y y'} hy hy' => ?_, fun {c lc} hy => ?_, fun {c tr} hy => ?_⟩
  · rcases (activeJob_insert hi hend).1 hy with hy | ⟨rfl, rfl, rfl⟩
    · rcases (activeJob_insert hi hend).1 hy' with hy' | ⟨rfl, rfl, rfl⟩
      · exact h.unique hy hy'
      · exact absurd hy (hnone y)
    · rcases (activeJob_insert hi hend).1 hy' with hy' | ⟨rfl, -, -⟩
      · exact absurd hy' (hnone y')
      · rfl
  · rcases (activeJob_insert hi hend).1 hy with hy | ⟨rfl, rfl, ht⟩
    · obtain ⟨tr, htr', hs⟩ := h.captions hy
      exact ⟨tr, hkeep htr', hs⟩
    · obtain ⟨tr, htr', hs⟩ := hlc ht.symm
      exact ⟨tr, hkeep htr', hs⟩
  · rcases (activeJob_insert hi hend).1 hy with hy | ⟨rfl, rfl, ht⟩
    · obtain ⟨r, hr⟩ := h.transcription hy
      exact ⟨r, hkeep hr⟩
    · obtain ⟨r, hr⟩ := htr ht.symm
      exact ⟨r, hkeep hr⟩

/-- A change of the recording does not concern captions and transcription. -/
theorem CoupledBy.update_recording {serve : String → CallJob → CallJob → Prop}
    {t : JobTable} {callID : String} {j j' : CallJob} (h : CoupledBy serve t)
    (hm : Mirrors t callID .recording (some j)) (hj : j.endAt = 0)
    (hset : Store.setJob j j' = j') (hend : j'.endAt = 0) :
    CoupledBy serve (t.update j') := by
  refine h.update hm hj hset hend fun c lc tr hlc htr => ?_
  rw [h.activeJob_update hm hj hset hend, if_neg (by simp)] at hlc htr
  exact h.served hlc htr

/-- A change of the captions. -/
theorem CoupledBy.update_captioning {serve serve' : String → CallJob → CallJob → Prop}
    {t : JobTable} {callID : String} {j j' : CallJob} (h : CoupledBy serve t)
    (hm : Mirrors t callID .captioning (some j)) (hj : j.endAt = 0)
    (hset : Store.setJob j j' = j') (hend : j'.endAt = 0)
    (hself : ∀ tr, ActiveJob t callID .transcribing tr → serve callID j tr →
      serve' callID j' tr)
    (hother : ∀ c lc tr, c ≠ callID → serve c lc tr → serve' c lc tr) :
    CoupledBy serve' (t.update j') := by
  refine h.update hm hj hset hend fun c lc tr hlc htr => ?_
  rw [h.activeJob_update hm hj hset hend, if_neg (by simp)] at htr
  rw [h.activeJob_update hm hj hset hend] at hlc
  by_cases hc : c = callID
  · subst hc
    rw [if_pos ⟨rfl, rfl⟩] at hlc
    subst hlc
    exact hself tr htr (h.served (hm.active hj) htr)
  · rw [if_neg fun e => hc e.1] at hlc
    exact hother c lc tr hc (h.served hlc htr)

/-- A change of the transcription. -/
theorem CoupledBy.update_transcribing {serve serve' : String → CallJob → CallJob → Prop}
    {t : JobTable} {callID : String} {j j' : CallJob} (h : CoupledBy serve t)
    (hm : Mirrors t callID .transcribing (some j)) (hj : j.endAt = 0)
    (hset : Store.setJob j j' = j') (hend : j'.endAt = 0)
    (hself : ∀ lc, ActiveJob t callID .captioning lc → serve callID lc j →
      serve' callID lc j')
    (hother : ∀ c lc tr, c ≠ callID → serve c lc tr → serve' c lc tr) :
    CoupledBy serve' (t.update j') := by
  refine h.update hm hj hset hend fun c lc tr hlc htr => ?_
  rw [h.activeJob_update hm hj hset hend, if_neg (by simp)] at hlc
  rw [h.activeJob_update hm hj hset hend] at htr
  by_cases hc : c = callID
  · subst hc
    rw [if_pos ⟨rfl, rfl⟩] at htr
    subst htr
    exact hself lc hlc (h.served hlc (hm.active hj))
  · rw [if_neg fun e => hc e.1] at htr
    exact hother c lc tr hc (h.served hlc htr)

/-! ## States -/

@[simp] theorem withJob_call (st : CallState) (type : JobType) (j : CallJob) :
    (st.withJob type j).call = st.call := by
  cases type <;> rfl

theorem withJob_job_self (st : CallState) (type : JobType) (j : CallJob) :
    (st.withJob type j).job type = some j := by
  cases type <;> rfl

theorem withJob_job_of_ne (st : CallState) {type type' : JobType} (j : CallJob)
    (h : type' ≠ type) : (st.withJob type j).job type' = st.job type' := by
  cases type <;> cases type' <;> first | rfl | exact absurd rfl h

theorem StateMirrors.withJob {t : JobTable} {st : CallState} {type : JobType}
    {j : CallJob} (hself : Mirrors t st.call.id type (some j))
    (hother : ∀ type' ≠ type, Mirrors t st.call.id type' (st.job type')) :
    StateMirrors t (st.withJob type j) := by
  intro type'
  rw [withJob_call]
  by_cases h : type' = type
  · subst h
    rw [withJob_job_self]
    exact hself
  · rw [withJob_job_of_ne st j h]
    exact hother type' h

/-- From `t` and `st` to `t'` and `st'` only jobs of the call have been ended, in the
table and in memory. -/
structure Stopped (t t' : JobTable) (st st' : CallState) : Prop where
  call : st'.call = st.call
  ends : Ends st.call.id t t'
  mirrors : StateMirrors t' st'
  settled : ∀ type, Settled t st type → Settled t' st' type
  ended : ∀ type, running (st.job type) = false → running (st'.job type) = false

theorem Stopped.refl {t : JobTable} {st : CallState} (h : StateMirrors t st) :
    Stopped t t st st := ⟨rfl, .refl _ t, h, fun _ => id, fun _ => id⟩

theorem Stopped.trans {t t' t'' : JobTable} {st st' st'' : CallState}
    (h : Stopped t t' st st') (h' : Stopped t' t'' st' st'') :
    Stopped t t'' st st'' where
  call := h'.call.trans h.call
  ends := h.ends.trans (h.call ▸ h'.ends)
  mirrors := h'.mirrors
  settled type hs := h'.settled type (h.settled type hs)
  ended type he := h'.ended type (h.ended type he)

theorem running_of_ended {j : CallJob} (h : j.endAt ≠ 0) :
    running (some j) = false := by
  simp [running, h]

/-- Marking a job in memory as ended. -/
theorem StateMirrors.mark {t : JobTable} {st : CallState} (h : StateMirrors t st)
    (type : JobType) {j j' : CallJob} (hj : st.job type = some j) (hs : SameJob j j')
    (hend : j'.endAt ≠ 0) : StateMirrors t (st.withJob type j') := by
  have hm := h type
  rw [hj] at hm
  exact .withJob (hm.mark hs hend) fun type' _ => h type'

/-- Writing a job that was marked as ended. -/
theorem StateMirrors.write_ended {t : JobTable} {st : CallState} (h : StateMirrors t st)
    (type : JobType) {j : CallJob} (hj : st.job type = some j) (hend : j.endAt ≠ 0) :
    Stopped t (t.update j) st st ∧ NoneActive (t.update j) st.call.id type := by
  have hm := h type
  rw [hj] at hm
  obtain ⟨hends, hnone⟩ := hm.ends hend
  refine ⟨⟨rfl, hends, fun type' => ?_, fun type' hs x hx => hs x (hends.active hx),
    fun _ => id⟩, hnone⟩
  by_cases hne : type' = type
  · subst hne
    rw [hj]
    exact hm.update_ended hend
  · exact hm.update_other (h type') hne rfl

/-- Ending a job in memory and in the table. -/
theorem StateMirrors.endJob {t : JobTable} {st : CallState} (h : StateMirrors t st)
    (type : JobType) {j : CallJob} (j' : CallJob) (hj : st.job type = some j)
    (hs : SameJob j j') (hend : j'.endAt ≠ 0) :
      Stopped t (t.update j') st (st.withJob type j') ∧
      NoneActive (t.update j') st.call.id type := by
  obtain ⟨hst, hnone⟩ :=
    (h.mark type hj hs hend).write_ended type (withJob_job_self st type j') hend
  rw [withJob_call] at hnone
  have hends := hst.ends
  rw [withJob_call] at hends
  refine ⟨⟨withJob_call st type j', hends, hst.mirrors, fun type' hset x hx => ?_,
    fun type' hrun => ?_⟩, hnone⟩
  · rw [withJob_call] at hx
    by_cases hne : type' = type
    · subst hne
      exact absurd hx (hnone x)
    · rw [withJob_job_of_ne st j' hne]
      exact hset x (hends.active hx)
  · by_cases hne : type' = type
    · subst hne
      rw [withJob_job_self]
      exact running_of_ended hend
    · rwa [withJob_job_of_ne st j' hne]

/-- Changing an ended job in memory. -/
theorem StateMirrors.remark {t : JobTable} {st : CallState} (h : StateMirrors t st)
    (type : JobType) {j : CallJob} (j' : CallJob) (hj : st.job type = some j)
    (hended : j.endAt ≠ 0) (hs : SameJob j j') (hend : j'.endAt ≠ 0) :
    Stopped t t st (st.withJob type j') where
  call := withJob_call st type j'
  ends := .refl _ t
  mirrors := h.mark type hj hs hend
  settled type' hset x hx := by
    rw [withJob_call] at hx
    have hx' := hset x hx
    by_cases hne : type' = type
    · subst hne
      rw [hj] at hx'
      cases hx'
      exact absurd hx.endAt hended
    · rwa [withJob_job_of_ne st j' hne]
  ended type' hrun := by
    by_cases hne : type' = type
    · subst hne
      rw [withJob_job_self]
      exact running_of_ended hend
    · rwa [withJob_job_of_ne st j' hne]

/-- The jobs in memory are the active ones. -/
def Fresh (t : JobTable) (st : CallState) : Prop :=
  ∀ type x, st.job type = some x ↔ ActiveJob t st.call.id type x

theorem Fresh.mirrors {t : JobTable} {st : CallState} (h : Fresh t st) :
    StateMirrors t st :=
  fun type => ⟨fun x hx => ⟨x, (h type x).2 hx, rfl⟩, fun j hj =>
    let hact := (h type j).1 hj
    ⟨hact.callID, hact.type, j, hact.mem, rfl, hact.callID, hact.type, fun _ => rfl⟩⟩

theorem Fresh.settled {t : JobTable} {st : CallState} (h : Fresh t st)
    (type : JobType) :
    Settled t st type := fun x hx => (h type x).2 hx

/-- Writing a running job, in memory and in the table. -/
theorem Fresh.update {serve : String → CallJob → CallJob → Prop} {t : JobTable}
    {st : CallState} {type : JobType} {j j' : CallJob} (h : Fresh t st)
    (hc : CoupledBy serve t) (hj : st.job type = some j) (hset : Store.setJob j j' = j')
    (hend : j'.endAt = 0) :
    Fresh (t.update j') (st.withJob type j') := by
  have hm := h.mirrors type
  rw [hj] at hm
  intro type' x
  rw [withJob_call, hc.activeJob_update hm ((h type j).1 hj).endAt hset hend]
  by_cases hne : type' = type
  · subst hne
    rw [withJob_job_self, if_pos ⟨rfl, rfl⟩, Option.some_inj]
    exact eq_comm
  · rw [withJob_job_of_ne st j' hne, if_neg fun e => hne e.2]
    exact h type' x

/-- What the store answers when asked for the active jobs of a call. -/
theorem CoupledBy.getActiveCallJobs {serve : String → CallJob → CallJob → Prop}
    {w : Store} (h : CoupledBy serve w.jobs) {callID : String} {type : JobType}
    {x : CallJob} :
    w.getActiveCallJobs callID type = some x ↔ ActiveJob w.jobs callID type x := by
  constructor
  · intro hx
    obtain ⟨hm, hc, he, ht⟩ := Store.getActiveCallJobs_eq_some hx
    exact ⟨hm, hc, ht, he⟩
  · intro hx
    cases hget : w.getActiveCallJobs callID type with
    | none =>
        exact absurd hx.type
          (Store.getActiveCallJobs_eq_none.1 hget x hx.mem hx.callID hx.endAt)
    | some j =>
        obtain ⟨hm, hc, he, ht⟩ := Store.getActiveCallJobs_eq_some hget
        rw [h.unique hx ⟨hm, hc, ht, he⟩]

/-- The state read under the lock. -/
theorem CoupledBy.fresh {serve : String → CallJob → CallJob → Prop} {w : Store}
    {call : Call} {sessions : Table CallSession.id} (h : CoupledBy serve w.jobs) :
    Fresh w.jobs ⟨call, sessions, w.getActiveCallJobs call.id .recording,
      w.getActiveCallJobs call.id .transcribing,
        w.getActiveCallJobs call.id .captioning⟩ := by
  rintro (_ | _ | _) x <;> exact h.getActiveCallJobs

/-- A job that does not run in memory is not active. -/
theorem Settled.noneActive {t : JobTable} {st : CallState} {type : JobType}
    (h : Settled t st type) (hrun : running (st.job type) = false) :
    NoneActive t st.call.id type := by
  intro x hx
  rw [h x hx] at hrun
  simp [running, hx.endAt] at hrun

/-- Ending the recording, and the transcription if it runs, keeps the coupling. -/
theorem CoupledBy.stopAll {serve : String → CallJob → CallJob → Prop} {t t' : JobTable}
    {st : CallState} (h : CoupledBy serve t) (hs : Settled t st .transcribing)
    (he : Ends st.call.id t t')
    (htr : running st.transcription = true →
      NoneActive t' st.call.id .transcribing ∧ NoneActive t' st.call.id .captioning) :
    CoupledBy serve t' := by
  have hboth : NoneActive t' st.call.id .transcribing ∧
      NoneActive t' st.call.id .captioning := by
    cases hrun : running st.transcription with
    | true => exact htr hrun
    | false =>
        have hn : NoneActive t st.call.id .transcribing := hs.noneActive hrun
        exact ⟨he.noneActive hn, he.noneActive (h.noneActive_captioning hn)⟩
  exact h.ends he (fun _ => hboth.1) fun _ => hboth.2

end CallsPlugin.Ports
