import CallsPlugin.Ports.JobArtifacts

/-!
# Job artifacts and the order of requests (`server/bot_api.go`)

The metadata of a call post and the captions of posts are the same for every
order of a set of requests exactly if the set is `OrderFree`.  What a request
does is its own as long as no transcription is posted together with its
recording; for such a pair the captions show which one came first.
-/

namespace CallsPlugin.Ports

open CallsPlugin.Verified

section

variable {newID : BotPost → String} {callID postID id jobID : String} {s z : Posts}
  {bs : List BotPost} {b : BotPost} {info : RecordingJobInfo}
  {tinfo : TranscribingJobInfo}

/-- The requests of a call post. -/
structure RequestsFor (newID : BotPost → String) (s : Posts) (postID : String)
    (bs : List BotPost) : Prop where
  post : (s postID).isSome
  ofPost : ∀ b ∈ bs, b.postID = postID
  newIDs : NewIDs newID s postID bs

theorem RequestsFor.newID_ne (h : RequestsFor newID s postID bs) (hb : b ∈ bs) :
    newID b ≠ postID := by
  intro heq
  have hsome := h.post
  rw [← heq, h.newIDs.unused b hb] at hsome
  cases hsome

/-! ## Metadata after a note -/

theorem metadata_note (prop : Option Any) (jobID fileID recPostID jobID' : String) :
    metadataOf ((Any.asMap (note prop jobID fileID recPostID)).getD fun _ => none)
      jobID' = if (Any.asMap prop).isSome ∧ jobID' = jobID then
        { metadataOf ((Any.asMap prop).getD fun _ => none) jobID with
          fileID := fileID, postID := recPostID }
      else metadataOf ((Any.asMap prop).getD fun _ => none) jobID' := by
  rw [asMap_note]
  cases h : Any.asMap prop with
  | none =>
      rw [if_neg fun h => absurd h.1 (by decide)]
      rfl
  | some jobs =>
      show metadataOf (setArtifact jobs jobID fileID recPostID) jobID' = _
      rw [metadataOf_setArtifact]
      by_cases hjob : jobID' = jobID
      · rw [if_pos hjob, if_pos ⟨rfl, hjob⟩]
        rfl
      · rw [if_neg hjob, if_neg fun h => hjob h.2]
        rfl

theorem asMap_isSome_note (prop : Option Any) (jobID fileID recPostID : String) :
    (Any.asMap (note prop jobID fileID recPostID)).isSome =
    (Any.asMap prop).isSome := by
  rw [asMap_note, Option.isSome_map]

theorem metadata_process_transcriptions (hr : Ready newID z postID b) :
    (process newID callID z b).recIDOf postID jobID = z.recIDOf postID jobID := by
  show (metadataOf
    ((Any.asMap ((process newID callID z b).prop postID "transcriptions")).getD
    fun _ => none) jobID).recID = _
  rw [prop_transcriptions_process hr]
  unfold onTranscriptions
  split
  · rfl
  · split
    · rw [metadata_note]
      split
      · next hjob =>
        rw [hjob.2]
        rfl
      · rfl
    · rfl

/-- The metadata of a recording job is changed by its own request only. -/
theorem metadata_process_recordings (hr : Ready newID z postID b)
    (hb : ∀ info, b = .recording info → info.isValid = none → info.jobID ≠ jobID) :
    (process newID callID z b).metadata postID "recordings" jobID =
      z.metadata postID "recordings" jobID := by
  show metadataOf
    ((Any.asMap ((process newID callID z b).prop postID "recordings")).getD
    fun _ => none) jobID = _
  rw [prop_recordings_process hr]
  unfold onRecordings
  split
  · next info =>
    split
    · next hact =>
      rw [metadata_note, if_neg fun h => hb info rfl hact.1 h.2.symm]
      rfl
    · rfl
  · rfl

/-- The request of a recording job notes its post. -/
theorem postID_process_recording (hr : Ready newID z postID (.recording info))
    (hvalid : info.isValid = none) (hhas : z.HasRecordings postID) :
    ((process newID callID z (.recording info)).metadata postID "recordings"
      info.jobID).postID = newID (.recording info) := by
  show (metadataOf
    ((Any.asMap ((process newID callID z _).prop postID "recordings")).getD
    fun _ => none) info.jobID).postID = _
  rw [prop_recordings_process hr]
  unfold onRecordings
  dsimp only
  rw [if_pos ⟨hvalid, hhas⟩, metadata_note, if_pos ⟨hhas, rfl⟩]

/-- The request of a transcribing job notes its post, if it can be saved. -/
theorem postID_process_transcription (hr : Ready newID z postID (.transcription tinfo))
    (hvalid : tinfo.isValid = none) (hboth : z.HasBoth postID)
    (hsaves : z.Saves postID tinfo.jobID) :
    ((process newID callID z (.transcription tinfo)).metadata postID "transcriptions"
      tinfo.jobID).postID = newID (.transcription tinfo) := by
  show (metadataOf
    ((Any.asMap ((process newID callID z _).prop postID "transcriptions")).getD
    fun _ => none) tinfo.jobID).postID = _
  rw [prop_transcriptions_process hr]
  unfold onTranscriptions
  dsimp only
  rw [if_pos ⟨hvalid, hboth, hsaves⟩, metadata_note, if_pos ⟨hboth.2, rfl⟩]

/-! ## What stays as it was -/

/-- What requests for the call post leave as it was, whatever they are: the call post is
there, the shapes of its properties, and its recordings have the posts they had or new
ones. -/
structure Shape (newID : BotPost → String) (s : Posts) (postID : String)
    (bs : List BotPost) (z : Posts) : Prop where
  post : (z postID).isSome
  recordings : z.HasRecordings postID ↔ s.HasRecordings postID
  both : z.HasBoth postID ↔ s.HasBoth postID
  posts : ∀ jobID, (z.metadata postID "recordings" jobID).postID =
      (s.metadata postID "recordings" jobID).postID ∨
    ∃ info, .recording info ∈ bs ∧
      (z.metadata postID "recordings" jobID).postID = newID (.recording info)

theorem Shape.start (h : RequestsFor newID s postID bs) : Shape newID s postID bs s :=
  ⟨h.post, Iff.rfl, Iff.rfl, fun _ => .inl rfl⟩

theorem Shape.ready (hs : Shape newID s postID bs z) (h : RequestsFor newID s postID bs)
    (hb : b ∈ bs) : Ready newID z postID b := by
  refine ⟨hs.post, h.ofPost b hb, h.newID_ne hb, ?_⟩
  intro _ tinfo htr hrecPost
  obtain hold | ⟨info, hinfo, hnew⟩ := hs.posts (z.recIDOf postID tinfo.jobID)
  · exact h.newIDs.unmentioned b hb _ (hold.symm.trans hrecPost)
  · have hsame := h.newIDs.injective _ hinfo b hb (hnew.symm.trans hrecPost)
    rw [htr] at hsame
    cases hsame

theorem hasRecordings_process (hr : Ready newID z postID b) :
    (process newID callID z b).HasRecordings postID ↔ z.HasRecordings postID := by
  unfold Posts.HasRecordings
  rw [prop_recordings_process hr]
  unfold onRecordings
  split
  · split
    · rw [asMap_isSome_note]
    · rfl
  · rfl

theorem hasBoth_process (hr : Ready newID z postID b) :
    (process newID callID z b).HasBoth postID ↔ z.HasBoth postID := by
  refine and_congr (hasRecordings_process hr) ?_
  rw [prop_transcriptions_process hr]
  unfold onTranscriptions
  split
  · rfl
  · split
    · rw [asMap_isSome_note]
    · rfl

theorem Shape.process (hs : Shape newID s postID bs z)
    (h : RequestsFor newID s postID bs)
    (hb : b ∈ bs) : Shape newID s postID bs (process newID callID z b) := by
  have hr := hs.ready h hb
  refine ⟨isSome_process hr hs.post, (hasRecordings_process hr).trans hs.recordings,
    (hasBoth_process hr).trans hs.both, ?_⟩
  intro jobID
  by_cases hown : ∃ info, b = .recording info ∧ info.isValid = none ∧
      info.jobID = jobID ∧ z.HasRecordings postID
  · obtain ⟨info, rfl, hvalid, rfl, hhas⟩ := hown
    exact .inr ⟨info, hb, postID_process_recording hr hvalid hhas⟩
  · have hkept : (Ports.process newID callID z b).metadata postID "recordings" jobID =
        z.metadata postID "recordings" jobID := by
      by_cases hhas : z.HasRecordings postID
      · apply metadata_process_recordings hr
        intro info hinfo hvalid hjob
        exact hown ⟨info, hinfo, hvalid, hjob, hhas⟩
      · show metadataOf
          ((Any.asMap ((Ports.process newID callID z b).prop postID "recordings")).getD
          fun _ => none) jobID = _
        rw [prop_recordings_process hr]
        unfold onRecordings
        split
        · rw [if_neg fun hact => hhas hact.2]
          rfl
        · rfl
    rw [hkept]
    exact hs.posts jobID

theorem Shape.processAll (h : RequestsFor newID s postID bs) {bs' : List BotPost}
    (hsub : ∀ b ∈ bs', b ∈ bs) :
    Shape newID s postID bs (processAll newID callID s bs') :=
  foldl_inv (Shape newID s postID bs) (fun _ b hb hs => hs.process h (hsub b hb))
    (Shape.start h)

/-- Transcriptions belong to the recordings they belonged to, and these have the posts
they had. -/
structure Linked (s : Posts) (postID : String) (bs : List BotPost) (z : Posts) :
    Prop where
  recPost : s.HasBoth postID → ∀ info, Accepted bs (.transcription info) →
    z.recIDOf postID info.jobID = s.recIDOf postID info.jobID ∧
      z.recPostOf postID info.jobID = s.recPostOf postID info.jobID ∧
      (z (s.recPostOf postID info.jobID)).isSome =
      (s (s.recPostOf postID info.jobID)).isSome

theorem Linked.start (s : Posts) (postID : String) (bs : List BotPost) :
    Linked s postID bs s :=
  ⟨fun _ _ _ => ⟨rfl, rfl, rfl⟩⟩

/-- No transcription is posted together with the recording it belongs to. -/
def PostedApart (s : Posts) (postID : String) (bs : List BotPost) : Prop :=
  s.HasBoth postID → ∀ info info', Accepted bs (.recording info) →
    Accepted bs (.transcription info') → s.recIDOf postID info'.jobID ≠ info.jobID

theorem Linked.process (hl : Linked s postID bs z) (hs : Shape newID s postID bs z)
    (h : RequestsFor newID s postID bs) (hapart : PostedApart s postID bs)
    (hb : b ∈ bs) :
    Linked s postID bs (process newID callID z b) := by
  constructor
  intro hboth tinfo htr
  have hr := hs.ready h hb
  obtain ⟨hrecID, hrecPost, hexists⟩ := hl.recPost hboth tinfo htr
  have hsame : ∀ jobID, (Ports.process newID callID z b).recIDOf postID jobID =
      z.recIDOf postID jobID :=
    fun _ => metadata_process_transcriptions hr
  refine ⟨(hsame _).trans hrecID, ?_, ?_⟩
  · show ((Ports.process newID callID z b).metadata postID "recordings"
      ((Ports.process newID callID z b).recIDOf postID tinfo.jobID)).postID = _
    rw [hsame, metadata_process_recordings hr]
    · exact hrecPost
    · intro info hinfo hvalid hjob
      rw [hinfo] at hb
      exact hapart hboth info tinfo ⟨hb, hvalid⟩ htr (hrecID.symm.trans hjob.symm)
  · rw [← hexists]
    apply isSome_process_of_ne hr
    exact h.newIDs.unmentioned b hb _

theorem Linked.saves (hl : Linked s postID bs z) (hboth : s.HasBoth postID)
    (htr : Accepted bs (.transcription tinfo)) :
    z.Saves postID tinfo.jobID ↔ s.Saves postID tinfo.jobID := by
  obtain ⟨-, hrecPost, hexists⟩ := hl.recPost hboth tinfo htr
  unfold Posts.Saves
  rw [hrecPost, hexists]

theorem Linked.attachesTo (hl : Linked s postID bs z) (hboth : s.HasBoth postID)
    (htr : Accepted bs (.transcription tinfo)) :
    z.AttachesTo postID tinfo.jobID id ↔ s.AttachesTo postID tinfo.jobID id := by
  obtain ⟨-, hrecPost, hexists⟩ := hl.recPost hboth tinfo htr
  unfold Posts.AttachesTo
  rw [hrecPost]
  constructor
  · intro ⟨hid, hne, hcall, hsome⟩
    refine ⟨hid, hne, hcall, ?_⟩
    rw [← hid, ← hexists, hid]
    exact hsome
  · intro ⟨hid, hne, hcall, hsome⟩
    refine ⟨hid, hne, hcall, ?_⟩
    rw [← hid, hexists, hid]
    exact hsome

/-- What holds of the posts after requests of which no transcription is posted together
with its recording. -/
structure Steady (newID : BotPost → String) (s : Posts) (postID : String)
    (bs : List BotPost) (z : Posts) : Prop where
  shape : Shape newID s postID bs z
  linked : Linked s postID bs z

theorem Steady.process (hz : Steady newID s postID bs z)
    (h : RequestsFor newID s postID bs)
    (hapart : PostedApart s postID bs) (hb : b ∈ bs) :
    Steady newID s postID bs (process newID callID z b) :=
  ⟨hz.shape.process h hb, hz.linked.process hz.shape h hapart hb⟩

theorem Steady.processAll (h : RequestsFor newID s postID bs)
    (hapart : PostedApart s postID bs) {bs' : List BotPost} (hsub : ∀ b ∈ bs', b ∈ bs) :
    Steady newID s postID bs (processAll newID callID s bs') :=
  foldl_inv (Steady newID s postID bs)
    (fun _ b hb hz => hz.process h hapart (hsub b hb))
    ⟨Shape.start h, Linked.start s postID bs⟩

/-! ## Requests that can be processed in any order -/

theorem Shape.onRecordings (hs : Shape newID s postID bs z) (prop : Option Any) :
    onRecordings newID z postID prop b = onRecordings newID s postID prop b := by
  unfold Ports.onRecordings
  simp only [hs.recordings]

theorem Steady.onTranscriptions (hz : Steady newID s postID bs z) (hb : b ∈ bs)
    (prop : Option Any) :
    onTranscriptions newID z postID prop b =
    onTranscriptions newID s postID prop b := by
  cases b with
  | recording info => rfl
  | transcription tinfo =>
      unfold Ports.onTranscriptions
      dsimp only
      apply if_congr _ rfl rfl
      rw [hz.shape.both]
      apply and_congr_right
      intro hvalid
      apply and_congr_right
      intro hboth
      exact hz.linked.saves hboth ⟨hb, hvalid⟩

theorem Steady.captionsFor (hz : Steady newID s postID bs z) (hb : b ∈ bs)
    (id : String) :
    captionsFor newID z postID id b = captionsFor newID s postID id b := by
  cases b with
  | recording info => rfl
  | transcription tinfo =>
      unfold Ports.captionsFor
      dsimp only
      apply if_congr _ rfl rfl
      rw [hz.shape.both]
      apply and_congr_right
      intro hvalid
      apply or_congr_right
      apply and_congr_right
      intro hboth
      exact hz.linked.attachesTo hboth ⟨hb, hvalid⟩

theorem onRecordings_comm (hfree : OrderFree s postID bs) {b' : BotPost} (hb : b ∈ bs)
    (hb' : b' ∈ bs) (prop : Option Any) :
    onRecordings newID s postID (onRecordings newID s postID prop b) b' =
      onRecordings newID s postID (onRecordings newID s postID prop b') b := by
  unfold onRecordings
  cases b with
  | transcription tinfo => rfl
  | recording info =>
    cases b' with
    | transcription tinfo => rfl
    | recording info' =>
        dsimp only
        by_cases hact : info.isValid = none ∧ s.HasRecordings postID
        · by_cases hact' : info'.isValid = none ∧ s.HasRecordings postID
          · simp only [if_pos hact, if_pos hact']
            by_cases hjob : info.jobID = info'.jobID
            · rw [hfree.recordings hact.2 info info' ⟨hb, hact.1⟩ ⟨hb', hact'.1⟩ hjob]
            · exact note_comm prop hjob _ _ _ _
          · simp only [if_neg hact']
        · simp only [if_neg hact]

theorem onTranscriptions_comm (hfree : OrderFree s postID bs) {b' : BotPost}
    (hb : b ∈ bs) (hb' : b' ∈ bs) (prop : Option Any) :
    onTranscriptions newID s postID (onTranscriptions newID s postID prop b) b' =
      onTranscriptions newID s postID (onTranscriptions newID s postID prop b') b := by
  unfold onTranscriptions
  cases b with
  | recording info => rfl
  | transcription tinfo =>
    cases b' with
    | recording info => rfl
    | transcription tinfo' =>
        dsimp only
        by_cases hact : tinfo.isValid = none ∧ s.HasBoth postID ∧
          s.Saves postID tinfo.jobID
        · by_cases hact' : tinfo'.isValid = none ∧ s.HasBoth postID ∧
            s.Saves postID tinfo'.jobID
          · simp only [if_pos hact, if_pos hact']
            by_cases hjob : tinfo.jobID = tinfo'.jobID
            · rw [hfree.transcriptions hact.2.1 tinfo tinfo' ⟨hb, hact.1⟩
                ⟨hb', hact'.1⟩ hjob hact.2.2]
            · exact note_comm prop hjob _ _ _ _
          · simp only [if_neg hact']
        · simp only [if_neg hact]

/-- Two requests that both write the captions of a post write the same ones. -/
theorem captionsFor_eq (h : RequestsFor newID s postID bs)
    (hfree : OrderFree s postID bs)
    {b' : BotPost} (hb : b ∈ bs) (hb' : b' ∈ bs) {v v' : Option Any}
    (hv : captionsFor newID s postID id b = some v)
    (hv' : captionsFor newID s postID id b' = some v') : v = v' := by
  have hcases : ∀ c ∈ bs, ∀ v, captionsFor newID s postID id c = some v → id = newID c ∨
      ∃ tinfo, c = .transcription tinfo ∧ tinfo.isValid = none ∧ s.HasBoth postID ∧
        s.AttachesTo postID tinfo.jobID id ∧
        v = some (toClientCaptions tinfo.transcriptions) := by
    intro c hc v hv
    unfold captionsFor at hv
    split at hv
    · split at hv
      · next hact => exact .inl hact.2
      · cases hv
    · next tinfo =>
      split at hv
      · next hact =>
        obtain hid | hattach := hact.2
        · exact .inl hid
        · exact .inr ⟨tinfo, rfl, hact.1, hattach.1, hattach.2,
            (Option.some.inj hv).symm⟩
      · cases hv
  have hunused : ∀ c ∈ bs, ∀ tinfo : TranscribingJobInfo, id = newID c →
      ¬ s.AttachesTo postID tinfo.jobID id := by
    intro c hc tinfo hid hattach
    have hsome := hattach.2.2.2
    rw [hid, h.newIDs.unused c hc] at hsome
    cases hsome
  obtain hid | ⟨tinfo, rfl, hvalid, hboth, hattach, rfl⟩ := hcases b hb v hv
  · obtain hid' | ⟨tinfo', -, -, -, hattach', -⟩ := hcases b' hb' v' hv'
    · have hsame := h.newIDs.injective b hb b' hb' (hid.symm.trans hid')
      rw [hsame, hv'] at hv
      exact (Option.some.inj hv).symm
    · exact absurd hattach' (hunused b hb tinfo' hid)
  · obtain hid' | ⟨tinfo', rfl, hvalid', -, hattach', rfl⟩ := hcases b' hb' v' hv'
    · exact absurd hattach (hunused b' hb' tinfo hid')
    · rw [hfree.captions hboth tinfo tinfo' id ⟨hb, hvalid⟩
        ⟨hb', hvalid'⟩ hattach hattach']

theorem onCaptions_comm (h : RequestsFor newID s postID bs)
    (hfree : OrderFree s postID bs)
    {b' : BotPost} (hb : b ∈ bs) (hb' : b' ∈ bs) (prop : Option Any) :
    onCaptions newID s postID id (onCaptions newID s postID id prop b) b' =
      onCaptions newID s postID id (onCaptions newID s postID id prop b') b := by
  unfold onCaptions
  cases hv : Ports.captionsFor newID s postID id b with
  | none => rfl
  | some v =>
    cases hv' : Ports.captionsFor newID s postID id b' with
    | none => rfl
    | some v' => exact (captionsFor_eq h hfree hb hb' hv hv').symm

/-- Requests that are free of order leave the same artifacts in any order. -/
theorem sameArtifacts_of_orderFree (h : RequestsFor newID s postID bs)
    (hfree : OrderFree s postID bs) {bs' : List BotPost} (hp : bs'.Perm bs) :
    SameArtifacts postID (processAll newID callID s bs')
      (processAll newID callID s bs) := by
  have hstart : Steady newID s postID bs s := ⟨Shape.start h, Linked.start s postID bs⟩
  have hstep : ∀ z, ∀ b ∈ bs, Steady newID s postID bs z →
      Steady newID s postID bs (process newID callID z b) := fun z b hb hz =>
    hz.process h hfree.apart hb
  constructor
  · refine observed_perm (fun z => z.prop postID "recordings")
      (onRecordings newID s postID) hp hstep ?_ ?_ hstart
    · intro z b hb hz
      exact (prop_recordings_process (hz.shape.ready h hb)).trans
        (hz.shape.onRecordings _)
    · intro b hb b' hb' prop
      exact onRecordings_comm hfree hb hb' prop
  · refine observed_perm (fun z => z.prop postID "transcriptions")
      (onTranscriptions newID s postID) hp hstep ?_ ?_ hstart
    · intro z b hb hz
      exact (prop_transcriptions_process (hz.shape.ready h hb)).trans
        (hz.onTranscriptions hb _)
    · intro b hb b' hb' prop
      exact onTranscriptions_comm hfree hb hb' prop
  · intro id
    refine observed_perm (fun z => z.prop id "captions")
      (onCaptions newID s postID id) hp hstep ?_ ?_ hstart
    · intro z b hb hz
      refine (prop_captions_process (hz.shape.ready h hb) id).trans ?_
      unfold onCaptions
      rw [hz.captionsFor hb]
    · intro b hb b' hb' prop
      exact onCaptions_comm h hfree hb hb' prop

/-! ## Entries of other jobs -/

theorem entry_note (prop : Option Any) {jobID jobID' : String} (h : jobID' ≠ jobID)
    (fileID recPostID : String) :
    ((Any.asMap (note prop jobID fileID recPostID)).bind fun jobs => jobs jobID') =
      (Any.asMap prop).bind fun jobs => jobs jobID' := by
  rw [asMap_note]
  cases Any.asMap prop with
  | none => rfl
  | some jobs => exact Function.update_of_ne h _ jobs

/-- Requests only change the entries of their jobs. -/
theorem othersUnchanged (h : RequestsFor newID s postID bs) {bs' : List BotPost}
    (hsub : ∀ b ∈ bs', b ∈ bs) :
    OthersUnchanged postID bs s (processAll newID callID s bs') := by
  have hstart : Shape newID s postID bs s := Shape.start h
  constructor
  · intro jobID hjob
    have hinv : Shape newID s postID bs (processAll newID callID s bs') ∧
        (processAll newID callID s bs').entry postID "recordings" jobID =
          s.entry postID "recordings" jobID := by
      refine foldl_inv (fun z => Shape newID s postID bs z ∧
        z.entry postID "recordings" jobID = s.entry postID "recordings" jobID)
          ?_ ⟨hstart, rfl⟩
      intro z b hb ⟨hs, hz⟩
      refine ⟨hs.process h (hsub b hb), Eq.trans ?_ hz⟩
      unfold Posts.entry
      rw [prop_recordings_process (hs.ready h (hsub b hb))]
      unfold onRecordings
      split
      · next info =>
        split
        · exact entry_note _ (hjob info (hsub _ hb)).symm _ _
        · rfl
      · rfl
    exact hinv.2
  · intro jobID hjob
    have hinv : Shape newID s postID bs (processAll newID callID s bs') ∧
        (processAll newID callID s bs').entry postID "transcriptions" jobID =
          s.entry postID "transcriptions" jobID := by
      refine foldl_inv (fun z => Shape newID s postID bs z ∧
        z.entry postID "transcriptions" jobID =
          s.entry postID "transcriptions" jobID) ?_
        ⟨hstart, rfl⟩
      intro z b hb ⟨hs, hz⟩
      refine ⟨hs.process h (hsub b hb), Eq.trans ?_ hz⟩
      unfold Posts.entry
      rw [prop_transcriptions_process (hs.ready h (hsub b hb))]
      unfold onTranscriptions
      split
      · rfl
      · next info =>
        split
        · exact entry_note _ (hjob info (hsub _ hb)).symm _ _
        · rfl
    exact hinv.2

/-! ## Requests whose order shows -/

theorem processAll_append (z : Posts) (bs₁ bs₂ : List BotPost) :
    processAll newID callID z (bs₁ ++ bs₂) =
      processAll newID callID (processAll newID callID z bs₁) bs₂ :=
  List.foldl_append

theorem mem_of_mem_erase_two {b b' c : BotPost} (h : c ∈ (bs.erase b).erase b') :
    c ∈ bs :=
  List.mem_of_mem_erase (List.mem_of_mem_erase h)

/-- The last request of a recording job is the one whose post is in the metadata. -/
theorem postID_last_recording (callID : String) (h : RequestsFor newID s postID bs)
    (hhas : s.HasRecordings postID) (hinfo : Accepted bs (.recording info))
    {bs' : List BotPost} (hsub : ∀ b ∈ bs', b ∈ bs) :
    ((processAll newID callID s (bs' ++ [.recording info])).metadata postID "recordings"
      info.jobID).postID = newID (.recording info) := by
  have hs : Shape newID s postID bs (processAll newID callID s bs') :=
    Shape.processAll h hsub
  rw [processAll_append]
  exact postID_process_recording (hs.ready h hinfo.1) hinfo.2 (hs.recordings.2 hhas)

theorem postID_last_transcription (callID : String) (h : RequestsFor newID s postID bs)
    (hapart : PostedApart s postID bs) (hboth : s.HasBoth postID)
    (htr : Accepted bs (.transcription tinfo)) (hsaves : s.Saves postID tinfo.jobID)
    {bs' : List BotPost} (hsub : ∀ b ∈ bs', b ∈ bs) :
    ((processAll newID callID s (bs' ++ [.transcription tinfo])).metadata postID
      "transcriptions" tinfo.jobID).postID = newID (.transcription tinfo) := by
  have hz : Steady newID s postID bs (processAll newID callID s bs') :=
    Steady.processAll h hapart hsub
  rw [processAll_append]
  exact postID_process_transcription (hz.shape.ready h htr.1) htr.2
    (hz.shape.both.2 hboth) ((hz.linked.saves hboth htr).2 hsaves)

/-- The last transcription of a recording is the one whose captions its post has. -/
theorem captions_last_transcription (h : RequestsFor newID s postID bs)
    (hapart : PostedApart s postID bs) (hboth : s.HasBoth postID)
    (htr : Accepted bs (.transcription tinfo))
    (hattach : s.AttachesTo postID tinfo.jobID id)
    {bs' : List BotPost} (hsub : ∀ b ∈ bs', b ∈ bs) :
    (processAll newID callID s (bs' ++ [.transcription tinfo])).prop id "captions" =
      some (toClientCaptions tinfo.transcriptions) := by
  have hz : Steady newID s postID bs (processAll newID callID s bs') :=
    Steady.processAll h hapart hsub
  rw [processAll_append]
  show (process newID callID _ (.transcription tinfo)).prop id "captions" = _
  rw [prop_captions_process (hz.shape.ready h htr.1)]
  have hwrites : captionsFor newID (processAll newID callID s bs') postID id
      (.transcription tinfo) = some (some (toClientCaptions tinfo.transcriptions)) :=
    if_pos ⟨htr.2, .inr ⟨hz.shape.both.2 hboth,
      (hz.linked.attachesTo hboth htr).2 hattach⟩⟩
  unfold onCaptions
  rw [hwrites]
  rfl

/-- A recording that comes last has no captions. -/
theorem captions_last_recording (h : RequestsFor newID s postID bs)
    (hinfo : Accepted bs (.recording info)) {bs' : List BotPost}
    (hsub : ∀ b ∈ bs', b ∈ bs) :
    (processAll newID callID s (bs' ++ [.recording info])).prop
      (newID (.recording info)) "captions" = none := by
  have hs : Shape newID s postID bs (processAll newID callID s bs') :=
    Shape.processAll h hsub
  rw [processAll_append]
  exact captions_process_recording (hs.ready h hinfo.1) hinfo.2

/-- Captions that a recording has got are not lost by other requests. -/
theorem captions_kept (h : RequestsFor newID s postID bs) (hinfo : .recording info ∈ bs)
    {bs' : List BotPost} (hsub : ∀ b ∈ bs', b ∈ bs) (hother : .recording info ∉ bs')
    (hs : Shape newID s postID bs z)
    (hz : (z.prop (newID (.recording info)) "captions").isSome) :
    ((processAll newID callID z bs').prop (newID (.recording info))
      "captions").isSome := by
  have hinv : Shape newID s postID bs (processAll newID callID z bs') ∧
      ((processAll newID callID z bs').prop (newID (.recording info))
        "captions").isSome := by
    refine foldl_inv (fun z => Shape newID s postID bs z ∧
      (z.prop (newID (.recording info)) "captions").isSome) ?_ ⟨hs, hz⟩
    intro z' b hb ⟨hs', hz'⟩
    refine ⟨hs'.process h (hsub b hb), ?_⟩
    rw [prop_captions_process (hs'.ready h (hsub b hb))]
    unfold onCaptions captionsFor
    split
    · next info' =>
      rw [if_neg]
      · exact hz'
      · intro hact
        have hsame := h.newIDs.injective _ hinfo _ (hsub _ hb) hact.2
        rw [← hsame] at hb
        exact hother hb
    · split
      · rfl
      · exact hz'
  exact hinv.2

/-- A transcription that comes right after its recording, before all others, is shown in
the recording's post. -/
theorem captions_of_apart (callID : String) (h : RequestsFor newID s postID bs)
    (hnodup : bs.Nodup) (hboth : s.HasBoth postID)
    (hinfo : Accepted bs (.recording info)) (htr : Accepted bs (.transcription tinfo))
    (hrec : s.recIDOf postID tinfo.jobID = info.jobID) :
    ((processAll newID callID s (.recording info :: .transcription tinfo ::
      (bs.erase (.recording info)).erase (.transcription tinfo))).prop
        (newID (.recording info)) "captions").isSome := by
  have hs : Shape newID s postID bs s := Shape.start h
  have hr := hs.ready h hinfo.1
  have hs₁ : Shape newID s postID bs (process newID callID s (.recording info)) :=
    hs.process h hinfo.1
  have hr₁ := hs₁.ready h htr.1
  have hrecPost : (process newID callID s (.recording info)).recPostOf postID
      tinfo.jobID = newID (.recording info) := by
    show ((process newID callID s _).metadata postID "recordings"
      ((process newID callID s _).recIDOf postID tinfo.jobID)).postID = _
    rw [metadata_process_transcriptions hr, hrec]
    exact postID_process_recording hr hinfo.2 hboth.1
  have hexists :
      (process newID callID s (.recording info) (newID (.recording info))).isSome := by
    rw [isSome_process_recording hr hinfo.2, beq_self_eq_true, Bool.or_true]
  have hwrites : captionsFor newID (process newID callID s (.recording info)) postID
      (newID (.recording info)) (.transcription tinfo) =
        some (some (toClientCaptions tinfo.transcriptions)) :=
    if_pos ⟨htr.2, .inr ⟨hs₁.both.2 hboth, hrecPost, h.newIDs.nonempty _ hinfo.1,
      h.newID_ne hinfo.1, hexists⟩⟩
  apply captions_kept h hinfo.1 (fun b hb => mem_of_mem_erase_two hb)
  · intro hmem
    exact hnodup.not_mem_erase (List.mem_of_mem_erase hmem)
  · exact hs₁.process h htr.1
  · rw [prop_captions_process hr₁]
    unfold onCaptions
    rw [hwrites]
    rfl

/-- **Job artifacts and the order of requests.**  The requests for a call post leave the
same metadata and captions in every order exactly if they are free of order. -/
theorem sameArtifacts_iff (callID : String) (h : RequestsFor newID s postID bs)
    (hnodup : bs.Nodup) :
    (∀ bs' : List BotPost, bs'.Perm bs →
      SameArtifacts postID (processAll newID callID s bs')
        (processAll newID callID s bs) ∧
        OthersUnchanged postID bs s (processAll newID callID s bs')) ↔
        OrderFree s postID bs := by
  constructor
  · intro hsame
    have hperm : ∀ bs₁ bs₂ : List BotPost, bs₁.Perm bs → bs₂.Perm bs →
        SameArtifacts postID (processAll newID callID s bs₁)
          (processAll newID callID s bs₂) := by
      intro bs₁ bs₂ h₁ h₂
      have hs₁ := (hsame bs₁ h₁).1
      have hs₂ := (hsame bs₂ h₂).1
      exact ⟨hs₁.recordings.trans hs₂.recordings.symm,
        hs₁.transcriptions.trans hs₂.transcriptions.symm,
        fun id => (hs₁.captions id).trans (hs₂.captions id).symm⟩
    have hlast : ∀ b ∈ bs, ∀ b' ∈ bs, b ≠ b' → SameArtifacts postID
        (processAll newID callID s ((((bs.erase b').erase b) ++ [b']) ++ [b]))
        (processAll newID callID s ((((bs.erase b).erase b') ++ [b]) ++ [b'])) := by
      intro b hb b' hb' hne
      rw [List.append_assoc, List.append_assoc]
      exact hperm _ _ (perm_last_two hb' hb hne.symm) (perm_last_two hb hb' hne)
    have hsub : ∀ b b', b' ∈ bs → ∀ c ∈ ((bs.erase b').erase b) ++ [b'], c ∈ bs := by
      intro b b' hb' c hc
      obtain hc | hc := List.mem_append.1 hc
      · exact mem_of_mem_erase_two hc
      · rw [List.mem_singleton.1 hc]
        exact hb'
    have hapart : PostedApart s postID bs := by
      intro hboth info tinfo hinfo htr hrec
      have hfirst := captions_of_apart callID h hnodup hboth hinfo htr hrec
      have hne : BotPost.transcription tinfo ≠ .recording info :=
        fun heq => by cases heq
      have htr' : BotPost.transcription tinfo ∈ bs.erase (.recording info) :=
        (List.mem_erase_of_ne hne).2 htr.1
      have hperm₁ : (BotPost.recording info :: BotPost.transcription tinfo ::
          (bs.erase (.recording info)).erase (.transcription tinfo)).Perm bs :=
        ((List.perm_cons_erase htr').symm.cons _).trans
          (List.perm_cons_erase hinfo.1).symm
      have hperm₂ : (bs.erase (.recording info) ++ [BotPost.recording info]).Perm bs :=
        List.perm_append_comm.trans (List.perm_cons_erase hinfo.1).symm
      rw [(hperm _ _ hperm₁ hperm₂).captions,
        captions_last_recording h hinfo fun b hb => List.mem_of_mem_erase hb] at hfirst
      cases hfirst
    constructor
    · intro hhas info info' hinfo hinfo' hjob
      apply Classical.byContradiction
      intro hdiffer
      have hne : BotPost.recording info ≠ .recording info' := fun heq =>
        hdiffer (BotPost.recording.inj heq)
      have hids : newID (.recording info) = newID (.recording info') := by
        rw [← postID_last_recording callID h hhas hinfo (hsub _ _ hinfo'.1),
          ← postID_last_recording callID h hhas hinfo' (hsub _ _ hinfo.1), hjob]
        unfold Posts.metadata
        rw [(hlast _ hinfo.1 _ hinfo'.1 hne).recordings]
      exact hne (h.newIDs.injective _ hinfo.1 _ hinfo'.1 hids)
    · intro hboth info info' htr htr' hjob hsaves
      apply Classical.byContradiction
      intro hdiffer
      have hne : BotPost.transcription info ≠ .transcription info' := fun heq =>
        hdiffer (BotPost.transcription.inj heq)
      have hids : newID (.transcription info) = newID (.transcription info') := by
        rw [← postID_last_transcription callID h hapart hboth htr hsaves
            (hsub _ _ htr'.1),
          ← postID_last_transcription callID h hapart hboth htr' (hjob ▸ hsaves)
            (hsub _ _ htr.1), hjob]
        unfold Posts.metadata
        rw [(hlast _ htr.1 _ htr'.1 hne).transcriptions]
      exact hne (h.newIDs.injective _ htr.1 _ htr'.1 hids)
    · exact hapart
    · intro hboth info info' id htr htr' hattach hattach'
      by_cases heq : info = info'
      · rw [heq]
      · have hne : BotPost.transcription info ≠ .transcription info' := fun h' =>
          heq (BotPost.transcription.inj h')
        have hcaptions := (hlast _ htr.1 _ htr'.1 hne).captions id
        rw [captions_last_transcription h hapart hboth htr hattach (hsub _ _ htr'.1),
          captions_last_transcription h hapart hboth htr' hattach'
            (hsub _ _ htr.1)] at hcaptions
        exact Option.some.inj hcaptions
  · intro hfree bs' hp
    exact ⟨sameArtifacts_of_orderFree h hfree hp, othersUnchanged h fun b hb =>
      hp.mem_iff.1 hb⟩

end

/-! ## Requests on fixed jobs -/

namespace Artifacts

/-- The ids of new posts. -/
def newID : BotPost → String
  | .recording info => "rec-" ++ info.jobID
  | .transcription info => "tr-" ++ info.jobID

def recording (jobID : String) : BotPost := .recording ⟨jobID, "p1", ["file"]⟩

def transcription (jobID : String) : BotPost :=
  .transcription ⟨jobID, "p1", [⟨"", "en", ["captions", "text"]⟩]⟩

/-- A call post with the metadata of a recording and of its transcription, as it is left
when they start. -/
def started : Posts := fun id =>
  if id = "p1" then
    some (saveRecordingMetadata ⟨"", "ch1", "custom_calls", [],
      fun _ => none⟩ "r1" "t1")
  else none

/-- The transcription's captions are lost when it is posted before its recording. -/
theorem transcription_first :
    ((processAll newID "ch1" started [recording "r1", transcription "t1"]).prop "rec-r1"
        "captions").isSome = true ∧
      ((processAll newID "ch1" started [transcription "t1", recording "r1"]).prop
        "rec-r1" "captions").isSome = false ∧
      ¬ SameArtifacts "p1"
        (processAll newID "ch1" started [recording "r1", transcription "t1"])
        (processAll newID "ch1" started [transcription "t1", recording "r1"]) := by
  have hfirst :
      ((processAll newID "ch1" started [recording "r1", transcription "t1"]).prop
        "rec-r1"
      "captions").isSome = true := by decide
  have hlast :
      ((processAll newID "ch1" started [transcription "t1", recording "r1"]).prop
        "rec-r1"
      "captions").isSome = false := by decide
  refine ⟨hfirst, hlast, fun h => ?_⟩
  rw [h.captions, hlast] at hfirst
  cases hfirst

/-- A call post with a recording that is posted, its transcription that is not and a
second recording. -/
def posted : Posts := fun id =>
  if id = "p1" then
    some ⟨"", "ch1", "custom_calls", [], fun key =>
      if key = "recordings" then some (.map fun jobID =>
        if jobID = "r1" then some (.map (JobMetadata.toMap { postID := "p2" }))
          else none)
      else if key = "transcriptions" then some (.map fun jobID =>
        if jobID = "t1" then some (.map (JobMetadata.toMap { recID := "r1" }))
          else none)
      else none⟩
  else if id = "p2" then
    some ⟨"p1", "ch1", "custom_calls_recording", ["file"], fun _ => none⟩
  else none

theorem posted_requests :
    RequestsFor newID posted "p1" [transcription "t1", recording "r2"] := by
  refine ⟨rfl, by decide, by decide, by decide, by decide, ?_⟩
  intro b hb jobID
  have hpostID : (posted.metadata "p1" "recordings" jobID).postID =
      if jobID = "r1" then "p2" else "" := by
    show (JobMetadata.fromMap {} (if jobID = "r1" then
      some (.map (JobMetadata.toMap { postID := "p2" })) else none)).postID = _
    split
    · rw [JobMetadata.fromMap_toMap]
    · rfl
  rw [hpostID]
  have hid : newID b ≠ "p2" ∧ newID b ≠ "" := by
    obtain rfl | hb := List.mem_cons.1 hb
    · decide
    · rw [List.mem_singleton.1 hb]
      decide
  split
  · exact hid.1.symm
  · exact hid.2.symm

theorem posted_orderFree :
    OrderFree posted "p1" [transcription "t1", recording "r2"] := by
  have hrec : ∀ info, Accepted [transcription "t1", recording "r2"] (.recording info) →
      info = ⟨"r2", "p1", ["file"]⟩ := by
    intro info hinfo
    have hmem := hinfo.1
    simp only [transcription, recording, List.mem_cons, List.not_mem_nil, or_false,
      reduceCtorEq, false_or] at hmem
    exact BotPost.recording.inj hmem
  have htr : ∀ info, Accepted [transcription "t1", recording "r2"]
      (.transcription info) →
      info = ⟨"t1", "p1", [⟨"", "en", ["captions", "text"]⟩]⟩ := by
    intro info hinfo
    have hmem := hinfo.1
    simp only [transcription, recording, List.mem_cons, List.not_mem_nil, or_false,
      reduceCtorEq] at hmem
    exact BotPost.transcription.inj hmem
  constructor
  · intro _ info info' h h' _
    rw [hrec info h, hrec info' h']
  · intro _ info info' h h' _ _
    rw [htr info h, htr info' h']
  · intro _ info info' h h'
    rw [hrec info h, htr info' h']
    decide
  · intro _ info info' id h h' _ _
    rw [htr info h, htr info' h']

/-- A transcription whose recording is posted and another recording can come in any
order; the captions are attached. -/
theorem same_of_posted :
    SameArtifacts "p1" (processAll newID "ch1" posted [recording "r2",
        transcription "t1"])
          (processAll newID "ch1" posted [transcription "t1", recording "r2"]) ∧
      ((processAll newID "ch1" posted [recording "r2", transcription "t1"]).prop "p2"
        "captions").isSome = true := by
  have hsame := (sameArtifacts_iff "ch1" posted_requests (by decide)).2 posted_orderFree
    [recording "r2", transcription "t1"] (List.Perm.swap _ _ _)
  exact ⟨hsame.1, by decide⟩

end Artifacts

end CallsPlugin.Ports
