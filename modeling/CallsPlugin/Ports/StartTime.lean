import CallsPlugin.Ports.JobArtifacts
import Mathlib.Algebra.Ring.Nat
import Mathlib.Algebra.Ring.Int.Defs

/-!
# The start time in the post of a call

`createCallStartedPost` writes the start of a call to the property `start_at` of its
post.  The posts are stored as JSON, so every later reader finds a float64 there:
`updateCallPostEnded` asks for one, the two handlers for the posts of the bot ask for
an int64 and go on with its zero value.

Numbers in properties keep their Go type; floats are those that hold whole numbers.
What the metadata of jobs does to the post is as in the handlers' own module.
-/

namespace CallsPlugin.Ports.StartTime

open CallsPlugin.Ports

/-! ## Properties of posts -/

/-- The float64 nearest to a natural number, ties to even: 53 bits of it are kept. -/
def nearestFloat (n : Nat) : Nat :=
  if n ≤ 2 ^ 53 then n
  else
    let unit := 2 ^ (n.log2 - 52)
    let kept := n / unit
    if 2 * (n % unit) < unit ∨ 2 * (n % unit) = unit ∧ kept % 2 = 0 then kept * unit
    else (kept + 1) * unit

/-- The float64 that a JSON number is read as. -/
def toFloat64 (n : Int) : Int :=
  if 0 ≤ n then nearestFloat n.toNat else -nearestFloat (-n).toNat

example : toFloat64 (2 ^ 53 + 1) = 2 ^ 53 := by decide

/-- `any`, with the numbers of Go. -/
inductive PropValue where
  | int64 (n : Int)
  | float64 (n : Int)
  | any (value : Any)

/-- A property after it has been stored as JSON and read back. -/
def PropValue.stored : PropValue → PropValue
  | int64 n => float64 (toFloat64 n)
  | value => value

/-- `.(int64)`, with the zero value where it fails. -/
def asInt64 : Option PropValue → Int
  | some (.int64 n) => n
  | _ => 0

/-- `.(float64)` -/
def asFloat64 : Option PropValue → Option Int
  | some (.float64 n) => some n
  | _ => none

/-- A value that is not a number. -/
def asAny : Option PropValue → Option Any
  | some (.any value) => some value
  | _ => none

/-- `Post`, as far as the post of a call is concerned. -/
structure CallPost where
  rootID : String
  message : String
  props : String → Option PropValue

namespace CallPost

/-- `AddProp` -/
def addProp (post : CallPost) (key : String) (value : PropValue) : CallPost :=
  { post with props := Function.update post.props key (some value) }

/-- The post as `GetPost` returns it once it has been created or updated. -/
def stored (post : CallPost) : CallPost :=
  { post with props := fun key => (post.props key).map PropValue.stored }

/-- `.(string)` of the title, with the zero value where it fails. -/
def title (post : CallPost) : String :=
  (Any.asString (asAny (post.props "title"))).getD ""

end CallPost

/-- The texts of the server's language, and `Format("3:04PM")` of a time. -/
structure Texts where
  callEnded : String
  newRecording : String
  newRecordingAndTranscription : String
  newTranscription : String
  clock : Int → String

/-- `[]*model.SlackAttachment` of a message. -/
def attachments (msg : String) : PropValue :=
  .any (.list [.map fun key =>
    if key = "fallback" ∨ key = "title" ∨ key = "text" then some (.str msg) else none])

/-- The post `createCallStartedPost` creates. -/
def createCallStartedPost (msg threadID title : String) (startAt : Int) : CallPost where
  rootID := threadID
  message := msg
  props key :=
    if key = "attachments" then some (attachments msg)
    else if key = "start_at" then some (.int64 startAt)
    else if key = "title" then some (.any (.str title))
    else none

/-! ## Readers -/

/-- What a start time is read for: a duration up to a moment, or the text of a post. -/
inductive Reader where
  | duration (now : Int)
  | message (text title : String)
  deriving DecidableEq, Repr

/-- What is shown for a start time: milliseconds, or a text. -/
def Reader.shown (texts : Texts) (startAt : Int) : Reader → Int × String
  | duration now => (now - startAt, "")
  | message text title =>
      (0, if title ≠ "" then
        s!"{text} of {title} at {texts.clock startAt} UTC" else text)

/-- A start time that was obtained, if any, and what was shown for it. -/
structure Reading where
  reader : Reader
  startAt : Option Int
  shown : Int × String

/-- What the server and the database answer; `recPost` is about the post of a
recording. -/
structure PostOutcomes where
  locks : Bool := true
  gets : Bool := true
  creates : Option String := some "new"
  recPost : Bool := true
  updates : Bool := true

/-- The post after `UpdatePost`. -/
def PostOutcomes.update (o : PostOutcomes) (post post' : CallPost) : CallPost :=
  if o.updates then post'.stored else post

/-- The post of a call that has ended. -/
def CallPost.ended (texts : Texts) (participants : List String) (endAt : Int)
    (post : CallPost) :
    CallPost :=
  ((({ post with message := texts.callEnded }).addProp "attachments"
    (attachments texts.callEnded)).addProp "end_at" (.int64 endAt)).addProp
      "participants" (.any (.list (participants.map Any.str)))

/-- `updateCallPostEnded`; its result is a duration. -/
def updateCallPostEnded (texts : Texts) (participants : List String) (endAt now : Int)
    (o : PostOutcomes) (post : CallPost) : CallPost × Option Reading :=
  let post' := post.ended texts participants endAt
  if !o.gets then (post, none)
  else if !o.updates then (post, none)
  else match asFloat64 (post'.props "start_at") with
    | some startAt =>
        (post'.stored, some ⟨.duration now, some startAt, (now - startAt, "")⟩)
    | none => (post'.stored, some ⟨.duration now, none, (0, "")⟩)

/-- `saveRecordingMetadata` -/
def saveRecordingMetadata (recID trID : String) (o : PostOutcomes) (post : CallPost) :
    CallPost :=
  if !o.gets then post
  else
    let post' := post.addProp "recordings"
      (.any (saveMetadata (asAny (post.props "recordings")) recID { trID := trID }))
    let post' :=
      if trID ≠ "" then
        post'.addProp "transcriptions"
          (.any (saveMetadata (asAny (post'.props "transcriptions")) trID
            { recID := recID }))
      else post'
    o.update post post'

/-- `handleBotPostRecordings` -/
def handleBotPostRecordings (texts : Texts) (transcriptionsEnabled : Bool)
    (info : RecordingJobInfo) (o : PostOutcomes) (post : CallPost) :
    CallPost × Option Reading :=
  if info.isValid.isSome then (post, none)
  else if !o.locks then (post, none)
  else if !o.gets then (post, none)
  else
    let startAt := asInt64 (post.props "start_at")
    let text :=
      if transcriptionsEnabled then texts.newRecordingAndTranscription
      else texts.newRecording
    let reader := Reader.message text post.title
    let reading := some ⟨reader, some startAt, reader.shown texts startAt⟩
    match o.creates with
    | none => (post, reading)
    | some recPostID =>
        match Any.asMap (asAny (post.props "recordings")) with
        | some recordings =>
            (o.update post (post.addProp "recordings" (.any (.map
              (setArtifact recordings info.jobID (info.fileIDs.getD 0 "") recPostID)))),
                reading)
        | none => (o.update post post, reading)

/-- `handleBotPostTranscriptions` -/
def handleBotPostTranscriptions (texts : Texts) (info : TranscribingJobInfo)
    (o : PostOutcomes) (post : CallPost) : CallPost × Option Reading :=
  if info.isValid.isSome then (post, none)
  else if !o.locks then (post, none)
  else if !o.gets then (post, none)
  else
    let startAt := asInt64 (post.props "start_at")
    let reader := Reader.message texts.newTranscription post.title
    let reading := some ⟨reader, some startAt, reader.shown texts startAt⟩
    match o.creates with
    | none => (post, reading)
    | some trPostID =>
        match Any.asMap (asAny (post.props "transcriptions")) with
        | none => (post, reading)
        | some transcriptions =>
            match Any.asMap (asAny (post.props "recordings")) with
            | none => (post, reading)
            | some recordings =>
                let tm := metadataOf transcriptions info.jobID
                if (metadataOf recordings tm.recID).postID ≠ "" ∧ o.recPost = false then
                  (post, reading)
                else
                  (o.update post (post.addProp "transcriptions" (.any (.map
                    (setArtifact transcriptions info.jobID (info.file 0) trPostID)))),
                      reading)

/-! ## Updates -/

/-- An update of the call's post, with what is answered. -/
inductive PostUpdate where
  | ended (participants : List String) (endAt now : Int) (o : PostOutcomes)
  | metadata (recID trID : String) (o : PostOutcomes)
  | recordings (transcriptionsEnabled : Bool) (info : RecordingJobInfo)
      (o : PostOutcomes)
  | transcriptions (info : TranscribingJobInfo) (o : PostOutcomes)

namespace PostUpdate

/-- The post after an update, and what has been read. -/
def apply (texts : Texts) (post : CallPost) : PostUpdate → CallPost × Option Reading
  | ended participants endAt now o =>
      updateCallPostEnded texts participants endAt now o post
  | metadata recID trID o => (saveRecordingMetadata recID trID o post, none)
  | recordings transcriptionsEnabled info o =>
      handleBotPostRecordings texts transcriptionsEnabled info o post
  | transcriptions info o => handleBotPostTranscriptions texts info o post

/-- What is read in the course of updates. -/
def readings (texts : Texts) : CallPost → List PostUpdate → List Reading
  | _, [] => []
  | post, u :: rest =>
      (u.apply texts post).2.toList ++ readings texts (u.apply texts post).1 rest

/-- The update reads the start time as a float64: the call has ended, and its post is
updated. -/
def readsFloat : PostUpdate → Bool
  | ended _ _ _ o => o.gets && o.updates
  | _ => false

/-- The update reads the start time as an int64: a bot posts, and the call post is
found. -/
def readsInt : PostUpdate → Bool
  | recordings _ info o => info.isValid.isNone && o.locks && o.gets
  | transcriptions info o => info.isValid.isNone && o.locks && o.gets
  | _ => false

end PostUpdate

/-- The start time read is the one of the call, and what is shown is made from it. -/
def Reading.Real (texts : Texts) (startAt : Int) (r : Reading) : Prop :=
  r.startAt = some startAt ∧ r.shown = r.reader.shown texts startAt

/-! ## What the readers find -/

variable {texts : Texts} {post post' : CallPost} {startAt : Int} {title : String}
  {o : PostOutcomes}

/-- The post as it is stored: its start time is a float. -/
structure Starts (startAt : Int) (title : String) (post : CallPost) : Prop where
  start : post.props "start_at" = some (.float64 (toFloat64 startAt))
  title : post.title = title

theorem starts_created (msg threadID title : String) (startAt : Int) :
    Starts startAt title (createCallStartedPost msg threadID title startAt).stored :=
  ⟨rfl, rfl⟩

/-- Storing a post again changes nothing of the two. -/
theorem Starts.stored (h : Starts startAt title post) :
    Starts startAt title post.stored := by
  constructor
  · show (post.props "start_at").map PropValue.stored = _
    rw [h.start]
    rfl
  · have hAny : asAny (post.stored.props "title") = asAny (post.props "title") := by
      show asAny ((post.props "title").map PropValue.stored) = _
      cases post.props "title" with
      | none => rfl
      | some value => cases value <;> rfl
    rw [← h.title]
    unfold CallPost.title
    rw [hAny]

/-- So does setting another property. -/
theorem Starts.addProp (h : Starts startAt title post) {key : String}
    (value : PropValue) (hKey : key ≠ "start_at" ∧ key ≠ "title") :
    Starts startAt title (post.addProp key value) := by
  constructor
  · show Function.update post.props key (some value) "start_at" = _
    rw [Function.update_of_ne hKey.1.symm]
    exact h.start
  · have hTitle : (post.addProp key value).props "title" = post.props "title" :=
      Function.update_of_ne hKey.2.symm ..
    unfold CallPost.title
    rw [hTitle]
    exact h.title

theorem Starts.update (h : Starts startAt title post)
    (h' : Starts startAt title post') :
    Starts startAt title (o.update post post') := by
  unfold PostOutcomes.update
  split
  · exact h'.stored
  · exact h

namespace PostUpdate

/-- What an update reads of a post: a float, or nothing that it can use. -/
structure Reads (texts : Texts) (startAt : Int) (u : PostUpdate)
    (reading : Option Reading) :
    Prop where
  float : u.readsFloat = true → ∃ r, reading = some r ∧
    r.startAt = some (toFloat64 startAt) ∧
    r.shown = r.reader.shown texts (toFloat64 startAt)
  int : u.readsInt = true → ∃ r, reading = some r ∧ r.startAt = some 0 ∧
    r.shown = r.reader.shown texts 0
  neither : u.readsFloat = false → u.readsInt = false → reading = none

/-- An update that reads nothing. -/
theorem Reads.nothing {u : PostUpdate} (hFloat : u.readsFloat = false)
    (hInt : u.readsInt = false) :
    Reads texts startAt u none := by
  refine ⟨?_, ?_, fun _ _ => rfl⟩
  · intro h
    rw [hFloat] at h
    cases h
  · intro h
    rw [hInt] at h
    cases h

theorem starts_endedPost (h : Starts startAt title post) (participants : List String)
    (endAt : Int) : Starts startAt title (post.ended texts participants endAt) := by
  have hMessage : Starts startAt title { post with message := texts.callEnded } :=
    ⟨h.start, h.title⟩
  exact ((hMessage.addProp _ (by decide)).addProp _ (by decide)).addProp _ (by decide)

/-- **The call has ended**: the float is read. -/
theorem apply_ended (h : Starts startAt title post) (participants : List String)
    (endAt now : Int) (o : PostOutcomes) :
    Starts startAt title ((ended participants endAt now o).apply texts post).1 ∧
      Reads texts startAt (ended participants endAt now o)
        ((ended participants endAt now o).apply texts post).2 := by
  show Starts startAt title
    (updateCallPostEnded texts participants endAt now o post).1 ∧
    Reads texts startAt _ (updateCallPostEnded texts participants endAt now o post).2
  cases hReads : (ended participants endAt now o).readsFloat with
  | false =>
      have hSame : updateCallPostEnded texts participants endAt now o post =
          (post, none) := by
        cases hGets : o.gets with
        | false => simp [updateCallPostEnded, hGets]
        | true =>
            have hUpdates : o.updates = false := by
              simpa [readsFloat, hGets] using hReads
            simp [updateCallPostEnded, hGets, hUpdates]
      rw [hSame]
      exact ⟨h, .nothing hReads rfl⟩
  | true =>
      obtain ⟨hGets, hUpdates⟩ : o.gets = true ∧ o.updates = true := by
        simpa [readsFloat] using hReads
      have hEnded : Starts startAt title (post.ended texts participants endAt) :=
        starts_endedPost h participants endAt
      have hRead : updateCallPostEnded texts participants endAt now o post =
          ((post.ended texts participants endAt).stored,
            some ⟨.duration now, some (toFloat64 startAt),
              (now - toFloat64 startAt, "")⟩) := by
        simp [updateCallPostEnded, hGets, hUpdates, hEnded.start, asFloat64]
      rw [hRead]
      refine ⟨hEnded.stored, fun _ => ⟨_, rfl, rfl, rfl⟩, ?_, ?_⟩
      · intro hInt
        cases hInt
      · intro hNone
        rw [hReads] at hNone
        cases hNone

theorem starts_metadata (h : Starts startAt title post) (recID trID : String)
    (o : PostOutcomes) :
    Starts startAt title (saveRecordingMetadata recID trID o post) := by
  unfold saveRecordingMetadata
  split
  · exact h
  · apply h.update
    have hRecordings : Starts startAt title (post.addProp "recordings"
        (.any (saveMetadata (asAny (post.props "recordings")) recID
          { trID := trID }))) :=
      h.addProp _ (by decide)
    split
    · exact hRecordings.addProp _ (by decide)
    · exact hRecordings

/-- A bot's handler that finds the call post reads 0. -/
theorem Reads.zero {u : PostUpdate} {text : String} (h : Starts startAt title post)
    (hFloat : u.readsFloat = false) (hInt : u.readsInt = true) :
    Reads texts startAt u
      (some ⟨.message text post.title, some (asInt64 (post.props "start_at")),
      (Reader.message text post.title).shown texts
        (asInt64 (post.props "start_at"))⟩) := by
  have hZero : asInt64 (post.props "start_at") = 0 := by
    rw [h.start]
    rfl
  rw [hZero]
  refine ⟨?_, fun _ => ⟨_, rfl, rfl, rfl⟩, ?_⟩
  · intro hYes
    rw [hFloat] at hYes
    cases hYes
  · intro _ hNo
    rw [hInt] at hNo
    cases hNo

/-- **A recording is posted**: nothing that the handler can use is found. -/
theorem apply_recordings (h : Starts startAt title post) (transcriptionsEnabled : Bool)
    (info : RecordingJobInfo) (o : PostOutcomes) :
    Starts startAt title
      ((recordings transcriptionsEnabled info o).apply texts post).1 ∧
      Reads texts startAt (recordings transcriptionsEnabled info o)
        ((recordings transcriptionsEnabled info o).apply texts post).2 := by
  show Starts startAt title
    (handleBotPostRecordings texts transcriptionsEnabled info o post).1 ∧
    Reads texts startAt _
      (handleBotPostRecordings texts transcriptionsEnabled info o post).2
  cases hInt : (recordings transcriptionsEnabled info o).readsInt with
  | false =>
      have hSame : handleBotPostRecordings texts transcriptionsEnabled info o post =
          (post, none) := by
        unfold handleBotPostRecordings
        split
        · rfl
        · next hValid =>
            split
            · rfl
            · next hLocks =>
                split
                · rfl
                · next hGets => simp_all [readsInt]
      rw [hSame]
      exact ⟨h, .nothing rfl hInt⟩
  | true =>
      obtain ⟨⟨hValid, hLocks⟩, hGets⟩ :
          (info.isValid = none ∧ o.locks = true) ∧ o.gets = true := by
        simpa [readsInt] using hInt
      unfold handleBotPostRecordings
      rw [hValid, hLocks, hGets]
      simp only [Option.isSome_none, Bool.not_true, Bool.false_eq_true, ↓reduceIte]
      split
      · exact ⟨h, .zero h rfl hInt⟩
      · split
        · exact ⟨h.update (h.addProp _ (by decide)), .zero h rfl hInt⟩
        · exact ⟨h.update h, .zero h rfl hInt⟩

/-- **A transcription is posted**: the same. -/
theorem apply_transcriptions (h : Starts startAt title post)
    (info : TranscribingJobInfo) (o : PostOutcomes) :
    Starts startAt title ((transcriptions info o).apply texts post).1 ∧
      Reads texts startAt (transcriptions info o)
        ((transcriptions info o).apply texts post).2 := by
  show Starts startAt title (handleBotPostTranscriptions texts info o post).1 ∧
    Reads texts startAt _ (handleBotPostTranscriptions texts info o post).2
  cases hInt : (transcriptions info o).readsInt with
  | false =>
      have hSame : handleBotPostTranscriptions texts info o post = (post, none) := by
        unfold handleBotPostTranscriptions
        split
        · rfl
        · next hValid =>
            split
            · rfl
            · next hLocks =>
                split
                · rfl
                · next hGets => simp_all [readsInt]
      rw [hSame]
      exact ⟨h, .nothing rfl hInt⟩
  | true =>
      obtain ⟨⟨hValid, hLocks⟩, hGets⟩ :
          (info.isValid = none ∧ o.locks = true) ∧ o.gets = true := by
        simpa [readsInt] using hInt
      unfold handleBotPostTranscriptions
      rw [hValid, hLocks, hGets]
      simp only [Option.isSome_none, Bool.not_true, Bool.false_eq_true, ↓reduceIte]
      split
      · exact ⟨h, .zero h rfl hInt⟩
      · split
        · exact ⟨h, .zero h rfl hInt⟩
        · split
          · exact ⟨h, .zero h rfl hInt⟩
          · split
            · exact ⟨h, .zero h rfl hInt⟩
            · exact ⟨h.update (h.addProp _ (by decide)), .zero h rfl hInt⟩

/-- One update keeps the start time where it is, and reads the float or 0. -/
theorem apply_spec (h : Starts startAt title post) (u : PostUpdate) :
    Starts startAt title (u.apply texts post).1 ∧
    Reads texts startAt u (u.apply texts post).2 := by
  cases u with
  | ended participants endAt now o => exact apply_ended h participants endAt now o
  | metadata recID trID o => exact ⟨starts_metadata h recID trID o, .nothing rfl rfl⟩
  | recordings transcriptionsEnabled info o =>
      exact apply_recordings h transcriptionsEnabled info o
  | transcriptions info o => exact apply_transcriptions h info o

/-- Whether an update reads the start time of the call. -/
theorem Reads.real_iff {u : PostUpdate} {reading : Option Reading}
    (h : Reads texts startAt u reading) : (∀ r ∈ reading, r.Real texts startAt) ↔
      (u.readsFloat = true → toFloat64 startAt = startAt) ∧
      (u.readsInt = true → startAt = 0) := by
  constructor
  · intro hReal
    constructor
    · intro hFloat
      obtain ⟨r, hRead, hStart, _⟩ := h.float hFloat
      have hSame := (hReal r hRead).1
      rw [hStart] at hSame
      exact Option.some.inj hSame
    · intro hInt
      obtain ⟨r, hRead, hStart, _⟩ := h.int hInt
      have hSame := (hReal r hRead).1
      rw [hStart] at hSame
      exact (Option.some.inj hSame).symm
  · rintro ⟨hFloat, hInt⟩ r hRead
    cases hReadsFloat : u.readsFloat with
    | true =>
        obtain ⟨r', hRead', hStart, hShown⟩ := h.float hReadsFloat
        rw [hFloat hReadsFloat] at hStart hShown
        rw [hRead'] at hRead
        cases hRead
        exact ⟨hStart, hShown⟩
    | false =>
        cases hReadsInt : u.readsInt with
        | true =>
            obtain ⟨r', hRead', hStart, hShown⟩ := h.int hReadsInt
            rw [hRead'] at hRead
            cases hRead
            rw [hInt hReadsInt]
            exact ⟨hStart, hShown⟩
        | false =>
            rw [h.neither hReadsFloat hReadsInt] at hRead
            cases hRead

theorem readings_real_iff (h : Starts startAt title post) (updates : List PostUpdate) :
    (∀ r ∈ readings texts post updates, r.Real texts startAt) ↔
      ∀ u ∈ updates, (u.readsFloat = true → toFloat64 startAt = startAt) ∧
        (u.readsInt = true → startAt = 0) := by
  induction updates generalizing post with
  | nil => exact ⟨fun _ u hu => (List.not_mem_nil hu).elim,
      fun _ r hr => (List.not_mem_nil hr).elim⟩
  | cons u rest ih =>
      obtain ⟨hStarts, hReads⟩ : Starts startAt title (u.apply texts post).1 ∧
        Reads texts startAt u (u.apply texts post).2 := apply_spec h u
      have hFirst := hReads.real_iff
      have hRest := ih hStarts
      show (∀ r ∈ (u.apply texts post).2.toList ++ readings texts
        (u.apply texts post).1 rest, r.Real texts startAt) ↔ _
      simp only [List.mem_append, Option.mem_toList, List.forall_mem_cons]
      rw [← hFirst, ← hRest]
      exact ⟨fun hAll => ⟨fun r hr => hAll r (.inl hr), fun r hr => hAll r (.inr hr)⟩,
        fun hBoth r hr => hr.elim (hBoth.1 r) (hBoth.2 r)⟩

end PostUpdate

/-- **Where the start time survives**: in all updates of a call post the real start is
read and shown exactly if no bot posts while the call has one, and a call post that ends
finds a start that is a float. -/
theorem startTime_real_iff (texts : Texts) (msg threadID title : String) (startAt : Int)
    (updates : List PostUpdate) :
    (∀ r ∈ PostUpdate.readings texts
        (createCallStartedPost msg threadID title startAt).stored
        updates, r.Real texts startAt) ↔
      ∀ u ∈ updates, (u.readsFloat = true → toFloat64 startAt = startAt) ∧
        (u.readsInt = true → startAt = 0) :=
  PostUpdate.readings_real_iff (starts_created msg threadID title startAt) updates

/-- The texts of a server whose clock shows milliseconds. -/
def sampleTexts : Texts where
  callEnded := "Call ended"
  newRecording := "Here's the call recording"
  newRecordingAndTranscription := "Here's the call recording"
  newTranscription := "Here's the call transcription"
  clock n := toString n

/-- A recording of a call that began at 1700000000000 is posted: the time read is 0. -/
theorem startTime_lost : ¬ ∀ r ∈ PostUpdate.readings sampleTexts
    (createCallStartedPost "alice started a call" "" "Standup" 1700000000000).stored
    [.recordings true ⟨"rec", "post", ["file"]⟩ {}],
    r.Real sampleTexts 1700000000000 := by
  intro h
  have hReading := (h _ (List.mem_cons_self ..)).1
  exact absurd hReading (by decide)

end CallsPlugin.Ports.StartTime
