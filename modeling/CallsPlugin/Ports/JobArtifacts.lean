import CallsPlugin.Verified.Order
import CallsPlugin.Ports.JobMetadata

/-!
# What the jobs of a call post (`server/bot_api.go`)

The bot posts the recording of a recording job and the transcription of a
transcribing job in the thread of the call, and notes the file and the new post
in the call post's metadata.  A transcription is also shown as captions in the
post of its recording: `handleBotPostTranscriptions` looks for that post in the
metadata, so the captions are lost where the transcription comes first.
-/

namespace CallsPlugin.Ports

open CallsPlugin.Verified

/-! ## What a bot sends -/

/-- `RecordingJobInfo` -/
structure RecordingJobInfo where
  jobID : String
  postID : String
  fileIDs : List String
  deriving DecidableEq

/-- `Transcription` -/
structure Transcription where
  title : String
  language : String
  fileIDs : List String
  deriving DecidableEq

/-- `TranscribingJobInfo` -/
structure TranscribingJobInfo where
  jobID : String
  postID : String
  transcriptions : List Transcription
  deriving DecidableEq

/-- `RecordingJobInfo.IsValid` -/
def RecordingJobInfo.isValid (info : RecordingJobInfo) : Option String :=
  if info.postID = "" then some "PostID should not be empty"
  else if info.fileIDs.length = 0 then some "invalid FileIDs length"
  else if info.jobID = "" then some "JobID should not be empty"
  else none

/-- `Transcription.IsValid` -/
def Transcription.isValid (t : Transcription) : Option String :=
  if t.language = "" then some "Language should not be empty"
  else if t.fileIDs.length < 2 then some "invalid FileIDs length"
  else none

/-- `TranscribingJobInfo.IsValid` -/
def TranscribingJobInfo.isValid (info : TranscribingJobInfo) : Option String :=
  if info.postID = "" then some "PostID should not be empty"
  else if info.transcriptions.length = 0 then some "invalid Transcriptions length"
  else match info.transcriptions.findSome? Transcription.isValid with
    | some err => some err
    | none => if info.jobID = "" then some "JobID should not be empty" else none

/-- `ToClientMap`; a valid transcription has files. -/
def Transcription.toClientMap (t : Transcription) : Any :=
  let title := if t.title = "" then t.language else t.title
  .map (Function.update (Function.update (Function.update (fun _ => none)
    "title" (some (.str title))) "language" (some (.str t.language)))
    "file_id" (some (.str (t.fileIDs.getD 0 ""))))

/-- `ToClientCaptions` -/
def toClientCaptions (transcriptions : List Transcription) : Any :=
  .list (transcriptions.map Transcription.toClientMap)

/-- The file of the first transcription with the given number. -/
def TranscribingJobInfo.file (info : TranscribingJobInfo) (i : Nat) : String :=
  ((info.transcriptions.head?.map Transcription.fileIDs).getD []).getD i ""

/-! ## The handlers -/

/-- `httpResponse` -/
structure HttpResponse where
  err : String := ""
  msg : String := ""
  code : Nat

/-- `GetPost`, of a store that works. -/
def Posts.getPost (posts : Posts) (id : String) : Except String Post :=
  match posts id with
  | none => .error ("post not found (id=" ++ id ++ ")")
  | some post => .ok post

/-- The thread in which a job's artifact is posted. -/
def Post.threadID (post : Post) (id : String) : String :=
  if post.rootID ≠ "" then post.rootID else id

/-- The post of a recording. -/
def RecordingJobInfo.post (info : RecordingJobInfo) (callID threadID : String) : Post :=
  { rootID := threadID
    channelID := callID
    type := "custom_calls_recording"
    fileIDs := [info.fileIDs.getD 0 ""]
    props := Function.update (Function.update (fun _ => none)
      "recording_id" (some (.str info.jobID))) "call_post_id"
        (some (.str info.postID)) }

/-- The post of a transcription. -/
def TranscribingJobInfo.post (info : TranscribingJobInfo) (callID threadID : String) :
    Post :=
  { rootID := threadID
    channelID := callID
    type := "custom_calls_transcription"
    fileIDs := [info.file 1]
    props := Function.update (Function.update (Function.update (fun _ => none)
      "call_post_id" (some (.str info.postID))) "transcription_id"
        (some (.str info.jobID)))
      "captions" (some (toClientCaptions info.transcriptions)) }

/-- The metadata of a job. -/
def metadataOf (jobs : String → Option Any) (jobID : String) : JobMetadata :=
  JobMetadata.fromMap {} (jobs jobID)

/-- The metadata of all jobs, with the file and the post that a job has produced. -/
def setArtifact (jobs : String → Option Any) (jobID fileID postID : String) :
    String → Option Any :=
  Function.update jobs jobID
    (some (.map { metadataOf jobs jobID with
      fileID := fileID, postID := postID }.toMap))

/-- The call post with a recording in its metadata; without the property an error is
logged. -/
def Post.addRecording (post : Post) (jobID fileID postID : String) : Post :=
  match Any.asMap (post.props "recordings") with
  | some recordings =>
      post.addProp "recordings" (.map (setArtifact recordings jobID fileID postID))
  | none => post

/-- `handleBotPostRecordings`; `newID` is the id the new post gets. -/
def handleBotPostRecordings (newID callID : String) (info : RecordingJobInfo)
    (posts : Posts) :
    Posts × HttpResponse :=
  match info.isValid with
  | some err => (posts, { err := err, code := 400 })
  | none =>
      match posts.getPost info.postID with
      | .error err =>
          (posts, { err := "failed to get call post: " ++ err, code := 500 })
      | .ok post =>
          let posts := posts.put newID (info.post callID (post.threadID info.postID))
          let post := post.addRecording info.jobID (info.fileIDs.getD 0 "") newID
          (posts.put info.postID post, { msg := "success", code := 200 })

/-- The captions of a transcription in the post of its recording, in
`handleBotPostTranscriptions`. -/
def attachCaptions (posts : Posts) (recPostID : String) (captions : Any) :
    Except String Posts :=
  if recPostID ≠ "" then
    match posts.getPost recPostID with
    | .error err => .error ("failed to get recording post: " ++ err)
    | .ok recPost => .ok (posts.put recPostID (recPost.addProp "captions" captions))
  -- a warning is logged
  else .ok posts

/-- `handleBotPostTranscriptions`; the file that is moved to the call post is left
out. -/
def handleBotPostTranscriptions (newID callID : String) (info : TranscribingJobInfo)
    (posts : Posts) : Posts × HttpResponse :=
  match info.isValid with
  | some err => (posts, { err := err, code := 400 })
  | none =>
      match posts.getPost info.postID with
      | .error err =>
          (posts, { err := "failed to get call post: " ++ err, code := 500 })
      | .ok post =>
          let posts := posts.put newID (info.post callID (post.threadID info.postID))
          match Any.asMap (post.props "transcriptions") with
          | none =>
              (posts,
                { err := "unexpected data found in transcriptions post prop",
                    code := 500 })
          | some transcriptions =>
              let tm := metadataOf transcriptions info.jobID
              let post := post.addProp "transcriptions"
                (.map (setArtifact transcriptions info.jobID (info.file 0) newID))
              match Any.asMap (post.props "recordings") with
              | none =>
                  (posts,
                    { err :=
                        "unexpected data found in recordings post prop", code := 500 })
              | some recordings =>
                  match attachCaptions posts (metadataOf recordings tm.recID).postID
                      (toClientCaptions info.transcriptions) with
                  | .error err => (posts, { err := err, code := 500 })
                  | .ok posts =>
                      (posts.put info.postID post, { msg := "success", code := 200 })

/-- A request of a bot. -/
inductive BotPost where
  | recording (info : RecordingJobInfo)
  | transcription (info : TranscribingJobInfo)
  deriving DecidableEq

namespace BotPost

/-- The call post it is for. -/
def postID : BotPost → String
  | .recording info => info.postID
  | .transcription info => info.postID

/-- The request is accepted. -/
def isValid : BotPost → Option String
  | .recording info => info.isValid
  | .transcription info => info.isValid

end BotPost

/-- A request is processed; `newID` gives the id of the post that is created for it. -/
def process (newID : BotPost → String) (callID : String) (posts : Posts) (b : BotPost) :
    Posts :=
  match b with
  | .recording info => (handleBotPostRecordings (newID b) callID info posts).1
  | .transcription info => (handleBotPostTranscriptions (newID b) callID info posts).1

/-- Requests are processed one after the other. -/
def processAll (newID : BotPost → String) (callID : String) (posts : Posts)
    (bs : List BotPost) :
    Posts := bs.foldl (process newID callID) posts

/-! ## What the requests are compared by -/

/-- A property of a post. -/
def Posts.prop (posts : Posts) (id key : String) : Option Any :=
  (posts id).bind fun post => post.props key

/-- The metadata of a job in a property of the call post. -/
def Posts.metadata (posts : Posts) (id key jobID : String) : JobMetadata :=
  metadataOf ((Any.asMap (posts.prop id key)).getD fun _ => none) jobID

/-- The entry of a job in a property of the call post. -/
def Posts.entry (posts : Posts) (id key jobID : String) : Option Any :=
  (Any.asMap (posts.prop id key)).bind fun jobs => jobs jobID

/-- The call post has the same metadata and every post the same captions. -/
structure SameArtifacts (postID : String) (posts posts' : Posts) : Prop where
  recordings : posts.prop postID "recordings" = posts'.prop postID "recordings"
  transcriptions : posts.prop postID "transcriptions" =
    posts'.prop postID "transcriptions"
  captions : ∀ id, posts.prop id "captions" = posts'.prop id "captions"

/-- The entries of jobs that post nothing are as they were. -/
def OthersUnchanged (postID : String) (bs : List BotPost) (posts posts' : Posts) :
    Prop :=
  (∀ jobID, (∀ info, .recording info ∈ bs → info.jobID ≠ jobID) →
      posts'.entry postID "recordings" jobID = posts.entry postID "recordings" jobID) ∧
    ∀ jobID, (∀ info, .transcription info ∈ bs → info.jobID ≠ jobID) →
      posts'.entry postID "transcriptions" jobID =
      posts.entry postID "transcriptions" jobID

/-- The ids of new posts are new: they are not empty and no two are the same, no post
has them and the metadata of the call post does not mention them. -/
structure NewIDs (newID : BotPost → String) (posts : Posts) (postID : String)
    (bs : List BotPost) :
    Prop where
  injective : ∀ b ∈ bs, ∀ b' ∈ bs, newID b = newID b' → b = b'
  nonempty : ∀ b ∈ bs, newID b ≠ ""
  unused : ∀ b ∈ bs, posts (newID b) = none
  unmentioned : ∀ b ∈ bs, ∀ jobID,
    (posts.metadata postID "recordings" jobID).postID ≠ newID b

/-! ## When the order does not matter -/

/-- The request is one of those that are accepted. -/
def Accepted (bs : List BotPost) (b : BotPost) : Prop := b ∈ bs ∧ b.isValid = none

namespace Posts

/-- The call post has metadata of recordings. -/
def HasRecordings (posts : Posts) (postID : String) : Prop :=
  (Any.asMap (posts.prop postID "recordings")).isSome

/-- The call post has metadata of recordings and of transcriptions. -/
def HasBoth (posts : Posts) (postID : String) : Prop :=
  posts.HasRecordings postID ∧ (Any.asMap (posts.prop postID "transcriptions")).isSome

/-- The recording job a transcribing job belongs to. -/
def recIDOf (posts : Posts) (postID jobID : String) : String :=
  (posts.metadata postID "transcriptions" jobID).recID

/-- The post of the recording a transcribing job belongs to. -/
def recPostOf (posts : Posts) (postID jobID : String) : String :=
  (posts.metadata postID "recordings" (posts.recIDOf postID jobID)).postID

/-- The post of the recording exists if there is one in the metadata. -/
def Saves (posts : Posts) (postID jobID : String) : Prop :=
  posts.recPostOf postID jobID = "" ∨ (posts (posts.recPostOf postID jobID)).isSome

/-- The captions of a transcribing job go to a post, which is not the call post. -/
def AttachesTo (posts : Posts) (postID jobID id : String) : Prop :=
  posts.recPostOf postID jobID = id ∧ id ≠ "" ∧ id ≠ postID ∧ (posts id).isSome

end Posts

/-- **When the order does not matter.**  No two requests are for one job; no
transcription is posted together with the recording it belongs to; and no two of
different captions belong to one recording that is already posted. -/
structure OrderFree (posts : Posts) (postID : String) (bs : List BotPost) : Prop where
  recordings : posts.HasRecordings postID →
    ∀ info info', Accepted bs (.recording info) →
    Accepted bs (.recording info') → info.jobID = info'.jobID → info = info'
  transcriptions : posts.HasBoth postID →
    ∀ info info', Accepted bs (.transcription info) →
    Accepted bs (.transcription info') → info.jobID = info'.jobID →
      posts.Saves postID info.jobID →
      info = info'
  apart : posts.HasBoth postID → ∀ info info', Accepted bs (.recording info) →
    Accepted bs (.transcription info') → posts.recIDOf postID info'.jobID ≠ info.jobID
  captions : posts.HasBoth postID → ∀ info info' id, Accepted bs (.transcription info) →
    Accepted bs (.transcription info') → posts.AttachesTo postID info.jobID id →
      posts.AttachesTo postID info'.jobID id →
        toClientCaptions info.transcriptions = toClientCaptions info'.transcriptions

section Decidable

variable (posts : Posts) (postID jobID id : String)

instance : Decidable (posts.HasRecordings postID) := by
  unfold Posts.HasRecordings; infer_instance

instance : Decidable (posts.HasBoth postID) := by unfold Posts.HasBoth; infer_instance

instance : Decidable (posts.Saves postID jobID) := by unfold Posts.Saves; infer_instance

instance : Decidable (posts.AttachesTo postID jobID id) := by
  unfold Posts.AttachesTo; infer_instance

end Decidable

/-! ## Properties of posts that are stored -/

namespace Posts

variable {posts posts' : Posts} {id id' key key' jobID : String} {post : Post}
  {value : Any}

@[simp] theorem put_self (posts : Posts) (id : String) (post : Post) :
    posts.put id post id = some post := Function.update_self id _ posts

theorem put_of_ne (posts : Posts) (post : Post) (h : id' ≠ id) :
    posts.put id post id' = posts id' := Function.update_of_ne h _ posts

theorem isSome_put (h : (posts id').isSome) : (posts.put id post id').isSome := by
  by_cases hid : id' = id
  · rw [hid, put_self]
    rfl
  · rw [put_of_ne posts post hid]
    exact h

@[simp] theorem prop_put_self (posts : Posts) (id : String) (post : Post) :
    (posts.put id post).prop id key = post.props key := by
  unfold prop
  rw [put_self]
  rfl

theorem prop_put_of_ne (posts : Posts) (post : Post) (h : id' ≠ id) :
    (posts.put id post).prop id' key = posts.prop id' key := by
  unfold prop
  rw [put_of_ne posts post h]

theorem prop_of_eq (h : posts id = some post) : posts.prop id key = post.props key := by
  unfold prop
  rw [h]
  rfl

end Posts

theorem Post.addProp_self (post : Post) (key : String) (value : Any) :
    (post.addProp key value).props key = some value := Function.update_self key _ _

theorem Post.addProp_of_ne (post : Post) (value : Any) {key key' : String}
    (h : key' ≠ key) :
    (post.addProp key value).props key' = post.props key' := Function.update_of_ne h _ _

/-- The metadata of a job after an artifact was noted. -/
theorem metadataOf_setArtifact (jobs : String → Option Any)
    (jobID fileID postID jobID' : String) :
    metadataOf (setArtifact jobs jobID fileID postID) jobID' =
      if jobID' = jobID then
        { metadataOf jobs jobID with fileID := fileID, postID := postID }
      else metadataOf jobs jobID' := by
  unfold setArtifact
  split
  · next hjob =>
    rw [hjob]
    show JobMetadata.fromMap {} (Function.update jobs jobID _ jobID) = _
    rw [Function.update_self, JobMetadata.fromMap_toMap]
  · next hjob =>
    show JobMetadata.fromMap {} (Function.update jobs jobID _ jobID') = _
    rw [Function.update_of_ne hjob]
    rfl

/-! ## What a request does to what is compared -/

/-- What an accepted request notes in a property with metadata. -/
def note (prop : Option Any) (jobID fileID postID : String) : Option Any :=
  match Any.asMap prop with
  | some jobs => some (.map (setArtifact jobs jobID fileID postID))
  | none => prop

theorem asMap_note (prop : Option Any) (jobID fileID postID : String) :
    Any.asMap (note prop jobID fileID postID) =
      (Any.asMap prop).map fun jobs => setArtifact jobs jobID fileID postID := by
  unfold note
  cases h : Any.asMap prop with
  | none => exact h
  | some jobs => rfl

/-- Notes about different jobs can be made in any order. -/
theorem note_comm (prop : Option Any) {jobID jobID' : String} (h : jobID ≠ jobID')
    (fileID postID fileID' postID' : String) :
    note (note prop jobID fileID postID) jobID' fileID' postID' =
      note (note prop jobID' fileID' postID') jobID fileID postID := by
  unfold note
  cases hprop : Any.asMap prop with
  | none => simp only [hprop]
  | some jobs =>
      have hkeep : ∀ j j' f p, j' ≠ j →
          metadataOf (setArtifact jobs j f p) j' = metadataOf jobs j' := by
        intro j j' f p hj
        rw [metadataOf_setArtifact, if_neg hj]
      show some (Any.map (setArtifact (setArtifact jobs jobID fileID postID) jobID'
        fileID' postID')) =
        some (Any.map (setArtifact (setArtifact jobs jobID' fileID' postID') jobID
          fileID postID))
      congr 2
      unfold setArtifact
      rw [show metadataOf (Function.update jobs jobID _) jobID' =
        metadataOf jobs jobID' from
          hkeep jobID jobID' fileID postID h.symm,
        show metadataOf (Function.update jobs jobID' _) jobID =
        metadataOf jobs jobID from
          hkeep jobID' jobID fileID' postID' h]
      exact Function.update_comm h _ _ jobs

section Acts

variable (newID : BotPost → String) (posts : Posts) (postID : String)

/-- What a request does to the metadata of the recordings. -/
def onRecordings (prop : Option Any) (b : BotPost) : Option Any :=
  match b with
  | .recording info =>
      if info.isValid = none ∧ posts.HasRecordings postID then
        note prop info.jobID (info.fileIDs.getD 0 "") (newID b)
      else prop
  | .transcription _ => prop

/-- What a request does to the metadata of the transcriptions. -/
def onTranscriptions (prop : Option Any) (b : BotPost) : Option Any :=
  match b with
  | .recording _ => prop
  | .transcription info =>
      if info.isValid = none ∧ posts.HasBoth postID ∧ posts.Saves postID info.jobID then
        note prop info.jobID (info.file 0) (newID b)
      else prop

/-- The captions that a request writes to a post. -/
def captionsFor (id : String) (b : BotPost) : Option (Option Any) :=
  match b with
  | .recording info => if info.isValid = none ∧ id = newID b then some none else none
  | .transcription info =>
      if info.isValid = none ∧ (id = newID b ∨
          posts.HasBoth postID ∧ posts.AttachesTo postID info.jobID id) then
        some (some (toClientCaptions info.transcriptions))
      else none

/-- What a request does to the captions of a post. -/
def onCaptions (id : String) (prop : Option Any) (b : BotPost) : Option Any :=
  (captionsFor newID posts postID id b).getD prop

end Acts

theorem Post.addRecording_self (post : Post) (jobID fileID postID : String) :
    (post.addRecording jobID fileID postID).props "recordings" =
      note (post.props "recordings") jobID fileID postID := by
  unfold Post.addRecording note
  cases h : Any.asMap (post.props "recordings") with
  | none => rfl
  | some recordings => exact post.addProp_self _ _

theorem Post.addRecording_of_ne (post : Post) (jobID fileID postID : String)
    {key : String} (h : key ≠ "recordings") :
    (post.addRecording jobID fileID postID).props key = post.props key := by
  unfold Post.addRecording
  split
  · exact post.addProp_of_ne _ h
  · rfl

section Process

variable {newID : BotPost → String} {callID postID id key : String} {z : Posts}
  {post : Post} {b : BotPost} {info : RecordingJobInfo} {tinfo : TranscribingJobInfo}

/-- A request for the call post can be processed: the post is there and the id of the
new post is new. -/
structure Ready (newID : BotPost → String) (z : Posts) (postID : String) (b : BotPost) :
    Prop where
  post : (z postID).isSome
  ofPost : b.postID = postID
  fresh : newID b ≠ postID
  recPost : z.HasBoth postID → ∀ info, b = .transcription info →
    z.recPostOf postID info.jobID ≠ newID b

theorem process_of_rejected (h : b.isValid ≠ none) : process newID callID z b = z := by
  cases b with
  | recording info =>
      obtain ⟨err, herr⟩ := Option.ne_none_iff_exists'.1 h
      have hvalid : info.isValid = some err := herr
      unfold process handleBotPostRecordings
      simp only [hvalid]
  | transcription info =>
      obtain ⟨err, herr⟩ := Option.ne_none_iff_exists'.1 h
      have hvalid : info.isValid = some err := herr
      unfold process handleBotPostTranscriptions
      simp only [hvalid]

theorem process_recording (hvalid : info.isValid = none)
    (hpost : z info.postID = some post) :
    process newID callID z (.recording info) =
      (z.put (newID (.recording info))
        (info.post callID (post.threadID info.postID))).put
        info.postID (post.addRecording info.jobID (info.fileIDs.getD 0 "")
          (newID (.recording info))) := by
  unfold process handleBotPostRecordings Posts.getPost
  simp only [hvalid, hpost]

/-- The captions of a transcription are attached. -/
theorem attachCaptions_spec {p : String} (captions : Any) (h : p = "" ∨ (z p).isSome) :
    ∃ z', attachCaptions z p captions = .ok z' ∧
      (∀ id key, z'.prop id key =
        if id = p ∧ p ≠ "" ∧ key = "captions" then some captions else z.prop id key) ∧
      ∀ id, (z' id).isSome = (z id).isSome := by
  unfold attachCaptions
  by_cases hp : p = ""
  · rw [if_neg (not_not.2 hp)]
    refine ⟨z, rfl, ?_, fun _ => rfl⟩
    intro id key
    rw [if_neg fun hid => hid.2.1 hp]
  · have hsome := h.resolve_left hp
    obtain ⟨recPost, hrec⟩ := Option.isSome_iff_exists.1 hsome
    have hget : z.getPost p = .ok recPost := by
      unfold Posts.getPost
      rw [hrec]
    rw [if_pos hp, hget]
    refine ⟨_, rfl, ?_, ?_⟩
    · intro id key
      by_cases hid : id = p
      · rw [hid, Posts.prop_put_self]
        by_cases hkey : key = "captions"
        · rw [if_pos ⟨rfl, hp, hkey⟩, hkey]
          exact recPost.addProp_self _ _
        · rw [if_neg fun h => hkey h.2.2, Posts.prop_of_eq hrec]
          exact recPost.addProp_of_ne _ hkey
      · rw [if_neg fun h => hid h.1]
        exact Posts.prop_put_of_ne z _ hid
    · intro id
      by_cases hid : id = p
      · rw [hid, Posts.put_self, hrec]
        rfl
      · rw [Posts.put_of_ne z _ hid]

/-! ### A recording -/

theorem prop_process_recording (hr : Ready newID z postID (.recording info))
    (hvalid : info.isValid = none) (hid : id ≠ newID (.recording info)) :
    (process newID callID z (.recording info)).prop id key =
      if id = postID ∧ key = "recordings" then
        note (z.prop id key) info.jobID (info.fileIDs.getD 0 "")
          (newID (.recording info))
      else z.prop id key := by
  obtain ⟨post, hpost⟩ := Option.isSome_iff_exists.1 hr.post
  have hofPost : info.postID = postID := hr.ofPost
  rw [process_recording hvalid (hofPost ▸ hpost), hofPost]
  by_cases hcall : id = postID
  · rw [hcall, Posts.prop_put_self, Posts.prop_of_eq hpost]
    by_cases hkey : key = "recordings"
    · rw [if_pos ⟨rfl, hkey⟩, hkey]
      exact post.addRecording_self _ _ _
    · rw [if_neg fun h => hkey h.2]
      exact post.addRecording_of_ne _ _ _ hkey
  · rw [if_neg fun h => hcall h.1, Posts.prop_put_of_ne _ _ hcall,
      Posts.prop_put_of_ne _ _ hid]

theorem isSome_process_recording (hr : Ready newID z postID (.recording info))
    (hvalid : info.isValid = none) (id : String) :
    (process newID callID z (.recording info) id).isSome =
      ((z id).isSome || id == newID (.recording info)) := by
  obtain ⟨post, hpost⟩ := Option.isSome_iff_exists.1 hr.post
  have hofPost : info.postID = postID := hr.ofPost
  rw [process_recording hvalid (hofPost ▸ hpost), hofPost]
  by_cases hcall : id = postID
  · rw [hcall, Posts.put_self, hpost]
    rfl
  · rw [Posts.put_of_ne _ _ hcall]
    by_cases hid : id = newID (.recording info)
    · rw [hid, Posts.put_self, beq_self_eq_true, Bool.or_true]
      rfl
    · rw [Posts.put_of_ne _ _ hid, beq_eq_false_iff_ne.2 hid, Bool.or_false]

/-- The post of a recording has no captions. -/
theorem captions_process_recording (hr : Ready newID z postID (.recording info))
    (hvalid : info.isValid = none) :
    (process newID callID z (.recording info)).prop (newID (.recording info))
      "captions" = none := by
  obtain ⟨post, hpost⟩ := Option.isSome_iff_exists.1 hr.post
  have hofPost : info.postID = postID := hr.ofPost
  rw [process_recording hvalid (hofPost ▸ hpost), hofPost,
    Posts.prop_put_of_ne _ _ hr.fresh, Posts.prop_put_self]
  rfl

/-! ### A transcription -/

/-- The posts after a transcription was processed: its own post, and if the metadata can
be saved, the captions of the recording's post and the call post. -/
theorem process_transcription (hr : Ready newID z postID (.transcription tinfo))
    (hvalid : tinfo.isValid = none) (hpost : z postID = some post) :
    (¬ (z.HasBoth postID ∧ z.Saves postID tinfo.jobID) ∧
      process newID callID z (.transcription tinfo) =
        z.put (newID (.transcription tinfo))
          (tinfo.post callID (post.threadID tinfo.postID))) ∨
    ((z.HasBoth postID ∧ z.Saves postID tinfo.jobID) ∧ ∃ z' : Posts,
      process newID callID z (.transcription tinfo) =
        z'.put postID (post.addProp "transcriptions"
        (.map (setArtifact ((Any.asMap (post.props "transcriptions")).getD fun _ =>
          none) tinfo.jobID (tinfo.file 0) (newID (.transcription tinfo))))) ∧
      (∀ id key, z'.prop id key =
        if id = z.recPostOf postID tinfo.jobID ∧ z.recPostOf postID tinfo.jobID ≠ "" ∧
            key = "captions" then some (toClientCaptions tinfo.transcriptions)
        else (z.put (newID (.transcription tinfo))
          (tinfo.post callID (post.threadID tinfo.postID))).prop id key) ∧
      ∀ id, (z' id).isSome = (z.put (newID (.transcription tinfo))
          (tinfo.post callID (post.threadID tinfo.postID)) id).isSome) := by
  have hofPost : tinfo.postID = postID := hr.ofPost
  have hprop : ∀ key, z.prop postID key = post.props key :=
    fun key => Posts.prop_of_eq hpost
  have hget : z.getPost tinfo.postID = .ok post := by
    unfold Posts.getPost
    rw [hofPost, hpost]
  cases htr : Any.asMap (post.props "transcriptions") with
  | none =>
      left
      constructor
      · intro h
        have hsome := h.1.2
        rw [hprop, htr] at hsome
        cases hsome
      · unfold process handleBotPostTranscriptions
        simp only [hvalid, hget, htr]
  | some transcriptions =>
    have hkept :
        (post.addProp "transcriptions" (.map (setArtifact transcriptions tinfo.jobID
        (tinfo.file 0) (newID (.transcription tinfo))))).props "recordings" =
        post.props "recordings" := post.addProp_of_ne _ (by decide)
    cases hrec : Any.asMap (post.props "recordings") with
    | none =>
        left
        constructor
        · intro h
          have hsome := h.1.1
          unfold Posts.HasRecordings at hsome
          rw [hprop, hrec] at hsome
          cases hsome
        · unfold process handleBotPostTranscriptions
          simp only [hvalid, hget, htr, hkept, hrec]
    | some recordings =>
        have hboth : z.HasBoth postID := by
          unfold Posts.HasBoth Posts.HasRecordings
          rw [hprop, hprop, hrec, htr]
          exact ⟨rfl, rfl⟩
        have hrecPost : z.recPostOf postID tinfo.jobID =
            (metadataOf recordings
              (metadataOf transcriptions tinfo.jobID).recID).postID := by
          unfold Posts.recPostOf Posts.recIDOf Posts.metadata
          rw [hprop, hprop, hrec, htr]
          rfl
        by_cases hsaves : z.Saves postID tinfo.jobID
        · right
          refine ⟨⟨hboth, hsaves⟩, ?_⟩
          have hexists : z.recPostOf postID tinfo.jobID = "" ∨
              (z.put (newID (.transcription tinfo))
                (tinfo.post callID (post.threadID tinfo.postID))
                (z.recPostOf postID tinfo.jobID)).isSome :=
                hsaves.imp_right Posts.isSome_put
          obtain ⟨z', hattach, hprops, hsome⟩ := attachCaptions_spec
            (toClientCaptions tinfo.transcriptions) hexists
          refine ⟨z', ?_, hprops, hsome⟩
          rw [hrecPost] at hattach
          unfold process handleBotPostTranscriptions
          simp only [hvalid, hget, htr, hkept, hrec, hattach, Option.getD_some]
          rw [hofPost]
        · left
          refine ⟨fun h => hsaves h.2, ?_⟩
          have hne : z.recPostOf postID tinfo.jobID ≠ "" := fun h => hsaves (.inl h)
          have hmissing : z (z.recPostOf postID tinfo.jobID) = none :=
            Option.not_isSome_iff_eq_none.1 fun h => hsaves (.inr h)
          have hattach : ∃ err, attachCaptions (z.put (newID (.transcription tinfo))
              (tinfo.post callID (post.threadID tinfo.postID)))
              (z.recPostOf postID tinfo.jobID)
              (toClientCaptions tinfo.transcriptions) = .error err := by
            unfold attachCaptions Posts.getPost
            rw [if_pos hne, Posts.put_of_ne _ _ (hr.recPost hboth tinfo rfl), hmissing]
            exact ⟨_, rfl⟩
          obtain ⟨err, herr⟩ := hattach
          rw [hrecPost] at herr
          unfold process handleBotPostTranscriptions
          simp only [hvalid, hget, htr, hkept, hrec, herr]

theorem prop_process_transcription (hr : Ready newID z postID (.transcription tinfo))
    (hvalid : tinfo.isValid = none) (hid : id ≠ newID (.transcription tinfo)) :
    (process newID callID z (.transcription tinfo)).prop id key =
      if z.HasBoth postID ∧ z.Saves postID tinfo.jobID then
        if id = postID then
          if key = "transcriptions" then
            note (z.prop id key) tinfo.jobID (tinfo.file 0)
              (newID (.transcription tinfo))
          else z.prop id key
        else if id = z.recPostOf postID tinfo.jobID ∧
            z.recPostOf postID tinfo.jobID ≠ "" ∧
            key = "captions" then some (toClientCaptions tinfo.transcriptions)
        else z.prop id key
      else z.prop id key := by
  obtain ⟨post, hpost⟩ := Option.isSome_iff_exists.1 hr.post
  obtain ⟨hnot, heq⟩ | ⟨hsaved, z', heq, hprops, -⟩ :=
    process_transcription hr hvalid hpost
  · rw [if_neg hnot, heq, Posts.prop_put_of_ne _ _ hid]
  · rw [if_pos hsaved, heq]
    by_cases hcall : id = postID
    · rw [if_pos hcall, hcall, Posts.prop_put_self]
      by_cases hkey : key = "transcriptions"
      · rw [if_pos hkey, hkey, post.addProp_self, Posts.prop_of_eq hpost]
        have hsome : (Any.asMap (post.props "transcriptions")).isSome := by
          have hboth := hsaved.1.2
          rwa [Posts.prop_of_eq hpost] at hboth
        obtain ⟨transcriptions, htr⟩ := Option.isSome_iff_exists.1 hsome
        unfold note
        rw [htr]
        rfl
      · rw [if_neg hkey, Posts.prop_of_eq hpost]
        exact post.addProp_of_ne _ hkey
    · rw [if_neg hcall, Posts.prop_put_of_ne _ _ hcall, hprops,
        Posts.prop_put_of_ne _ _ hid]

theorem isSome_process_transcription (hr : Ready newID z postID (.transcription tinfo))
    (hvalid : tinfo.isValid = none) (id : String) :
    (process newID callID z (.transcription tinfo) id).isSome =
      ((z id).isSome || id == newID (.transcription tinfo)) := by
  obtain ⟨post, hpost⟩ := Option.isSome_iff_exists.1 hr.post
  have hput : ((z.put (newID (.transcription tinfo))
      (tinfo.post callID (post.threadID tinfo.postID))) id).isSome =
        ((z id).isSome || id == newID (.transcription tinfo)) := by
    by_cases hid : id = newID (.transcription tinfo)
    · rw [hid, Posts.put_self, beq_self_eq_true, Bool.or_true]
      rfl
    · rw [Posts.put_of_ne _ _ hid, beq_eq_false_iff_ne.2 hid, Bool.or_false]
  obtain ⟨-, heq⟩ | ⟨-, z', heq, -, hsome⟩ := process_transcription hr hvalid hpost
  · rw [heq]
    exact hput
  · rw [heq]
    by_cases hcall : id = postID
    · rw [hcall, Posts.put_self, hpost]
      rfl
    · rw [Posts.put_of_ne _ _ hcall, hsome]
      exact hput

/-- The post of a transcription has its captions. -/
theorem captions_process_transcription
    (hr : Ready newID z postID (.transcription tinfo)) (hvalid : tinfo.isValid = none) :
    (process newID callID z (.transcription tinfo)).prop (newID (.transcription tinfo))
      "captions" = some (toClientCaptions tinfo.transcriptions) := by
  obtain ⟨post, hpost⟩ := Option.isSome_iff_exists.1 hr.post
  obtain ⟨-, heq⟩ | ⟨-, z', heq, hprops, -⟩ := process_transcription hr hvalid hpost
  · rw [heq, Posts.prop_put_self]
    rfl
  · rw [heq, Posts.prop_put_of_ne _ _ hr.fresh, hprops]
    split
    · rfl
    · rw [Posts.prop_put_self]
      rfl

/-! ### Any request -/

theorem prop_recordings_process (hr : Ready newID z postID b) :
    (process newID callID z b).prop postID "recordings" =
      onRecordings newID z postID (z.prop postID "recordings") b := by
  by_cases hvalid : b.isValid = none
  · cases b with
    | recording info =>
        rw [prop_process_recording hr hvalid hr.fresh.symm, if_pos ⟨rfl, rfl⟩]
        unfold onRecordings
        by_cases hhas : z.HasRecordings postID
        · exact (if_pos ⟨hvalid, hhas⟩).symm
        · have hnone : Any.asMap (z.prop postID "recordings") = none :=
            Option.not_isSome_iff_eq_none.1 hhas
          refine Eq.trans ?_ (if_neg fun h => hhas h.2).symm
          unfold note
          rw [hnone]
    | transcription info =>
        rw [prop_process_transcription hr hvalid hr.fresh.symm, if_pos rfl,
          if_neg (show ¬ "recordings" = "transcriptions" by decide), ite_self]
        rfl
  · rw [process_of_rejected hvalid]
    cases b with
    | recording info => exact (if_neg fun h => hvalid h.1).symm
    | transcription info => rfl

theorem prop_transcriptions_process (hr : Ready newID z postID b) :
    (process newID callID z b).prop postID "transcriptions" =
      onTranscriptions newID z postID (z.prop postID "transcriptions") b := by
  by_cases hvalid : b.isValid = none
  · cases b with
    | recording info =>
        rw [prop_process_recording hr hvalid hr.fresh.symm,
          if_neg fun h => absurd h.2 (by decide)]
        rfl
    | transcription info =>
        rw [prop_process_transcription hr hvalid hr.fresh.symm, if_pos rfl, if_pos rfl]
        unfold onTranscriptions
        by_cases hsaves : z.HasBoth postID ∧ z.Saves postID info.jobID
        · exact (if_pos hsaves).trans (if_pos ⟨hvalid, hsaves⟩).symm
        · exact (if_neg hsaves).trans (if_neg fun h => hsaves h.2).symm
  · rw [process_of_rejected hvalid]
    cases b with
    | recording info => rfl
    | transcription info => exact (if_neg fun h => hvalid h.1).symm

theorem prop_captions_process (hr : Ready newID z postID b) (id : String) :
    (process newID callID z b).prop id "captions" =
      onCaptions newID z postID id (z.prop id "captions") b := by
  unfold onCaptions
  by_cases hvalid : b.isValid = none
  · cases b with
    | recording info =>
        by_cases hid : id = newID (.recording info)
        · have hwrites : captionsFor newID z postID id (.recording info) = some none :=
            if_pos ⟨hvalid, hid⟩
          rw [hwrites, hid, captions_process_recording hr hvalid]
          rfl
        · have hwrites : captionsFor newID z postID id (.recording info) = none :=
            if_neg fun h => hid h.2
          rw [hwrites, prop_process_recording hr hvalid hid,
            if_neg fun h => absurd h.2 (by decide)]
          rfl
    | transcription info =>
        by_cases hid : id = newID (.transcription info)
        · have hwrites : captionsFor newID z postID id (.transcription info) =
              some (some (toClientCaptions info.transcriptions)) :=
            if_pos ⟨hvalid, .inl hid⟩
          rw [hwrites, hid, captions_process_transcription hr hvalid]
          rfl
        · rw [prop_process_transcription hr hvalid hid]
          by_cases hattach : z.HasBoth postID ∧ z.AttachesTo postID info.jobID id
          · have hwrites : captionsFor newID z postID id (.transcription info) =
                some (some (toClientCaptions info.transcriptions)) :=
              if_pos ⟨hvalid, .inr hattach⟩
            obtain ⟨hboth, hrecPost, hne, hcall, hsome⟩ := hattach
            have hsaves : z.Saves postID info.jobID := .inr (hrecPost.symm ▸ hsome)
            rw [hwrites, if_pos ⟨hboth, hsaves⟩, if_neg hcall,
              if_pos ⟨hrecPost.symm, hrecPost.symm ▸ hne, rfl⟩]
            rfl
          · have hwrites : captionsFor newID z postID id (.transcription info) = none :=
              if_neg fun h => h.2.elim hid hattach
            rw [hwrites, Option.getD_none]
            split
            · next hsaved =>
              split
              · rfl
              · next hcall =>
                apply if_neg
                intro h
                refine hattach ⟨hsaved.1, h.1.symm, h.1 ▸ h.2.1, hcall, ?_⟩
                exact h.1 ▸ hsaved.2.resolve_left h.2.1
            · rfl
  · have hwrites : captionsFor newID z postID id b = none := by
      cases b with
      | recording info => exact if_neg fun h => hvalid h.1
      | transcription info => exact if_neg fun h => hvalid h.1
    rw [process_of_rejected hvalid, hwrites]
    rfl

theorem isSome_process (hr : Ready newID z postID b) (h : (z id).isSome) :
    (process newID callID z b id).isSome := by
  by_cases hvalid : b.isValid = none
  · cases b with
    | recording info =>
        rw [isSome_process_recording hr hvalid, h]
        rfl
    | transcription info =>
        rw [isSome_process_transcription hr hvalid, h]
        rfl
  · rw [process_of_rejected hvalid]
    exact h

theorem isSome_process_of_ne (hr : Ready newID z postID b) (hid : id ≠ newID b) :
    (process newID callID z b id).isSome = (z id).isSome := by
  by_cases hvalid : b.isValid = none
  · cases b with
    | recording info =>
        rw [isSome_process_recording hr hvalid, beq_eq_false_iff_ne.2 hid,
          Bool.or_false]
    | transcription info =>
        rw [isSome_process_transcription hr hvalid, beq_eq_false_iff_ne.2 hid,
          Bool.or_false]
  · rw [process_of_rejected hvalid]

end Process

end CallsPlugin.Ports
