import Mathlib.Logic.Function.Basic

/-!
# The metadata of jobs (`server/job_metadata.go`)

A call's post keeps in its properties `recordings` and `transcriptions` what the
jobs of the call have produced: for each job a map with the ids of a file, of a
post and of the job it belongs to.
-/

namespace CallsPlugin.Ports

/-- `any`, as far as properties of posts hold it. -/
inductive Any where
  | str (s : String)
  | list (values : List Any)
  | map (entries : String → Option Any)
  | other (text : String)

namespace Any

/-- `.(map[string]any)` -/
def asMap : Option Any → Option (String → Option Any)
  | some (.map entries) => some entries
  | _ => none

/-- `.(string)` -/
def asString : Option Any → Option String
  | some (.str s) => some s
  | _ => none

end Any

/-- `Post`, without its author and its text. -/
structure Post where
  rootID : String
  channelID : String
  type : String
  fileIDs : List String
  props : String → Option Any

/-- `AddProp` -/
def Post.addProp (post : Post) (key : String) (value : Any) : Post :=
  { post with props := Function.update post.props key (some value) }

/-- The posts of the server by their ids. -/
abbrev Posts := String → Option Post

/-- The posts with one that is stored under an id. -/
def Posts.put (posts : Posts) (id : String) (post : Post) : Posts :=
  Function.update posts id (some post)

/-- `jobMetadata` -/
structure JobMetadata where
  fileID : String := ""
  postID : String := ""
  recID : String := ""
  trID : String := ""

namespace JobMetadata

/-- An id is set unless it is empty. -/
def setID (m : String → Option Any) (key id : String) : String → Option Any :=
  if id ≠ "" then Function.update m key (some (.str id)) else m

/-- `toMap` -/
def toMap (jm : JobMetadata) : String → Option Any :=
  setID (setID (setID (setID (fun _ => none) "file_id" jm.fileID) "rec_id" jm.recID)
    "tr_id" jm.trID) "post_id" jm.postID

/-- `fromMap` -/
def fromMap (jm : JobMetadata) (data : Option Any) : JobMetadata :=
  match Any.asMap data with
  | none => jm
  | some m =>
      ⟨(Any.asString (m "file_id")).getD jm.fileID,
        (Any.asString (m "post_id")).getD jm.postID,
        (Any.asString (m "rec_id")).getD jm.recID,
          (Any.asString (m "tr_id")).getD jm.trID⟩

theorem setID_self (m : String → Option Any) (key id : String) (hm : m key = none) :
    (Any.asString (setID m key id key)).getD "" = id := by
  unfold setID
  split
  · rw [Function.update_self]
    rfl
  · next hid =>
    rw [hm]
    exact (not_not.1 hid).symm

theorem setID_of_ne (m : String → Option Any) {key key' : String} (id : String)
    (h : key' ≠ key) :
    setID m key id key' = m key' := by
  unfold setID
  split
  · exact Function.update_of_ne h _ _
  · rfl

/-- What was written is read back. -/
@[simp] theorem fromMap_toMap (jm : JobMetadata) :
    fromMap {} (some (.map jm.toMap)) = jm := by
  have hfile : (Any.asString (jm.toMap "file_id")).getD "" = jm.fileID := by
    unfold toMap
    rw [setID_of_ne _ _ (by decide), setID_of_ne _ _ (by decide),
      setID_of_ne _ _ (by decide)]
    exact setID_self _ _ _ rfl
  have hrec : (Any.asString (jm.toMap "rec_id")).getD "" = jm.recID := by
    unfold toMap
    rw [setID_of_ne _ _ (by decide), setID_of_ne _ _ (by decide)]
    exact setID_self _ _ _ (setID_of_ne _ _ (by decide))
  have htr : (Any.asString (jm.toMap "tr_id")).getD "" = jm.trID := by
    unfold toMap
    rw [setID_of_ne _ _ (by decide)]
    apply setID_self
    rw [setID_of_ne _ _ (by decide), setID_of_ne _ _ (by decide)]
  have hpost : (Any.asString (jm.toMap "post_id")).getD "" = jm.postID := by
    unfold toMap
    apply setID_self
    rw [setID_of_ne _ _ (by decide), setID_of_ne _ _ (by decide),
      setID_of_ne _ _ (by decide)]
  show JobMetadata.mk _ _ _ _ = jm
  rw [hfile, hpost, hrec, htr]

end JobMetadata

/-- A property with the metadata of a job, in `saveRecordingMetadata`. -/
def saveMetadata (prop : Option Any) (jobID : String) (jm : JobMetadata) : Any :=
  match Any.asMap prop with
  | none => .map (Function.update (fun _ => none) jobID (some (.map jm.toMap)))
  | some jobs => .map (Function.update jobs jobID (some (.map jm.toMap)))

/-- `saveRecordingMetadata`, once the call post is there. -/
def saveRecordingMetadata (post : Post) (recID trID : String) : Post :=
  let post := post.addProp "recordings"
    (saveMetadata (post.props "recordings") recID { trID := trID })
  if trID ≠ "" then
    post.addProp "transcriptions"
      (saveMetadata (post.props "transcriptions") trID { recID := recID })
  else post

end CallsPlugin.Ports
