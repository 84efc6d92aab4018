import Mathlib.Data.Rat.Defs
import Panakoes.Foundation.Table

/-! # The ingestion store

The items of uploads, with the transcript attributes that the transcription writes. The
updates have no condition, so that one of an absent item creates an item with nothing
else in it, which does not read as a record.
-/

namespace Panakoes.IngestionApi

/-- `TranscriptStatus`. -/
inductive TranscriptStatus where
  | pending
  | succeeded
  | failed
  deriving DecidableEq

/-- `TranscriptWordModel`. -/
structure TranscriptWord where
  text : String
  start : ℚ
  stop : ℚ

/-- `TranscriptSegmentModel`. -/
structure TranscriptSegment where
  text : String
  start : ℚ
  stop : ℚ
  words : List TranscriptWord

/-- `TranscriptModel`. -/
structure Transcript where
  text : String
  segments : List TranscriptSegment
  language : Option String
  durationSeconds : Option ℚ

/-- The attributes of a record that are written with the upload. -/
structure Upload where
  filename : String
  s3Key : String

/-- An item of the table. -/
structure IngestionItem where
  upload : Option Upload
  transcriptStatus : Option TranscriptStatus
  transcript : Option Transcript
  transcriptErrorMessage : Option String

/-- An item as an update finds it that is absent. -/
def IngestionItem.blank : IngestionItem := ⟨none, none, none, none⟩

/-- The keys of the table. -/
structure IngestionKey where
  userId : String
  ingestionId : String
  deriving DecidableEq

/-- The ingestion table. -/
abbrev Ingestions := Table IngestionKey IngestionItem

/-- What `IngestionStore.get` returns: a record, `None`, or the error of its validation. -/
inductive Fetched where
  | record (upload : Upload) (transcriptStatus : Option TranscriptStatus)
  | absent
  | invalid

namespace Ingestions

/-- `IngestionStore.get`, of which the named attributes are used. -/
def get (ingestions : Ingestions) (key : IngestionKey) : Fetched :=
  match ingestions.lookup key with
  | none => .absent
  | some ⟨none, _, _, _⟩ => .invalid
  | some ⟨some upload, status, _, _⟩ => .record upload status

/-- An update of the item. -/
def update (ingestions : Ingestions) (key : IngestionKey)
    (change : IngestionItem → IngestionItem) : Ingestions :=
  ingestions.insert key (change ((ingestions.lookup key).getD .blank))

/-- `set_transcript_pending`. -/
def setTranscriptPending (ingestions : Ingestions) (key : IngestionKey) : Ingestions :=
  ingestions.update key fun item =>
    { item with transcriptStatus := some .pending, transcriptErrorMessage := none }

/-- `set_transcript_succeeded`. -/
def setTranscriptSucceeded (ingestions : Ingestions) (key : IngestionKey)
    (transcript : Transcript) : Ingestions :=
  ingestions.update key fun item =>
    { item with
      transcriptStatus := some .succeeded
      transcript := some transcript
      transcriptErrorMessage := none }

/-- `set_transcript_failed`. -/
def setTranscriptFailed (ingestions : Ingestions) (key : IngestionKey) (errorMessage : String) :
    Ingestions :=
  ingestions.update key fun item =>
    { item with
      transcriptStatus := some .failed
      transcriptErrorMessage := some (errorMessage.take 500).toString }

/-- The status of an item. -/
def status (ingestions : Ingestions) (key : IngestionKey) : Option TranscriptStatus :=
  (ingestions.lookup key).bind IngestionItem.transcriptStatus

/-- The item is one that an upload has written. -/
def Recorded (ingestions : Ingestions) (key : IngestionKey) : Prop :=
  ∃ item upload, ingestions.lookup key = some item ∧ item.upload = some upload

variable {ingestions : Ingestions} {key : IngestionKey}

@[simp] theorem status_update (change : IngestionItem → IngestionItem) :
    (ingestions.update key change).status key =
      (change ((ingestions.lookup key).getD .blank)).transcriptStatus := by
  unfold status update
  rw [AList.lookup_insert]
  rfl

@[simp] theorem status_setTranscriptPending :
    (ingestions.setTranscriptPending key).status key = some .pending :=
  status_update _

@[simp] theorem status_setTranscriptSucceeded (transcript : Transcript) :
    (ingestions.setTranscriptSucceeded key transcript).status key = some .succeeded :=
  status_update _

@[simp] theorem status_setTranscriptFailed (errorMessage : String) :
    (ingestions.setTranscriptFailed key errorMessage).status key = some .failed :=
  status_update _

/-- What is read of an item that an upload has written. -/
theorem Recorded.get (recorded : ingestions.Recorded key) :
    ∃ upload, ingestions.get key = .record upload (ingestions.status key) := by
  obtain ⟨⟨_, status, transcript, errorMessage⟩, upload, held, rfl⟩ := recorded
  refine ⟨upload, ?_⟩
  unfold Ingestions.get Ingestions.status
  rw [held]
  rfl

/-- An update that leaves the upload keeps the item readable. -/
theorem Recorded.update (recorded : ingestions.Recorded key)
    {change : IngestionItem → IngestionItem}
    (leaves : ∀ item, (change item).upload = item.upload) :
    (ingestions.update key change).Recorded key := by
  obtain ⟨item, upload, held, uploaded⟩ := recorded
  refine ⟨change item, upload, ?_, (leaves item).trans uploaded⟩
  unfold Ingestions.update
  rw [AList.lookup_insert, held]
  rfl

end Ingestions

end Panakoes.IngestionApi
