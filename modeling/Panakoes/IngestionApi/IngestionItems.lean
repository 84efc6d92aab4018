import Panakoes.Foundation.CursorListing
import Panakoes.Foundation.DynamoValue
import Panakoes.Foundation.ModelFields
import Panakoes.IngestionApi.IngestionStore

/-! # Items of the ingestion store

The ingestion store over the attributes of the items: what it writes of a record and of a transcript,
and what it makes of an item that it reads.
-/

namespace Panakoes.IngestionApi

open DynamoValue ModelFields

/-! ## The models -/

/-- `IngestionStatus`. -/
inductive IngestionStatus where
  | pending
  | uploaded
  | failed
  deriving DecidableEq

/-- The text of a status. -/
def IngestionStatus.text : IngestionStatus → String
  | .pending => "pending"
  | .uploaded => "uploaded"
  | .failed => "failed"

/-- The status with the text. -/
def IngestionStatus.ofText? (text : String) : Option IngestionStatus :=
  [IngestionStatus.pending, .uploaded, .failed].find? (·.text = text)

/-- The text of a status. -/
def TranscriptStatus.text : TranscriptStatus → String
  | .pending => "pending"
  | .succeeded => "succeeded"
  | .failed => "failed"

/-- The status with the text. -/
def TranscriptStatus.ofText? (text : String) : Option TranscriptStatus :=
  [TranscriptStatus.pending, .succeeded, .failed].find? (·.text = text)

@[simp] theorem IngestionStatus.ofText?_text (status : IngestionStatus) :
    IngestionStatus.ofText? status.text = some status := by
  cases status <;> rfl

@[simp] theorem TranscriptStatus.ofText?_text (status : TranscriptStatus) :
    TranscriptStatus.ofText? status.text = some status := by
  cases status <;> rfl

/-- `IngestionRecord`. The services read it with a model of transcripts each. -/
structure IngestionRecord (τ : Type) where
  ingestionId : String
  userId : String
  filename : String
  contentType : String
  sizeBytes : ℤ
  s3Key : String
  status : IngestionStatus
  createdAt : ℚ
  updatedAt : ℚ
  transcriptStatus : Option TranscriptStatus
  transcript : Option τ
  transcriptErrorMessage : Option String

/-- What a read of records raises. -/
inductive ReadError where
  | validationError
  | invalidOperation
  deriving DecidableEq

/-- `TranscriptWordModel.model_validate`. -/
def TranscriptWord.modelValidate (formats : Formats) : PyValue → Option TranscriptWord
  | .dict entries => do
      let text ← required str? entries "text"
      let start ← required formats.float entries "start"
      let stop ← required formats.float entries "end"
      return ⟨text, start, stop⟩
  | _ => none

/-- `TranscriptSegmentModel.model_validate`. -/
def TranscriptSegment.modelValidate (formats : Formats) : PyValue → Option TranscriptSegment
  | .dict entries => do
      let text ← required str? entries "text"
      let start ← required formats.float entries "start"
      let stop ← required formats.float entries "end"
      let words ← defaulted (list? (TranscriptWord.modelValidate formats)) entries "words" []
      return ⟨text, start, stop, words⟩
  | _ => none

/-- `TranscriptModel.model_validate`. -/
def Transcript.modelValidate (formats : Formats) : PyValue → Option Transcript
  | .dict entries => do
      let text ← required str? entries "text"
      let segments ← defaulted (list? (TranscriptSegment.modelValidate formats)) entries "segments" []
      let language ← optional str? entries "language"
      let durationSeconds ← optional formats.float entries "duration_seconds"
      return ⟨text, segments, language, durationSeconds⟩
  | _ => none

/-- The fields of the record, if each of them is valid. -/
def IngestionRecord.fields? {τ : Type} (formats : Formats) (transcript : PyValue → Option τ)
    (item : Item) : Option (IngestionRecord τ) := do
  let ingestionId ← required str? item "ingestion_id"
  let userId ← required str? item "user_id"
  let filename ← required str? item "filename"
  let contentType ← required str? item "content_type"
  let sizeBytes ← required formats.int item "size_bytes"
  let s3Key ← required str? item "s3_key"
  let status ← required (literal? IngestionStatus.ofText?) item "status"
  let createdAt ← required formats.datetime item "created_at"
  let updatedAt ← required formats.datetime item "updated_at"
  let transcriptStatus ← optional (literal? TranscriptStatus.ofText?) item "transcript_status"
  let found ← optional transcript item "transcript"
  let transcriptErrorMessage ← optional str? item "transcript_error_message"
  return ⟨ingestionId, userId, filename, contentType, sizeBytes, s3Key, status, createdAt, updatedAt,
    transcriptStatus, found, transcriptErrorMessage⟩

/-- `IngestionRecord.model_validate`. -/
def IngestionRecord.modelValidate {τ : Type} (formats : Formats) (transcript : PyValue → Option τ)
    (item : Item) : Except ReadError (IngestionRecord τ) :=
  match IngestionRecord.fields? formats transcript item with
  | some record => .ok record
  | none => .error .validationError

/-! ## What is written -/

/-- The dictionary of a word, with its times as numbers of some type. -/
def TranscriptWord.dump (number : ℚ → PyValue) (word : TranscriptWord) : PyValue :=
  .dict [("text", .str word.text), ("start", number word.start), ("end", number word.stop)]

/-- The dictionary of a segment. -/
def TranscriptSegment.dump (number : ℚ → PyValue) (segment : TranscriptSegment) : PyValue :=
  .dict [("text", .str segment.text), ("start", number segment.start), ("end", number segment.stop),
    ("words", .list (segment.words.map (·.dump number)))]

/-- The dictionary of a transcript. `model_dump(mode="json")` has floats for the times, and
`json.loads(model_dump_json(), parse_float=Decimal)` the decimals of their numerals. -/
def Transcript.dump (number : ℚ → PyValue) (transcript : Transcript) : PyValue :=
  .dict [("text", .str transcript.text),
    ("segments", .list (transcript.segments.map (·.dump number))),
    ("language", transcript.language.elim .none .str),
    ("duration_seconds", transcript.durationSeconds.elim .none number)]

/-- `_user_pk`. -/
def userPk (userId : String) : String := "USER#" ++ userId

/-- `_ingestion_sk`. -/
def ingestionSk (ingestionId : String) : String := "INGESTION#" ++ ingestionId

/-- `_to_dynamo`. -/
def IngestionRecord.toDynamo (formats : Formats) (record : IngestionRecord Transcript) : Item :=
  [("pk", .str (userPk record.userId)), ("sk", .str (ingestionSk record.ingestionId)),
    ("ingestion_id", .str record.ingestionId), ("user_id", .str record.userId),
    ("filename", .str record.filename), ("content_type", .str record.contentType),
    ("size_bytes", .int record.sizeBytes), ("s3_key", .str record.s3Key),
    ("status", .str record.status.text), ("created_at", .str (formats.isoformat record.createdAt)),
    ("updated_at", .str (formats.isoformat record.updatedAt))] ++
    (record.transcriptStatus.map fun status => ("transcript_status", PyValue.str status.text)).toList ++
    (record.transcript.map fun transcript =>
      ("transcript", transcript.dump fun time => .float (some time))).toList ++
    (record.transcriptErrorMessage.map fun message =>
      ("transcript_error_message", PyValue.str message)).toList

mutual

/-- `_strip_none`. -/
def stripNone : PyValue → PyValue
  | .list items => .list (stripNoneItems items)
  | .dict entries => .dict (stripNoneEntries entries)
  | value => value

/-- `_strip_none` of each item. -/
def stripNoneItems : List PyValue → List PyValue
  | [] => []
  | item :: rest => stripNone item :: stripNoneItems rest

/-- `_strip_none` of each entry that has a value. -/
def stripNoneEntries : List (String × PyValue) → List (String × PyValue)
  | [] => []
  | (_, .none) :: rest => stripNoneEntries rest
  | (key, value) :: rest => (key, stripNone value) :: stripNoneEntries rest

end

/-! ## What is read -/

/-- `_decimal_to_native` of a leaf. `value % 1` raises where the quotient has more than 28 digits. -/
def decimalToNative (formats : Formats) : PyValue → Except ReadError PyValue
  | .decimal decimal =>
      match decimal.rat with
      | some value =>
          if 10 ^ 28 ≤ |value| then .error .invalidOperation
          else if value.den = 1 then .ok (.int value.num)
          else .ok (.float (formats.nearest value))
      | none =>
          if decimal = .nan false then .ok (.float none) else .error .invalidOperation
  | value => .ok value

/-- `_from_dynamo`. -/
def IngestionRecord.fromDynamo (formats : Formats) (item : Item) :
    Except ReadError (IngestionRecord Transcript) := do
  let cleaned ← PyValue.traverseEntries (decimalToNative formats) item
  IngestionRecord.modelValidate formats (Transcript.modelValidate formats) cleaned

/-! ## The store -/

/-- The ingestion table: items by `pk` and `sk`. -/
abbrev IngestionTable := Table (String × String) Item

/-- The key of an item. -/
def IngestionKey.pair (key : IngestionKey) : String × String :=
  (userPk key.userId, ingestionSk key.ingestionId)

/-- An update of an item. It makes the item if there is none. -/
def updateItem (table : IngestionTable) (key : IngestionKey) (change : Item → Item) :
    IngestionTable :=
  table.insert key.pair
    (change ((table.lookup key.pair).getD [("pk", .str key.pair.1), ("sk", .str key.pair.2)]))

namespace IngestionStore

variable (formats : Formats) (table : IngestionTable)

/-- `IngestionStore.put`. -/
def put (record : IngestionRecord Transcript) : Except StoreError IngestionTable := do
  let stored ← serializeItem (record.toDynamo formats)
  return table.insert (IngestionKey.pair ⟨record.userId, record.ingestionId⟩) stored

/-- `IngestionStore.get`. -/
def get (userId ingestionId : String) : Except ReadError (Option (IngestionRecord Transcript)) :=
  match table.lookup (IngestionKey.pair ⟨userId, ingestionId⟩) with
  | none => .ok none
  | some item => (IngestionRecord.fromDynamo formats item).map some

/-- The listing of uploads. -/
def listing : CursorListing.Listing Item ReadError (IngestionRecord Transcript) :=
  ⟨CursorListing.ascending, "INGESTION#", IngestionRecord.fromDynamo formats⟩

/-- `IngestionStore.list_for_user`, with the key at which the store stops. -/
def listForUser (userId : String) (cursor stop : Option String) :
    Except ReadError (List (IngestionRecord Transcript) × Option String) :=
  (listing formats).page table (userPk userId) cursor stop

/-- What `IngestionStore.set_transcript_succeeded` sets. -/
def transcriptPayload (transcript : Transcript) : PyValue :=
  stripNone (transcript.dump fun time => .decimal (formats.json time))

/-- The change of `IngestionStore.set_transcript_succeeded`. -/
def succeededChange (payload : PyValue) (item : Item) : Item :=
  remove (set (set item "transcript_status" (.str "succeeded")) "transcript" payload)
    "transcript_error_message"

/-- `IngestionStore.set_transcript_succeeded`. -/
def setTranscriptSucceeded (key : IngestionKey) (transcript : Transcript) :
    Except StoreError IngestionTable := do
  let payload ← PyValue.traverse serialize (transcriptPayload formats transcript)
  return updateItem table key (succeededChange payload)

/-- The change of `IngestionStore.set_transcript_pending`. -/
def pendingChange (item : Item) : Item :=
  remove (set item "transcript_status" (.str "pending")) "transcript_error_message"

/-- The change of `IngestionStore.set_transcript_failed`. -/
def failedChange (errorMessage : String) (item : Item) : Item :=
  set (set item "transcript_status" (.str "failed")) "transcript_error_message"
    (.str (errorMessage.take 500).toString)

end IngestionStore

end Panakoes.IngestionApi
