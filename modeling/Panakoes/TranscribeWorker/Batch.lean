import Panakoes.EventRouter.Batch
import Panakoes.EventRouter.Handler
import Panakoes.Foundation.JsonPrefix
import Panakoes.TranscribeWorker.RateLimitRetry

/-! # The messages of a batch

The worker handles the messages of a batch one after another. A message raises when its body has a
bucket or an object that is neither an object nor falsy, and when the row that it names is not one of
a record; the messages behind it are then not handled.
-/

/-! ## The body of a message

What the worker reads of the body of a message: the bucket and the key of an upload, from an
event of EventBridge or from a notification of S3, of which the first record is read.
-/

/-! ## Object keys in the worker

The worker's copy of the parser of object keys. The two copies read every key alike.
-/

namespace Panakoes.TranscribeWorker

open EventRouter (cut)

/-- `ParsedKey`. -/
structure ParsedKey where
  userId : String
  ingestionId : String
  filename : String
  deriving DecidableEq

/-- `parse_object_key`. -/
def parseObjectKey (rawKey : String) : Option ParsedKey := do
  let decoded := PercentCoding.unquotePlus rawKey.toList
  let rest ← decoded.dropPrefix? "audio/".toList
  let (userId, rest) ← cut rest
  let (ingestionId, filename) ← cut rest
  if userId = [] ∨ ingestionId = [] ∨ filename = [] then none
  else some ⟨String.ofList userId, String.ofList ingestionId, String.ofList filename⟩

/-- What the event router has read, as the worker keeps it. -/
def ParsedKey.ofRouter (parsed : EventRouter.ParsedKey) : ParsedKey :=
  ⟨parsed.userId, parsed.ingestionId, parsed.filename⟩

/-- The two parsers agree. -/
theorem parseObjectKey_eq (rawKey : String) :
    parseObjectKey rawKey = (EventRouter.parseObjectKey rawKey).map ParsedKey.ofRouter := by
  unfold parseObjectKey EventRouter.parseObjectKey
  simp only [Option.bind_eq_bind, Option.map_bind, Function.comp_def]
  refine Option.bind_congr fun rest _ => Option.bind_congr fun first _ => ?_
  refine Option.bind_congr fun second _ => ?_
  split
  · rfl
  · rfl

end Panakoes.TranscribeWorker

namespace Panakoes.TranscribeWorker

open EventRouter (member)

/-- The bucket and the key of an upload. -/
structure S3Info where
  bucket : String
  key : String
  deriving DecidableEq

/-- The bucket and the key, when both are strings. -/
def infoOf : PyJson → PyJson → Option S3Info
  | .str bucket, .str key => some ⟨bucket, key⟩
  | _, _ => none

/-- The part of `_extract_s3_event_from_sqs_body` behind `json.loads`. -/
def extractS3Event (payload : PyJson) : Except PyError (Option S3Info) :=
  match payload with
  | .dict payload =>
      match PyJson.get payload "source", PyJson.get payload "detail" with
      | .str "aws.s3", .dict detail => do
          let bucket ← member detail "bucket" "name"
          let key ← member detail "object" "key"
          return infoOf bucket key
      | _, _ =>
          match PyJson.get payload "Records" with
          | .list (.dict first :: _) =>
              match PyJson.get first "s3" with
              | .dict s3 => do
                  let bucket ← member s3 "bucket" "name"
                  let key ← member s3 "object" "key"
                  return infoOf bucket key
              | _ => .ok none
          | _ => .ok none
  | _ => .ok none

/-- `_extract_s3_event_from_sqs_body`. -/
def extractS3EventFromSqsBody (read : JsonText.Numeral → Option ℚ) (body : String) :
    Except PyError (Option S3Info) :=
  match JsonText.loads read body with
  | .ok payload => extractS3Event payload
  | .error .jsonDecodeError | .error .valueError => .ok none
  | .error error => .error error

/-- What is read of an event of EventBridge. -/
theorem extractS3Event_detail {payload detail : List (String × PyJson)}
    (source : PyJson.get payload "source" = .str "aws.s3")
    (detailed : PyJson.get payload "detail" = .dict detail) :
    extractS3Event (.dict payload) = (do
      let bucket ← member detail "bucket" "name"
      let key ← member detail "object" "key"
      return infoOf bucket key) := by
  unfold extractS3Event
  dsimp only
  rw [source, detailed]
  rfl

end Panakoes.TranscribeWorker

namespace Panakoes.TranscribeWorker

open BatchLoop IngestionApi
open EventRouter (EventForm formOf notification ReadsUpload ReadsRecord)

variable (read : JsonText.Numeral → Option ℚ) (settings : Settings)

/-- The key of the row of an upload. -/
def ParsedKey.rowKey (parsed : ParsedKey) : IngestionKey := ⟨parsed.userId, parsed.ingestionId⟩

/-- The upload that `process_record` reads of a message, if it does not drop the message. -/
def uploadOf (entries : List (String × PyJson)) : Except PyError (Option ParsedKey) :=
  match PyJson.getD entries "body" (.str "") with
  | .str body =>
      if body = "" then .ok none
      else
        (extractS3EventFromSqsBody read body).map fun found =>
          found.bind fun info =>
            if info.bucket = settings.audioUploadsBucket then parseObjectKey info.key else none
  | _ => .ok none

/-- The calls for a message, those to the table succeeding. -/
def Calls.tableAnswered (calls : Calls) : Calls := { calls with recordRead := true, mark := .none }

/-- `_dispatch`, whose message only lends its identifier to the result. -/
def dispatchAs (messageId : PyJson) (store : Store) (parsed : ParsedKey) (calls : Calls) :
    Except PyError (Store × Option PyJson) :=
  match dispatch settings store ⟨"message", parsed.rowKey, by decide⟩ calls with
  | (store, .returned failed) => .ok (store, failed.map fun _ => messageId)
  | (_, .raised) => .error .other

/-- `process_record`. The state has the number of messages that have been dispatched, and `calls`
says how the calls for each of them end. -/
def processRecord (calls : ℕ → Calls) (state : Store × ℕ) (entries : List (String × PyJson)) :
    Except PyError ((Store × ℕ) × Option PyJson) :=
  match uploadOf read settings entries with
  | .error error => .error error
  | .ok none => .ok (state, none)
  | .ok (some parsed) =>
      (dispatchAs settings (PyJson.getD entries "messageId" (.str "")) state.1 parsed
        (calls state.2).tableAnswered).map fun result => ((result.1, state.2 + 1), result.2)

/-- One round of `process`, with what it appends to `batchItemFailures`. -/
def processItem (calls : ℕ → Calls) (state : Store × ℕ) :
    PyJson → Except PyError ((Store × ℕ) × List PyJson)
  | .dict entries =>
      (processRecord read settings calls state entries).map fun result =>
        (result.1, (result.2.filter PyJson.truthy).toList)
  | _ => .ok (state, [])

/-- `event.get("Records") or []`, if it is a list. -/
def recordsOf (event : List (String × PyJson)) : List PyJson :=
  match PyJson.get event "Records" with
  | .list records => records
  | _ => []

/-- `TranscribeWorker.process`: its `batchItemFailures`. -/
def process (calls : ℕ → Calls) (state : Store × ℕ) (event : List (String × PyJson)) :
    Except PyError ((Store × ℕ) × List PyJson) :=
  (rounds (processItem read settings calls) state (recordsOf event)).map fun result =>
    (result.1, result.2.flatten)

/-- The worker, as a consumer of events. -/
def consumer (calls : ℕ → Calls) :
    Consumer (Store × ℕ) (List (String × PyJson)) (List PyJson) PyError where
  process := process read settings calls
  parts event := (recordsOf event).map notification
  combine := List.flatten

/-! ## The shape of a message -/

/-- A payload whose upload, if it has one, can be read. -/
def ReadsPayload : PyJson → Prop
  | .dict payload =>
      match formOf payload with
      | .eventBridge detail => ReadsUpload detail
      | .direct records => ∀ first ∈ records.head?, ReadsRecord first
      | .other => True
  | _ => True

/-- A message whose body can be read. -/
def ReadsMessage (entries : List (String × PyJson)) : Prop :=
  ∀ body payload, PyJson.getD entries "body" (.str "") = .str body →
    JsonText.loads read body = .ok payload → ReadsPayload payload

/-- A message whose body can be read, and which does not name a row without an upload. -/
def Readable (store : Store) : PyJson → Prop
  | .dict entries =>
      ReadsMessage read entries ∧
        ∀ parsed, uploadOf read settings entries = .ok (some parsed) →
          store.ingestions.get parsed.rowKey ≠ .invalid
  | _ => True

/-- What is read of one record of a notification. -/
def readRecord : PyJson → Except PyError (Option S3Info)
  | .dict entries =>
      match PyJson.get entries "s3" with
      | .dict s3 => do
          let bucket ← EventRouter.member s3 "bucket" "name"
          let key ← EventRouter.member s3 "object" "key"
          return infoOf bucket key
      | _ => .ok none
  | _ => .ok none

/-- What is read of a payload, by its form. -/
theorem extractS3Event_form (payload : List (String × PyJson)) :
    extractS3Event (.dict payload) =
      match formOf payload with
      | .eventBridge detail => do
          let bucket ← EventRouter.member detail "bucket" "name"
          let key ← EventRouter.member detail "object" "key"
          return infoOf bucket key
      | .direct records => (records.head?.map readRecord).getD (.ok none)
      | .other => .ok none := by
  unfold extractS3Event formOf
  dsimp only
  generalize PyJson.get payload "source" = source
  generalize PyJson.get payload "detail" = detail
  split
  · rfl
  · cases PyJson.get payload "Records" with
    | none | bool | int | float | str | dict => simp only
    | list records =>
        cases records with
        | nil => simp only [List.head?_nil, Option.map_none, Option.getD_none]
        | cons first _ =>
            cases first with
            | dict | none | bool | int | float | str | list =>
                simp only [List.head?_cons, Option.map_some, Option.getD_some]
                rfl

theorem isOk_readRecord_iff (record : PyJson) :
    (readRecord record).isOk = true ↔ ReadsRecord record := by
  rw [← EventRouter.isOk_recordKey_iff]
  unfold readRecord EventRouter.recordKey
  cases record with
  | dict entries =>
      dsimp only
      cases PyJson.get entries "s3" with
      | dict s3 =>
          dsimp only
          rw [EventRouter.isOk_readUpload_iff, EventRouter.isOk_readUpload_iff]
      | none | bool | int | float | str | list => rfl
  | none | bool | int | float | str | list => rfl

theorem isOk_extractS3Event_iff (payload : PyJson) :
    (extractS3Event payload).isOk = true ↔ ReadsPayload payload := by
  unfold ReadsPayload
  cases payload with
  | dict payload =>
      rw [extractS3Event_form]
      dsimp only
      cases formOf payload with
      | eventBridge detail => exact EventRouter.isOk_readUpload_iff _ _
      | direct records =>
          cases records with
          | nil => exact iff_of_true rfl fun first none => absurd none (Option.not_mem_none first)
          | cons first _ =>
              refine (isOk_readRecord_iff first).trans ⟨fun reads other same => ?_, fun reads => ?_⟩
              · cases same
                exact reads
              · exact reads first rfl
      | other => exact iff_of_true rfl trivial
  | none | bool | int | float | str | list => exact iff_of_true rfl trivial

theorem isOk_uploadOf_iff (entries : List (String × PyJson)) :
    (uploadOf read settings entries).isOk = true ↔ ReadsMessage read entries := by
  unfold uploadOf ReadsMessage
  cases PyJson.getD entries "body" (.str "") with
  | str body =>
      dsimp only
      split
      · rename_i empty
        subst empty
        refine iff_of_true rfl ?_
        intro _ payload same loaded
        cases same
        cases loaded
      · rw [Except.isOk_map]
        unfold extractS3EventFromSqsBody
        cases loaded : JsonText.loads read body with
        | ok payload =>
            refine (isOk_extractS3Event_iff payload).trans ⟨?_, fun reads => ?_⟩
            · intro reads _ _ same again
              cases same
              cases loaded.symm.trans again
              exact reads
            · exact reads body payload rfl loaded
        | error error =>
            have malformed : ∀ body' payload, PyJson.str body = .str body' →
                JsonText.loads read body' = .ok payload → ReadsPayload payload := by
              intro _ _ same again
              cases same
              cases loaded.symm.trans again
            rcases JsonText.loads_error loaded with rfl | rfl
            · exact iff_of_true rfl malformed
            · exact iff_of_true rfl malformed
  | none | bool | int | float | list | dict =>
      refine iff_of_true rfl fun _ _ same => PyJson.noConfusion same

/-! ## The rows that are not records -/

section Rows

/-- The same rows have no upload. -/
def SameRows (before after : Ingestions) : Prop :=
  ∀ key, after.get key = .invalid ↔ before.get key = .invalid

variable {before middle after : Ingestions} {key : IngestionKey}

theorem SameRows.refl (ingestions : Ingestions) : SameRows ingestions ingestions :=
  fun _ => Iff.rfl

theorem SameRows.trans (first : SameRows before middle) (second : SameRows middle after) :
    SameRows before after :=
  fun key => (second key).trans (first key)

/-- An update of a record leaves the rows without an upload. -/
theorem sameRows_update (recorded : before.Recorded key) {change : IngestionItem → IngestionItem}
    (leaves : ∀ item, (change item).upload = item.upload) :
    SameRows before (before.update key change) := by
  intro other
  by_cases same : other = key
  · subst same
    obtain ⟨_, first⟩ := recorded.get
    obtain ⟨_, second⟩ := (recorded.update leaves).get
    rw [first, second]
    exact iff_of_false Fetched.noConfusion Fetched.noConfusion
  · unfold Ingestions.get Ingestions.update
    rw [AList.lookup_insert_ne same]

theorem sameRows_putIngestions (fault : ConditionalWrite.Fault) {updated : Ingestions}
    (same : SameRows before updated) : SameRows before (putIngestions fault before updated).1 := by
  rw [putIngestions_table]
  split
  · exact SameRows.refl before
  · exact same

theorem sameRows_transcribeIngestion (recorded : before.Recorded key) (calls : TranscriptionCalls) :
    SameRows before (transcribeIngestion before key calls).1 := by
  unfold transcribeIngestion
  split
  · exact SameRows.refl before
  · split
    · exact SameRows.refl before
    · exact SameRows.refl before
    · split
      · exact sameRows_putIngestions _ (sameRows_update recorded fun _ => rfl)
      · split
        · exact sameRows_putIngestions _ (sameRows_update recorded fun _ => rfl)
        · exact sameRows_putIngestions _ (sameRows_update recorded fun _ => rfl)

variable {settings} {store : Store} {message : Message} {calls : Calls}

theorem sameRows_dispatchTranscription (recorded : store.ingestions.Recorded message.key)
    (environment : BackendEnvironment) (transcription : TranscriptionCalls) :
    SameRows store.ingestions
      (dispatchTranscription store message environment transcription).1.ingestions := by
  have transcribed := sameRows_transcribeIngestion recorded transcription
  unfold dispatchTranscription
  cases getTranscriber environment with
  | some error =>
      dsimp only
      split <;> exact SameRows.refl _
  | none =>
      dsimp only
      split
      · split <;> exact transcribed
      · exact transcribed

theorem sameRows_markAndDispatch (recorded : store.ingestions.Recorded message.key)
    (upload : Upload) :
    SameRows store.ingestions
      (markAndDispatch settings store message upload calls).1.ingestions := by
  have kept : (putIngestions calls.mark store.ingestions
      (store.ingestions.setTranscriptPending message.key)).1.Recorded message.key :=
    putIngestions_recorded recorded (recorded.update fun _ => rfl)
  have marked : SameRows store.ingestions (putIngestions calls.mark store.ingestions
      (store.ingestions.setTranscriptPending message.key)).1 :=
    sameRows_putIngestions _ (sameRows_update recorded fun _ => rfl)
  unfold markAndDispatch
  dsimp only
  split
  · exact marked
  · split
    · unfold dispatchBatch
      cases calls.submission with
      | returned | raised _ => exact marked
    · exact marked.trans (@sameRows_dispatchTranscription ⟨_, store.jobs⟩ message kept _ _)

variable (settings store message calls) in
/-- A dispatch leaves the rows without an upload. -/
theorem sameRows_dispatch :
    SameRows store.ingestions (dispatch settings store message calls).1.ingestions := by
  unfold dispatch
  split
  · exact SameRows.refl _
  · split
    · exact SameRows.refl _
    · exact SameRows.refl _
    · rename_i fetched
      split
      · exact SameRows.refl _
      · split
        · exact SameRows.refl _
        · exact sameRows_markAndDispatch (recorded_of_get fetched) _

/-- The handing over of a record does not raise once the record is marked. -/
theorem markAndDispatch_tableAnswered (upload : Upload) :
    (markAndDispatch settings store message upload calls.tableAnswered).2 ≠ .raised := by
  unfold markAndDispatch Calls.tableAnswered putIngestions ConditionalWrite.put
  dsimp only
  rw [if_pos rfl]
  dsimp only
  split
  · unfold dispatchBatch
    cases calls.submission with
    | returned | raised _ => exact Dispatched.noConfusion
  · unfold dispatchTranscription
    dsimp only
    split
    · split <;> exact Dispatched.noConfusion
    · exact Dispatched.noConfusion

variable (settings store message calls) in
/-- With the calls to the table succeeding, a dispatch raises on a row without an upload. -/
theorem dispatch_tableAnswered_eq_raised_iff :
    (dispatch settings store message calls.tableAnswered).2 = .raised ↔
      store.ingestions.get message.key = .invalid := by
  unfold dispatch Calls.tableAnswered
  dsimp only
  rw [if_neg Bool.noConfusion]
  cases store.ingestions.get message.key with
  | absent => exact iff_of_false Dispatched.noConfusion Fetched.noConfusion
  | invalid => exact iff_of_true rfl rfl
  | record upload status =>
      refine iff_of_false ?_ Fetched.noConfusion
      dsimp only
      split
      · exact Dispatched.noConfusion
      · split
        · exact Dispatched.noConfusion
        · exact markAndDispatch_tableAnswered upload

end Rows

/-! ## The messages of a batch, and each of them alone -/

variable {read settings} {calls : ℕ → Calls} {state : Store × ℕ} {event : List (String × PyJson)}

theorem isOk_dispatchAs_iff (messageId : PyJson) (store : Store) (parsed : ParsedKey)
    (calls : Calls) :
    (dispatchAs settings messageId store parsed calls.tableAnswered).isOk = true ↔
      store.ingestions.get parsed.rowKey ≠ .invalid := by
  have raises := dispatch_tableAnswered_eq_raised_iff settings store
    ⟨"message", parsed.rowKey, by decide⟩ calls
  refine Iff.trans ?_ (not_congr raises)
  unfold dispatchAs
  split
  · rename_i ended
    rw [ended]
    exact iff_of_true rfl Dispatched.noConfusion
  · rename_i ended
    rw [ended]
    exact iff_of_false Bool.false_ne_true (not_not_intro rfl)

/-- A message raises unless it can be read. -/
theorem isOk_processItem_iff (record : PyJson) :
    (processItem read settings calls state record).isOk = true ↔
      Readable read settings state.1 record := by
  cases record with
  | dict entries =>
      unfold processItem processRecord Readable
      dsimp only
      rw [Except.isOk_map, ← isOk_uploadOf_iff read settings entries]
      cases uploadOf read settings entries with
      | error error => exact iff_of_false Bool.false_ne_true fun reads => Bool.false_ne_true reads.1
      | ok found =>
          refine Iff.trans ?_ (and_iff_right rfl).symm
          cases found with
          | none => exact iff_of_true rfl fun parsed none => by cases none
          | some parsed =>
              dsimp only
              rw [Except.isOk_map, isOk_dispatchAs_iff]
              constructor
              · intro recorded _ same
                cases same
                exact recorded
              · exact fun recorded => recorded parsed rfl
  | none | bool | int | float | str | list => exact iff_of_true rfl trivial

/-- A message leaves the rows without an upload. -/
theorem sameRows_processItem {record : PyJson} {next : Store × ℕ} {output : List PyJson}
    (handled : processItem read settings calls state record = .ok (next, output)) :
    SameRows state.1.ingestions next.1.ingestions := by
  cases record with
  | dict entries =>
      unfold processItem processRecord at handled
      obtain ⟨result, ran, same⟩ := Except.map_eq_ok.mp handled
      cases same
      split at ran
      · cases ran
      · cases ran
        exact SameRows.refl _
      · rename_i parsed _
        obtain ⟨dispatched, sent, same⟩ := Except.map_eq_ok.mp ran
        cases same
        unfold dispatchAs at sent
        split at sent
        · rename_i store failed ended
          cases sent
          have kept := sameRows_dispatch settings state.1 ⟨"message", parsed.rowKey, by decide⟩
            (calls state.2).tableAnswered
          rw [ended] at kept
          exact kept
        · cases sent
  | none | bool | int | float | str | list =>
      cases handled
      exact SameRows.refl _

/-- What can be read does not change with a batch. -/
theorem readable_congr {first second : Store}
    (same : SameRows first.ingestions second.ingestions) (record : PyJson) :
    Readable read settings second record ↔ Readable read settings first record := by
  cases record with
  | dict entries =>
      exact and_congr_right fun _ => forall₂_congr fun parsed _ => not_congr (same parsed.rowKey)
  | none | bool | int | float | str | list => exact Iff.rfl

/-- The handling of a message alone. -/
theorem process_notification (record : PyJson) :
    process read settings calls state (notification record) =
      processItem read settings calls state record := by
  have single : process read settings calls state (notification record) =
      (rounds (processItem read settings calls) state [record]).map fun result =>
        (result.1, result.2.flatten) := rfl
  rw [single, rounds]
  cases processItem read settings calls state record with
  | error error => rfl
  | ok result => exact congrArg (fun output => Except.ok (result.1, output)) (List.append_nil _)

/-- **The messages of a batch are isolated.** With the calls to the table succeeding, a batch is
handled as its messages one after another if and only if all of them can be read. -/
theorem isolates_iff : (consumer read settings calls).Isolates state event ↔
    ∀ record ∈ recordsOf event, Readable read settings state.1 record := by
  have alone : rounds (consumer read settings calls).process state
      ((consumer read settings calls).parts event) =
        rounds (processItem read settings calls) state (recordsOf event) := by
    refine (rounds_map _ _).trans ?_
    congr 1
    funext state record
    exact process_notification record
  rw [Consumer.isolates_iff_of_rounds alone rfl]
  refine isOk_rounds_iff (fun reached => SameRows state.1.ingestions reached.1.ingestions) ?_ ?_
    (SameRows.refl _)
  · intro reached record same
    rw [isOk_processItem_iff, readable_congr same]
  · intro reached record next output same handled
    exact same.trans (sameRows_processItem handled)

end Panakoes.TranscribeWorker
