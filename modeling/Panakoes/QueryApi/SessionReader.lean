import Panakoes.Foundation.DynamoItem
import Panakoes.Streaming.SessionsTable
import Panakoes.Summarization.SummaryStorage

/-! # Reading sessions in the query API

The query API reads the table of streaming sessions with a record and with statuses of its own. It
compares the owner of an item before it makes a record of it.
-/

namespace Panakoes.QueryApi

open DynamoItem Streaming

/-- `SessionStatus` of the query API. -/
inductive SessionStatus where
  | starting
  | active
  | ended
  | failed
  deriving DecidableEq

/-- The text of the status. -/
def SessionStatus.text : SessionStatus → String
  | .starting => "starting"
  | .active => "active"
  | .ended => "ended"
  | .failed => "failed"

/-- The status with the text. -/
def SessionStatus.ofText? (text : String) : Option SessionStatus :=
  [SessionStatus.starting, .active, .ended, .failed].find? (·.text = text)

/-- `SessionRecord` of the query API. -/
structure SessionRecord where
  sessionId : String
  userId : String
  status : SessionStatus
  createdAt : ℚ
  updatedAt : ℚ
  endedAt : Option ℚ

/-- A field `datetime | None` whose default is `None`. -/
def optionalDatetime? (pydantic : Pydantic) (item : Item) (name : String) : Option (Option ℚ) :=
  match item.lookup name with
  | none | some .none => some none
  | some value => (pydantic.datetime value).map some

/-- The fields of the record, if each of them is valid. -/
def SessionRecord.fields? (pydantic : Pydantic) (fields : Item) : Option SessionRecord := do
  let sessionId ← str? fields "session_id"
  let userId ← str? fields "user_id"
  let status ← (str? fields "status").bind SessionStatus.ofText?
  let createdAt ← (fields.lookup "created_at").bind pydantic.datetime
  let updatedAt ← (fields.lookup "updated_at").bind pydantic.datetime
  let endedAt ← optionalDatetime? pydantic fields "ended_at"
  return ⟨sessionId, userId, status, createdAt, updatedAt, endedAt⟩

/-- `SessionRecord.model_validate`. -/
def SessionRecord.modelValidate (pydantic : Pydantic) (fields : Item) :
    Except SessionReadError SessionRecord :=
  match SessionRecord.fields? pydantic fields with
  | some record => .ok record
  | none => .error .validationError

/-- `_from_dynamo`. -/
def SessionRecord.fromDynamo (pydantic : Pydantic) (item : Item) :
    Except SessionReadError SessionRecord :=
  SessionRecord.modelValidate pydantic (cleaned item)

theorem SessionStatus.text_of_ofText? {text : String} {status : SessionStatus}
    (known : SessionStatus.ofText? text = some status) : status.text = text := by
  have found := List.find?_some known
  exact of_decide_eq_true found

/-- A record has the texts of its item. -/
theorem texts_of_fromDynamo {pydantic : Pydantic} {item : Item} {record : SessionRecord}
    (read : SessionRecord.fromDynamo pydantic item = .ok record) :
    str? item "session_id" = some record.sessionId ∧ OwnedBy record.userId item ∧
      str? item "status" = some record.status.text := by
  unfold SessionRecord.fromDynamo SessionRecord.modelValidate at read
  split at read
  · rename_i found fields
    cases read
    unfold SessionRecord.fields? at fields
    simp only [Option.bind_eq_bind, Option.bind_eq_some_iff] at fields
    obtain ⟨_, id, _, owner, _, ⟨text, status, known⟩, _, -, _, -, _, -, same⟩ := fields
    cases same
    rw [str?_cleaned] at id owner status
    rw [SessionStatus.text_of_ofText? known]
    exact ⟨id, owner, status⟩
  · cases read

namespace SessionReader

variable (pydantic : Pydantic) (index : UserSessionsIndex) (table : SessionsTable)

/-- `SessionReader.get`. -/
def get (userId sessionId : String) : Except SessionReadError (Option SessionRecord) :=
  match table.lookup sessionId with
  | none => .ok none
  | some item =>
      if ¬ OwnedBy userId item then .ok none
      else (SessionRecord.fromDynamo pydantic item).map some

/-- The start key of `SessionReader.list_for_user`. -/
def startKey (userId : String) (cursor : Option String) :
    Except SessionReadError (Option IndexKey) :=
  match cursor with
  | none => .ok none
  | some sessionId =>
      match table.lookup sessionId with
      | none => .ok none
      | some anchor =>
          if OwnedBy userId anchor then
            -- without a time, the client refuses the start key
            match str? anchor "created_at" with
            | none => .error .clientError
            | some createdAt => .ok (some ⟨createdAt, sessionId⟩)
          else .ok none

/-- `SessionReader.list_for_user`, of which the query stops at `stop`. -/
def listForUser (userId : String) (cursor : Option String) (stop : Option IndexKey) :
    Except SessionReadError (List SessionRecord × Option String) := do
  let start ← startKey table userId cursor
  let items ← (index.query table userId start stop).mapM fun row =>
    SessionRecord.fromDynamo pydantic row.item
  return (items, stop.map IndexKey.sessionId)

end SessionReader

end Panakoes.QueryApi

/-! ## Reading summaries in the query API

The query API validates an item of the summaries table against a record of its own, with a
summary text, a time of update and other tiers than the summarization service writes. No item
of that service passes.
-/

namespace Panakoes.QueryApi

open ConditionalWrite DynamoItem Summarization

/-- `SummaryTier`. -/
inductive SummaryTier where
  | fast
  | deep
  deriving DecidableEq

/-- The text of a tier. -/
def SummaryTier.text : SummaryTier → String
  | .fast => "fast"
  | .deep => "deep"

/-- `SummaryRecord` of the query API. -/
structure SummaryRecord where
  transcriptId : String
  userId : String
  summaryText : String
  tier : SummaryTier
  model : String
  createdAt : ℚ
  updatedAt : ℚ

/-- What a read raises. -/
inductive ReadError where
  | validationError
  deriving DecidableEq

/-- `SummaryRecord.model_validate`. `datetime?` is how Pydantic reads a time. -/
def SummaryRecord.modelValidate (datetime? : PyJson → Option ℚ) (item : Item) :
    Except ReadError SummaryRecord :=
  let read : Option SummaryRecord := do
    let transcriptId ← str? item "transcript_id"
    let userId ← str? item "user_id"
    let summaryText ← str? item "summary_text"
    let tierText ← str? item "tier"
    let tier ← [SummaryTier.fast, .deep].find? (·.text = tierText)
    let model ← str? item "model"
    let createdAt ← (item.lookup "created_at").bind datetime?
    let updatedAt ← (item.lookup "updated_at").bind datetime?
    return ⟨transcriptId, userId, summaryText, tier, model, createdAt, updatedAt⟩
  match read with
  | some record => .ok record
  | none => .error .validationError

/-- `_from_dynamo`. -/
def SummaryRecord.fromDynamo (datetime? : PyJson → Option ℚ) (item : Item) :
    Except ReadError SummaryRecord :=
  SummaryRecord.modelValidate datetime? (cleaned item)

/-- `SummaryReader.get`. -/
def SummaryReader.get (datetime? : PyJson → Option ℚ)
    (items : Table (String × String) SummaryItem) (userId transcriptId : String) :
    Except ReadError (Option SummaryRecord) :=
  match items.lookup (summaryPk userId, summarySk transcriptId) with
  | none => .ok none
  | some item => (SummaryRecord.fromDynamo datetime? item.attributes).map some

/-- No item of the summarization service is a record of the query API. -/
theorem fromDynamo_attributes (datetime? : PyJson → Option ℚ) (item : SummaryItem) :
    SummaryRecord.fromDynamo datetime? item.attributes = .error .validationError := by
  have absent : str? (cleaned item.attributes) "summary_text" = none := by
    rw [str?_cleaned]
    rfl
  unfold SummaryRecord.fromDynamo SummaryRecord.modelValidate
  rw [absent]
  cases str? (cleaned item.attributes) "transcript_id" with
  | none => rfl
  | some transcriptId => cases str? (cleaned item.attributes) "user_id" <;> rfl

/-- **No stored summary is read.** Whatever is in the stores, and however Pydantic reads times:
for every summary that `write_summary` stores, the reader raises. -/
theorem stored_summary_unreadable (datetime? : PyJson → Option ℚ) (storage : Storage)
    (call : SummaryCall) (object item : Fault) {record : Summarization.SummaryRecord}
    (stored : (writeSummary storage call object item).2 = .ok record) :
    SummaryReader.get datetime? (writeSummary storage call object item).1.items call.userId
      call.transcriptId = .error .validationError := by
  unfold SummaryReader.get
  rw [lookup_writeSummary stored]
  dsimp only
  rw [fromDynamo_attributes]
  rfl

/-! ## One summary -/

def sampleCall : SummaryCall :=
  ⟨"user", "transcript", "A short text.", .haiku, "claude-haiku-4-5", 10, 5, "2026-05-11T00:00:00+00:00"⟩

/-- `datetime` reads the time of the sample. -/
def sampleDatetime : PyJson → Option ℚ
  | .str "2026-05-11T00:00:00+00:00" => some 1778457600
  | _ => none

theorem stored_summary_unreadable_sample :
    SummaryReader.get sampleDatetime (writeSummary ⟨∅, ∅⟩ sampleCall .none .none).1.items "user"
      "transcript" = .error .validationError :=
  stored_summary_unreadable sampleDatetime ⟨∅, ∅⟩ sampleCall .none .none rfl

/-- The summary is stored, and is not returned with its text and its tier. -/
theorem summary_not_read_back :
    ¬ ∀ (datetime? : PyJson → Option ℚ) (storage : Storage) (call : SummaryCall)
      (object item : Fault) (record : Summarization.SummaryRecord),
      (writeSummary storage call object item).2 = .ok record →
        ∃ read, SummaryReader.get datetime? (writeSummary storage call object item).1.items
          call.userId call.transcriptId = .ok (some read) ∧
            read.summaryText = call.summary ∧ read.tier.text = call.tier.text := by
  intro always
  obtain ⟨read, returned, -, -⟩ :=
    always sampleDatetime ⟨∅, ∅⟩ sampleCall .none .none sampleCall.record rfl
  unfold SummaryReader.get at returned
  rw [lookup_writeSummary rfl] at returned
  dsimp only at returned
  rw [fromDynamo_attributes] at returned
  cases returned

end Panakoes.QueryApi
