import Panakoes.Foundation.ConditionalWrite
import Panakoes.Foundation.PyJson
import Panakoes.Foundation.Table

/-! # The storage of summaries

A summary is kept in two stores: its text is an object of S3, the rest an item of DynamoDB
that names the object. `write_summary` writes the object first, and what has been written stays
when the second write fails.
-/

namespace Panakoes.Summarization

open ConditionalWrite

/-- `Tier`. -/
inductive Tier where
  | haiku
  | sonnet
  deriving DecidableEq

/-- The text of a tier. -/
def Tier.text : Tier → String
  | .haiku => "haiku"
  | .sonnet => "sonnet"

/-- The tier of a text that is one. -/
def tier? (text : String) : Option Tier := [Tier.haiku, .sonnet].find? (·.text = text)

@[simp] theorem tier?_text (tier : Tier) : tier? tier.text = some tier := by
  cases tier <;> decide

/-- `summary_key`. -/
def summaryKey (userId transcriptId : String) : String := s!"summaries/{userId}/{transcriptId}.md"

/-- `summary_pk`. -/
def summaryPk (userId : String) : String := s!"USER#{userId}"

/-- `summary_sk`. -/
def summarySk (transcriptId : String) : String := s!"SUMMARY#{transcriptId}"

/-- The arguments of `write_summary`, and the time that it reads, as a text. -/
structure SummaryCall where
  userId : String
  transcriptId : String
  summary : String
  tier : Tier
  model : String
  inputTokens : ℤ
  outputTokens : ℤ
  createdAt : String
  deriving DecidableEq

/-- An item of the summaries table. -/
structure SummaryItem where
  transcriptId : String
  userId : String
  tier : String
  model : String
  s3Key : String
  createdAt : String
  inputTokens : ℤ
  outputTokens : ℤ
  deriving DecidableEq

/-- `SummaryRecord`. Its time is kept as the text that `isoformat` gives for it. -/
structure SummaryRecord where
  transcriptId : String
  userId : String
  tier : Tier
  model : String
  summary : String
  s3Key : String
  createdAt : String
  inputTokens : ℤ
  outputTokens : ℤ
  deriving DecidableEq

/-- The item that a call writes. -/
def SummaryCall.item (call : SummaryCall) : SummaryItem where
  transcriptId := call.transcriptId
  userId := call.userId
  tier := call.tier.text
  model := call.model
  s3Key := summaryKey call.userId call.transcriptId
  createdAt := call.createdAt
  inputTokens := call.inputTokens
  outputTokens := call.outputTokens

/-- The record that a call returns. -/
def SummaryCall.record (call : SummaryCall) : SummaryRecord where
  transcriptId := call.transcriptId
  userId := call.userId
  tier := call.tier
  model := call.model
  summary := call.summary
  s3Key := summaryKey call.userId call.transcriptId
  createdAt := call.createdAt
  inputTokens := call.inputTokens
  outputTokens := call.outputTokens

/-- The attributes of an item. -/
def SummaryItem.attributes (item : SummaryItem) : List (String × PyJson) :=
  [("pk", .str (summaryPk item.userId)), ("sk", .str (summarySk item.transcriptId)),
    ("transcript_id", .str item.transcriptId), ("user_id", .str item.userId),
    ("tier", .str item.tier), ("model", .str item.model), ("s3_key", .str item.s3Key),
    ("created_at", .str item.createdAt), ("input_tokens", .int item.inputTokens),
    ("output_tokens", .int item.outputTokens)]

/-- What the calls raise. -/
inductive Raised where
  | clientError
  | valueError
  deriving DecidableEq

/-- `_record_from_item`, with the text of the object that it reads. -/
def recordFromItem (item : SummaryItem) (summaryText : String) : Except Raised SummaryRecord :=
  match tier? item.tier with
  | none => .error .valueError
  | some tier =>
      .ok {
        transcriptId := item.transcriptId
        userId := item.userId
        tier := tier
        model := item.model
        summary := summaryText
        s3Key := item.s3Key
        createdAt := item.createdAt
        inputTokens := item.inputTokens
        outputTokens := item.outputTokens }

/-- The bucket of summaries, and the summaries table. -/
structure Storage where
  objects : Table String String
  items : Table (String × String) SummaryItem

/-- `write_summary`: the storage it leaves, and the record that it returns. -/
def writeSummary (storage : Storage) (call : SummaryCall) (object item : Fault) :
    Storage × Except Raised SummaryRecord :=
  let objects := put object storage.objects
    (storage.objects.insert (summaryKey call.userId call.transcriptId) call.summary)
  if objects.reply = .ok then
    let items := put item storage.items
      (storage.items.insert (summaryPk call.userId, summarySk call.transcriptId) call.item)
    (⟨objects.table, items.table⟩,
      if items.reply = .ok then .ok call.record else .error .clientError)
  else ({ storage with objects := objects.table }, .error .clientError)

/-- What a call writes is read back, when its text is read with its item. -/
theorem recordFromItem_item (call : SummaryCall) :
    recordFromItem call.item call.summary = .ok call.record := by
  unfold recordFromItem
  have known : tier? call.item.tier = some call.tier := tier?_text call.tier
  rw [known]
  rfl

/-- A write that is answered has been applied. -/
theorem table_of_reply_ok {τ : Type*} {fault : Fault} {table updated : τ}
    (ok : (put fault table updated).reply = .ok) : (put fault table updated).table = updated := by
  cases fault with
  | none | retried => rfl
  | lost | unacked => cases ok

/-- The item of a call that returns is in the table. -/
theorem lookup_writeSummary {storage : Storage} {call : SummaryCall} {object item : Fault}
    {record : SummaryRecord} (stored : (writeSummary storage call object item).2 = .ok record) :
    (writeSummary storage call object item).1.items.lookup
      (summaryPk call.userId, summarySk call.transcriptId) = some call.item := by
  unfold writeSummary at stored ⊢
  dsimp only at stored ⊢
  split at stored
  · rename_i objectPut
    rw [if_pos objectPut]
    split at stored
    · rename_i itemPut
      dsimp only
      rw [table_of_reply_ok itemPut]
      exact AList.lookup_insert _
    · cases stored
  · cases stored

end Panakoes.Summarization
