import Panakoes.Foundation.CursorListing
import Panakoes.Foundation.DynamoValue
import Panakoes.Foundation.ModelFields

/-! # The notification store

The store of the notifications that have been sent: an item for each of them under its user, and a
listing from the newest on.
-/

namespace Panakoes.Notification

open CursorListing DynamoValue ModelFields

/-! ## The models -/

/-- `NotificationChannel`. -/
inductive NotificationChannel where
  | email
  | webhook
  deriving DecidableEq

/-- The text of a channel. -/
def NotificationChannel.text : NotificationChannel → String
  | .email => "email"
  | .webhook => "webhook"

/-- The channel with the text. -/
def NotificationChannel.ofText? (text : String) : Option NotificationChannel :=
  [NotificationChannel.email, .webhook].find? (·.text = text)

/-- `NotificationStatus`. -/
inductive NotificationStatus where
  | sent
  | failed
  deriving DecidableEq

/-- The text of a status. -/
def NotificationStatus.text : NotificationStatus → String
  | .sent => "sent"
  | .failed => "failed"

/-- The status with the text. -/
def NotificationStatus.ofText? (text : String) : Option NotificationStatus :=
  [NotificationStatus.sent, .failed].find? (·.text = text)

@[simp] theorem NotificationChannel.ofText?_text (channel : NotificationChannel) :
    NotificationChannel.ofText? channel.text = some channel := by
  cases channel <;> rfl

@[simp] theorem NotificationStatus.ofText?_text (status : NotificationStatus) :
    NotificationStatus.ofText? status.text = some status := by
  cases status <;> rfl

/-- `NotificationRecord`. -/
structure NotificationRecord where
  notificationId : String
  userId : String
  channel : NotificationChannel
  status : NotificationStatus
  target : String
  subject : Option String
  template : Option String
  error : Option String
  attempts : ℤ
  createdAt : ℚ

/-- What a read of records raises. -/
inductive ReadError where
  | validationError
  deriving DecidableEq

/-- The fields of the record, if each of them is valid. -/
def NotificationRecord.fields? (formats : Formats) (item : Item) : Option NotificationRecord := do
  let notificationId ← required str? item "notification_id"
  let userId ← required str? item "user_id"
  let channel ← required (literal? NotificationChannel.ofText?) item "channel"
  let status ← required (literal? NotificationStatus.ofText?) item "status"
  let target ← required str? item "target"
  let subject ← optional str? item "subject"
  let template ← optional str? item "template"
  let error ← optional str? item "error"
  let attempts ← defaulted formats.int item "attempts" 1
  let createdAt ← required formats.datetime item "created_at"
  return ⟨notificationId, userId, channel, status, target, subject, template, error, attempts, createdAt⟩

/-- `_user_pk`. -/
def userPk (userId : String) : String := "USER#" ++ userId

/-- `_notification_sk`. -/
def notificationSk (notificationId : String) : String := "NOTIFY#" ++ notificationId

/-- `_to_dynamo`. -/
def NotificationRecord.toDynamo (formats : Formats) (record : NotificationRecord) : Item :=
  [("pk", .str (userPk record.userId)), ("sk", .str (notificationSk record.notificationId)),
    ("notification_id", .str record.notificationId), ("user_id", .str record.userId),
    ("channel", .str record.channel.text), ("status", .str record.status.text),
    ("target", .str record.target), ("attempts", .int record.attempts),
    ("created_at", .str (formats.isoformat record.createdAt))] ++
    (record.subject.map fun subject => ("subject", PyValue.str subject)).toList ++
    (record.template.map fun template => ("template", PyValue.str template)).toList ++
    (record.error.map fun error => ("error", PyValue.str error)).toList

/-- `_from_dynamo`. -/
def NotificationRecord.fromDynamo (formats : Formats) (item : Item) :
    Except ReadError NotificationRecord :=
  match NotificationRecord.fields? formats (cleaned item) with
  | some record => .ok record
  | none => .error .validationError

/-- The attributes that a record may lack. -/
theorem NotificationRecord.lookup_toDynamo (formats : Formats) (record : NotificationRecord) :
    (record.toDynamo formats).lookup "subject" = record.subject.map .str ∧
      (record.toDynamo formats).lookup "template" = record.template.map .str ∧
      (record.toDynamo formats).lookup "error" = record.error.map .str := by
  obtain ⟨_, _, _, _, _, subject, template, error, _, _⟩ := record
  cases subject <;> cases template <;> cases error <;> exact ⟨rfl, rfl, rfl⟩

/-- What is stored of a record is read as a record with its ids. -/
theorem NotificationRecord.fromDynamo_stored {formats : Formats} {record : NotificationRecord}
    {item : Item} (stored : serializeItem (record.toDynamo formats) = .ok item) :
    ∃ found, NotificationRecord.fromDynamo formats item = .ok found ∧
      found.userId = record.userId ∧ found.notificationId = record.notificationId := by
  have returns : (serializeItem (record.toDynamo formats)).isOk = true := by rw [stored]; rfl
  have converted : PyValue.mapEntries (PyValue.orSelf serialize) (record.toDynamo formats) = item :=
    Except.ok.inj ((PyValue.traverseEntries_of_isOk returns).symm.trans stored)
  have lookup : ∀ name, (cleaned item).lookup name = ((record.toDynamo formats).lookup name).map
      fun value => intOfDecimal (value.map (PyValue.orSelf serialize)) := by
    intro name
    rw [lookup_cleaned, ← converted, PyValue.lookup_mapEntries, Option.map_map]
    rfl
  have attempts : defaulted formats.int (cleaned item) "attempts" 1 = some record.attempts := by
    have member : ("attempts", PyValue.int record.attempts) ∈ record.toDynamo formats := by
      simp [NotificationRecord.toDynamo]
    have short := isOk_serialize_int.mp ((PyValue.isOk_traverseEntries_iff _).mp returns _ member)
    have written : (cleaned item).lookup "attempts" = some (.int record.attempts) := by
      rw [← intOfDecimal_ofInt]
      exact (lookup "attempts").trans
        (congrArg (fun value => some (intOfDecimal value)) (PyValue.orSelf_of_ok (if_pos short)))
    rw [defaulted_of_lookup written, formats.int_int]
  obtain ⟨createdAt, created⟩ :=
    Option.isSome_iff_exists.mp (formats.datetime_isoformat record.createdAt)
  have optionals : ∀ {name : String} {value : Option String},
      (record.toDynamo formats).lookup name = value.map .str →
        optional str? (cleaned item) name = some value := by
    intro name value held
    have written := lookup name
    rw [held] at written
    cases value with
    | none => exact optional_of_missing written
    | some text => exact optional_of_lookup written fun same => nomatch same
  obtain ⟨subject, template, error⟩ := NotificationRecord.lookup_toDynamo formats record
  refine ⟨⟨record.notificationId, record.userId, record.channel, record.status, record.target,
    record.subject, record.template, record.error, record.attempts, createdAt⟩, ?_, rfl, rfl⟩
  have channel : required (literal? NotificationChannel.ofText?) (cleaned item) "channel" =
      some record.channel :=
    (required_of_lookup (lookup "channel")).trans (NotificationChannel.ofText?_text _)
  have status : required (literal? NotificationStatus.ofText?) (cleaned item) "status" =
      some record.status :=
    (required_of_lookup (lookup "status")).trans (NotificationStatus.ofText?_text _)
  have notificationId : required str? (cleaned item) "notification_id" =
    some record.notificationId := required_of_lookup (lookup "notification_id")
  have userId : required str? (cleaned item) "user_id" = some record.userId :=
    required_of_lookup (lookup "user_id")
  have target : required str? (cleaned item) "target" = some record.target :=
    required_of_lookup (lookup "target")
  rw [NotificationRecord.fromDynamo, NotificationRecord.fields?, notificationId, userId, channel,
    status, target, optionals subject, optionals template, optionals error, attempts,
    (required_of_lookup (lookup "created_at")).trans created]
  rfl

/-! ## The store -/

/-- The notification table: items by `pk` and `sk`. -/
abbrev NotificationTable := Table (String × String) Item

namespace NotificationStore

variable (formats : Formats) (table : NotificationTable)

/-- `NotificationStore.put`. -/
def put (record : NotificationRecord) : Except StoreError NotificationTable := do
  let stored ← serializeItem (record.toDynamo formats)
  return table.insert (userPk record.userId, notificationSk record.notificationId) stored

/-- The listing of notifications, from the newest on. -/
def listing : Listing Item ReadError NotificationRecord :=
  ⟨descending, "NOTIFY#", NotificationRecord.fromDynamo formats⟩

/-- `NotificationStore.list_for_user`, with the key at which the store stops. -/
def listForUser (userId : String) (cursor stop : Option String) :
    Except ReadError (List NotificationRecord × Option String) :=
  (listing formats).page table (userPk userId) cursor stop

end NotificationStore

end Panakoes.Notification
