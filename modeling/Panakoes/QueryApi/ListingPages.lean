import Panakoes.Notification.NotificationStore
import Panakoes.QueryApi.TranscriptRoundTrip

/-! # The pages of the three listings

The ingestion API and the query API list the uploads of a user, and the notification service what it
has sent. A client that follows the cursors of a listing is returned each record of the user once and
in order, wherever the table stops the pages. A cursor is any text; what it names is under the user.
-/

namespace Panakoes.QueryApi.ListingPages

open CursorListing DynamoValue ModelFields
open IngestionApi (IngestionRecord Transcript)
open Notification (NotificationRecord NotificationStore.listForUser NotificationStore.listing)

/-! ## The services -/

/-- The services with a listing. -/
inductive Service where
  | ingestionApi
  | notification
  | queryApi

namespace Service

/-- The records of the service. -/
def Record : Service → Type
  | .ingestionApi => IngestionRecord Transcript
  | .notification => NotificationRecord
  | .queryApi => IngestionRecord TranscriptModel

/-- What a read of the service raises. -/
def Error : Service → Type
  | .ingestionApi | .queryApi => IngestionApi.ReadError
  | .notification => Notification.ReadError

/-- The listing of the service. -/
def listing (formats : Formats) : (service : Service) → Listing Item service.Error service.Record
  | .ingestionApi => IngestionApi.IngestionStore.listing formats
  | .notification => NotificationStore.listing formats
  | .queryApi => IngestionReader.listing formats

/-- `list_for_user` of the service. -/
def listForUser (service : Service) (formats : Formats) (table : Table (String × String) Item)
    (userId : String) (cursor stop : Option String) :
    Except service.Error (List service.Record × Option String) :=
  match service with
  | .ingestionApi => IngestionApi.IngestionStore.listForUser formats table userId cursor stop
  | .notification => NotificationStore.listForUser formats table userId cursor stop
  | .queryApi => IngestionReader.listForUser formats table userId cursor stop

/-- The user of a record. -/
def userId : (service : Service) → service.Record → String
  | .ingestionApi => IngestionRecord.userId
  | .notification => NotificationRecord.userId
  | .queryApi => IngestionRecord.userId

/-- The id of a record. -/
def recordId : (service : Service) → service.Record → String
  | .ingestionApi => IngestionRecord.ingestionId
  | .notification => NotificationRecord.notificationId
  | .queryApi => IngestionRecord.ingestionId

end Service

/-- The sort key of a record. -/
def sortKey (formats : Formats) (service : Service) (record : service.Record) : String :=
  (service.listing formats).stem ++ service.recordId record

/-- The item is one that the service reads as a record of the user with the id. -/
def ReadsAs (formats : Formats) (service : Service) (userId recordId : String) (item : Item) : Prop :=
  ∃ record, (service.listing formats).decode item = .ok record ∧ service.userId record = userId ∧
    service.recordId record = recordId

/-- A table of records: what it holds at the key of a record is read as one. -/
structure RecordTable (formats : Formats) (service : Service) where
  items : Table (String × String) Item
  readable : ∀ userId recordId item,
    items.lookup (IngestionApi.userPk userId, (service.listing formats).stem ++ recordId) = some item →
      ReadsAs formats service userId recordId item

variable {formats : Formats} {service : Service}

/-- The record is one of the table. -/
def RecordTable.Holds (table : RecordTable formats service) (record : service.Record) : Prop :=
  ∃ userId recordId item,
    table.items.lookup (IngestionApi.userPk userId, (service.listing formats).stem ++ recordId) =
        some item ∧
      (service.listing formats).decode item = .ok record

/-! ## The writers make tables of records -/

/-- The table without a record. -/
def RecordTable.empty : RecordTable formats service where
  items := ∅
  readable _ _ _ held := nomatch held

/-- A record that is put. -/
def RecordTable.insert (table : RecordTable formats service) (userId recordId : String) (item : Item)
    (reads : ReadsAs formats service userId recordId item) : RecordTable formats service where
  items := table.items.insert
    (IngestionApi.userPk userId, (service.listing formats).stem ++ recordId) item
  readable other otherId found held := by
    rcases Table.lookup_insert_cases held with ⟨same, rfl⟩ | ⟨-, before⟩
    · obtain ⟨user, id⟩ := Prod.ext_iff.mp same
      cases (String.append_right_inj "USER#").mp user
      cases (String.append_right_inj _).mp id
      exact reads
    · exact table.readable other otherId found before

/-- The notification service puts what it reads. -/
theorem readsAs_notification {record : NotificationRecord} {item : Item}
    (stored : serializeItem (record.toDynamo formats) = .ok item) :
    ReadsAs formats .notification record.userId record.notificationId item :=
  NotificationRecord.fromDynamo_stored stored

/-- The query API reads an upload that has been put. -/
theorem readsAs_queryApi {record : IngestionRecord Transcript} {item : Item}
    (row : IngestionApi.Row formats record item) (missing : item.lookup "transcript" = none) :
    ReadsAs formats .queryApi record.userId record.ingestionId item := by
  have read : optional (TranscriptModel.modelValidate formats) (cleaned item) "transcript" =
      some none := by
    refine optional_of_missing ?_
    rw [lookup_cleaned, missing, Option.map_none]
  obtain ⟨found, fields, -, user, id⟩ := IngestionApi.fields?_of_row row
    (fun _ => lookup_cleaned) (fun _ => rfl) (intOfDecimal_ofInt record.sizeBytes) read
  exact ⟨found, IngestionApi.modelValidate_of_fields? fields, user, id⟩

/-- The ingestion API reads an upload that has been put, if it can compute with its size. -/
theorem readsAs_ingestionApi {record : IngestionRecord Transcript} {item : Item}
    (row : IngestionApi.Row formats record item) (missing : item.lookup "transcript" = none)
    (below : TranscriptRoundTrip.Below (.ofInt record.sizeBytes)) :
    ReadsAs formats .ingestionApi record.userId record.ingestionId item := by
  have small := @TranscriptRoundTrip.orSelf_decimalToNative_ofInt formats _ below
  have converts : (PyValue.traverseEntries (IngestionApi.decimalToNative formats) item).isOk =
      true := by
    refine (PyValue.isOk_traverseEntries_iff item).mpr fun entry member => ?_
    have other : entry.1 ≠ "transcript" := by
      have apart := List.lookup_eq_none_iff.mp missing entry member
      exact fun same => by simp [same] at apart
    rcases row.plain entry member other with ⟨-, same⟩ | ⟨text, same⟩
    · rw [same]
      exact (TranscriptRoundTrip.isOk_decimalToNative_iff (PyDecimal.rat_ofInt _)).mpr below
    · rw [same]
      rfl
  have lookup : ∀ name, (PyValue.mapEntries
      (PyValue.orSelf (IngestionApi.decimalToNative formats)) item).lookup name =
        (item.lookup name).map (PyValue.map (PyValue.orSelf (IngestionApi.decimalToNative formats))) :=
    PyValue.lookup_mapEntries item
  have read := @optional_of_missing _ (Transcript.modelValidate formats) _ _
    ((lookup "transcript").trans (congrArg _ missing))
  obtain ⟨found, fields, -, user, id⟩ := IngestionApi.fields?_of_row row lookup (fun _ => rfl) small read
  refine ⟨found, ?_, user, id⟩
  have decoded : IngestionRecord.fromDynamo formats item = .ok found := by
    rw [IngestionRecord.fromDynamo, PyValue.traverseEntries_of_isOk converts]
    exact IngestionApi.modelValidate_of_fields? fields
  exact decoded

/-! ## The law -/

theorem listForUser_eq_page (table : Table (String × String) Item) (userId : String) :
    service.listForUser formats table userId =
      (service.listing formats).page table (IngestionApi.userPk userId) := by
  cases service <;> rfl

/-- A row of a table of records is read as a record of the user with its key. -/
theorem readable_rows (table : RecordTable formats service) (userId : String) :
    ∀ row ∈ (service.listing formats).rows table.items (IngestionApi.userPk userId),
      ∃ record, (service.listing formats).decode row.2 = .ok record ∧
        service.userId record = userId ∧ sortKey formats service record = row.1 := by
  rintro ⟨name, item⟩ member
  obtain ⟨held, begins⟩ := Listing.mem_rows.mp member
  obtain ⟨recordId, begins⟩ := Option.isSome_iff_exists.mp begins
  obtain rfl := after?_eq_some.mp begins
  obtain ⟨record, decoded, user, id⟩ := table.readable userId recordId item held
  exact ⟨record, decoded, user, congrArg _ id⟩

/-- The records that the rows of a user are read as are those of the table that are the user's. -/
theorem exists_row_iff (table : RecordTable formats service) (userId : String)
    (record : service.Record) :
    (∃ row ∈ (service.listing formats).rows table.items (IngestionApi.userPk userId),
      (service.listing formats).decode row.2 = .ok record) ↔
        table.Holds record ∧ service.userId record = userId := by
  constructor
  · rintro ⟨⟨name, item⟩, member, decoded⟩
    obtain ⟨held, begins⟩ := Listing.mem_rows.mp member
    obtain ⟨recordId, begins⟩ := Option.isSome_iff_exists.mp begins
    obtain rfl := after?_eq_some.mp begins
    obtain ⟨found, same, user, -⟩ := table.readable userId recordId item held
    cases same.symm.trans decoded
    exact ⟨⟨userId, recordId, item, held, decoded⟩, user⟩
  · rintro ⟨⟨owner, recordId, item, held, decoded⟩, user⟩
    obtain ⟨found, same, owned, -⟩ := table.readable owner recordId item held
    cases same.symm.trans decoded
    cases owned.symm.trans user
    exact ⟨(_, item), Listing.mem_rows.mpr ⟨held, by simp⟩, decoded⟩

/-- **The listings.** Wherever the table stops its pages, a client that follows the cursors is
returned the records of the user, each of them once and in the order of the listing; and any cursor is
answered with records of the user only. -/
theorem follow_listForUser (formats : Formats) (service : Service)
    (table : RecordTable formats service) (userId : String) :
    (∀ limit ≥ 1, ∀ stops,
      (service.listing formats).Stops table.items (IngestionApi.userPk userId) limit none stops →
        ∃ records,
          follow (service.listForUser formats table.items userId) none stops = .ok records ∧
            (records.Pairwise fun first second => (service.listing formats).order.lt
              (sortKey formats service first) (sortKey formats service second)) ∧
            ∀ record, record ∈ records ↔ table.Holds record ∧ service.userId record = userId) ∧
      ∀ cursor stop, ∃ records next,
        service.listForUser formats table.items userId cursor stop = .ok (records, next) ∧
          ∀ record ∈ records, service.userId record = userId := by
  have readable : ∀ row ∈ (service.listing formats).rows table.items (IngestionApi.userPk userId),
      ∃ record, (service.listing formats).decode row.2 = .ok record ∧
        sortKey formats service record = row.1 := fun row member =>
    let ⟨record, decoded, _, key⟩ := readable_rows table userId row member
    ⟨record, decoded, key⟩
  rw [listForUser_eq_page]
  constructor
  · intro limit _ stops allowed
    obtain ⟨records, walked, sorted, all⟩ := Listing.exists_walk readable allowed
    exact ⟨records, walked, sorted, fun record =>
      (all record).trans (exists_row_iff table userId record)⟩
  · intro cursor stop
    obtain ⟨records, next, answered, rows⟩ := Listing.exists_page cursor stop readable
    exact ⟨records, next, answered, fun record member =>
      ((exists_row_iff table userId record).mp (rows record member)).2⟩

/-! ## One user -/

open TranscriptRoundTrip (sampleFormats sampleItem sampleItem_stored)

theorem readsAs_sampleItem : ReadsAs sampleFormats .queryApi "u-1" "i-1" sampleItem :=
  readsAs_queryApi (IngestionApi.row_of_put sampleItem_stored).1 rfl

/-- A table with one upload. -/
def sampleTable : RecordTable sampleFormats .queryApi :=
  RecordTable.empty.insert "u-1" "i-1" sampleItem readsAs_sampleItem

/-- An empty page, the page of the upload, and an empty page at the end. -/
theorem stops_sampleTable :
    (Service.queryApi.listing sampleFormats).Stops sampleTable.items (IngestionApi.userPk "u-1") 1 none
      ["INGESTION#", "INGESTION#i-1"] := by
  have rows : (Service.queryApi.listing sampleFormats).rows sampleTable.items
      (IngestionApi.userPk "u-1") = [("INGESTION#i-1", sampleItem)] := rfl
  have few : ∀ start stop, ((Service.queryApi.listing sampleFormats).query sampleTable.items
      (IngestionApi.userPk "u-1") start stop).length ≤ 1 := by
    intro start stop
    rw [Listing.query, rows]
    exact List.length_filter_le _ _
  have before : "INGESTION#" ≤ "INGESTION#i-1" := by decide
  refine ⟨by decide, (fun _ same => nomatch same), few _ _, by decide, ?_, few _ _, few _ _⟩
  rintro _ ⟨rfl⟩
  exact before

theorem follow_sampleTable :
    ∃ records,
      follow (Service.queryApi.listForUser sampleFormats sampleTable.items "u-1") none
        ["INGESTION#", "INGESTION#i-1"] = .ok records ∧
          ∀ record ∈ records, record.userId = "u-1" := by
  obtain ⟨records, followed, -, all⟩ := (follow_listForUser sampleFormats .queryApi sampleTable
    "u-1").1 1 le_rfl _ stops_sampleTable
  exact ⟨records, followed, fun record member => ((all record).mp member).2⟩

end Panakoes.QueryApi.ListingPages
