import Panakoes.IngestionApi.IngestionItems
import Panakoes.IngestionApi.RecordRow
import Panakoes.TranscriberBatch.IngestionRow

/-! # Transcripts from the writers to the readers

A transcript is put with its record, set by the ingestion API, or set by the batch worker, and the
ingestion API and the query API read it. Where the record is put, its times are floats, which are not
stored; where the ingestion API reads, no number may have more than 28 digits before its point.
-/

/-! ## The ingestion reader of the query API

The query API reads the items of uploads with a model of transcripts of its own, and leaves the
decimals of a transcript to it.
-/

namespace Panakoes.QueryApi

open DynamoValue ModelFields
open IngestionApi (IngestionKey IngestionRecord IngestionTable TranscriptSegment)

/-- `TranscriptModel`. -/
structure TranscriptModel where
  text : String
  language : Option String
  durationSeconds : Option ℚ
  wordCount : Option ℤ
  segments : List TranscriptSegment

/-- `TranscriptModel.model_validate`. -/
def TranscriptModel.modelValidate (formats : Formats) : PyValue → Option TranscriptModel
  | .dict entries => do
      let text ← required str? entries "text"
      let language ← optional str? entries "language"
      let durationSeconds ← optional formats.float entries "duration_seconds"
      let wordCount ← optional formats.int entries "word_count"
      let segments ← defaulted (list? (TranscriptSegment.modelValidate formats)) entries "segments" []
      return ⟨text, language, durationSeconds, wordCount, segments⟩
  | _ => none

/-- The transcript without the count of its words. -/
def TranscriptModel.transcript (model : TranscriptModel) : IngestionApi.Transcript :=
  ⟨model.text, model.segments, model.language, model.durationSeconds⟩

namespace IngestionReader

/-- `_from_dynamo`. -/
def fromDynamo (formats : Formats) (item : Item) :
    Except IngestionApi.ReadError (IngestionRecord TranscriptModel) :=
  IngestionRecord.modelValidate formats (TranscriptModel.modelValidate formats) (cleaned item)

/-- `IngestionReader.get`. -/
def get (formats : Formats) (table : IngestionTable) (userId ingestionId : String) :
    Except IngestionApi.ReadError (Option (IngestionRecord TranscriptModel)) :=
  match table.lookup (IngestionKey.pair ⟨userId, ingestionId⟩) with
  | none => .ok none
  | some item => (fromDynamo formats item).map some

/-- The listing of uploads. -/
def listing (formats : Formats) :
    CursorListing.Listing Item IngestionApi.ReadError (IngestionRecord TranscriptModel) :=
  ⟨CursorListing.ascending, "INGESTION#", fromDynamo formats⟩

/-- `IngestionReader.list_for_user`, with the key at which the table stops. -/
def listForUser (formats : Formats) (table : IngestionTable) (userId : String)
    (cursor stop : Option String) :
    Except IngestionApi.ReadError (List (IngestionRecord TranscriptModel) × Option String) :=
  (listing formats).page table (IngestionApi.userPk userId) cursor stop

end IngestionReader

end Panakoes.QueryApi

namespace Panakoes.QueryApi.TranscriptRoundTrip

open DynamoValue ModelFields IngestionApi
open PyValue (leaves orSelf)
open TranscriberBatch (IngestionRow.markSucceeded)
open TranscriberBatch.IngestionRow (wordCount)

variable {formats : Formats} {record : IngestionRecord Transcript} {item : Item}
  {transcript : Transcript}

/-! ## Reading a row -/

/-- The number is below the precision of the decimals. -/
def Below (decimal : PyDecimal) : Prop := ∀ value, decimal.rat = some value → |value| < 10 ^ 28

theorem below_ofInt {value : ℤ} : Below (.ofInt value) ↔ |value| < 10 ^ 28 := by
  rw [Below, PyDecimal.rat_ofInt]
  simp only [Option.some.injEq, forall_eq']
  exact_mod_cast Iff.rfl

theorem isOk_decimalToNative_iff {decimal : PyDecimal} {value : ℚ}
    (exactly : decimal.rat = some value) :
    (decimalToNative formats (.decimal decimal)).isOk = true ↔ Below decimal := by
  have below : Below decimal ↔ |value| < 10 ^ 28 := by
    rw [Below, exactly]
    simp
  rw [below, decimalToNative, exactly]
  dsimp only
  split
  · rename_i large
    exact iff_of_false (fun same => nomatch same) (not_lt.mpr large)
  · rename_i small
    refine iff_of_true ?_ (not_le.mp small)
    split <;> rfl

/-- A number that is converted is read as the float that it is nearest to. -/
theorem float_orSelf_decimalToNative {decimal : PyDecimal} {value float : ℚ}
    (exactly : decimal.rat = some value) (below : Below decimal)
    (near : formats.nearest value = some float) :
    formats.float (orSelf (decimalToNative formats) (.decimal decimal)) = some float := by
  have small : ¬ 10 ^ 28 ≤ |value| := not_le.mpr (below value exactly)
  by_cases whole : value.den = 1
  · have returned : decimalToNative formats (.decimal decimal) = .ok (.int value.num) := by
      rw [decimalToNative, exactly]
      exact (if_neg small).trans (if_pos whole)
    rw [PyValue.orSelf_of_ok returned, formats.float_int, Rat.coe_int_num_of_den_eq_one whole, near]
  · have returned : decimalToNative formats (.decimal decimal) = .ok (.float (some float)) := by
      rw [decimalToNative, exactly, ← near]
      exact (if_neg small).trans (if_neg whole)
    rw [PyValue.orSelf_of_ok returned, formats.float_float]

theorem orSelf_decimalToNative_ne_none (decimal : PyDecimal) :
    orSelf (decimalToNative formats) (.decimal decimal) ≠ .none := by
  intro same
  unfold orSelf at same
  split at same
  · rename_i value returned
    subst same
    rw [decimalToNative] at returned
    split at returned
    · split at returned
      · cases returned
      · split at returned <;> cases returned
    · split at returned <;> cases returned
  · cases same

theorem orSelf_decimalToNative_ofInt {value : ℤ} (below : Below (.ofInt value)) :
    orSelf (decimalToNative formats) (.decimal (.ofInt value)) = .int value := by
  refine PyValue.orSelf_of_ok ?_
  have small : ¬ 10 ^ 28 ≤ |(value : ℚ)| := not_le.mpr (below value (PyDecimal.rat_ofInt value))
  rw [decimalToNative, PyDecimal.rat_ofInt]
  exact (if_neg small).trans (if_pos rfl)

/-! ## The readers -/

variable {number : ℚ → PyValue} {count : Option PyValue} {entries : List (String × PyValue)}

theorem keepsTexts_decimalToNative : KeepsTexts (orSelf (decimalToNative formats)) :=
  ⟨fun _ => rfl, rfl⟩

/-- The ingestion API converts a row if and only if it converts its numbers. -/
theorem isOk_traverseEntries_iff (row : Row formats record item)
    (transcribed : Transcribed item (.dict entries))
    (encodes : Encodes number transcript count entries) :
    (PyValue.traverseEntries (decimalToNative formats) item).isOk = true ↔
      Below (.ofInt record.sizeBytes) ∧
        (∀ time ∈ transcript.times, ∀ found ∈ leaves (number time),
          (decimalToNative formats found).isOk = true) ∧
        ∀ value ∈ count, ∀ found ∈ leaves value, (decimalToNative formats found).isOk = true := by
  have size : (PyValue.traverse (decimalToNative formats)
      (.decimal (.ofInt record.sizeBytes))).isOk = true ↔ Below (.ofInt record.sizeBytes) :=
    isOk_decimalToNative_iff (PyDecimal.rat_ofInt record.sizeBytes)
  have dictionary := (PyValue.isOk_traverse_iff (.dict entries)).trans
    (encodes.leaves (fun found => (decimalToNative formats found).isOk = true) (fun _ => rfl) rfl)
  rw [PyValue.isOk_traverseEntries_iff, ← size, ← dictionary]
  constructor
  · intro all
    obtain ⟨before, after, same, -⟩ := List.lookup_eq_some_iff.mp row.sizeBytes
    obtain ⟨front, rest, other, -⟩ := List.lookup_eq_some_iff.mp transcribed.held
    exact ⟨all ("size_bytes", _) (by simp [same]), all ("transcript", _) (by simp [other])⟩
  · rintro ⟨small, converted⟩ entry member
    by_cases named : entry.1 = "transcript"
    · rw [transcribed.only entry member named]
      exact converted
    · rcases row.plain entry member named with ⟨-, same⟩ | ⟨text, same⟩
      · rw [same]
        exact small
      · rw [same]
        rfl

/-- The ingestion API reads the transcript of a row if and only if it converts the numbers. -/
theorem fromDynamo_ingestionApi_iff (row : Row formats record item)
    (transcribed : Transcribed item (.dict entries))
    (encodes : Encodes number transcript count entries)
    (reads : ∀ time ∈ transcript.times,
      (∀ found ∈ leaves (number time), (decimalToNative formats found).isOk = true) →
        formats.float ((number time).map (orSelf (decimalToNative formats))) = some time ∧
          (number time).map (orSelf (decimalToNative formats)) ≠ .none) :
    (∃ whole, IngestionRecord.fromDynamo formats item = .ok whole ∧
      whole.transcript = some transcript) ↔
      Below (.ofInt record.sizeBytes) ∧
        (∀ time ∈ transcript.times, ∀ found ∈ leaves (number time),
          (decimalToNative formats found).isOk = true) ∧
        ∀ value ∈ count, ∀ found ∈ leaves value, (decimalToNative formats found).isOk = true := by
  rw [← isOk_traverseEntries_iff row transcribed encodes]
  constructor
  · rintro ⟨whole, returned, -⟩
    obtain ⟨cleaned, converted, -⟩ := Except.bind_eq_ok.mp returned
    rw [converted]
    rfl
  · intro converts
    obtain ⟨small, times, -⟩ := (isOk_traverseEntries_iff row transcribed encodes).mp converts
    have validated := (encodes.map keepsTexts_decimalToNative).modelValidate
      (fun time member => (reads time member (times time member)).1)
      (fun time member => (reads time member (times time member)).2)
    have lookup : ∀ name,
        (PyValue.mapEntries (orSelf (decimalToNative formats)) item).lookup name =
          (item.lookup name).map (PyValue.map (orSelf (decimalToNative formats))) :=
      PyValue.lookup_mapEntries item
    obtain ⟨whole, fields, same, -⟩ := fields?_of_row row lookup (fun _ => rfl)
      (orSelf_decimalToNative_ofInt small)
      (optional_of_converted transcribed.held lookup (fun same => nomatch same) validated)
    refine ⟨whole, ?_, same⟩
    rw [IngestionRecord.fromDynamo, PyValue.traverseEntries_of_isOk converts]
    exact modelValidate_of_fields? fields

/-- The query API reads the transcript of a row where it reads the numbers. -/
theorem fromDynamo_queryApi (row : Row formats record item)
    (transcribed : Transcribed item (.dict entries))
    (encodes : Encodes number transcript count entries)
    (reads : ∀ time ∈ transcript.times, formats.float (number time) = some time)
    (present : ∀ time ∈ transcript.times, number time ≠ .none)
    (counted : ∃ words, optional formats.int entries "word_count" = some words) :
    ∃ whole, IngestionReader.fromDynamo formats item = .ok whole ∧
      whole.transcript.map TranscriptModel.transcript = some transcript := by
  obtain ⟨words, counted⟩ := counted
  have validated : TranscriptModel.modelValidate formats (.dict entries) =
      some ⟨transcript.text, transcript.language, transcript.durationSeconds, words,
        transcript.segments⟩ := by
    rw [TranscriptModel.modelValidate, encodes.required_text, encodes.defaulted_segments reads,
      encodes.optional_language, encodes.optional_durationSeconds reads present, counted]
    rfl
  obtain ⟨whole, fields, same, -⟩ := fields?_of_row row (fun _ => lookup_cleaned) (fun _ => rfl)
    (intOfDecimal_ofInt record.sizeBytes)
    (optional_of_converted transcribed.held (fun _ => lookup_cleaned) (fun same => nomatch same)
      validated)
  refine ⟨whole, modelValidate_of_fields? fields, ?_⟩
  rw [same]
  rfl

/-! ## The pairings -/

/-- The writers of a transcript. -/
inductive Writer where
  | put
  | setTranscriptSucceeded
  | markSucceeded (now : ℚ)

/-- The key of a record. -/
def keyOf (record : IngestionRecord Transcript) : IngestionKey := ⟨record.userId, record.ingestionId⟩

/-- A write of the transcript to the record. -/
def Writer.write (formats : Formats) (table : IngestionTable) (record : IngestionRecord Transcript)
    (transcript : Transcript) : Writer → Except StoreError IngestionTable
  | .put => IngestionStore.put formats table { record with transcript := some transcript }
  | .setTranscriptSucceeded =>
      IngestionStore.setTranscriptSucceeded formats table (keyOf record) transcript
  | .markSucceeded now => IngestionRow.markSucceeded formats table (keyOf record) transcript now

/-- The record is there for a writer that updates it. -/
def Writer.Ready (formats : Formats) (table : IngestionTable)
    (record : IngestionRecord Transcript) : Writer → Prop
  | .put => True
  | .setTranscriptSucceeded | .markSucceeded _ =>
      ∃ item, table.lookup (keyOf record).pair = some item ∧ Row formats record item

/-- The readers of a record. -/
inductive Reader where
  | ingestionApi
  | queryApi

/-- The reader returns a record with the transcript. -/
def Reader.Returns (formats : Formats) (table : IngestionTable) (record : IngestionRecord Transcript)
    (transcript : Transcript) : Reader → Prop
  | .ingestionApi =>
      ∃ found, IngestionStore.get formats table record.userId record.ingestionId = .ok (some found) ∧
        found.transcript = some transcript
  | .queryApi =>
      ∃ found, IngestionReader.get formats table record.userId record.ingestionId =
          .ok (some found) ∧
        found.transcript.map TranscriptModel.transcript = some transcript

/-- The transcript is written, and the reader returns it. -/
def RoundTrip (formats : Formats) (writer : Writer) (reader : Reader) (table : IngestionTable)
    (record : IngestionRecord Transcript) (transcript : Transcript) : Prop :=
  ∃ after, writer.write formats table record transcript = .ok after ∧
    reader.Returns formats after record transcript

/-- What is written of the transcript can be stored: it is put without any time, and the integers
have at most 38 digits. -/
def Writer.Storable (record : IngestionRecord Transcript) (transcript : Transcript) : Writer → Prop
  | .put => (PyDecimal.ofInt record.sizeBytes).Short 38 ∧ transcript.times = []
  | .setTranscriptSucceeded => True
  | .markSucceeded _ => (PyDecimal.ofInt (wordCount transcript)).Short 38

/-- The numbers that are written of the transcript have at most 28 digits before the point. -/
def Writer.Moderate (formats : Formats) (transcript : Transcript) : Writer → Prop
  | .put => True
  | .setTranscriptSucceeded => ∀ time ∈ transcript.times, Below (formats.json time)
  | .markSucceeded _ =>
      (∀ time ∈ transcript.times, Below (formats.str time)) ∧ Below (.ofInt (wordCount transcript))

/-! ## A transcript of decimals -/

/-- The decimals are stored, and each of them is read as the time that it is for. -/
def Numerals (formats : Formats) (transcript : Transcript) (decimal : ℚ → PyDecimal) : Prop :=
  ∀ time ∈ transcript.times, (decimal time).Short 38 ∧
    (decimal time).rat.bind formats.nearest = some time

theorem numerals_json (finite : ∀ time ∈ transcript.times, formats.IsFloat time) :
    Numerals formats transcript formats.json := fun time member =>
  ⟨formats.json_short time (finite time member), formats.json_reads time (finite time member)⟩

theorem numerals_str (finite : ∀ time ∈ transcript.times, formats.IsFloat time) :
    Numerals formats transcript formats.str := fun time member =>
  ⟨formats.str_short time (finite time member), formats.str_reads time (finite time member)⟩

variable {decimal : ℚ → PyDecimal} {words : Option ℕ}

/-- The count of words in a dictionary. -/
def counted (words : Option ℕ) : Option PyValue := words.map fun number => .int (number : ℤ)

theorem forall_counted {holds : PyValue → Prop} :
    (∀ value ∈ counted words, ∀ found ∈ leaves value, holds found) ↔
      ∀ number ∈ words, holds (.int (number : ℤ)) := by
  cases words <;> simp [counted]

/-- The dictionary is stored if and only if the count of words is. -/
theorem isOk_serialize_iff (numerals : Numerals formats transcript decimal)
    (encodes : Encodes (fun time => .decimal (decimal time)) transcript (counted words) entries) :
    (PyValue.traverse serialize (.dict entries)).isOk = true ↔
      ∀ number ∈ words, (PyDecimal.ofInt number).Short 38 := by
  have leaves := encodes.leaves (fun found => (serialize found).isOk = true) (fun _ => rfl) rfl
  rw [PyValue.isOk_traverse_iff, PyValue.leaves, leaves, forall_counted]
  refine (and_iff_right fun time member => ?_).trans (forall₂_congr fun _ _ => isOk_serialize_int)
  rw [PyValue.leaves_decimal, List.forall_mem_singleton, serialize_decimal (numerals time member).1]
  rfl

/-- The reader makes a record with the transcript of the item. -/
def Reader.Reads (formats : Formats) (item : Item) (transcript : Transcript) : Reader → Prop
  | .ingestionApi => ∃ whole, IngestionRecord.fromDynamo formats item = .ok whole ∧
      whole.transcript = some transcript
  | .queryApi => ∃ whole, IngestionReader.fromDynamo formats item = .ok whole ∧
      whole.transcript.map TranscriptModel.transcript = some transcript

/-- The reader reads the decimals of a row if and only if it can compute with them. -/
theorem reads_iff_of_decimals (reader : Reader) (row : Row formats record item)
    (numerals : Numerals formats transcript decimal)
    (encodes : Encodes (fun time => .decimal (decimal time)) transcript (counted words) entries)
    (storable : ∀ number ∈ words, (PyDecimal.ofInt number).Short 38)
    (transcribed : Transcribed item ((PyValue.dict entries).map (orSelf serialize))) :
    reader.Reads formats item transcript ↔
      (reader = .ingestionApi → Below (.ofInt record.sizeBytes) ∧
        (∀ time ∈ transcript.times, Below (decimal time)) ∧
        ∀ number ∈ words, Below (.ofInt number)) := by
  have held := encodes.map keepsTexts_serialize
  have same : ∀ time ∈ transcript.times,
      (PyValue.decimal (decimal time)).map (orSelf serialize) = .decimal (decimal time) :=
    fun time member => PyValue.orSelf_of_ok (serialize_decimal (numerals time member).1)
  have exactly : ∀ time ∈ transcript.times, ∃ value, (decimal time).rat = some value ∧
      formats.nearest value = some time :=
    fun time member => Option.bind_eq_some_iff.mp (numerals time member).2
  have count : (counted words).map (·.map (orSelf serialize)) =
      words.map fun number => .decimal (.ofInt number) := by
    cases words with
    | none => rfl
    | some number => exact congrArg some (PyValue.orSelf_of_ok (if_pos (storable number rfl)))
  cases reader with
  | ingestionApi =>
      have converts : ∀ time ∈ transcript.times,
          ((∀ found ∈ leaves ((PyValue.decimal (decimal time)).map (orSelf serialize)),
            (decimalToNative formats found).isOk = true) ↔ Below (decimal time)) := by
        intro time member
        obtain ⟨value, exactly, -⟩ := exactly time member
        rw [same time member, PyValue.leaves_decimal, List.forall_mem_singleton]
        exact isOk_decimalToNative_iff exactly
      have numbers : (∀ value ∈ (counted words).map (·.map (orSelf serialize)),
          ∀ found ∈ leaves value, (decimalToNative formats found).isOk = true) ↔
            ∀ number ∈ words, Below (.ofInt number) := by
        rw [count]
        cases words with
        | none => simp
        | some number =>
            simpa using isOk_decimalToNative_iff (PyDecimal.rat_ofInt (number : ℤ))
      refine (fromDynamo_ingestionApi_iff row transcribed held fun time member returns => ?_).trans ?_
      · have below := (converts time member).mp returns
        obtain ⟨value, exactly, near⟩ := exactly time member
        rw [same time member, PyValue.map_decimal]
        exact ⟨float_orSelf_decimalToNative exactly below near, orSelf_decimalToNative_ne_none _⟩
      · rw [numbers]
        exact (and_congr_right fun _ => and_congr_left fun _ => forall₂_congr converts).trans
          ⟨fun below _ => below, fun below => below rfl⟩
  | queryApi =>
      refine iff_of_true ?_ (fun same => nomatch same)
      refine fromDynamo_queryApi row transcribed held (fun time member => ?_)
        (fun time member => ?_) ?_
      · rw [same time member, formats.float_decimal]
        exact (numerals time member).2
      · rw [same time member]
        exact fun same => nomatch same
      · have written := held.wordCount
        rw [count] at written
        cases words with
        | none => exact ⟨none, optional_of_missing written⟩
        | some number =>
            refine ⟨some number, (optional_of_lookup written fun same => nomatch same).trans ?_⟩
            rw [formats.int_decimal _ number (PyDecimal.rat_ofInt number)]
            rfl

/-! ## The updates of a row -/

/-- The updates of the item of a record: those of the ingestion API, of the batch worker, of the event
router and of the admin API. -/
inductive RowUpdate where
  | pending
  | failed (errorMessage : String)
  | succeeded (payload : PyValue)
  | workerUploaded (now : ℚ)
  | workerFailed (errorMessage : String) (now : ℚ)
  | workerSucceeded (payload : PyValue) (now : ℚ)
  | routed (now : ℚ)
  | forceFailed (reason : String) (now : ℚ)

/-- The item after an update. -/
def RowUpdate.change (formats : Formats) (item : Item) : RowUpdate → Item
  | .pending => IngestionStore.pendingChange item
  | .failed errorMessage => IngestionStore.failedChange errorMessage item
  | .succeeded payload => IngestionStore.succeededChange payload item
  | .workerUploaded now => TranscriberBatch.IngestionRow.uploadedChange formats now item
  | .workerFailed errorMessage now =>
      TranscriberBatch.IngestionRow.failedChange formats errorMessage now item
  | .workerSucceeded payload now =>
      TranscriberBatch.IngestionRow.succeededChange formats payload now item
  | .routed now =>
      set (set item "status" (.str "uploaded")) "updated_at" (.str (formats.isoformat now))
  | .forceFailed reason now =>
      set (set (set (set item "status" (.str "failed"))
        "failed_at" (.str (formats.isoformat now))) "failure_reason" (.str reason))
        "failure_source" (.str "tier3.force-fail-ingestion")

theorem Row.change (row : Row formats record item) (update : RowUpdate) :
    Row formats record (update.change formats item) := by
  cases update with
  | pending => exact (row.set (fits_transcriptStatus .pending)).remove
  | failed _ =>
      exact (row.set (fits_transcriptStatus .failed)).set (fits_text (by decide))
  | succeeded payload =>
      exact ((row.set (fits_transcriptStatus .succeeded)).set (fits_transcript payload)).remove
  | workerUploaded now =>
      exact ((row.set (fits_status .uploaded)).set (fits_transcriptStatus .pending)).set
        (fits_updatedAt now)
  | workerFailed _ now =>
      exact ((row.set (fits_transcriptStatus .failed)).set (fits_text (by decide))).set
        (fits_updatedAt now)
  | workerSucceeded payload now =>
      exact (((row.set (fits_transcriptStatus .succeeded)).set (fits_transcript payload)).set
        (fits_updatedAt now)).remove
  | routed now => exact (row.set (fits_status .uploaded)).set (fits_updatedAt now)
  | forceFailed _ _ =>
      exact (((row.set (fits_status .failed)).set (fits_text (by decide))).set
        (fits_text (by decide))).set (fits_text (by decide))

/-- An item that has been put and updated is a row of its record. -/
theorem row_of_updates (stored : serializeItem (record.toDynamo formats) = .ok item)
    (updates : List RowUpdate) :
    Row formats record (updates.foldl (fun item update => update.change formats item) item) := by
  have put := (row_of_put stored).1
  clear stored
  induction updates generalizing item with
  | nil => exact put
  | cons update rest ih => exact ih (Row.change put update)

/-! ## The law -/

variable {table : IngestionTable} {reader : Reader}

theorem map_some_eq_ok_iff {ε α : Type} {computation : Except ε α} {holds : α → Prop} :
    (∃ found, computation.map some = .ok (some found) ∧ holds found) ↔
      ∃ found, computation = .ok found ∧ holds found := by
  cases computation with
  | error error =>
      refine iff_of_false ?_ ?_ <;>
        · rintro ⟨found, returned, -⟩
          cases returned
  | ok value =>
      refine exists_congr fun found => and_congr_left fun _ => ?_
      exact ⟨fun same => by cases same; rfl, fun same => by cases same; rfl⟩

/-- A reader of a record reads its item. -/
theorem returns_iff (held : table.lookup (keyOf record).pair = some item) :
    reader.Returns formats table record transcript ↔ reader.Reads formats item transcript := by
  cases reader with
  | ingestionApi =>
      have got : IngestionStore.get formats table record.userId record.ingestionId =
          (IngestionRecord.fromDynamo formats item).map some := by
        rw [keyOf] at held
        rw [IngestionStore.get, held]
      rw [Reader.Returns, got]
      exact map_some_eq_ok_iff
  | queryApi =>
      have got : IngestionReader.get formats table record.userId record.ingestionId =
          (IngestionReader.fromDynamo formats item).map some := by
        rw [keyOf] at held
        rw [IngestionReader.get, held]
      rw [Reader.Returns, got]
      exact map_some_eq_ok_iff

theorem lookup_updateItem {key : IngestionKey} (held : table.lookup key.pair = some item)
    (change : Item → Item) : (updateItem table key change).lookup key.pair = some (change item) := by
  rw [updateItem, AList.lookup_insert, held]
  rfl

/-- The round trip through an update with a dictionary of decimals. -/
theorem roundTrip_update (writer : Writer) {change : PyValue → Item → Item} {payload : PyValue}
    (held : table.lookup (keyOf record).pair = some item)
    (writes : writer.write formats table record transcript = (do
      let stored ← PyValue.traverse serialize payload
      return updateItem table (keyOf record) (change stored)))
    (row : ∀ stored, Row formats record (change stored item))
    (transcribed : ∀ stored, Transcribed (change stored item) stored)
    (same : payload = .dict entries) (numerals : Numerals formats transcript decimal)
    (encodes : Encodes (fun time => .decimal (decimal time)) transcript (counted words) entries) :
    RoundTrip formats writer reader table record transcript ↔
      (∀ number ∈ words, (PyDecimal.ofInt number).Short 38) ∧
        (reader = .ingestionApi → Below (.ofInt record.sizeBytes) ∧
          (∀ time ∈ transcript.times, Below (decimal time)) ∧
          ∀ number ∈ words, Below (.ofInt number)) := by
  subst same
  have reading : (∀ number ∈ words, (PyDecimal.ofInt number).Short 38) →
      (reader.Returns formats (updateItem table (keyOf record)
        (change ((PyValue.dict entries).map (orSelf serialize)))) record transcript ↔ _) :=
    fun storable => (returns_iff (lookup_updateItem held _)).trans
      (reads_iff_of_decimals reader (row _) numerals encodes storable (transcribed _))
  constructor
  · rintro ⟨after, written, returned⟩
    rw [writes] at written
    obtain ⟨stored, serialized, same⟩ := Except.bind_eq_ok.mp written
    have returns : (PyValue.traverse serialize (.dict entries)).isOk = true := by
      rw [serialized]
      rfl
    have storable := (isOk_serialize_iff numerals encodes).mp returns
    cases serialized.symm.trans (PyValue.traverse_of_isOk returns)
    cases same
    exact ⟨storable, (reading storable).mp returned⟩
  · rintro ⟨storable, moderate⟩
    refine ⟨_, ?_, (reading storable).mpr moderate⟩
    rw [writes, PyValue.traverse_of_isOk ((isOk_serialize_iff numerals encodes).mpr storable)]
    rfl

/-- The round trip through a put. -/
theorem roundTrip_put :
    RoundTrip formats .put reader table record transcript ↔
      ((PyDecimal.ofInt record.sizeBytes).Short 38 ∧ transcript.times = []) ∧
        (reader = .ingestionApi → Below (.ofInt record.sizeBytes)) := by
  obtain ⟨entries, same, encodes⟩ := encodes_dump (fun time => .float (some time)) transcript
  have stores := isOk_serializeItem_iff formats { record with transcript := some transcript }
  simp only [Option.mem_some_iff, forall_eq'] at stores
  -- without a time what is stored reads like a dictionary of decimals
  have reading : ∀ {item : Item} (_ : transcript.times = []) (_ : serializeItem
        (IngestionRecord.toDynamo formats { record with transcript := some transcript }) = .ok item),
      (reader.Returns formats (table.insert (keyOf record).pair item) record transcript ↔
        (reader = .ingestionApi → Below (.ofInt record.sizeBytes))) := by
    intro item none stored
    obtain ⟨row, transcribed⟩ := row_of_put stored
    have dictionary := transcribed transcript rfl
    rw [same] at dictionary
    have numerals : Numerals formats transcript formats.json := by
      intro time member
      rw [none] at member
      cases member
    have reads := @reads_iff_of_decimals _ _ _ _ _ formats.json Option.none reader row numerals
      (encodes.of_no_times none) (fun _ same => nomatch same) dictionary
    refine (returns_iff (AList.lookup_insert table)).trans (reads.trans ?_)
    simp [none]
  constructor
  · rintro ⟨after, written, returned⟩
    obtain ⟨item, stored, same⟩ := Except.bind_eq_ok.mp written
    have kept := stores.mp (by rw [stored]; rfl)
    cases same
    exact ⟨kept, (reading kept.2 stored).mp returned⟩
  · rintro ⟨kept, moderate⟩
    obtain ⟨item, stored⟩ := Except.exists_of_isOk (stores.mpr kept)
    refine ⟨_, ?_, (reading kept.2 stored).mpr moderate⟩
    rw [Writer.write, IngestionStore.put, stored]
    rfl

/-- **The round trip.** A transcript comes back if and only if it can be stored, and the ingestion
API, where it is the one that reads, can compute with the numbers of the item. -/
theorem roundTrip_iff (formats : Formats) (writer : Writer) (reader : Reader)
    (table : IngestionTable) (record : IngestionRecord Transcript) (transcript : Transcript)
    (finite : ∀ time ∈ transcript.times, formats.IsFloat time)
    (ready : writer.Ready formats table record) :
    RoundTrip formats writer reader table record transcript ↔
      writer.Storable record transcript ∧
        (reader = .ingestionApi →
          Below (.ofInt record.sizeBytes) ∧ writer.Moderate formats transcript) := by
  cases writer with
  | put => simpa [Writer.Storable, Writer.Moderate] using roundTrip_put
  | setTranscriptSucceeded =>
      obtain ⟨item, held, row⟩ := ready
      obtain ⟨entries, same, encodes⟩ := encodes_payload formats transcript
      have update := @roundTrip_update formats record item transcript entries formats.json none table
        reader .setTranscriptSucceeded IngestionStore.succeededChange _ held rfl
        (fun stored => ((row.set (fits_transcriptStatus .succeeded)).set
          (fits_transcript stored)).remove)
        (fun stored => (transcribed_set _ stored).remove (by decide)) same (numerals_json finite)
        encodes
      simpa [Writer.Storable, Writer.Moderate] using update
  | markSucceeded now =>
      obtain ⟨item, held, row⟩ := ready
      obtain ⟨entries, same, encodes⟩ :=
        TranscriberBatch.IngestionRow.encodes_floatsToDecimal formats transcript
      have update := @roundTrip_update formats record item transcript entries formats.str
        (some (wordCount transcript)) table reader (.markSucceeded now)
        (fun stored => TranscriberBatch.IngestionRow.succeededChange formats stored now) _ held rfl
        (fun stored => (((row.set (fits_transcriptStatus .succeeded)).set
          (fits_transcript stored)).set (fits_updatedAt now)).remove)
        (fun stored => ((transcribed_set _ stored).set (by decide)).remove (by decide)) same
        (numerals_str finite) encodes
      simpa [Writer.Storable, Writer.Moderate] using update

/-! ## One transcript -/

/-- The floats of the sample: halves, with one digit after the point. -/
def halves (value : ℚ) : Option ℚ := if (2 * value).den = 1 ∧ |value| < 10 ^ 15 then some value else none

/-- The numeral of a half. -/
def halvesNumeral (value : ℚ) : PyDecimal :=
  .finite (value < 0) (5 * (2 * value).num.natAbs) (-1)

theorem halves_cases {value : ℚ} (half : halves value = some value) :
    (2 * value).den = 1 ∧ |value| < 10 ^ 15 := by
  unfold halves at half
  split at half
  · rename_i held
    exact held
  · cases half

theorem halvesNumeral_rat {value : ℚ} (whole : (2 * value).den = 1) :
    (halvesNumeral value).rat = some value := by
  have doubled : ((2 * value).num : ℚ) = 2 * value := Rat.coe_int_num_of_den_eq_one whole
  have magnitude : (((2 * value).num.natAbs : ℕ) : ℚ) = |2 * value| := by
    rw [← doubled, Nat.cast_natAbs, Int.cast_abs, doubled, doubled]
  have exactly : (halvesNumeral value).rat =
      some ((if decide (value < 0) then -((5 * (2 * value).num.natAbs : ℕ) : ℚ)
        else ((5 * (2 * value).num.natAbs : ℕ) : ℚ)) / 10 ^ (0 + 1)) := rfl
  rw [exactly]
  push_cast
  rw [magnitude]
  congr 1
  by_cases negative : value < 0
  · rw [if_pos (decide_eq_true negative), abs_of_neg (by linarith)]
    ring
  · rw [if_neg (by simpa using negative), abs_of_nonneg (by linarith)]
    ring

theorem halvesNumeral_short (value : ℚ) (half : halves value = some value) :
    (halvesNumeral value).Short 38 := by
  obtain ⟨whole, small⟩ := halves_cases half
  have doubled : ((2 * value).num : ℚ) = 2 * value := Rat.coe_int_num_of_den_eq_one whole
  have magnitude : (((2 * value).num.natAbs : ℕ) : ℚ) = 2 * |value| := by
    rw [Nat.cast_natAbs, Int.cast_abs, doubled, abs_mul, abs_two]
  have bounded : (((2 * value).num.natAbs : ℕ) : ℚ) < ((2 * 10 ^ 15 : ℕ) : ℚ) := by
    rw [magnitude]
    push_cast
    linarith
  have natural : (2 * value).num.natAbs < 2 * 10 ^ 15 := Nat.cast_lt.mp bounded
  change 5 * (2 * value).num.natAbs < 10 ^ 38
  omega

theorem halvesNumeral_reads (value : ℚ) (half : halves value = some value) :
    (halvesNumeral value).rat.bind halves = some value := by
  rw [halvesNumeral_rat (halves_cases half).1, Option.bind_some, half]

/-- Values read as floats, at the halves. -/
def sampleFloat : PyValue → Option ℚ
  | .float value => value
  | .int value => halves value
  | .decimal decimal => decimal.rat.bind halves
  | _ => none

/-- Values read as integers. -/
def sampleInt : PyValue → Option ℤ
  | .int value => some value
  | .decimal decimal => decimal.rat.bind fun value => if value.den = 1 then some value.num else none
  | _ => none

/-- The one time of the sample. -/
def sampleTime : PyValue → Option ℚ
  | .str "2026-05-11T00:00:00+00:00" => some 1778457600
  | _ => none

theorem sampleFloat_float : ∀ value, sampleFloat (.float (some value)) = some value := fun _ => rfl

theorem sampleFloat_int : ∀ value : ℤ, sampleFloat (.int value) = halves value := fun _ => rfl

theorem sampleFloat_decimal : ∀ decimal : PyDecimal,
    sampleFloat (.decimal decimal) = decimal.rat.bind halves := fun _ => rfl

theorem sampleInt_int : ∀ value, sampleInt (.int value) = some value := fun _ => rfl

theorem sampleInt_decimal : ∀ (decimal : PyDecimal) (value : ℤ), decimal.rat = some (value : ℚ) →
    sampleInt (.decimal decimal) = some value := by
  intro decimal value exactly
  rw [sampleInt, exactly]
  rfl

theorem sampleTime_isoformat :
    ∀ _ : ℚ, (sampleTime (.str "2026-05-11T00:00:00+00:00")).isSome := fun _ => rfl

/-- Python at the halves and at one time. -/
def sampleFormats : Formats where
  nearest := halves
  str := halvesNumeral
  json := halvesNumeral
  str_short := halvesNumeral_short
  json_short := halvesNumeral_short
  str_reads := halvesNumeral_reads
  json_reads := halvesNumeral_reads
  float := sampleFloat
  int := sampleInt
  datetime := sampleTime
  isoformat _ := "2026-05-11T00:00:00+00:00"
  float_float := sampleFloat_float
  float_int := sampleFloat_int
  float_decimal := sampleFloat_decimal
  int_int := sampleInt_int
  int_decimal := sampleInt_decimal
  datetime_isoformat := sampleTime_isoformat

/-- An upload. -/
def sampleRecord : IngestionRecord Transcript :=
  ⟨"i-1", "u-1", "a.wav", "audio/wav", 1024, "audio/u-1/i-1/a.wav", .uploaded, 1778457600, 1778457600,
    none, none, none⟩

/-- A word that is spoken. -/
def sampleTranscript : Transcript :=
  ⟨"hello", [⟨"hello", 0, 3 / 2, [⟨"hello", 1 / 2, 1⟩]⟩], some "en", some (3 / 2)⟩

theorem sampleTranscript_finite : ∀ time ∈ sampleTranscript.times, sampleFormats.IsFloat time := by
  have times : sampleTranscript.times = [0, 3 / 2, 1 / 2, 1, 3 / 2] := rfl
  rw [times]
  change ∀ time ∈ [0, 3 / 2, 1 / 2, 1, 3 / 2], halves time = some time
  decide +kernel

/-- The item that is put for the upload. -/
def sampleItem : Item :=
  PyValue.mapEntries (orSelf serialize) (sampleRecord.toDynamo sampleFormats)

theorem sampleItem_stored :
    serializeItem (sampleRecord.toDynamo sampleFormats) = .ok sampleItem :=
  PyValue.traverseEntries_of_isOk
    ((isOk_serializeItem_iff sampleFormats sampleRecord).mpr
      ⟨by decide +kernel, fun _ same => nomatch same⟩)

/-- The transcript comes back from where the ingestion API sets it. -/
theorem roundTrip_sample :
    RoundTrip sampleFormats .setTranscriptSucceeded .ingestionApi
      (AList.insert (keyOf sampleRecord).pair sampleItem ∅) sampleRecord sampleTranscript := by
  refine (roundTrip_iff sampleFormats .setTranscriptSucceeded .ingestionApi _ sampleRecord
    sampleTranscript sampleTranscript_finite
    ⟨sampleItem, AList.lookup_insert _, (row_of_put sampleItem_stored).1⟩).mpr
    ⟨trivial, fun _ => ⟨below_ofInt.mpr (by decide +kernel), fun time member value exactly => ?_⟩⟩
  obtain ⟨whole, small⟩ := halves_cases (sampleTranscript_finite time member)
  cases (halvesNumeral_rat whole).symm.trans exactly
  exact small.trans (by norm_num)

/-- A transcript with a time does not come back from where its record is put. -/
theorem put_not_roundTrip :
    ¬ ∀ (formats : Formats) (writer : Writer) (reader : Reader) (table : IngestionTable)
      (record : IngestionRecord Transcript) (transcript : Transcript),
      (∀ time ∈ transcript.times, formats.IsFloat time) → writer.Ready formats table record →
        RoundTrip formats writer reader table record transcript := by
  intro always
  have put := always sampleFormats .put .ingestionApi ∅ sampleRecord sampleTranscript
    sampleTranscript_finite trivial
  cases (roundTrip_put.mp put).1.2

end Panakoes.QueryApi.TranscriptRoundTrip
