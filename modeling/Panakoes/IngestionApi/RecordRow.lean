import Panakoes.IngestionApi.TranscriptDump

/-! # The row of a record

What the item of a record has, from the time at which the record is put: the attributes of the upload,
texts, and a transcript. The services that write to it keep this.
-/

namespace Panakoes.IngestionApi

open DynamoValue ModelFields
open PyValue (leaves)

/-- The attributes of a record that no update writes. -/
def IngestionRecord.fixed (record : IngestionRecord Transcript) : List (String × String) :=
  [("ingestion_id", record.ingestionId), ("user_id", record.userId), ("filename", record.filename),
    ("content_type", record.contentType), ("s3_key", record.s3Key)]

/-- The names of these attributes. -/
def fixedNames : List String := ["ingestion_id", "user_id", "filename", "content_type", "s3_key"]

theorem mem_fixedNames {record : IngestionRecord Transcript} {field : String × String}
    (member : field ∈ record.fixed) : field.1 ∈ fixedNames := by
  have names : record.fixed.map Prod.fst = fixedNames := rfl
  exact names ▸ List.mem_map_of_mem member

/-- The item is one that has been put for the record, after any updates. -/
structure Row (formats : Formats) (record : IngestionRecord Transcript) (item : Item) : Prop where
  fixed : ∀ field ∈ record.fixed, item.lookup field.1 = some (.str field.2)
  sizeBytes : item.lookup "size_bytes" = some (.decimal (.ofInt record.sizeBytes))
  short : (PyDecimal.ofInt record.sizeBytes).Short 38
  status : ∃ status : IngestionStatus, item.lookup "status" = some (.str status.text)
  createdAt : ∃ time, item.lookup "created_at" = some (.str (formats.isoformat time))
  updatedAt : ∃ time, item.lookup "updated_at" = some (.str (formats.isoformat time))
  transcriptStatus : item.lookup "transcript_status" = none ∨
    ∃ status : TranscriptStatus, item.lookup "transcript_status" = some (.str status.text)
  transcriptErrorMessage : item.lookup "transcript_error_message" = none ∨
    ∃ message, item.lookup "transcript_error_message" = some (.str message)
  plain : ∀ entry ∈ item, entry.1 ≠ "transcript" →
    (entry.1 = "size_bytes" ∧ entry.2 = .decimal (.ofInt record.sizeBytes)) ∨
      ∃ text, entry.2 = .str text

/-- An update may give the attribute the value. -/
structure Fits (formats : Formats) (name : String) (value : PyValue) : Prop where
  other : name ∉ "size_bytes" :: "created_at" :: fixedNames
  text : name ≠ "transcript" → ∃ text, value = .str text
  status : name = "status" → ∃ status : IngestionStatus, value = .str status.text
  updatedAt : name = "updated_at" → ∃ time, value = .str (formats.isoformat time)
  transcriptStatus : name = "transcript_status" →
    ∃ status : TranscriptStatus, value = .str status.text

variable {formats : Formats} {record : IngestionRecord Transcript} {item : Item} {name : String}
  {value : PyValue}

/-- An update that fits keeps the row. -/
theorem Row.set (row : Row formats record item) (fits : Fits formats name value) :
    Row formats record (DynamoValue.set item name value) := by
  have other := fits.other
  rw [List.mem_cons, List.mem_cons, not_or, not_or] at other
  obtain ⟨notSize, notCreated, notFixed⟩ := other
  constructor
  · intro field member
    rw [lookup_set, if_neg]
    · exact row.fixed field member
    · exact fun same => notFixed (same ▸ mem_fixedNames member)
  · rw [lookup_set, if_neg (Ne.symm notSize)]
    exact row.sizeBytes
  · exact row.short
  · rw [lookup_set]
    split
    · rename_i same
      obtain ⟨status, rfl⟩ := fits.status same.symm
      exact ⟨status, rfl⟩
    · exact row.status
  · rw [lookup_set, if_neg (Ne.symm notCreated)]
    exact row.createdAt
  · rw [lookup_set]
    split
    · rename_i same
      obtain ⟨time, rfl⟩ := fits.updatedAt same.symm
      exact ⟨time, rfl⟩
    · exact row.updatedAt
  · rw [lookup_set]
    split
    · rename_i same
      obtain ⟨status, rfl⟩ := fits.transcriptStatus same.symm
      exact Or.inr ⟨status, rfl⟩
    · exact row.transcriptStatus
  · rw [lookup_set]
    split
    · rename_i same
      obtain ⟨text, rfl⟩ := fits.text (by rw [← same]; decide)
      exact Or.inr ⟨text, rfl⟩
    · exact row.transcriptErrorMessage
  · exact forall_mem_set.mpr ⟨fun named => Or.inr (fits.text named),
      fun entry member _ => row.plain entry member⟩

/-- The removal of the error message keeps the row. -/
theorem Row.remove (row : Row formats record item) :
    Row formats record (DynamoValue.remove item "transcript_error_message") := by
  have kept : ∀ name, name ≠ "transcript_error_message" →
      (DynamoValue.remove item "transcript_error_message").lookup name = item.lookup name :=
    fun name different => by rw [lookup_remove, if_neg different]
  constructor
  · intro field member
    rw [kept]
    · exact row.fixed field member
    · exact ne_of_mem_of_not_mem (mem_fixedNames member) (by decide)
  · rw [kept _ (by decide)]
    exact row.sizeBytes
  · exact row.short
  · rw [kept _ (by decide)]
    exact row.status
  · rw [kept _ (by decide)]
    exact row.createdAt
  · rw [kept _ (by decide)]
    exact row.updatedAt
  · rw [kept _ (by decide)]
    exact row.transcriptStatus
  · rw [lookup_remove, if_pos rfl]
    exact Or.inl rfl
  · exact forall_mem_remove.mpr fun entry member _ => row.plain entry member

/-! ## Reading a row -/

/-- An attribute is read where it is converted to what can be read. -/
theorem optional_of_converted {α : Type} {validate : PyValue → Option α} {read : Item}
    {convert : PyValue → PyValue} {found : α} (held : item.lookup name = some value)
    (lookup : ∀ name, read.lookup name = (item.lookup name).map convert)
    (present : convert value ≠ .none) (validated : validate (convert value) = some found) :
    optional validate read name = some (some found) := by
  have named : read.lookup name = some (convert value) := by rw [lookup, held, Option.map_some]
  rw [optional_of_lookup named present, validated, Option.map_some]

/-- A row is read as a record where its transcript is read. -/
theorem fields?_of_row {τ : Type} {validate : PyValue → Option τ} {read : Item}
    {convert : PyValue → PyValue} {found : Option τ} (row : Row formats record item)
    (lookup : ∀ name, read.lookup name = (item.lookup name).map convert)
    (text : ∀ text, convert (.str text) = .str text)
    (size : convert (.decimal (.ofInt record.sizeBytes)) = .int record.sizeBytes)
    (transcribed : optional validate read "transcript" = some found) :
    ∃ whole, IngestionRecord.fields? formats validate read = some whole ∧
      whole.transcript = found ∧ whole.userId = record.userId ∧
        whole.ingestionId = record.ingestionId := by
  have texts : ∀ {name text : String}, item.lookup name = some (.str text) →
      read.lookup name = some (.str text) := by
    intro name value named
    rw [lookup, named, Option.map_some, text]
  have missing : ∀ {name : String}, item.lookup name = none → read.lookup name = none := by
    intro name absent
    rw [lookup, absent, Option.map_none]
  have fixed : ∀ field ∈ record.fixed, required str? read field.1 = some field.2 :=
    fun field member => required_of_lookup (texts (row.fixed field member))
  simp only [IngestionRecord.fixed, List.forall_mem_cons] at fixed
  obtain ⟨ingestionId, userId, filename, contentType, s3Key, -⟩ := fixed
  have sizeBytes : required formats.int read "size_bytes" = some record.sizeBytes := by
    have named : read.lookup "size_bytes" = some (.int record.sizeBytes) := by
      rw [lookup, row.sizeBytes, Option.map_some, size]
    rw [required_of_lookup named, formats.int_int]
  obtain ⟨current, statusHeld⟩ := row.status
  have status : required (literal? IngestionStatus.ofText?) read "status" = some current :=
    (required_of_lookup (texts statusHeld)).trans (IngestionStatus.ofText?_text current)
  obtain ⟨created, createdHeld⟩ := row.createdAt
  obtain ⟨createdAt, created⟩ := Option.isSome_iff_exists.mp (formats.datetime_isoformat created)
  obtain ⟨updated, updatedHeld⟩ := row.updatedAt
  obtain ⟨updatedAt, updated⟩ := Option.isSome_iff_exists.mp (formats.datetime_isoformat updated)
  have transcriptStatus : ∃ status,
      optional (literal? TranscriptStatus.ofText?) read "transcript_status" = some status := by
    rcases row.transcriptStatus with absent | ⟨status, named⟩
    · exact ⟨none, optional_of_missing (missing absent)⟩
    · refine ⟨some status, (optional_of_lookup (texts named) fun same => nomatch same).trans ?_⟩
      exact congrArg (Option.map some) (TranscriptStatus.ofText?_text status)
  have message : ∃ message, optional str? read "transcript_error_message" = some message := by
    rcases row.transcriptErrorMessage with absent | ⟨message, named⟩
    · exact ⟨none, optional_of_missing (missing absent)⟩
    · exact ⟨some message, optional_of_lookup (texts named) fun same => nomatch same⟩
  obtain ⟨transcriptStatus, statusRead⟩ := transcriptStatus
  obtain ⟨message, messageRead⟩ := message
  refine ⟨⟨record.ingestionId, record.userId, record.filename, record.contentType, record.sizeBytes,
    record.s3Key, current, createdAt, updatedAt, transcriptStatus, found, message⟩, ?_, rfl, rfl, rfl⟩
  rw [IngestionRecord.fields?, ingestionId, userId, filename, contentType, sizeBytes, s3Key, status,
    (required_of_lookup (texts createdHeld)).trans created,
    (required_of_lookup (texts updatedHeld)).trans updated, statusRead, transcribed, messageRead]
  rfl

theorem modelValidate_of_fields? {τ : Type} {validate : PyValue → Option τ} {read : Item}
    {whole : IngestionRecord τ}
    (fields : IngestionRecord.fields? formats validate read = some whole) :
    IngestionRecord.modelValidate formats validate read = .ok whole := by
  rw [IngestionRecord.modelValidate, fields]

/-! ## The item that is put -/

theorem forall_mem_toList_map {α β : Type} {value : Option α} {f : α → β} {holds : β → Prop} :
    (∀ entry ∈ (value.map f).toList, holds entry) ↔ ∀ held ∈ value, holds (f held) := by
  cases value <;> simp

/-- No float is stored. -/
theorem isOk_serialize_dump {transcript : Transcript} :
    (PyValue.traverse serialize (transcript.dump fun time => .float (some time))).isOk = true ↔
      transcript.times = [] := by
  have floats := @Transcript.forall_leaves (fun time => .float (some time))
    (fun found => (serialize found).isOk = true) (fun _ => rfl) rfl transcript
  rw [PyValue.isOk_traverse_iff, floats, List.eq_nil_iff_forall_not_mem]
  refine forall₂_congr fun time _ => ?_
  rw [PyValue.leaves_float, List.forall_mem_singleton]
  exact iff_of_false (fun same => nomatch same) id

/-- The item of a record is stored if and only if its size has at most 38 digits, and its transcript
has no times. -/
theorem isOk_serializeItem_iff (formats : Formats) (record : IngestionRecord Transcript) :
    (serializeItem (record.toDynamo formats)).isOk = true ↔
      (PyDecimal.ofInt record.sizeBytes).Short 38 ∧
        ∀ transcript ∈ record.transcript, transcript.times = [] := by
  have text : ∀ text, (PyValue.traverse serialize (.str text)).isOk = true := fun _ => rfl
  have size : (PyValue.traverse serialize (.int record.sizeBytes)).isOk = true ↔ _ :=
    isOk_serialize_int
  rw [serializeItem, PyValue.isOk_traverseEntries_iff, IngestionRecord.toDynamo]
  simp only [List.forall_mem_append, List.forall_mem_cons, forall_mem_toList_map,
    isOk_serialize_dump, text, size]
  simp

/-- The attributes that a record may lack. -/
theorem lookup_toDynamo (formats : Formats) (record : IngestionRecord Transcript) :
    (record.toDynamo formats).lookup "transcript_status" =
        (record.transcriptStatus.map fun status => .str status.text) ∧
      (record.toDynamo formats).lookup "transcript" =
        (record.transcript.map fun transcript => transcript.dump fun time => .float (some time)) ∧
      (record.toDynamo formats).lookup "transcript_error_message" =
        record.transcriptErrorMessage.map .str := by
  obtain ⟨_, _, _, _, _, _, _, _, _, transcriptStatus, transcript, message⟩ := record
  cases transcriptStatus <;> cases transcript <;> cases message <;> exact ⟨rfl, rfl, rfl⟩

theorem keepsTexts_serialize : KeepsTexts (PyValue.orSelf serialize) := ⟨fun _ => rfl, rfl⟩

/-- The transcript of the item, wherever it has that attribute, is the value. -/
structure Transcribed (item : Item) (value : PyValue) : Prop where
  held : item.lookup "transcript" = some value
  only : ∀ entry ∈ item, entry.1 = "transcript" → entry.2 = value

/-- What is stored of a record is a row of it, with its transcript. -/
theorem row_of_put (stored : serializeItem (record.toDynamo formats) = .ok item) :
    Row formats record item ∧ ∀ transcript ∈ record.transcript,
      Transcribed item
        ((transcript.dump fun time => .float (some time)).map (PyValue.orSelf serialize)) := by
  have returns : (serializeItem (record.toDynamo formats)).isOk = true := by rw [stored]; rfl
  obtain ⟨short, -⟩ := (isOk_serializeItem_iff formats record).mp returns
  have converted : PyValue.mapEntries (PyValue.orSelf serialize) (record.toDynamo formats) = item :=
    Except.ok.inj ((PyValue.traverseEntries_of_isOk returns).symm.trans stored)
  have lookup : ∀ name, item.lookup name =
      ((record.toDynamo formats).lookup name).map (·.map (PyValue.orSelf serialize)) := by
    intro name
    rw [← converted, PyValue.lookup_mapEntries]
  refine ⟨⟨?_, ?_, short, ?_, ?_, ?_, ?_, ?_, ?_⟩, ?_⟩
  · intro field member
    simp only [IngestionRecord.fixed, List.mem_cons, List.not_mem_nil, or_false] at member
    rcases member with rfl | rfl | rfl | rfl | rfl <;> exact lookup _
  · have size : PyValue.orSelf serialize (.int record.sizeBytes) =
        .decimal (.ofInt record.sizeBytes) := PyValue.orSelf_of_ok (if_pos short)
    exact (lookup "size_bytes").trans (congrArg some size)
  · exact ⟨record.status, lookup "status"⟩
  · exact ⟨record.createdAt, lookup "created_at"⟩
  · exact ⟨record.updatedAt, lookup "updated_at"⟩
  · rw [lookup, (lookup_toDynamo formats record).1]
    cases record.transcriptStatus with
    | none => exact Or.inl rfl
    | some status => exact Or.inr ⟨status, rfl⟩
  · rw [lookup, (lookup_toDynamo formats record).2.2]
    cases record.transcriptErrorMessage with
    | none => exact Or.inl rfl
    | some message => exact Or.inr ⟨message, rfl⟩
  · have text : ∀ text, ∃ same, PyValue.map (PyValue.orSelf serialize) (.str text) = .str same :=
      fun text => ⟨text, rfl⟩
    have size : PyValue.map (PyValue.orSelf serialize) (.int record.sizeBytes) =
        .decimal (.ofInt record.sizeBytes) := PyValue.orSelf_of_ok (if_pos short)
    rw [← converted, PyValue.mapEntries_eq, List.forall_mem_map, IngestionRecord.toDynamo]
    simp only [List.forall_mem_append, List.forall_mem_cons, forall_mem_toList_map, text, size]
    simp
  · intro transcript given
    refine ⟨?_, ?_⟩
    · rw [lookup, (lookup_toDynamo formats record).2.1, given]
      rfl
    · rw [← converted, PyValue.mapEntries_eq, List.forall_mem_map, IngestionRecord.toDynamo, given]
      simp only [List.forall_mem_append, List.forall_mem_cons, forall_mem_toList_map]
      simp

/-! ## The writers -/

theorem transcribed_set (item : Item) (value : PyValue) :
    Transcribed (set item "transcript" value) value where
  held := by rw [lookup_set, if_pos rfl]
  only := forall_mem_set.mpr ⟨fun _ => rfl, fun _ _ other same => absurd same other⟩

/-- An update of another attribute leaves the transcript. -/
theorem Transcribed.set {other : PyValue} (transcribed : Transcribed item value)
    (different : name ≠ "transcript") : Transcribed (DynamoValue.set item name other) value where
  held := by
    rw [lookup_set, if_neg (Ne.symm different)]
    exact transcribed.held
  only := forall_mem_set.mpr ⟨fun same => absurd same different,
    fun entry member _ => transcribed.only entry member⟩

theorem Transcribed.remove (transcribed : Transcribed item value)
    (different : name ≠ "transcript") : Transcribed (DynamoValue.remove item name) value where
  held := by
    rw [lookup_remove, if_neg (Ne.symm different)]
    exact transcribed.held
  only := forall_mem_remove.mpr fun entry member _ => transcribed.only entry member

theorem fits_text {text : String}
    (named : name ∈ ["transcript_error_message", "failed_at", "failure_reason", "failure_source"]) :
    Fits formats name (.str text) := by
  simp only [List.mem_cons, List.not_mem_nil, or_false] at named
  rcases named with rfl | rfl | rfl | rfl <;>
    exact ⟨by decide, fun _ => ⟨text, rfl⟩, fun same => absurd same (by decide),
      fun same => absurd same (by decide), fun same => absurd same (by decide)⟩

theorem fits_status (status : IngestionStatus) : Fits formats "status" (.str status.text) :=
  ⟨by decide, fun _ => ⟨_, rfl⟩, fun _ => ⟨status, rfl⟩, fun same => absurd same (by decide),
    fun same => absurd same (by decide)⟩

theorem fits_updatedAt (time : ℚ) : Fits formats "updated_at" (.str (formats.isoformat time)) :=
  ⟨by decide, fun _ => ⟨_, rfl⟩, fun same => absurd same (by decide), fun _ => ⟨time, rfl⟩,
    fun same => absurd same (by decide)⟩

theorem fits_transcriptStatus (status : TranscriptStatus) :
    Fits formats "transcript_status" (.str status.text) :=
  ⟨by decide, fun _ => ⟨_, rfl⟩, fun same => absurd same (by decide),
    fun same => absurd same (by decide), fun _ => ⟨status, rfl⟩⟩

theorem fits_transcript (value : PyValue) : Fits formats "transcript" value :=
  ⟨by decide, fun other => absurd rfl other, fun same => absurd same (by decide),
    fun same => absurd same (by decide), fun same => absurd same (by decide)⟩

end Panakoes.IngestionApi
