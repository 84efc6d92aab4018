import Panakoes.IngestionApi.TranscriptDump

/-! # The row of an upload in the batch worker

What the worker writes to the item of an upload. It hands the table decimals that it makes of the
floats of the transcript.
-/

namespace Panakoes.TranscriberBatch.IngestionRow

open DynamoValue ModelFields IngestionApi

/-- The words of a transcript. -/
def wordCount (transcript : Transcript) : ℕ :=
  (transcript.segments.map fun segment => segment.words.length).sum

/-- The dictionary that `transcribe` makes of a transcript. -/
def canonical (transcript : Transcript) : PyValue :=
  .dict [("text", .str transcript.text), ("language", transcript.language.elim .none .str),
    ("duration_seconds", transcript.durationSeconds.elim .none fun time => .float (some time)),
    ("word_count", .int (wordCount transcript)),
    ("segments", .list (transcript.segments.map (·.dump fun time => .float (some time))))]

/-- `_floats_to_decimal` of a leaf. -/
def floatToDecimal (formats : Formats) : PyValue → PyValue
  | .float (some value) => .decimal (formats.str value)
  | .float none => .decimal (.nan false)
  | value => value

/-- `_floats_to_decimal`. -/
def floatsToDecimal (formats : Formats) (value : PyValue) : PyValue :=
  value.map (floatToDecimal formats)

/-- The change of `mark_succeeded`. -/
def succeededChange (formats : Formats) (payload : PyValue) (now : ℚ) (item : Item) : Item :=
  remove (set (set (set item "transcript_status" (.str "succeeded")) "transcript" payload)
    "updated_at" (.str (formats.isoformat now))) "transcript_error_message"

/-- `mark_succeeded`. -/
def markSucceeded (formats : Formats) (table : IngestionTable) (key : IngestionKey)
    (transcript : Transcript) (now : ℚ) : Except StoreError IngestionTable := do
  let payload ← PyValue.traverse serialize (floatsToDecimal formats (canonical transcript))
  return updateItem table key fun item => succeededChange formats payload now item

/-- The change of `mark_uploaded`. -/
def uploadedChange (formats : Formats) (now : ℚ) (item : Item) : Item :=
  set (set (set item "status" (.str "uploaded")) "transcript_status" (.str "pending"))
    "updated_at" (.str (formats.isoformat now))

/-- The change of `mark_failed`. -/
def failedChange (formats : Formats) (errorMessage : String) (now : ℚ) (item : Item) : Item :=
  set (set (set item "transcript_status" (.str "failed")) "transcript_error_message"
    (.str (errorMessage.take 500).toString)) "updated_at" (.str (formats.isoformat now))

/-! ## What the dictionary holds -/

variable {transcript : Transcript}

theorem forall_leaves_canonical {holds : PyValue → Prop} (text : ∀ text, holds (.str text))
    (none : holds .none) :
    (∀ found ∈ (canonical transcript).leaves, holds found) ↔
      (∀ time ∈ transcript.times, holds (.float (some time))) ∧
        holds (.int (wordCount transcript)) := by
  have dumped := @Transcript.forall_leaves (fun time => .float (some time)) holds text none transcript
  have parts : (∀ found ∈ (canonical transcript).leaves, holds found) ↔
      (∀ found ∈ (transcript.dump fun time => .float (some time)).leaves, holds found) ∧
        holds (.int (wordCount transcript)) := by
    simp only [canonical, Transcript.dump, PyValue.leaves, PyValue.leavesOfEntries,
      List.forall_mem_append, List.forall_mem_singleton, List.append_nil]
    tauto
  rw [parts, dumped]
  simp

theorem encodes_canonical (transcript : Transcript) :
    ∃ entries, canonical transcript = .dict entries ∧
      Encodes (fun time => .float (some time)) transcript (some (.int (wordCount transcript)))
        entries :=
  ⟨_, rfl, rfl, rfl, written_elim _ _, written_elim _ _, rfl, fun _ text none =>
    (forall_leaves_canonical text none).trans (by simp)⟩

theorem encodes_floatsToDecimal (formats : Formats) (transcript : Transcript) :
    ∃ entries, floatsToDecimal formats (canonical transcript) = .dict entries ∧
      Encodes (fun time => .decimal (formats.str time)) transcript
        (some (.int (wordCount transcript))) entries := by
  obtain ⟨entries, same, encodes⟩ := encodes_canonical transcript
  have keeps : KeepsTexts (floatToDecimal formats) := ⟨fun _ => rfl, rfl⟩
  refine ⟨_, ?_, encodes.map keeps⟩
  rw [floatsToDecimal, same]
  rfl

end Panakoes.TranscriberBatch.IngestionRow
