import Panakoes.IngestionApi.IngestionItems

/-! # Dictionaries of transcripts

The writers of transcripts make a dictionary each. All of them hold the transcript: they differ in the
numbers that they have for its times, in what they do with a field that is `None`, and in the count of
words. A conversion of the leaves keeps the transcript, and it is read back where the numbers are.
-/

namespace Panakoes.IngestionApi

open DynamoValue ModelFields
open PyValue (forall_leavesOfItems leaves leavesOfEntries leavesOfItems mapEntries mapItems mapItems_eq)

/-- The times of a word. -/
def TranscriptWord.times (word : TranscriptWord) : List ℚ := [word.start, word.stop]

/-- The times of a segment. -/
def TranscriptSegment.times (segment : TranscriptSegment) : List ℚ :=
  segment.start :: segment.stop :: segment.words.flatMap TranscriptWord.times

/-- The times of a transcript. -/
def Transcript.times (transcript : Transcript) : List ℚ :=
  transcript.segments.flatMap TranscriptSegment.times ++ transcript.durationSeconds.toList

/-- A conversion that leaves the texts, and `None`. -/
structure KeepsTexts (leaf : PyValue → PyValue) : Prop where
  str : ∀ text, leaf (.str text) = .str text
  none : leaf .none = .none

variable {number : ℚ → PyValue} {leaf : PyValue → PyValue} {holds : PyValue → Prop}
  {formats : Formats}

/-! ## Conversions -/

theorem TranscriptWord.map_dump (keeps : KeepsTexts leaf) (word : TranscriptWord) :
    (word.dump number).map leaf = word.dump fun time => (number time).map leaf := by
  simp [TranscriptWord.dump, PyValue.map, mapEntries, keeps.str]

theorem TranscriptSegment.map_dump (keeps : KeepsTexts leaf) (segment : TranscriptSegment) :
    (segment.dump number).map leaf = segment.dump fun time => (number time).map leaf := by
  have words : mapItems leaf (segment.words.map (·.dump number)) =
      segment.words.map (·.dump fun time => (number time).map leaf) := by
    rw [mapItems_eq, List.map_map]
    exact List.map_congr_left fun word _ => word.map_dump keeps
  simp [TranscriptSegment.dump, PyValue.map, mapEntries, keeps.str, words]

/-! ## Leaves -/

theorem TranscriptWord.forall_leaves (text : ∀ text, holds (.str text)) (word : TranscriptWord) :
    (∀ found ∈ leaves (word.dump number), holds found) ↔
      ∀ time ∈ word.times, ∀ found ∈ leaves (number time), holds found := by
  simp [TranscriptWord.dump, leaves, leavesOfEntries, TranscriptWord.times, text, or_imp, forall_and]

theorem TranscriptSegment.forall_leaves (text : ∀ text, holds (.str text))
    (segment : TranscriptSegment) :
    (∀ found ∈ leaves (segment.dump number), holds found) ↔
      ∀ time ∈ segment.times, ∀ found ∈ leaves (number time), holds found := by
  have words : (∀ found ∈ leavesOfItems (segment.words.map (·.dump number)), holds found) ↔
      ∀ time ∈ segment.words.flatMap TranscriptWord.times,
        ∀ found ∈ leaves (number time), holds found := by
    rw [forall_leavesOfItems, List.forall_mem_map, List.forall_mem_flatMap]
    exact forall₂_congr fun word _ => word.forall_leaves text
  rw [TranscriptSegment.times, List.forall_mem_cons, List.forall_mem_cons, ← words]
  simp [TranscriptSegment.dump, leaves, leavesOfEntries, text, or_imp, forall_and]

/-! ## Reading -/

theorem TranscriptWord.modelValidate_dump (word : TranscriptWord)
    (reads : ∀ time ∈ word.times, formats.float (number time) = some time) :
    TranscriptWord.modelValidate formats (word.dump number) = some word := by
  have start := reads word.start (by simp [TranscriptWord.times])
  have stop := reads word.stop (by simp [TranscriptWord.times])
  simp [TranscriptWord.dump, TranscriptWord.modelValidate, required, List.lookup_cons, str?, start,
    stop]

theorem TranscriptSegment.modelValidate_dump (segment : TranscriptSegment)
    (reads : ∀ time ∈ segment.times, formats.float (number time) = some time) :
    TranscriptSegment.modelValidate formats (segment.dump number) = some segment := by
  rw [TranscriptSegment.times, List.forall_mem_cons, List.forall_mem_cons,
    List.forall_mem_flatMap] at reads
  obtain ⟨start, stop, words⟩ := reads
  have read : list? (TranscriptWord.modelValidate formats)
      (.list (segment.words.map (·.dump number))) = some segment.words := by
    have each := @list?_map TranscriptWord TranscriptWord (TranscriptWord.modelValidate formats)
      segment.words (·.dump number) id fun word member =>
        word.modelValidate_dump (words word member)
    rwa [List.map_id] at each
  simp [TranscriptSegment.dump, TranscriptSegment.modelValidate, required, defaulted,
    List.lookup_cons, str?, start, stop, read]

/-! ## Dictionaries that hold a transcript -/

/-- What a field that may be `None` is in a dictionary. -/
def Written (value found : Option PyValue) : Prop :=
  match value with
  | some value => found = some value
  | none => found = none ∨ found = some .none

/-- The dictionary holds the transcript, with these numbers for its times and for the count of its
words, and no other number. -/
structure Encodes (number : ℚ → PyValue) (transcript : Transcript) (count : Option PyValue)
    (entries : List (String × PyValue)) : Prop where
  text : entries.lookup "text" = some (.str transcript.text)
  segments : entries.lookup "segments" =
    some (.list (transcript.segments.map (·.dump number)))
  language : Written (transcript.language.map .str) (entries.lookup "language")
  durationSeconds :
    Written (transcript.durationSeconds.map number) (entries.lookup "duration_seconds")
  wordCount : entries.lookup "word_count" = count
  leaves : ∀ holds : PyValue → Prop, (∀ text, holds (.str text)) → holds .none →
    ((∀ found ∈ leavesOfEntries entries, holds found) ↔
      (∀ time ∈ transcript.times, ∀ found ∈ PyValue.leaves (number time), holds found) ∧
        ∀ value ∈ count, ∀ found ∈ PyValue.leaves value, holds found)

variable {transcript : Transcript} {count : Option PyValue} {entries : List (String × PyValue)}

theorem Written.map {value found : Option PyValue} (keeps : KeepsTexts leaf)
    (written : Written value found) :
    Written (value.map (·.map leaf)) (found.map (·.map leaf)) := by
  cases value with
  | some value =>
      rw [written]
      rfl
  | none =>
      rcases written with rfl | rfl
      · exact Or.inl rfl
      · exact Or.inr (congrArg some keeps.none)

/-- A conversion that keeps the texts keeps the transcript. -/
theorem Encodes.map (keeps : KeepsTexts leaf) (encodes : Encodes number transcript count entries) :
    Encodes (fun time => (number time).map leaf) transcript (count.map (·.map leaf))
      (mapEntries leaf entries) where
  text := by
    rw [PyValue.lookup_mapEntries, encodes.text, Option.map_some, PyValue.map_str, keeps.str]
  segments := by
    rw [PyValue.lookup_mapEntries, encodes.segments, Option.map_some, PyValue.map, mapItems_eq,
      List.map_map]
    exact congrArg (fun items => some (PyValue.list items))
      (List.map_congr_left fun segment _ => segment.map_dump keeps)
  language := by
    rw [PyValue.lookup_mapEntries]
    have written := encodes.language.map keeps
    cases spoken : transcript.language with
    | none => rwa [spoken] at written
    | some text =>
        rw [spoken] at written
        exact written.trans (congrArg some (keeps.str text))
  durationSeconds := by
    rw [PyValue.lookup_mapEntries]
    have written := encodes.durationSeconds.map keeps
    rwa [Option.map_map] at written
  wordCount := by rw [PyValue.lookup_mapEntries, encodes.wordCount]
  leaves holds text none := by
    have converted := encodes.leaves
      (fun found => ∀ inner ∈ PyValue.leaves (leaf found), holds inner)
      (fun value => by
        rw [keeps.str, PyValue.leaves_str, List.forall_mem_singleton]
        exact text value)
      (by rwa [keeps.none, PyValue.leaves_none, List.forall_mem_singleton])
    have whole := @PyValue.forall_leaves_map leaf holds (.dict entries)
    refine whole.trans (converted.trans (and_congr ?_ ?_))
    · exact forall₂_congr fun time _ => (PyValue.forall_leaves_map (number time)).symm
    · cases count with
      | none =>
          apply iff_of_true
          all_goals
            intro _ same
            cases same
      | some value =>
          simp only [Option.map_some, Option.mem_some_iff, forall_eq']
          exact (PyValue.forall_leaves_map value).symm

theorem Transcript.of_no_times (none : transcript.times = []) :
    transcript.segments = [] ∧ transcript.durationSeconds = Option.none := by
  obtain ⟨segments, duration⟩ := List.append_eq_nil_iff.mp none
  constructor
  · cases parts : transcript.segments with
    | nil => rfl
    | cons segment rest =>
        rw [parts] at segments
        cases segments
  · cases given : transcript.durationSeconds with
    | none => rfl
    | some time =>
        rw [given] at duration
        cases duration

/-- Without a time the numbers do not matter. -/
theorem Encodes.of_no_times {other : ℚ → PyValue} (none : transcript.times = [])
    (encodes : Encodes number transcript count entries) : Encodes other transcript count entries := by
  obtain ⟨segments, duration⟩ := Transcript.of_no_times none
  refine { encodes with segments := ?_, durationSeconds := ?_, leaves := ?_ }
  · rw [encodes.segments, segments]
    rfl
  · have written := encodes.durationSeconds
    rwa [duration] at written ⊢
  · intro holds text blank
    rw [encodes.leaves holds text blank, none]
    simp

/-! ## Reading a dictionary -/

/-- A field that may be `None` is read back where its value is. -/
theorem Written.optional_eq {α : Type} {read : PyValue → Option α} {write : α → PyValue}
    {value : Option α} {name : String} (written : Written (value.map write) (entries.lookup name))
    (reads : ∀ held ∈ value, read (write held) = some held)
    (present : ∀ held ∈ value, write held ≠ .none) : optional read entries name = some value := by
  cases value with
  | some value => rw [optional_of_lookup written (present value rfl), reads value rfl, Option.map_some]
  | none =>
      rcases written with missing | blank
      · exact optional_of_missing missing
      · exact optional_of_none blank

namespace Encodes

variable (encodes : Encodes number transcript count entries)

include encodes

theorem required_text : required str? entries "text" = some transcript.text :=
  required_of_lookup encodes.text

theorem defaulted_segments
    (reads : ∀ time ∈ transcript.times, formats.float (number time) = some time) :
    defaulted (list? (TranscriptSegment.modelValidate formats)) entries "segments" [] =
      some transcript.segments := by
  rw [Transcript.times, List.forall_mem_append, List.forall_mem_flatMap] at reads
  have each := @list?_map _ _ (TranscriptSegment.modelValidate formats) transcript.segments
    (·.dump number) id fun segment member =>
      segment.modelValidate_dump (reads.1 segment member)
  rw [defaulted_of_lookup encodes.segments, each, List.map_id]

theorem optional_language : optional str? entries "language" = some transcript.language := by
  refine encodes.language.optional_eq (fun _ _ => rfl) fun _ _ same => ?_
  cases same

theorem optional_durationSeconds
    (reads : ∀ time ∈ transcript.times, formats.float (number time) = some time)
    (present : ∀ time ∈ transcript.times, number time ≠ .none) :
    optional formats.float entries "duration_seconds" = some transcript.durationSeconds := by
  rw [Transcript.times, List.forall_mem_append] at reads present
  exact encodes.durationSeconds.optional_eq
    (fun time held => reads.2 time (Option.mem_toList.mpr held))
    fun time held => present.2 time (Option.mem_toList.mpr held)

/-- The transcript is read back where its times are. -/
theorem modelValidate
    (reads : ∀ time ∈ transcript.times, formats.float (number time) = some time)
    (present : ∀ time ∈ transcript.times, number time ≠ .none) :
    Transcript.modelValidate formats (.dict entries) = some transcript := by
  rw [Transcript.modelValidate, encodes.required_text, encodes.defaulted_segments reads,
    encodes.optional_language, encodes.optional_durationSeconds reads present]
  rfl

end Encodes

/-! ## The dictionary of the model -/

/-- What a predicate of texts and of `None` is of a field that may be `None`. -/
theorem forall_leaves_elim {α : Type} (value : Option α) (write : α → PyValue)
    (none : holds .none) :
    (∀ found ∈ leaves (value.elim .none write), holds found) ↔
      ∀ held ∈ value, ∀ found ∈ leaves (write held), holds found := by
  cases value <;> simp [none]

theorem written_elim {α : Type} (value : Option α) (write : α → PyValue) :
    Written (value.map write) (some (value.elim .none write)) := by
  cases value with
  | none => exact Or.inr rfl
  | some value => rfl

theorem Transcript.forall_leaves (text : ∀ text, holds (.str text)) (none : holds .none)
    (transcript : Transcript) :
    (∀ found ∈ leaves (transcript.dump number), holds found) ↔
      ∀ time ∈ transcript.times, ∀ found ∈ leaves (number time), holds found := by
  have segments : (∀ found ∈ leavesOfItems (transcript.segments.map (·.dump number)), holds found) ↔
      ∀ time ∈ transcript.segments.flatMap TranscriptSegment.times,
        ∀ found ∈ leaves (number time), holds found := by
    rw [forall_leavesOfItems, List.forall_mem_map, List.forall_mem_flatMap]
    exact forall₂_congr fun segment _ => segment.forall_leaves text
  have language := @forall_leaves_elim holds String transcript.language .str none
  have duration := forall_leaves_elim transcript.durationSeconds number none
  rw [Transcript.times, List.forall_mem_append, ← segments]
  simp [Transcript.dump, leaves, leavesOfEntries, text, or_imp, forall_and, language, duration]

theorem encodes_dump (number : ℚ → PyValue) (transcript : Transcript) :
    ∃ entries, transcript.dump number = .dict entries ∧ Encodes number transcript none entries :=
  ⟨_, rfl, rfl, rfl, written_elim _ _, written_elim _ _, rfl, fun _ text none =>
    (transcript.forall_leaves text none).trans (and_iff_left fun _ same => nomatch same).symm⟩

/-! ## The dictionary without `None` -/

theorem stripNoneItems_eq (items : List PyValue) : stripNoneItems items = items.map stripNone := by
  induction items with
  | nil => rfl
  | cons item rest ih => rw [stripNoneItems, ih, List.map_cons]

/-- Dropping `None` drops no other leaf. -/
theorem forall_leaves_stripNone (none : holds .none) (value : PyValue) :
    (∀ found ∈ leaves (stripNone value), holds found) ↔ ∀ found ∈ leaves value, holds found := by
  induction value using PyValue.nested with
  | none | bool _ | int _ | float _ | decimal _ | str _ => exact Iff.rfl
  | list items ih =>
      rw [stripNone, leaves, leaves, stripNoneItems_eq, forall_leavesOfItems, forall_leavesOfItems,
        List.forall_mem_map]
      exact forall₂_congr ih
  | dict entries ih =>
      rw [stripNone, leaves, leaves]
      induction entries with
      | nil => exact Iff.rfl
      | cons entry rest inner =>
          obtain ⟨key, value⟩ := entry
          obtain ⟨head, tail⟩ := List.forall_mem_cons.mp ih
          rw [leavesOfEntries, List.forall_mem_append, ← inner tail]
          cases value with
          | none => simp [stripNoneEntries, none]
          | bool _ | int _ | float _ | decimal _ | str _ | list _ | dict _ =>
              rw [stripNoneEntries, leavesOfEntries, List.forall_mem_append, head]
              all_goals
                intro same
                cases same

/-- The segments have nothing to drop. -/
theorem stripNone_segments (decimal : ℚ → PyDecimal) (segments : List TranscriptSegment) :
    stripNone (.list (segments.map (·.dump fun time => .decimal (decimal time)))) =
      .list (segments.map (·.dump fun time => .decimal (decimal time))) := by
  rw [stripNone, stripNoneItems_eq, List.map_map]
  refine congrArg PyValue.list (List.map_congr_left fun segment _ => ?_)
  have words : stripNoneItems (segment.words.map (·.dump fun time => .decimal (decimal time))) =
      segment.words.map (·.dump fun time => .decimal (decimal time)) := by
    rw [stripNoneItems_eq, List.map_map]
    rfl
  simp [TranscriptSegment.dump, stripNone, stripNoneEntries, words]

theorem encodes_payload (formats : Formats) (transcript : Transcript) :
    ∃ entries, IngestionStore.transcriptPayload formats transcript = .dict entries ∧
      Encodes (fun time => .decimal (formats.json time)) transcript none entries := by
  have segments := stripNone_segments formats.json transcript.segments
  refine ⟨_, rfl, ?_, ?_, ?_, ?_, ?_, fun holds text none => ?_⟩
  · rfl
  · exact congrArg some segments
  · cases transcript.language with
    | none => exact Or.inl (by cases transcript.durationSeconds <;> rfl)
    | some language => rfl
  · cases transcript.durationSeconds with
    | none => exact Or.inl (by cases transcript.language <;> rfl)
    | some duration => cases transcript.language <;> rfl
  · cases transcript.language <;> cases transcript.durationSeconds <;> rfl
  · refine Iff.trans ?_ ((forall_leaves_stripNone none _).trans
      ((transcript.forall_leaves text none).trans (and_iff_left fun _ same => nomatch same).symm))
    exact Iff.rfl

end Panakoes.IngestionApi
