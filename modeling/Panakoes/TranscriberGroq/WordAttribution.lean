import Mathlib.Algebra.BigOperators.Group.List.Basic
import Mathlib.Tactic.Linarith
import Panakoes.TranscriberGroq.Backend

/-! # The words of the segments

A word goes to the segments whose interval holds its middle. Intervals that tile the audio from its
start to its end hold every moment once, except the end itself. A word that has no length and
stands there goes to no segment.
-/

namespace Panakoes.TranscriberGroq

/-! ## Tilings -/

/-- Intervals that follow each other from a first moment to a last one. -/
def Tiles : ℚ → List (ℚ × ℚ) → ℚ → Prop
  | first, [], last => first = last
  | first, span :: rest, last => span.1 = first ∧ span.1 ≤ span.2 ∧ Tiles span.2 rest last

/-- A moment lies in an interval. -/
def holds (moment : ℚ) (span : ℚ × ℚ) : Bool := span.1 ≤ moment ∧ moment < span.2

theorem Tiles.le {first last : ℚ} {spans : List (ℚ × ℚ)} (tiles : Tiles first spans last) :
    first ≤ last := by
  induction spans generalizing first with
  | nil => exact le_of_eq tiles
  | cons span rest ih =>
      obtain ⟨rfl, forward, later⟩ := tiles
      exact forward.trans (ih later)

/-- A moment before a tiling lies in none of its intervals. -/
theorem Tiles.countP_before {first last moment : ℚ} {spans : List (ℚ × ℚ)}
    (tiles : Tiles first spans last) (before : moment < first) :
    spans.countP (holds moment) = 0 := by
  induction spans generalizing first with
  | nil => rfl
  | cons span rest ih =>
      obtain ⟨rfl, forward, later⟩ := tiles
      rw [List.countP_cons_of_neg, ih later (before.trans_le forward)]
      simp [holds, not_le.mpr before]

/-- A moment from the end of a tiling on lies in none of its intervals. -/
theorem Tiles.countP_behind {first last moment : ℚ} {spans : List (ℚ × ℚ)}
    (tiles : Tiles first spans last) (behind : last ≤ moment) :
    spans.countP (holds moment) = 0 := by
  induction spans generalizing first with
  | nil => rfl
  | cons span rest ih =>
      obtain ⟨rfl, forward, later⟩ := tiles
      rw [List.countP_cons_of_neg, ih later]
      simp [holds, not_lt.mpr (later.le.trans behind)]

/-- A moment within a tiling lies in one of its intervals. -/
theorem Tiles.countP_within {first last moment : ℚ} {spans : List (ℚ × ℚ)}
    (tiles : Tiles first spans last) (after : first ≤ moment) (before : moment < last) :
    spans.countP (holds moment) = 1 := by
  induction spans generalizing first with
  | nil =>
      cases tiles
      exact absurd before (not_lt.mpr after)
  | cons span rest ih =>
      obtain ⟨rfl, forward, later⟩ := tiles
      by_cases here : moment < span.2
      · rw [List.countP_cons_of_pos, later.countP_before here]
        simp [holds, after, here]
      · rw [List.countP_cons_of_neg, ih later (not_lt.mp here)]
        simp [holds, here]

theorem length_filter_eq_sum {α : Type*} (members : List α) (holds : α → Bool) :
    (members.filter holds).length =
      (members.map fun member => if holds member then 1 else 0).sum := by
  rw [← List.countP_eq_length_filter]
  induction members with
  | nil => rfl
  | cons member members ih =>
      rw [List.countP_cons, List.map_cons, List.sum_cons, ih, Nat.add_comm]

/-- What is counted for each row is counted for each column. -/
theorem sum_length_filter {α β : Type*} (rows : List α) (columns : List β)
    (related : α → β → Bool) :
    (rows.map fun row => (columns.filter (related row)).length).sum =
      (columns.map fun column => rows.countP fun row => related row column).sum := by
  induction rows with
  | nil => simp
  | cons row rows ih =>
      rw [List.map_cons, List.sum_cons, ih, length_filter_eq_sum, ← List.sum_map_add]
      congr 1
      refine List.map_congr_left fun column _ => ?_
      rw [List.countP_cons, Nat.add_comm]

/-! ## A payload -/

/-- The times of a member of `segments`. -/
def SegmentSpan (python : Python) (raw : PyJson) (span : ℚ × ℚ) : Prop :=
  ∃ entries, raw = .dict entries ∧
    python.float (PyJson.getD entries "start" (.float (some 0))) = .ok (some span.1) ∧
    python.float (PyJson.getD entries "end" (.float (some 0))) = .ok (some span.2)

/-- The times of a member of `words` that has a text. -/
def WordSpan (python : Python) (raw : PyJson) (span : ℚ × ℚ) : Prop :=
  ∃ entries, raw = .dict entries ∧ PyJson.get entries "word" ≠ .none ∧
    python.float (PyJson.get entries "start") = .ok (some span.1) ∧
    python.float (PyJson.get entries "end") = .ok (some span.2)

/-- A payload whose segments tile the audio, and whose words lie in it. -/
structure TiledPayload (python : Python) (last : ℚ) (payload : PyJson) (rawWords : List PyJson) :
    Prop where
  segments : ∃ entries rawSegments spans, payload = .dict entries ∧
    (PyJson.get entries "duration" = .none ∨ python.Floats (PyJson.get entries "duration")) ∧
    PyJson.get entries "words" = .list rawWords ∧
    PyJson.get entries "segments" = .list rawSegments ∧
    List.Forall₂ (SegmentSpan python) rawSegments spans ∧ Tiles 0 spans last
  words : ∀ raw ∈ rawWords, ∃ span, WordSpan python raw span ∧ 0 ≤ span.1 ∧ span.1 ≤ span.2 ∧
    span.2 ≤ last

/-- Every word is in one segment, the words of a segment keep their order, and the segments have as
many words as there are. -/
structure Attributed (words : List Word) (segments : List TranscriptionSegment) : Prop where
  once : ∀ word ∈ words, segments.countP (fun segment => word ∈ segment.words) = 1
  ordered : ∀ segment ∈ segments, segment.words.Sublist words
  total : (segments.map fun segment => segment.words.length).sum = words.length

/-- The words of a segment are those whose middle lies in its interval. -/
def SpannedBy (words : List Word) (span : ℚ × ℚ) (segment : TranscriptionSegment) : Prop :=
  segment.words = wordsInside words (some span.1) (some span.2)

variable {python : Python} {words : List Word} {spans : List (ℚ × ℚ)}
  {segments : List TranscriptionSegment} {last : ℚ}

/-- The word has times that are finite. -/
def Timed (word : Word) (span : ℚ × ℚ) : Prop :=
  word.start = some span.1 ∧ word.stop = some span.2

/-- The middle of a word. -/
def middle (span : ℚ × ℚ) : ℚ := (span.1 + span.2) / 2

theorem inside_eq_holds {word : Word} {timed : ℚ × ℚ} (times : Timed word timed) (span : ℚ × ℚ) :
    word.inside (some span.1) (some span.2) = holds (middle timed) span := by
  unfold Word.inside
  rw [times.1, times.2]
  rfl

/-- A word is in as many segments as intervals hold its middle. -/
theorem countP_segments (spanned : List.Forall₂ (SpannedBy words) spans segments) {word : Word}
    (member : word ∈ words) {timed : ℚ × ℚ} (times : Timed word timed) :
    segments.countP (fun segment => word ∈ segment.words) =
      spans.countP (holds (middle timed)) := by
  induction spanned with
  | nil => rfl
  | @cons span segment spans segments here _ ih =>
      have same : decide (word ∈ segment.words) = holds (middle timed) span := by
        rw [here, ← inside_eq_holds times]
        simp [wordsInside, member]
      rw [List.countP_cons, List.countP_cons, ih, same]

/-- The segments have as many words as intervals hold middles of words. -/
theorem sum_length_words (spanned : List.Forall₂ (SpannedBy words) spans segments) :
    (segments.map fun segment => segment.words.length).sum =
      (words.map fun word =>
        spans.countP fun span => word.inside (some span.1) (some span.2)).sum := by
  rw [← sum_length_filter spans words fun span word => word.inside (some span.1) (some span.2)]
  congr 1
  induction spanned with
  | nil => rfl
  | cons here _ ih =>
      rw [List.map_cons, List.map_cons, here, ih]
      rfl

/-- The words are attributed when every middle is held once. -/
theorem attributed_of_holds (spanned : List.Forall₂ (SpannedBy words) spans segments)
    (held : ∀ word ∈ words, ∃ timed, Timed word timed ∧ spans.countP (holds (middle timed)) = 1) :
    Attributed words segments where
  once word member := by
    obtain ⟨timed, times, one⟩ := held word member
    rw [countP_segments spanned member times, one]
  ordered := by
    clear held
    induction spanned with
    | nil => exact fun segment member => absurd member List.not_mem_nil
    | cons here _ ih =>
        intro segment member
        rcases List.mem_cons.mp member with rfl | later
        · rw [here]
          exact List.filter_sublist
        · exact ih segment later
  total := by
    rw [sum_length_words spanned]
    have ones : ∀ word ∈ words,
        (spans.countP fun span => word.inside (some span.1) (some span.2)) = 1 := by
      intro word member
      obtain ⟨timed, times, one⟩ := held word member
      rw [← one]
      congr 1
      funext span
      exact inside_eq_holds times span
    rw [List.map_congr_left ones]
    simp

/-! ## Reading the payload -/

theorem readWord_of_span {raw : PyJson} {span : ℚ × ℚ} (spans : WordSpan python raw span) :
    ∃ word, readWord python raw = .ok (some word) ∧ Timed word span := by
  obtain ⟨entries, rfl, texted, started, stopped⟩ := spans
  have starts : PyJson.get entries "start" ≠ .none := by
    intro missing
    rw [missing] at started
    cases started
  have stops : PyJson.get entries "end" ≠ .none := by
    intro missing
    rw [missing] at stopped
    cases stopped
  refine ⟨⟨python.str (PyJson.get entries "word"), some span.1, some span.2⟩, ?_, rfl, rfl⟩
  unfold readWord entriesOf
  simp only [bind, Except.bind]
  rw [if_neg (by simp [isNone_iff, texted, starts, stops]), started, stopped]
  rfl

theorem readSegment_of_span {raw : PyJson} {span : ℚ × ℚ} (spans : SegmentSpan python raw span)
    (words : List Word) :
    ∃ segment, readSegment python words raw = .ok segment ∧ SpannedBy words span segment := by
  obtain ⟨entries, rfl, started, stopped⟩ := spans
  refine ⟨⟨python.str (PyJson.getD entries "text" (.str "")), some span.1, some span.2,
    wordsInside words (some span.1) (some span.2)⟩, ?_, rfl⟩
  unfold readSegment entriesOf
  simp only [bind, Except.bind]
  rw [started, stopped]
  rfl

/-- A loop whose rounds all return. -/
theorem mapM_of_forall₂ {α β : Type} {read : α → Except Raised β} {raws : List α}
    {values : List β} (reads : List.Forall₂ (fun raw value => read raw = .ok value) raws values) :
    raws.mapM read = .ok values := by
  induction reads with
  | nil => rfl
  | cons here _ ih =>
      rw [List.mapM_cons, here, ih]
      rfl

/-- What every member has, a list of them has. -/
theorem exists_forall₂ {α β : Type*} {related : α → β → Prop} {members : List α}
    (each : ∀ member ∈ members, ∃ value, related member value) :
    ∃ values, List.Forall₂ related members values := by
  induction members with
  | nil => exact ⟨[], .nil⟩
  | cons member members ih =>
      obtain ⟨value, here⟩ := each member List.mem_cons_self
      obtain ⟨values, later⟩ := ih fun other inside => each other (List.mem_cons_of_mem _ inside)
      exact ⟨value :: values, .cons here later⟩

/-- Each of the values of a list belongs to a member. -/
theorem exists_mem_of_forall₂ {α β : Type*} {related : α → β → Prop} {members : List α}
    {values : List β} (all : List.Forall₂ related members values) :
    ∀ value ∈ values, ∃ member ∈ members, related member value := by
  induction all with
  | nil => exact fun value inside => absurd inside List.not_mem_nil
  | cons here _ ih =>
      intro value inside
      rcases List.mem_cons.mp inside with rfl | later
      · exact ⟨_, List.mem_cons_self, here⟩
      · obtain ⟨member, there, holds⟩ := ih value later
        exact ⟨member, List.mem_cons_of_mem _ there, holds⟩

theorem readSegments {rawSegments : List PyJson}
    (spanned : List.Forall₂ (SegmentSpan python) rawSegments spans) (words : List Word) :
    ∃ segments, rawSegments.mapM (readSegment python words) = .ok segments ∧
      List.Forall₂ (SpannedBy words) spans segments := by
  induction spanned with
  | nil => exact ⟨[], rfl, .nil⟩
  | cons here _ ih =>
      obtain ⟨segment, read, spannedBy⟩ := readSegment_of_span here words
      obtain ⟨segments, reads, later⟩ := ih
      refine ⟨segment :: segments, ?_, .cons spannedBy later⟩
      rw [List.mapM_cons, read, reads]
      rfl

theorem items_list (members : List PyJson) : items (.list members) = .ok members := by
  cases members <;> rfl

/-- **Words are attributed.** Of every payload whose segments tile the audio and whose words lie in
it, the words are attributed if and only if none of them starts and ends at the end of the
audio. -/
theorem attributed_iff {python : Python} {last : ℚ} {payload : PyJson} {rawWords : List PyJson}
    (tiled : TiledPayload python last payload rawWords) :
    ∃ words result,
      List.Forall₂ (fun raw word => readWord python raw = .ok (some word)) rawWords words ∧
      parseResponse python payload = .ok result ∧
      (Attributed words result.segments ↔
        ∀ raw ∈ rawWords, ¬ WordSpan python raw (last, last)) := by
  obtain ⟨entries, rawSegments, spans, rfl, duration, rawWordsHeld, segmentsHeld, spanned, tiles⟩ :=
    tiled.segments
  have each : ∀ raw ∈ rawWords, ∃ word, readWord python raw = .ok (some word) := by
    intro raw member
    obtain ⟨span, spans, -⟩ := tiled.words raw member
    obtain ⟨word, read, -⟩ := readWord_of_span spans
    exact ⟨word, read⟩
  obtain ⟨words, reads⟩ := exists_forall₂ each
  obtain ⟨segments, segmentsRead, spannedBy⟩ := readSegments spanned words
  obtain ⟨duration, durationRead⟩ := Except.exists_of_isOk ((isOk_readDuration_iff _).mpr duration)
  have wordsRead : rawWords.mapM (readWord python) = .ok (words.map some) :=
    mapM_of_forall₂ (List.forall₂_map_right_iff.mpr reads)
  have present : (words.map some).reduceOption = words := by
    change (words.map some).filterMap id = words
    rw [List.filterMap_map]
    exact List.filterMap_some
  refine ⟨words, ⟨python.str (PyJson.getD entries "text" (.str "")), segments,
    if isNone (PyJson.get entries "language") then none
    else some (python.str (PyJson.get entries "language")), duration⟩, reads, ?_, ?_⟩
  · unfold parseResponse entriesOf readItems
    simp only [bind, Except.bind, durationRead, rawWordsHeld, segmentsHeld, items_list, wordsRead,
      present, segmentsRead]
    rfl
  · constructor
    · intro attributed raw member ends
      obtain ⟨word, inside, read⟩ := exists_mem_of_forall₂ reads.flip raw member
      obtain ⟨_, same, times⟩ := readWord_of_span ends
      cases read.symm.trans same
      have one := attributed.once word inside
      have behind : last ≤ middle (last, last) := by
        unfold middle
        linarith
      rw [countP_segments spannedBy inside times, tiles.countP_behind behind] at one
      cases one
    · intro unended
      refine attributed_of_holds spannedBy fun word inside => ?_
      obtain ⟨raw, member, read⟩ := exists_mem_of_forall₂ reads word inside
      obtain ⟨span, spans, starts, forward, stops⟩ := tiled.words raw member
      obtain ⟨_, same, times⟩ := readWord_of_span spans
      cases read.symm.trans same
      refine ⟨span, times, tiles.countP_within ?_ ?_⟩
      · unfold middle
        linarith
      · have early : span.1 < last := by
          refine lt_of_le_of_ne (forward.trans stops) fun starts => unended raw member ?_
          have ends : span = (last, last) :=
            Prod.ext starts (le_antisymm stops (starts ▸ forward))
          rwa [ends] at spans
        unfold middle
        linarith

/-- Whole numbers and fractions are read as they are. -/
def exactPython : Python := ⟨fun _ => none, some, fun _ => "", "60.0"⟩

/-- A member of `words`. -/
def rawWordOf (word : ℚ × ℚ) : PyJson :=
  .dict [("word", .str "hello"), ("start", .float (some word.1)), ("end", .float (some word.2))]

/-- A payload with one segment, from 0 to 1, and one word. -/
def payloadOf (word : ℚ × ℚ) : PyJson :=
  .dict [("text", .str "hello"), ("duration", .int 1), ("words", .list [rawWordOf word]),
    ("segments", .list [.dict [("text", .str "hello"), ("start", .int 0), ("end", .int 1)]])]

theorem payloadOf_tiled {word : ℚ × ℚ} (starts : 0 ≤ word.1) (forward : word.1 ≤ word.2)
    (stops : word.2 ≤ 1) : TiledPayload exactPython 1 (payloadOf word) [rawWordOf word] where
  segments := by
    refine ⟨_, [.dict [("text", .str "hello"), ("start", .int 0), ("end", .int 1)]], [(0, 1)], rfl,
      Or.inr rfl, rfl, rfl, .cons ⟨_, rfl, rfl, rfl⟩ .nil, rfl, ?_, rfl⟩
    exact zero_le_one
  words := by
    intro raw member
    cases List.mem_singleton.mp member
    exact ⟨word, ⟨_, rfl, PyJson.noConfusion, rfl, rfl⟩, starts, forward, stops⟩

/-- A word from 0 to 1/2 is attributed. -/
theorem attributed_sample :
    ∃ words result,
      List.Forall₂ (fun raw word => readWord exactPython raw = .ok (some word))
        [rawWordOf (0, 1 / 2)] words ∧
      parseResponse exactPython (payloadOf (0, 1 / 2)) = .ok result ∧
      Attributed words result.segments := by
  have tiled : TiledPayload exactPython 1 (payloadOf (0, 1 / 2)) [rawWordOf (0, 1 / 2)] :=
    payloadOf_tiled (le_refl 0) (by norm_num) (by norm_num)
  obtain ⟨words, result, reads, parsed, attributed⟩ := attributed_iff tiled
  refine ⟨words, result, reads, parsed, attributed.mpr fun raw member ends => ?_⟩
  cases List.mem_singleton.mp member
  obtain ⟨_, same, _, started, _⟩ := ends
  cases same
  have early : (0 : ℚ) = 1 := Option.some.inj (Except.ok.inj started)
  norm_num at early

/-- A word without length at the end of the audio is in no segment. -/
theorem ending_not_attributed :
    ∃ words result,
      List.Forall₂ (fun raw word => readWord exactPython raw = .ok (some word))
        [rawWordOf (1, 1)] words ∧
      TiledPayload exactPython 1 (payloadOf (1, 1)) [rawWordOf (1, 1)] ∧
      parseResponse exactPython (payloadOf (1, 1)) = .ok result ∧
      ¬ Attributed words result.segments := by
  have behind : wordsInside [⟨"hello", some 1, some 1⟩] (some 0) (some 1) = [] := by
    simp [wordsInside, Word.inside]
  refine ⟨[⟨"hello", some 1, some 1⟩], ⟨"hello", [⟨"hello", some 0, some 1,
    wordsInside [⟨"hello", some 1, some 1⟩] (some 0) (some 1)⟩], none, some (some 1)⟩,
    .cons rfl .nil, payloadOf_tiled zero_le_one (le_refl 1) (le_refl 1), rfl, ?_⟩
  rw [behind]
  intro attributed
  have one := attributed.once ⟨"hello", some 1, some 1⟩ List.mem_cons_self
  exact absurd one (by simp)

end Panakoes.TranscriberGroq
