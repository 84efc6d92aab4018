import Panakoes.Foundation.JsonText
import Panakoes.Foundation.PyFloat

/-! # The Groq backend

A transcription is one HTTP request. A timeout and a status from 400 on become errors of the
transcriber, a rate limit among them. Other exceptions of the request are passed on, and so is
what the decoding of the body and the reading of the payload raise.
-/

namespace Panakoes.TranscriberGroq

/-! ## Results and errors -/

/-- `Word`. A time that is not finite is `none`. -/
structure Word where
  text : String
  start : Option ℚ
  stop : Option ℚ
  deriving DecidableEq

/-- `TranscriptionSegment`. -/
structure TranscriptionSegment where
  text : String
  start : Option ℚ
  stop : Option ℚ
  words : List Word

/-- `TranscriptionResult`. -/
structure TranscriptionResult where
  text : String
  segments : List TranscriptionSegment
  language : Option String
  durationSeconds : Option (Option ℚ)

/-- The subclasses of `TranscriberError`. -/
inductive TranscriberError where
  | auth (message : String)
  | rateLimit (message : String) (retryAfterSeconds : Option (Option ℚ))
  | request (message : String)
  | upstream (message : String)
  | timeout (message : String)

/-- What a transcription raises: an error of the transcriber, or another exception, by the name of
its type. -/
inductive Raised where
  | transcriber (error : TranscriberError)
  | other (typeName : String)

/-! ## The request -/

/-- A response. `content` is its body as text, in one of the encodings of JSON, and `text` is the
body as httpx decodes it. -/
structure Response where
  statusCode : ℕ
  retryAfter : Option String
  text : String
  content : Option String

/-- How the request ends: with an `httpx.TimeoutException`, with another exception, or with a
response. -/
inductive Exchange where
  | timedOut
  | raised (typeName : String)
  | responded (response : Response)

/-- How Python reads numerals of JSON, rounds a number to a float, and writes values and the
timeout. -/
structure Python where
  read : JsonText.Numeral → Option ℚ
  round : ℚ → Option ℚ
  repr : PyJson → String
  timeoutSeconds : String

variable (python : Python)

/-- `str(value)`. -/
def Python.str : PyJson → String
  | .str text => text
  | value => python.repr value

/-- `float(value)`. -/
def Python.float (value : PyJson) : Except Raised (Option ℚ) :=
  match PyFloat.ofJson python.round value with
  | .ok value => .ok value
  | .error .typeError => .error (.other "TypeError")
  | .error .valueError => .error (.other "ValueError")
  | .error .overflowError => .error (.other "OverflowError")

/-- `_parse_retry_after`. -/
def parseRetryAfter (headerValue : Option String) : Option (Option ℚ) :=
  headerValue.bind (PyFloat.ofText python.round)

/-- `_raise_for_status`. -/
def raiseForStatus (response : Response) : Except Raised Unit :=
  let status := response.statusCode
  let bodySnippet := (response.text.take 500).toString
  if status < 400 then .ok ()
  else if status = 401 then
    .error (.transcriber (.auth s!"Groq rejected credentials: {bodySnippet}"))
  else if status = 429 then
    .error (.transcriber (.rateLimit s!"Groq rate-limited the request: {bodySnippet}"
      (parseRetryAfter python response.retryAfter)))
  else if status < 500 then
    .error (.transcriber (.request s!"Groq rejected the request ({status}): {bodySnippet}"))
  else .error (.transcriber (.upstream s!"Groq upstream error ({status}): {bodySnippet}"))

/-- `response.json()`. -/
def Response.json (response : Response) : Except Raised PyJson :=
  match response.content with
  | none => .error (.other "UnicodeDecodeError")
  | some text =>
      match JsonText.loads python.read text with
      | .ok payload => .ok payload
      | .error .jsonDecodeError => .error (.other "JSONDecodeError")
      | .error _ => .error (.other "ValueError")

/-! ## The payload -/

/-- What a loop over `value or []` goes through. A dictionary gives its keys, and a string its
characters. -/
def items (value : PyJson) : Except Raised (List PyJson) :=
  if value.truthy then
    match value with
    | .list members => .ok members
    | .dict entries => .ok (entries.map fun entry => .str entry.1)
    | .str text => .ok (text.toList.map fun char => .str (String.singleton char))
    | _ => .error (.other "TypeError")
  else .ok []

/-- A loop over `value or []`. -/
def readItems {α : Type} (read : PyJson → Except Raised α) (value : PyJson) :
    Except Raised (List α) := do
  let members ← items value
  members.mapM read

/-- The entries of a value that has `get`. -/
def entriesOf : PyJson → Except Raised (List (String × PyJson))
  | .dict entries => .ok entries
  | _ => .error (.other "AttributeError")

/-- `value is None`. -/
def isNone : PyJson → Bool
  | .none => true
  | _ => false

/-- One member of `words`; one without a text or a time is left out. -/
def readWord (raw : PyJson) : Except Raised (Option Word) := do
  let entries ← entriesOf raw
  let wordText := PyJson.get entries "word"
  let start := PyJson.get entries "start"
  let stop := PyJson.get entries "end"
  if isNone wordText || isNone start || isNone stop then return none
  else
    let start ← python.float start
    let stop ← python.float stop
    return some ⟨python.str wordText, start, stop⟩

/-- The middle of a word lies in an interval. Nothing lies in one that is not finite. -/
def Word.inside (segStart segEnd : Option ℚ) (word : Word) : Bool :=
  match segStart, segEnd, word.start, word.stop with
  | some segStart, some segEnd, some start, some stop =>
      segStart ≤ (start + stop) / 2 ∧ (start + stop) / 2 < segEnd
  | _, _, _, _ => false

/-- `_words_inside`. -/
def wordsInside (words : List Word) (segStart segEnd : Option ℚ) : List Word :=
  words.filter (Word.inside segStart segEnd)

/-- One member of `segments`. -/
def readSegment (words : List Word) (raw : PyJson) : Except Raised TranscriptionSegment := do
  let entries ← entriesOf raw
  let segText := python.str (PyJson.getD entries "text" (.str ""))
  let segStart ← python.float (PyJson.getD entries "start" (.float (some 0)))
  let segEnd ← python.float (PyJson.getD entries "end" (.float (some 0)))
  return ⟨segText, segStart, segEnd, wordsInside words segStart segEnd⟩

/-- `float(value)`, or `None` for `None`. -/
def readDuration : PyJson → Except Raised (Option (Option ℚ))
  | .none => .ok none
  | value => (python.float value).map some

/-- `_parse_response`. -/
def parseResponse (payload : PyJson) : Except Raised TranscriptionResult := do
  let entries ← entriesOf payload
  let text := python.str (PyJson.getD entries "text" (.str ""))
  let languageValue := PyJson.get entries "language"
  let language := if isNone languageValue then none else some (python.str languageValue)
  let duration ← readDuration python (PyJson.get entries "duration")
  let words ← readItems (readWord python) (PyJson.get entries "words")
  let segments ← readItems (readSegment python words.reduceOption) (PyJson.get entries "segments")
  return ⟨text, segments, language, duration⟩

/-- `transcribe`. -/
def transcribe : Exchange → Except Raised TranscriptionResult
  | .timedOut =>
      .error (.transcriber (.timeout s!"Groq request timed out after {python.timeoutSeconds}s"))
  | .raised typeName => .error (.other typeName)
  | .responded response => do
      raiseForStatus python response
      let payload ← response.json python
      parseResponse python payload

/-! ## The errors of a transcription -/

/-- `float(value)` returns. -/
def Python.Floats : PyJson → Prop
  | .bool _ | .float _ => True
  | .int value => (python.round value).isSome
  | .str text => (PyFloat.ofText python.round text).isSome
  | .none | .list _ | .dict _ => False

/-- A member of `words` is an object whose times, if it has a text and both, are numbers. -/
def WellTypedWord (raw : PyJson) : Prop :=
  ∃ entries, raw = .dict entries ∧
    (PyJson.get entries "word" ≠ .none → PyJson.get entries "start" ≠ .none →
      PyJson.get entries "end" ≠ .none →
        python.Floats (PyJson.get entries "start") ∧ python.Floats (PyJson.get entries "end"))

/-- A member of `segments` is an object whose times are numbers. -/
def WellTypedSegment (raw : PyJson) : Prop :=
  ∃ entries, raw = .dict entries ∧
    python.Floats (PyJson.getD entries "start" (.float (some 0))) ∧
    python.Floats (PyJson.getD entries "end" (.float (some 0)))

/-- A value is falsy, or a list of well-typed members. -/
def WellTypedItems (member : PyJson → Prop) (value : PyJson) : Prop :=
  value.truthy = true → ∃ members, value = .list members ∧ ∀ raw ∈ members, member raw

/-- A payload is an object whose duration is a number or null, and whose words and segments are
well typed. -/
def WellTyped (payload : PyJson) : Prop :=
  ∃ entries, payload = .dict entries ∧
    (PyJson.get entries "duration" = .none ∨ python.Floats (PyJson.get entries "duration")) ∧
    WellTypedItems (WellTypedWord python) (PyJson.get entries "words") ∧
    WellTypedItems (WellTypedSegment python) (PyJson.get entries "segments")

/-- The request times out, or it is answered with an error status, or with a payload that is well
typed. -/
def Expected : Exchange → Prop
  | .timedOut => True
  | .raised _ => False
  | .responded response =>
      400 ≤ response.statusCode ∨
        ∃ payload, response.json python = .ok payload ∧ WellTyped python payload

/-- A transcription returns or raises an error of the transcriber, which is a rate limit for the
status 429. -/
structure ErrorContract (exchange : Exchange) : Prop where
  mapped : ∀ raised, transcribe python exchange = .error raised →
    ∃ error, raised = .transcriber error
  limited : ∀ response, exchange = .responded response → response.statusCode = 429 →
    ∃ message retryAfterSeconds, transcribe python exchange =
      .error (.transcriber (.rateLimit message retryAfterSeconds))

variable {python}

theorem isOk_float_iff (value : PyJson) :
    (python.float value).isOk = true ↔ python.Floats value := by
  unfold Python.float PyFloat.ofJson
  cases value with
  | none | list | dict => simp [Python.Floats]
  | bool | float => simp [Python.Floats]
  | int value =>
      cases rounded : python.round value <;> simp [Python.Floats, rounded]
  | str text =>
      cases read : PyFloat.ofText python.round text <;> simp [Python.Floats, read]

/-- The reading of an object returns when the rest does. -/
theorem isOk_entriesOf_bind_iff {α : Type} {value : PyJson}
    {rest : List (String × PyJson) → Except Raised α} {returns : List (String × PyJson) → Prop}
    (reads : ∀ entries, (rest entries).isOk = true ↔ returns entries) :
    (entriesOf value >>= rest).isOk = true ↔
      ∃ entries, value = .dict entries ∧ returns entries := by
  cases value with
  | dict entries =>
      refine (reads entries).trans ⟨fun returned => ⟨entries, rfl, returned⟩, ?_⟩
      rintro ⟨_, same, returned⟩
      cases same
      exact returned
  | none | bool | int | float | str | list =>
      refine iff_of_false Bool.false_ne_true ?_
      rintro ⟨_, same, _⟩
      cases same

theorem isNone_iff {value : PyJson} : isNone value = true ↔ value = .none := by
  cases value <;> simp [isNone]

theorem isOk_readWord_iff (raw : PyJson) :
    (readWord python raw).isOk = true ↔ WellTypedWord python raw := by
  refine isOk_entriesOf_bind_iff fun entries => ?_
  dsimp only
  split
  · rename_i missing
    simp only [Bool.or_eq_true, isNone_iff] at missing
    refine iff_of_true rfl fun word start stop => ?_
    rcases missing with (none | none) | none
    · exact absurd none word
    · exact absurd none start
    · exact absurd none stop
  · rename_i present
    simp only [Bool.or_eq_true, isNone_iff, not_or] at present
    refine (Except.isOk_bind_iff fun start _ =>
      Except.isOk_bind_iff fun stop _ => iff_true_intro rfl).trans ?_
    rw [isOk_float_iff, isOk_float_iff, and_true]
    exact ⟨fun both _ _ _ => both, fun both => both present.1.1 present.1.2 present.2⟩

/-- The members of a falsy value or of a list are read one by one; other values have no members
that can be read. -/
theorem isOk_readItems_iff {α : Type} {value : PyJson} {read : PyJson → Except Raised α}
    {member : PyJson → Prop} (reads : ∀ raw, (read raw).isOk = true ↔ member raw)
    (objects : ∀ text, ¬ member (.str text)) :
    (readItems read value).isOk = true ↔ WellTypedItems member value := by
  have each : ∀ members : List PyJson,
      (members.mapM read).isOk = true ↔ ∀ raw ∈ members, member raw := by
    intro members
    rw [Except.isOk_mapM_iff]
    exact forall₂_congr fun raw _ => reads raw
  unfold readItems items WellTypedItems
  by_cases truthy : value.truthy = true
  · rw [if_pos truthy]
    cases value with
    | list members =>
        refine (each members).trans ⟨fun all _ => ⟨members, rfl, all⟩, fun typed => ?_⟩
        obtain ⟨_, same, all⟩ := typed truthy
        cases same
        exact all
    | dict entries =>
        refine iff_of_false (fun returned => ?_) fun typed => ?_
        · have all := (each _).mp returned
          cases entries with
          | nil => cases truthy
          | cons entry entries => exact objects _ (all _ List.mem_cons_self)
        · obtain ⟨_, same, _⟩ := typed truthy
          cases same
    | str text =>
        refine iff_of_false (fun returned => ?_) fun typed => ?_
        · have all := (each _).mp returned
          cases chars : text.toList with
          | nil =>
              rw [String.toList_eq_nil_iff] at chars
              subst chars
              cases truthy
          | cons char rest =>
              rw [chars] at all
              exact objects _ (all _ List.mem_cons_self)
        · obtain ⟨_, same, _⟩ := typed truthy
          cases same
    | none | bool | int | float =>
        refine iff_of_false Bool.false_ne_true fun typed => ?_
        obtain ⟨_, same, _⟩ := typed truthy
        cases same
  · rw [if_neg truthy]
    exact iff_of_true rfl fun held => absurd held truthy

theorem isOk_readSegment_iff (words : List Word) (raw : PyJson) :
    (readSegment python words raw).isOk = true ↔ WellTypedSegment python raw := by
  refine isOk_entriesOf_bind_iff fun entries => ?_
  refine (Except.isOk_bind_iff fun segStart _ =>
    Except.isOk_bind_iff fun segEnd _ => iff_true_intro rfl).trans ?_
  rw [isOk_float_iff, isOk_float_iff, and_true]

theorem isOk_readDuration_iff (value : PyJson) :
    (readDuration python value).isOk = true ↔ value = .none ∨ python.Floats value := by
  rw [← isOk_float_iff]
  unfold readDuration
  cases value with
  | none => simp
  | bool | int | float | str | list | dict => simp

/-- A payload is read if and only if it is well typed. -/
theorem isOk_parseResponse_iff (payload : PyJson) :
    (parseResponse python payload).isOk = true ↔ WellTyped python payload := by
  refine isOk_entriesOf_bind_iff fun entries => ?_
  have noWord : ∀ text, ¬ WellTypedWord python (.str text) := by
    rintro text ⟨_, same, _⟩
    cases same
  have noSegment : ∀ text, ¬ WellTypedSegment python (.str text) := by
    rintro text ⟨_, same, _⟩
    cases same
  have segmentsRead : ∀ words, (readItems (readSegment python words)
      (PyJson.get entries "segments")).isOk = true ↔
        WellTypedItems (WellTypedSegment python) (PyJson.get entries "segments") :=
    fun words => isOk_readItems_iff (isOk_readSegment_iff words) noSegment
  refine (Except.isOk_bind_iff fun duration _ => Except.isOk_bind_iff fun words _ =>
    (Except.isOk_bind_iff fun segments _ => ?_).trans
      ((and_iff_left trivial).trans (segmentsRead words.reduceOption))).trans ?_
  · exact iff_true_intro rfl
  · rw [isOk_readDuration_iff, isOk_readItems_iff isOk_readWord_iff noWord]

/-- What is raised, if anything is, is no error of the transcriber. -/
def Foreign {α : Type} (result : Except Raised α) : Prop :=
  ∀ error, result ≠ .error (.transcriber error)

theorem Foreign.bind {α β : Type} {first : Except Raised α} {next : α → Except Raised β}
    (foreign : Foreign first) (rest : ∀ value, Foreign (next value)) :
    Foreign (first >>= next) := by
  cases first with
  | error error =>
      intro other same
      cases same
      exact foreign other rfl
  | ok value => exact rest value

theorem foreign_pure {α : Type} (value : α) : Foreign (pure value) := by
  intro error same
  cases same

theorem foreign_mapM {α β : Type} {read : α → Except Raised β} (reads : ∀ item, Foreign (read item))
    (members : List α) : Foreign (members.mapM read) := by
  induction members with
  | nil => exact foreign_pure []
  | cons item rest ih =>
      rw [List.mapM_cons]
      exact (reads item).bind fun _ => ih.bind fun _ => foreign_pure _

theorem foreign_float (value : PyJson) : Foreign (python.float value) := by
  unfold Python.float
  intro error same
  split at same <;> cases same

theorem foreign_entriesOf (value : PyJson) : Foreign (entriesOf value) := by
  intro error same
  cases value <;> cases same

theorem foreign_readItems {α : Type} {read : PyJson → Except Raised α}
    (reads : ∀ raw, Foreign (read raw)) (value : PyJson) : Foreign (readItems read value) := by
  refine Foreign.bind (fun error same => ?_) fun members => foreign_mapM reads members
  unfold items at same
  split at same
  · split at same <;> cases same
  · cases same

theorem foreign_readWord (raw : PyJson) : Foreign (readWord python raw) := by
  refine (foreign_entriesOf raw).bind fun entries => ?_
  dsimp only
  split
  · exact foreign_pure none
  · exact (foreign_float _).bind fun _ => (foreign_float _).bind fun _ => foreign_pure _

theorem foreign_readSegment (words : List Word) (raw : PyJson) :
    Foreign (readSegment python words raw) :=
  (foreign_entriesOf raw).bind fun _ => (foreign_float _).bind fun _ =>
    (foreign_float _).bind fun _ => foreign_pure _

theorem foreign_readDuration (value : PyJson) : Foreign (readDuration python value) := by
  have read : Foreign ((python.float value).map some) := by
    intro error same
    cases float : python.float value with
    | ok rounded =>
        rw [float] at same
        cases same
    | error raised =>
        rw [float] at same
        cases same
        exact foreign_float value error float
  cases value with
  | none => exact foreign_pure none
  | bool | int | float | str | list | dict => exact read

/-- The reading of a payload raises no error of the transcriber. -/
theorem foreign_parseResponse (payload : PyJson) : Foreign (parseResponse python payload) :=
  (foreign_entriesOf payload).bind fun _ => (foreign_readDuration _).bind fun _ =>
    (foreign_readItems foreign_readWord _).bind fun words =>
      (foreign_readItems (foreign_readSegment words.reduceOption) _).bind fun _ => foreign_pure _

theorem foreign_json (response : Response) : Foreign (response.json python) := by
  unfold Response.json
  intro error same
  split at same
  · cases same
  · split at same <;> cases same

/-- A computation that raises nothing of its own ends as expected if and only if it returns. -/
theorem Foreign.mapped_iff {α : Type} {result : Except Raised α} (foreign : Foreign result) :
    (∀ raised, result = .error raised → ∃ error, raised = .transcriber error) ↔
      result.isOk = true := by
  cases result with
  | ok value => simp
  | error raised =>
      refine iff_of_false (fun mapped => ?_) Bool.false_ne_true
      obtain ⟨error, rfl⟩ := mapped raised rfl
      exact foreign error rfl

/-- A status from 400 on raises an error of the transcriber. -/
theorem raiseForStatus_of_le {response : Response} (failed : 400 ≤ response.statusCode) :
    ∃ error, raiseForStatus python response = .error (.transcriber error) := by
  unfold raiseForStatus
  dsimp only
  rw [if_neg (Nat.not_lt.mpr failed)]
  split
  · exact ⟨_, rfl⟩
  · split
    · exact ⟨_, rfl⟩
    · split
      · exact ⟨_, rfl⟩
      · exact ⟨_, rfl⟩

theorem transcribe_responded (response : Response) :
    transcribe python (.responded response) =
      (raiseForStatus python response >>= fun _ =>
        response.json python >>= parseResponse python) := rfl

/-- A response with the status 429 is a rate limit. -/
theorem transcribe_of_rateLimited {response : Response} (limited : response.statusCode = 429) :
    ∃ message retryAfterSeconds, transcribe python (.responded response) =
      .error (.transcriber (.rateLimit message retryAfterSeconds)) := by
  have raised : ∃ message retryAfterSeconds, raiseForStatus python response =
      .error (.transcriber (.rateLimit message retryAfterSeconds)) := by
    unfold raiseForStatus
    rw [limited]
    exact ⟨_, _, rfl⟩
  obtain ⟨message, retryAfterSeconds, raised⟩ := raised
  refine ⟨message, retryAfterSeconds, ?_⟩
  rw [transcribe_responded, raised]
  rfl

/-- The part of a transcription behind the check of the status. -/
theorem isOk_json_bind_iff (response : Response) :
    (response.json python >>= parseResponse python).isOk = true ↔
      ∃ payload, response.json python = .ok payload ∧ WellTyped python payload := by
  cases response.json python with
  | error raised => simp [Except.isOk_error, bind, Except.bind]
  | ok payload =>
      refine (isOk_parseResponse_iff payload).trans ⟨fun typed => ⟨payload, rfl, typed⟩, ?_⟩
      rintro ⟨_, same, typed⟩
      cases same
      exact typed

end Panakoes.TranscriberGroq
