import Panakoes.Telemetry.ProcessEvent

/-! # Tool results in the sinks

Whether what a tool returned reaches the table or the dashboard. The columns
that are computed from the result keep no more of it than its length and the
number of a pull request. The payload keeps the whole event, and the result
with it, except for the secrets that are replaced there.
-/

namespace Panakoes.Telemetry

open PyJson (get getD)

variable {python : Python} {raw raw' : HookEvent} {scans scans' : Scans}
  {columns columns' : Columns}

/-- Two events that agree in everything but the result of the tool, and in the
length of that and the number of a pull request in it. -/
structure DifferInResult (python : Python) (raw raw' : HookEvent) : Prop where
  others : ∀ key, key ≠ "tool_result" → raw.lookup key = raw'.lookup key
  length : python.outLen raw = python.outLen raw'
  number : python.extractPrNumber raw = python.extractPrNumber raw'

/-- The payload and the brief among the columns. -/
theorem columns_eq_ok (computed : python.columns raw scans = .ok columns) :
    columns.payload = python.redacted (python.payloadText raw) scans.payload ∧
      python.payloadObject columns.payload = .ok columns.payloadObj ∧
      python.briefOf raw scans.brief = .ok columns.brief := by
  have parts := Python.ColumnsOf.of_computed computed
  exact ⟨parts.payload, parts.payloadObj, parts.brief⟩

/-- What a scan of the payload reports, and no sentinel brings back, is not in the column. -/
theorem not_occurs_payload {findings : List Finding} {finding : Finding}
    (computed : python.columns raw scans = .ok columns)
    (found : python.findings scans.payload = .ok findings) (member : finding ∈ findings)
    (stays : Substitution.Stays finding.1 findings) :
    ¬ Substitution.Occurs finding.1 columns.payload.toList := by
  rw [(columns_eq_ok computed).1]
  exact python.not_occurs_redacted found member stays

/-- Nor is what a scan of the brief reports in the brief, if the dots do not bring it back. -/
theorem not_occurs_briefColumn {findings : List Finding} {finding : Finding} {brief : String}
    (computed : python.columns raw scans = .ok columns) (held : columns.brief = some brief)
    (found : python.findings scans.brief = .ok findings) (member : finding ∈ findings)
    (stays : Substitution.Stays finding.1 findings)
    (seamless : Substitution.Seamless finding.1 "...".toList)
    (outside : ¬ Substitution.Occurs finding.1 "...".toList) :
    ¬ Substitution.Occurs finding.1 brief.toList := by
  have briefed := (columns_eq_ok computed).2.2
  rw [held] at briefed
  exact python.not_occurs_brief found member stays seamless outside briefed

section Differ

variable (differ : DifferInResult python raw raw')

include differ

theorem DifferInResult.getD (key : String) (default : PyJson) (other : key ≠ "tool_result") :
    getD raw key default = getD raw' key default :=
  congrArg (Option.getD · default) (differ.others key other)

theorem DifferInResult.get (key : String) (other : key ≠ "tool_result") :
    get raw key = get raw' key :=
  differ.getD key .none other

/-- Two such events are the same event to the flusher. -/
theorem DifferInResult.identity : EventIdentity.of python.repr raw = .of python.repr raw' := by
  simp [EventIdentity.of, differ.get]

theorem DifferInResult.briefOf (scan : Scan) :
    python.briefOf raw scan = python.briefOf raw' scan := by
  simp [Python.briefOf, Python.briefRaw, differ.identity, differ.get, differ.getD]

theorem DifferInResult.genAi : python.genAi raw = python.genAi raw' := by
  simp [Python.genAi, Python.genAiModel, Python.tokens, Python.getInt, differ.get]

theorem DifferInResult.errorOf : python.errorOf raw = python.errorOf raw' := by
  simp [Python.errorOf, differ.identity, differ.getD]

theorem DifferInResult.effortLevel : Python.effortLevel raw = Python.effortLevel raw' := by
  simp [Python.effortLevel, differ.get]

/-- What goes into the sinks beside the payload does not depend on the result. -/
theorem DifferInResult.columns_eq (briefs : scans.brief = scans'.brief)
    (clock : scans.nowMs = scans'.nowMs) (computed : python.columns raw scans = .ok columns)
    (computed' : python.columns raw' scans' = .ok columns') :
    columns' = { columns with payload := columns'.payload, payloadObj := columns'.payloadObj } := by
  obtain ⟨brief, briefed, computed⟩ := Except.bind_eq_ok.mp computed
  obtain ⟨prNumber, numbered, computed⟩ := Except.bind_eq_ok.mp computed
  obtain ⟨duration, timed, computed⟩ := Except.bind_eq_ok.mp computed
  obtain ⟨genAi, used, computed⟩ := Except.bind_eq_ok.mp computed
  obtain ⟨payloadObj, loaded, computed⟩ := Except.bind_eq_ok.mp computed
  obtain ⟨brief', briefed', computed'⟩ := Except.bind_eq_ok.mp computed'
  obtain ⟨prNumber', numbered', computed'⟩ := Except.bind_eq_ok.mp computed'
  obtain ⟨duration', timed', computed'⟩ := Except.bind_eq_ok.mp computed'
  obtain ⟨genAi', used', computed'⟩ := Except.bind_eq_ok.mp computed'
  obtain ⟨payloadObj', loaded', computed'⟩ := Except.bind_eq_ok.mp computed'
  rw [differ.briefOf, briefs, briefed'] at briefed
  rw [differ.number, numbered'] at numbered
  rw [Python.getInt, differ.get _ (by decide), ← Python.getInt, timed'] at timed
  rw [differ.genAi, used'] at used
  cases computed
  cases computed'
  cases briefed
  cases numbered
  cases timed
  cases used
  simp only [differ.length, differ.identity, differ.errorOf, differ.effortLevel, clock,
    differ.get "tool_name" (by decide), differ.get "agent_id" (by decide),
    differ.get "agent_type" (by decide), differ.get "permission_mode" (by decide)]

end Differ

/-- What an event leaves: its row, and the body that is posted to disler. -/
def Python.sinks (python : Python) (raw : HookEvent) (traceId : String) (link : SpanLink)
    (now : String) (columns : Columns) : ProcessedEvent Columns × String :=
  let event := (python.flusher true).processed raw traceId link now columns
  (event, python.body event)

/-- **Tool results.** Two events that agree in everything but the result of the tool leave the
same row and the same body just when their payloads are the same text once the secrets that are
found in them are replaced. -/
theorem sinks_eq_iff (differ : DifferInResult python raw raw')
    (briefs : scans.brief = scans'.brief) (clock : scans.nowMs = scans'.nowMs)
    (computed : python.columns raw scans = .ok columns)
    (computed' : python.columns raw' scans' = .ok columns')
    (traceId : String) (link : SpanLink) (now : String) :
    python.sinks raw traceId link now columns = python.sinks raw' traceId link now columns' ↔
      python.redacted (python.payloadText raw) scans.payload =
        python.redacted (python.payloadText raw') scans'.payload := by
  obtain ⟨payload, loaded, -⟩ := columns_eq_ok computed
  obtain ⟨payload', loaded', -⟩ := columns_eq_ok computed'
  constructor
  · intro same
    rw [← payload, ← payload']
    exact congrArg (fun sinks : ProcessedEvent Columns × String => sinks.1.columns.payload) same
  · intro same
    rw [← payload, ← payload'] at same
    rw [← same, loaded] at loaded'
    have columns_same : columns' = columns := by
      rw [differ.columns_eq briefs clock computed computed', ← same, ← Except.ok.inj loaded']
    have repr : (python.flusher true).repr = python.repr := rfl
    have events_same : (python.flusher true).processed raw traceId link now columns =
        (python.flusher true).processed raw' traceId link now columns := by
      rw [Flusher.processed, Flusher.processed, repr, differ.identity,
        differ.get "timestamp" (by decide)]
    rw [columns_same, Python.sinks, Python.sinks, events_same]

/-! ## A file that is read -/

/-- A tool has returned a text. -/
def resultEvent (content : String) : HookEvent :=
  [("hook_event_name", .str "PostToolUse"), ("tool_result", .dict [("content", .str content)])]

/-- Texts of the same length make no difference but in the result. -/
theorem differInResult_resultEvent {content content' : String}
    (long : content.toList.length = content'.toList.length) :
    DifferInResult samplePython (resultEvent content) (resultEvent content') where
  others key other := by simp [resultEvent, List.lookup_cons, beq_false_of_ne other]
  length := congrArg some long
  number := rfl

/-- The scans of the event: these secrets are found in its payload. -/
def resultScans (secrets : List String) : Scans where
  brief := .report (.list [])
  payload := .report (.list (secrets.map fun secret =>
    .dict [("RuleID", .str "aws"), ("Secret", .str secret)]))
  nowMs := 0

/-- The columns are computed when the redacted payload is JSON, or is not read as JSON. -/
theorem computed_resultEvent {content : String} {secrets : List String}
    (payload : (samplePython.payloadObject (samplePython.redacted
      (samplePython.payloadText (resultEvent content)) (resultScans secrets).payload)).isOk) :
    ∃ columns, samplePython.columns (resultEvent content) (resultScans secrets) = .ok columns :=
  Except.exists_of_isOk (Python.isOk_columns_iff.mpr ⟨rfl, rfl, rfl, rfl, payload⟩)

/-- The payload of the sample events is an object again, with two keys found or none. -/
theorem payloadObject_resultEvent (content : String) (secrets : List String)
    (sample : (content, secrets) ∈ [("AKIA1", ["AKIA1"]), ("PIN=1", []), ("PIN=2", [])]) :
    (samplePython.payloadObject (samplePython.redacted
      (samplePython.payloadText (resultEvent content)) (resultScans secrets).payload)).isOk := by
  rw [Python.redacted_payloadText, Python.payloadObject, samplePython]
  simp only [JsonText.loads_ofList]
  simp only [List.mem_cons, Prod.mk.injEq, List.not_mem_nil, or_false] at sample
  rcases sample with ⟨rfl, rfl⟩ | ⟨rfl, rfl⟩ | ⟨rfl, rfl⟩ <;> decide +kernel

/-- Two keys that are both found leave the same row and the same body. -/
theorem sinks_eq_iff_keys :
    ∃ columns columns',
      samplePython.columns (resultEvent "AKIA1") (resultScans ["AKIA1"]) = .ok columns ∧
      samplePython.columns (resultEvent "AKIA2") (resultScans ["AKIA2"]) = .ok columns' ∧
      samplePython.sinks (resultEvent "AKIA1") "t" ⟨"s", none⟩ "0" columns =
        samplePython.sinks (resultEvent "AKIA2") "t" ⟨"s", none⟩ "0" columns' := by
  have redacted : samplePython.redacted (samplePython.payloadText (resultEvent "AKIA1"))
        (resultScans ["AKIA1"]).payload =
      samplePython.redacted (samplePython.payloadText (resultEvent "AKIA2"))
        (resultScans ["AKIA2"]).payload := by
    rw [Python.redacted_payloadText, Python.redacted_payloadText]
    exact congrArg String.ofList (by decide +kernel)
  have payload := payloadObject_resultEvent "AKIA1" ["AKIA1"] (by decide)
  obtain ⟨columns, computed⟩ := computed_resultEvent payload
  obtain ⟨columns', computed'⟩ := computed_resultEvent (redacted ▸ payload)
  have alike : DifferInResult samplePython (resultEvent "AKIA1") (resultEvent "AKIA2") :=
    differInResult_resultEvent (by decide)
  have briefs : (resultScans ["AKIA1"]).brief = (resultScans ["AKIA2"]).brief := rfl
  have clock : (resultScans ["AKIA1"]).nowMs = (resultScans ["AKIA2"]).nowMs := rfl
  exact ⟨columns, columns', computed, computed',
    (sinks_eq_iff alike briefs clock computed computed' "t" ⟨"s", none⟩ "0").mpr redacted⟩

/-- What a tool returns is stored. -/
theorem tool_result_stored :
    ¬ ∀ (raw raw' : HookEvent) (scans scans' : Scans) (columns columns' : Columns),
      DifferInResult samplePython raw raw' → scans.brief = scans'.brief →
      scans.nowMs = scans'.nowMs → samplePython.columns raw scans = .ok columns →
      samplePython.columns raw' scans' = .ok columns' →
      samplePython.sinks raw "t" ⟨"s", none⟩ "0" columns =
        samplePython.sinks raw' "t" ⟨"s", none⟩ "0" columns' := by
  intro always
  obtain ⟨columns, computed⟩ :=
    computed_resultEvent (payloadObject_resultEvent "PIN=1" [] (by decide))
  obtain ⟨columns', computed'⟩ :=
    computed_resultEvent (payloadObject_resultEvent "PIN=2" [] (by decide))
  have same := always _ _ (resultScans []) (resultScans []) columns columns'
    (differInResult_resultEvent (by decide)) rfl rfl computed computed'
  obtain ⟨payload, -⟩ := columns_eq_ok computed
  obtain ⟨payload', -⟩ := columns_eq_ok computed'
  have same_payload : columns.payload = columns'.payload :=
    congrArg (fun sinks : ProcessedEvent Columns × String => sinks.1.columns.payload) same
  rw [payload, payload', Python.redacted_payloadText, Python.redacted_payloadText,
    String.ofList_inj] at same_payload
  exact absurd same_payload (by decide +kernel)

end Panakoes.Telemetry
