import Mathlib.Algebra.GroupWithZero.Nat
import Panakoes.Telemetry.Flusher
import Panakoes.Telemetry.Redaction

/-! # Processing an event

The columns of the row of an event, and the body that is posted to disler. Both
have the payload, which is the redacted JSON text of the whole event; the body
has some fields of the event beside it.
-/

namespace Panakoes.Telemetry

open PyJson (get getD)

/-! ## Numbers of pull requests -/

/-- `needle in value`; what is no container is a `TypeError`. -/
def isIn (needle : String) : PyJson → Except Raised Bool
  | .str text => .ok (decide (Substitution.Occurs needle.toList text.toList))
  | .list items => .ok (items.any fun item => item.nonemptyStr? = some needle)
  | .dict entries => .ok (entries.any fun entry => entry.1 = needle)
  | _ => .error .other

/-- The `text` fields of the blobs, joined; what is not a string is a `TypeError`. -/
def joinBlobs (items : List PyJson) : Except Raised String :=
  (((items.filterMap PyJson.dict?).mapM fun blob =>
    match getD blob "text" (.str "") with
    | .str text => Except.ok text
    | _ => .error Raised.other)).map (" ".intercalate ·)

/-- `MCP_CREATE_PR_TOOL`. -/
def mcpCreatePrTool : String := "mcp__plugin_github_github__create_pull_request"

namespace Python

variable (python : Python)

/-- The first match of `PR_URL_RE`: the digits behind `/pull/`. -/
def pullNumber : List Char → Option (List Char)
  | [] => none
  | head :: rest =>
      let digits := ((head :: rest).drop 6).takeWhile fun char => (python.decimal char).isSome
      if "/pull/".toList.isPrefixOf (head :: rest) ∧ digits ≠ [] then some digits
      else pullNumber rest

/-- The content of the result of `gh pr create`, as a text. -/
def resultContent (toolResult : PyJson) : Except Raised String :=
  let content := match toolResult with
    | .dict entries => (getD entries "content" (.str "")).orElse (.str "")
    | .str text => .str text
    | _ => .str ""
  match content with
  | .list items => joinBlobs items
  | content => .ok (python.str content)

/-- The number in the output of `gh pr create`. -/
def bashPrNumber (toolInput toolResult : PyJson) : Except Raised (Option ℤ) := do
  let command := match toolInput with
    | .dict entries => getD entries "command" (.str "")
    | _ => .str ""
  if ← isIn "gh pr create" command then
    let content ← python.resultContent toolResult
    return (python.pullNumber content.toList).bind python.int
  else
    return none

/-- The first blob whose text is JSON with a number in it. -/
def blobNumber : List PyJson → Except Raised (Option ℤ)
  | [] => .ok none
  | .dict blob :: rest =>
      match get blob "text" with
      | .str text =>
          match python.loads text with
          | .ok (.dict parsed) =>
              match (get parsed "number").int? with
              | some number => .ok (some number)
              | none => blobNumber rest
          | .ok _ | .error .jsonDecodeError | .error .valueError => blobNumber rest
          | .error _ => .error .other
      | _ => blobNumber rest
  | _ :: rest => blobNumber rest

/-- The number in the result of the tool that creates a pull request. -/
def mcpPrNumber (toolResult : PyJson) : Except Raised (Option ℤ) :=
  match toolResult with
  | .dict entries => do
      match ← python.getInt entries "number" with
      | some number => return some number
      | none =>
          match get entries "content" with
          | .list items => python.blobNumber items
          | _ => return none
  | _ => .ok none

/-- `extract_pr_number`. -/
def extractPrNumber (raw : HookEvent) : Except Raised (Option ℤ) :=
  let toolResult := (get raw "tool_result").orElse (.dict [])
  match get raw "hook_event_name", getD raw "tool_name" (.str "") with
  | .str "PostToolUse", .str toolName =>
      if toolName = "Bash" then
        python.bashPrNumber ((get raw "tool_input").orElse (.dict [])) toolResult
      else if toolName = mcpCreatePrTool then python.mcpPrNumber toolResult
      else .ok none
  | _, _ => .ok none

/-! ## Columns -/

/-- `_result_text_len`. -/
def resultTextLen : PyJson → ℕ
  | .dict entries =>
      match get entries "content" with
      | .str text => text.toList.length
      | .list items =>
          ((items.filterMap PyJson.dict?).map fun blob =>
            match get blob "text" with
            | .str text => text.toList.length
            | _ => 0).sum
      | _ => (python.dumps (.dict entries)).toList.length
  | .str text => text.toList.length
  | _ => 0

/-- The length of the result of a tool, if there is one. -/
def outLen (raw : HookEvent) : Option ℕ :=
  match get raw "tool_result" with
  | .none => none
  | toolResult => some (python.resultTextLen toolResult)

/-- The error of a tool call that failed. -/
def errorOf (raw : HookEvent) : Option (List (String × PyJson)) :=
  if (EventIdentity.of python.repr raw).hookEventName = "PostToolUseFailure" then
    (getD raw "error" (.dict [])).dict?
  else none

/-- The model and the tokens of an event. -/
structure GenAi where
  requestModel : PyJson
  inputTokens : Option ℤ
  outputTokens : Option ℤ

/-- The model under `gen_ai`; a request that is not a dictionary is an
`AttributeError`. -/
def genAiModel (raw : HookEvent) : Except Raised PyJson :=
  match get raw "gen_ai" with
  | .dict genAi =>
      match getD genAi "request" (.dict []) with
      | .dict request => .ok (get request "model")
      | _ => .error .other
  | _ => .ok .none

/-- The tokens under `gen_ai`, or else under the key that stands for them. -/
def tokens (raw : HookEvent) (key flatKey : String) : Except Raised (Option ℤ) := do
  let nested ← match get raw "gen_ai" with
    | .dict genAi =>
        match getD genAi "usage" (.dict []) with
        | .dict usage => python.getInt usage key
        | _ => .ok none
    | _ => .ok none
  match nested with
  | some count => return some count
  | none => python.getInt raw flatKey

/-- The fields of the model and its usage. -/
def genAi (raw : HookEvent) : Except Raised GenAi := do
  let model ← genAiModel raw
  let inputTokens ← python.tokens raw "input_tokens" "gen_ai_usage_input_tokens"
  let outputTokens ← python.tokens raw "output_tokens" "gen_ai_usage_output_tokens"
  let requestModel := match model with
    | .none => (get raw "model_name").orElse (get raw "gen_ai_request_model")
    | model => model
  return ⟨requestModel, inputTokens, outputTokens⟩

/-- The level of effort. -/
def effortLevel (raw : HookEvent) : PyJson :=
  match (get raw "effort").orElse (.dict []) with
  | .dict effort => get effort "level"
  | _ => get raw "effort_level"

end Python

mutual

/-- A value with the keys of its dictionaries in order. -/
def sortKeys : PyJson → PyJson
  | .list items => .list (sortItems items)
  | .dict entries => .dict ((sortEntries entries).insertionSort fun first second => first.1 ≤ second.1)
  | value => value

def sortItems : List PyJson → List PyJson
  | [] => []
  | item :: rest => sortKeys item :: sortItems rest

def sortEntries : List (String × PyJson) → List (String × PyJson)
  | [] => []
  | (key, value) :: rest => (key, sortKeys value) :: sortEntries rest

end

/-- The columns beside those that identify an event and place it in a trace, and
what the projection for disler takes from the event. -/
structure Columns where
  toolName : Option String
  brief : Option String
  toolUseDurationMs : Option ℤ
  success : Option ℤ
  outLen : Option ℕ
  errLen : Option ℕ
  agentId : PyJson
  agentType : PyJson
  permissionMode : PyJson
  effortLevel : PyJson
  genAi : Python.GenAi
  prNumber : Option ℤ
  payload : String
  payloadObj : List (String × PyJson)
  errorText : Option String
  nowMs : ℤ

/-- What is read while an event is processed: the scans of its brief and its
payload, and the clock. -/
structure Scans where
  brief : Scan
  payload : Scan
  nowMs : ℤ

namespace Python

variable (python : Python)

/-- The JSON text of an event, before it is redacted. -/
def payloadText (raw : HookEvent) : String := python.dumps (sortKeys (.dict raw))

variable {python} in
theorem redacted_payloadText {raw : HookEvent} {scan : Scan} :
    python.redacted (python.payloadText raw) scan = String.ofList
      (python.redactedChars (python.style.write (sortKeys (.dict raw))) scan) := by
  rw [redacted_eq, payloadText, dumps, JsonText.dumps, String.toList_ofList]

/-- The payload as an object again. What is no object cannot be given the fields
of the trace. -/
def payloadObject (payload : String) : Except Raised (List (String × PyJson)) :=
  match python.loads payload with
  | .ok (.dict entries) => .ok entries
  | .ok _ => .error .other
  | .error .jsonDecodeError | .error .valueError =>
      .ok [("_payload_parse_error", .bool true)]
  | .error _ => .error .other

/-- The part of `process_event` that computes the columns. -/
def columns (raw : HookEvent) (scans : Scans) : Except Raised Columns := do
  let hookEventName := (EventIdentity.of python.repr raw).hookEventName
  let brief ← python.briefOf raw scans.brief
  let prNumber ← python.extractPrNumber raw
  let toolUseDurationMs ← python.getInt raw "tool_use_duration_ms"
  let genAi ← python.genAi raw
  let payload := python.redacted (python.payloadText raw) scans.payload
  let payloadObj ← python.payloadObject payload
  return {
    toolName := match get raw "tool_name" with
      | .none => none
      | toolName => some (python.str toolName)
    brief
    toolUseDurationMs
    success :=
      if hookEventName = "PostToolUseFailure" then some 0
      else if hookEventName = "PostToolUse" then some 1
      else none
    outLen := python.outLen raw
    errLen := (python.errorOf raw).map fun error =>
      (python.str (getD error "content" (.str ""))).toList.length
    agentId := get raw "agent_id"
    agentType := get raw "agent_type"
    permissionMode := get raw "permission_mode"
    effortLevel := effortLevel raw
    genAi
    prNumber
    payload
    payloadObj
    errorText := (python.errorOf raw).map fun error =>
      truncate (python.str (getD error "type" (.str "")) ++ ": " ++
        python.str (getD error "content" (.str ""))) 512
    nowMs := scans.nowMs }

variable {python} in
/-- The columns are computed when each of their parts is. -/
theorem isOk_columns_iff {raw : HookEvent} {scans : Scans} :
    (python.columns raw scans).isOk ↔
      (python.briefOf raw scans.brief).isOk ∧ (python.extractPrNumber raw).isOk ∧
        (python.getInt raw "tool_use_duration_ms").isOk ∧ (python.genAi raw).isOk ∧
          (python.payloadObject (python.redacted (python.payloadText raw) scans.payload)).isOk :=
  Except.isOk_bind_iff fun _ _ => Except.isOk_bind_iff fun _ _ =>
    Except.isOk_bind_iff fun _ _ => Except.isOk_bind_iff fun _ _ =>
      (Except.isOk_bind_iff fun _ _ => iff_true_intro rfl).trans (and_iff_left trivial)

/-- What the columns of an event are computed from. -/
structure ColumnsOf (raw : HookEvent) (scans : Scans) (columns : Columns) : Prop where
  brief : python.briefOf raw scans.brief = .ok columns.brief
  prNumber : python.extractPrNumber raw = .ok columns.prNumber
  toolUseDurationMs : python.getInt raw "tool_use_duration_ms" = .ok columns.toolUseDurationMs
  genAi : python.genAi raw = .ok columns.genAi
  payload : columns.payload = python.redacted (python.payloadText raw) scans.payload
  payloadObj : python.payloadObject columns.payload = .ok columns.payloadObj
  agentId : columns.agentId = get raw "agent_id"
  agentType : columns.agentType = get raw "agent_type"
  permissionMode : columns.permissionMode = get raw "permission_mode"
  effortLevel : columns.effortLevel = Python.effortLevel raw

variable {python} in
theorem ColumnsOf.of_computed {raw : HookEvent} {scans : Scans} {columns : Columns}
    (computed : python.columns raw scans = .ok columns) : python.ColumnsOf raw scans columns := by
  obtain ⟨brief, briefed, computed⟩ := Except.bind_eq_ok.mp computed
  obtain ⟨prNumber, numbered, computed⟩ := Except.bind_eq_ok.mp computed
  obtain ⟨duration, timed, computed⟩ := Except.bind_eq_ok.mp computed
  obtain ⟨genAi, used, computed⟩ := Except.bind_eq_ok.mp computed
  obtain ⟨payloadObj, loaded, computed⟩ := Except.bind_eq_ok.mp computed
  cases computed
  exact ⟨briefed, numbered, timed, used, rfl, loaded, rfl, rfl, rfl, rfl⟩

/-- The flusher that runs on this Python. -/
def flusher (dislerEnabled : Bool) : Flusher Scans Columns where
  loads := python.loads
  repr := python.repr
  dislerEnabled := dislerEnabled
  columns := python.columns

variable {python} in
theorem loads_flusher {dislerEnabled : Bool} {text : String} :
    (python.flusher dislerEnabled).loads text = python.loads text := rfl

end Python

/-- A text, or null. -/
def optionalStr : Option String → PyJson
  | some text => .str text
  | none => .none

/-- The payload with the fields of the trace. -/
def tracedPayload (event : ProcessedEvent Columns) : List (String × PyJson) :=
  PyJson.set (PyJson.set (PyJson.set event.columns.payloadObj
    "trace_id" (.str event.traceId)) "span_id" (.str event.spanId))
    "parent_span_id" (optionalStr event.parentSpanId)

/-- `project_for_disler`. -/
def projectForDisler (event : ProcessedEvent Columns) : PyJson :=
  .dict [("source_app", .str "panakoes"), ("session_id", .str event.sessionId),
    ("hook_event_type", .str event.hookEventName), ("payload", .dict (tracedPayload event)),
    ("timestamp", .int event.columns.nowMs), ("model_name", event.columns.genAi.requestModel),
    ("tool_name", optionalStr event.columns.toolName), ("tool_use_id", optionalStr event.toolUseId),
    ("error", optionalStr event.columns.errorText), ("agent_id", event.columns.agentId)]

/-- The body of the request to disler. -/
def Python.body (python : Python) (event : ProcessedEvent Columns) : String :=
  python.dumps (projectForDisler event)

/-- A Python that knows the digits of ASCII and writes no floats. -/
def samplePython : Python where
  loads := JsonText.loads fun _ => none
  repr _ := ""
  floatNumeral _ := ⟨false, 0, none, none⟩
  isdigit := Char.isDigit
  decimal char := if char.isDigit then some (char.toNat - '0'.toNat) else none

end Panakoes.Telemetry
