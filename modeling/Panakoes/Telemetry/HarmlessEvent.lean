import Panakoes.Telemetry.DrainPass

/-! # Events that do not stop a pass

`process_event` reads the fields of an event without a schema. Here is what it
asks of them so that it does not raise: a condition for each place that can, and
from them the condition for an event.
-/

namespace Panakoes.Telemetry

open PyJson (get getD)

/-- The value is a string. -/
def IsStr : PyJson → Prop
  | .str _ => True
  | _ => False

/-- What `value[:200]` is defined for. -/
def Sliceable : PyJson → Prop
  | .str _ | .list _ => True
  | _ => False

/-- What `needle in value` is defined for. -/
def Container : PyJson → Prop
  | .str _ | .list _ | .dict _ => True
  | _ => False

variable {value : PyJson} {items : List PyJson}

theorem isOk_slice200_iff : (slice200 value).isOk ↔ Sliceable value := by
  cases value <;> simp [slice200, Sliceable]

theorem isOk_isIn_iff {needle : String} : (isIn needle value).isOk ↔ Container value := by
  cases value <;> simp [isIn, Container]

/-- Blobs can be joined when their texts are strings. -/
theorem isOk_joinBlobs_iff : (joinBlobs items).isOk ↔
    ∀ blob, .dict blob ∈ items → IsStr (getD blob "text" (.str "")) := by
  rw [joinBlobs, Except.isOk_map, Except.isOk_mapM_iff]
  constructor
  · intro joined blob member
    have isOk := joined blob (List.mem_filterMap.mpr ⟨_, member, rfl⟩)
    cases held : getD blob "text" (.str "") <;> simp_all [IsStr]
  · intro texts blob member
    obtain ⟨item, member, same⟩ := List.mem_filterMap.mp member
    cases item with
    | dict entries =>
        cases same
        have text := texts blob member
        cases held : getD blob "text" (.str "") <;> simp_all [IsStr]
    | _ => cases same

namespace Python

variable (python : Python)

/-! ## Integers -/

/-- A text that passes `isdigit` is read by `int`. -/
def Convertible : PyJson → Prop
  | .str text => python.isDigits text.toList → (python.int text.toList).isSome
  | _ => True

variable {python} {raw : HookEvent} {entries : List (String × PyJson)} {key flatKey : String}

theorem isOk_digits?_iff : (python.digits? value).isOk ↔ python.Convertible value := by
  unfold digits? Convertible
  cases value with
  | str text =>
      by_cases digits : python.isDigits text.toList
      · simp only [digits, if_true, forall_const]
        cases python.int text.toList <;> simp
      · simp [digits]
  | _ => simp

theorem isOk_getInt_iff :
    (python.getInt entries key).isOk ↔ python.Convertible (get entries key) := by
  unfold getInt
  cases held : get entries key with
  | bool value => simp [PyJson.int?, Convertible]
  | int value => simp [PyJson.int?, Convertible]
  | _ => exact isOk_digits?_iff

/-! ## Usage -/

/-- The request under `gen_ai` is an object. -/
def RequestReads (raw : HookEvent) : Prop :=
  ∀ genAi, get raw "gen_ai" = .dict genAi → (getD genAi "request" (.dict [])).dict?.isSome

theorem isOk_genAiModel_iff : (genAiModel raw).isOk ↔ RequestReads raw := by
  unfold genAiModel RequestReads
  cases get raw "gen_ai" with
  | dict genAi =>
      simp only [PyJson.dict.injEq, forall_eq']
      cases getD genAi "request" (.dict []) <;> simp [PyJson.dict?]
  | _ => simp

/-- The usage under `gen_ai`. -/
def usageOf (raw : HookEvent) : List (String × PyJson) :=
  match get raw "gen_ai" with
  | .dict genAi => ((getD genAi "usage" (.dict [])).dict?).getD []
  | _ => []

variable (python) in
/-- The tokens under `gen_ai` can be read, and when there are none, those under
the key that stands for them. -/
def TokensRead (raw : HookEvent) (key flatKey : String) : Prop :=
  python.Convertible (get (usageOf raw) key) ∧
    (python.getInt (usageOf raw) key = .ok none → python.Convertible (get raw flatKey))

theorem tokens_eq : python.tokens raw key flatKey =
    python.getInt (usageOf raw) key >>= fun nested =>
      match nested with
      | some count => return some count
      | none => python.getInt raw flatKey := by
  unfold tokens usageOf
  cases get raw "gen_ai" with
  | dict genAi =>
      dsimp only
      cases getD genAi "usage" (.dict []) <;> rfl
  | _ => rfl

theorem isOk_tokens_iff :
    (python.tokens raw key flatKey).isOk ↔ python.TokensRead raw key flatKey := by
  rw [tokens_eq, TokensRead, ← isOk_getInt_iff, ← isOk_getInt_iff]
  refine Except.isOk_bind_iff fun nested read => ?_
  rw [read]
  cases nested with
  | some count => simp [pure, Except.pure]
  | none => simp

theorem isOk_genAi_iff : (python.genAi raw).isOk ↔ RequestReads raw ∧
    python.TokensRead raw "input_tokens" "gen_ai_usage_input_tokens" ∧
      python.TokensRead raw "output_tokens" "gen_ai_usage_output_tokens" := by
  rw [← isOk_genAiModel_iff, ← isOk_tokens_iff, ← isOk_tokens_iff]
  exact Except.isOk_bind_iff fun _ _ => Except.isOk_bind_iff fun _ _ =>
    (Except.isOk_bind_iff fun _ _ => iff_true_intro rfl).trans (and_iff_left trivial)

/-! ## Briefs -/

/-- The task of an agent has a description, or a prompt that can be cut. -/
def DescriptionReads (toolInput : List (String × PyJson)) : Prop :=
  (get toolInput "description").truthy ∨ Sliceable (getD toolInput "prompt" (.str ""))

theorem isOk_agentDescription_iff :
    (agentDescription entries).isOk ↔ DescriptionReads entries := by
  unfold agentDescription DescriptionReads
  split
  · rename_i described
    simp [described]
  · rename_i undescribed
    simp [undescribed, isOk_slice200_iff]

theorem isOk_extractBriefRaw_iff {toolName : String} :
    (python.extractBriefRaw toolName value).isOk ↔
      ∀ toolInput, value = .dict toolInput → toolName = "Agent" → DescriptionReads toolInput := by
  cases value with
  | dict toolInput =>
      by_cases agent : toolName = "Agent"
      · subst agent
        simp only [extractBriefRaw, Except.isOk_map, isOk_agentDescription_iff, PyJson.dict.injEq,
          forall_eq', forall_const]
      · have isOk : (python.extractBriefRaw toolName (.dict toolInput)).isOk = true := by
          unfold extractBriefRaw
          dsimp only
          split
          case h_7 => exact absurd rfl agent
          case h_12 => split <;> rfl
          all_goals rfl
        simp [isOk, agent]
  | _ => simp [extractBriefRaw]

variable (python) in
/-- The brief of an event can be extracted. -/
def BriefReads (raw : HookEvent) : Prop :=
  get raw "tool_name" ≠ .none → python.str (get raw "tool_name") = "Agent" →
    ∀ toolInput, get raw "tool_input" = .dict toolInput → DescriptionReads toolInput

theorem isOk_briefRaw_iff : (python.briefRaw raw).isOk ↔ python.BriefReads raw := by
  unfold briefRaw BriefReads
  split
  · rename_i unnamed
    dsimp only
    split <;> simp [unnamed]
  · rename_i noInput _
    dsimp only
    split <;> simp_all
  · rename_i named given
    rw [isOk_extractBriefRaw_iff]
    exact ⟨fun reads _ agent toolInput held => reads toolInput held agent,
      fun reads toolInput held agent => reads named agent toolInput held⟩

theorem isOk_briefOf_iff {scan : Scan} : (python.briefOf raw scan).isOk ↔ python.BriefReads raw := by
  rw [briefOf, Except.isOk_map, isOk_briefRaw_iff]

/-! ## Numbers of pull requests -/

/-- The command of a shell call. -/
def commandOf : PyJson → PyJson
  | .dict toolInput => getD toolInput "command" (.str "")
  | _ => .str ""

/-- What a tool returned, as far as it is text. -/
def contentOf : PyJson → PyJson
  | .dict toolResult => (getD toolResult "content" (.str "")).orElse (.str "")
  | .str text => .str text
  | _ => .str ""

/-- The output of a shell call can be searched: the command can, and if it
creates a pull request, the texts of its output are strings. -/
def OutputReads (toolInput toolResult : PyJson) : Prop :=
  Container (commandOf toolInput) ∧ (isIn "gh pr create" (commandOf toolInput) = .ok true →
    ∀ items blob, contentOf toolResult = .list items → .dict blob ∈ items →
      IsStr (getD blob "text" (.str "")))

theorem isOk_resultContent_iff {toolResult : PyJson} : (python.resultContent toolResult).isOk ↔
    ∀ items blob, contentOf toolResult = .list items → .dict blob ∈ items →
      IsStr (getD blob "text" (.str "")) := by
  have lists : ∀ items, contentOf toolResult = .list items →
      python.resultContent toolResult = joinBlobs items := by
    intro items held
    unfold Python.resultContent
    cases toolResult with
    | dict entries =>
        rw [contentOf] at held
        simp only [held]
    | none | bool _ | int _ | float _ | str _ | list _ => cases held
  have others : (∀ items, contentOf toolResult ≠ .list items) →
      ∃ text, python.resultContent toolResult = .ok text := by
    intro unlisted
    unfold Python.resultContent
    cases toolResult with
    | dict entries =>
        rw [contentOf] at unlisted
        dsimp only
        split
        · rename_i items held
          exact absurd held (unlisted items)
        · exact ⟨_, rfl⟩
    | none | bool _ | int _ | float _ | str _ | list _ => exact ⟨_, rfl⟩
  by_cases listed : ∃ items, contentOf toolResult = .list items
  · obtain ⟨items, listed⟩ := listed
    rw [lists items listed, isOk_joinBlobs_iff]
    constructor
    · intro texts others blob held
      cases listed.symm.trans held
      exact texts blob
    · intro texts blob
      exact texts items blob listed
  · obtain ⟨text, read⟩ := others (not_exists.mp listed)
    rw [read]
    exact iff_of_true rfl fun items _ held => absurd ⟨items, held⟩ listed

theorem isOk_bashPrNumber_iff {toolInput toolResult : PyJson} :
    (python.bashPrNumber toolInput toolResult).isOk ↔ OutputReads toolInput toolResult := by
  rw [OutputReads, ← @isOk_isIn_iff (commandOf toolInput) "gh pr create",
    ← isOk_resultContent_iff]
  have same : python.bashPrNumber toolInput toolResult =
      isIn "gh pr create" (commandOf toolInput) >>= fun creates =>
        if creates then
          python.resultContent toolResult >>= fun content =>
            return (python.pullNumber content.toList).bind python.int
        else return none := by
    cases toolInput <;> rfl
  rw [same]
  refine Except.isOk_bind_iff fun creates read => ?_
  rw [read]
  cases creates with
  | false => simp [pure, Except.pure]
  | true =>
      simp only [if_true, forall_const]
      exact (Except.isOk_bind_iff fun _ _ => iff_true_intro rfl).trans (and_iff_left trivial)

/-- A decoding that raises at most what is caught around it. -/
def DecodedOrCaught : Except PyError PyJson → Prop
  | .ok _ | .error .jsonDecodeError | .error .valueError => True
  | .error _ => False

/-- A decoding that gives an object, or raises what is caught around it. -/
def ObjectOrCaught : Except PyError PyJson → Prop
  | .ok (.dict _) | .error .jsonDecodeError | .error .valueError => True
  | .ok _ | .error _ => False

/-- The text of a blob. -/
def blobText : PyJson → Option String
  | .dict blob =>
      match get blob "text" with
      | .str text => some text
      | _ => none
  | _ => none

variable (python) in
/-- The text of the blob is an object with a number. -/
def Numbered (item : PyJson) : Prop :=
  ∃ text ∈ blobText item, ∃ parsed, python.loads text = .ok (.dict parsed) ∧
    (get parsed "number").int?.isSome

variable (python) in
/-- The texts of the blobs are decoded up to the first that has a number. -/
def BlobsRead : List PyJson → Prop
  | [] => True
  | item :: rest => (∀ text ∈ blobText item, DecodedOrCaught (python.loads text)) ∧
      (¬ python.Numbered item → BlobsRead rest)

theorem blobNumber_cons {item : PyJson} : python.blobNumber (item :: items) =
    match blobText item with
    | none => python.blobNumber items
    | some text =>
        match python.loads text with
        | .ok (.dict parsed) =>
            match (get parsed "number").int? with
            | some number => .ok (some number)
            | none => python.blobNumber items
        | .ok _ | .error .jsonDecodeError | .error .valueError => python.blobNumber items
        | .error _ => .error .other := by
  cases item with
  | dict blob =>
      rw [blobNumber, blobText]
      cases get blob "text" <;> rfl
  | _ => rfl

theorem isOk_blobNumber_iff : (python.blobNumber items).isOk ↔ python.BlobsRead items := by
  induction items with
  | nil => simp [blobNumber, BlobsRead]
  | cons item rest ih =>
      rw [blobNumber_cons, BlobsRead, Numbered]
      cases blobText item with
      | none => simp [ih]
      | some text =>
          simp only [Option.mem_some_iff, forall_eq', exists_eq_left']
          cases read : python.loads text with
          | error error => cases error <;> simp [DecodedOrCaught, ih]
          | ok value =>
              cases value with
              | dict parsed =>
                  cases number : (get parsed "number").int? <;>
                    simp [DecodedOrCaught, number, ih]
              | _ => simp [DecodedOrCaught, ih]

variable (python) in
/-- The number in the result of the tool that creates a pull request can be read. -/
def ResultReads (toolResult : PyJson) : Prop :=
  ∀ entries, toolResult = .dict entries → python.Convertible (get entries "number") ∧
    (python.getInt entries "number" = .ok none →
      ∀ items, get entries "content" = .list items → python.BlobsRead items)

theorem isOk_mcpPrNumber_iff {toolResult : PyJson} :
    (python.mcpPrNumber toolResult).isOk ↔ python.ResultReads toolResult := by
  unfold mcpPrNumber ResultReads
  cases toolResult with
  | dict entries =>
      simp only [PyJson.dict.injEq, forall_eq', ← isOk_getInt_iff]
      refine Except.isOk_bind_iff fun number read => ?_
      rw [read]
      cases number with
      | some number => simp [pure, Except.pure]
      | none =>
          cases get entries "content" with
          | list items => simp [isOk_blobNumber_iff]
          | _ => simp [pure, Except.pure]
  | _ => simp

variable (python) in
/-- The number of a pull request can be extracted. -/
def PrNumberReads (raw : HookEvent) : Prop :=
  get raw "hook_event_name" = .str "PostToolUse" →
    (getD raw "tool_name" (.str "") = .str "Bash" →
      OutputReads ((get raw "tool_input").orElse (.dict []))
        ((get raw "tool_result").orElse (.dict []))) ∧
    (getD raw "tool_name" (.str "") = .str mcpCreatePrTool →
      python.ResultReads ((get raw "tool_result").orElse (.dict [])))

theorem isOk_extractPrNumber_iff :
    (python.extractPrNumber raw).isOk ↔ python.PrNumberReads raw := by
  have apart : ("Bash" : String) ≠ mcpCreatePrTool := by decide
  unfold extractPrNumber PrNumberReads
  split
  · rename_i toolName hook named
    simp only [hook, named, forall_const, PyJson.str.injEq]
    split
    · rename_i bash
      simp [bash, apart, isOk_bashPrNumber_iff]
    · rename_i notBash
      split
      · rename_i mcp
        simp [mcp, apart.symm, isOk_mcpPrNumber_iff]
      · rename_i notMcp
        simp [notBash, notMcp]
  · rename_i other
    simp only [Except.isOk_ok, true_iff]
    intro hook
    exact ⟨fun named => absurd named (other _ hook), fun named => absurd named (other _ hook)⟩

/-! ## The payload -/

variable (python) in
/-- The redacted payload is an object, or cannot be read at all. -/
def PayloadReads (raw : HookEvent) (scan : Scan) : Prop :=
  ObjectOrCaught (python.loads (python.redacted (python.payloadText raw) scan))

theorem isOk_payloadObject_iff {payload : String} :
    (python.payloadObject payload).isOk ↔ ObjectOrCaught (python.loads payload) := by
  unfold payloadObject
  cases python.loads payload with
  | ok value => cases value <;> simp [ObjectOrCaught]
  | error error => cases error <;> simp [ObjectOrCaught]

/-! ## What is raised -/

/-- Whatever the computation raises, it is no `OSError`. -/
def NoOsError {α : Type} (computation : Except Raised α) : Prop :=
  computation ≠ .error .osError

theorem noOsError_ok {α : Type} {value : α} : NoOsError (.ok value) := by
  rintro ⟨⟩

theorem noOsError_other {α : Type} : NoOsError (.error .other : Except Raised α) := by
  rintro ⟨⟩

theorem NoOsError.bind {α β : Type} {first : Except Raised α} {next : α → Except Raised β}
    (none : NoOsError first) (rest : ∀ value, NoOsError (next value)) :
    NoOsError (first >>= next) := by
  cases first with
  | ok value => exact rest value
  | error raised =>
      cases raised with
      | osError => exact absurd rfl none
      | other => exact noOsError_other

theorem NoOsError.map {α β : Type} {computation : Except Raised α} {f : α → β}
    (none : NoOsError computation) : NoOsError (computation.map f) := by
  cases computation with
  | ok value => exact noOsError_ok
  | error raised =>
      cases raised with
      | osError => exact absurd rfl none
      | other => exact noOsError_other

theorem noOsError_mapM {α β : Type} {items : List α} {f : α → Except Raised β}
    (each : ∀ item, NoOsError (f item)) : NoOsError (items.mapM f) := by
  induction items with
  | nil => exact noOsError_ok
  | cons item rest ih =>
      rw [List.mapM_cons]
      exact (each item).bind fun _ => ih.bind fun _ => noOsError_ok

theorem noOsError_getInt : NoOsError (python.getInt entries key) := by
  unfold getInt digits?
  split
  · exact noOsError_ok
  · split
    · split
      · split
        · exact noOsError_ok
        · exact noOsError_other
      · exact noOsError_ok
    · exact noOsError_ok

theorem noOsError_tokens : NoOsError (python.tokens raw key flatKey) := by
  rw [tokens_eq]
  refine noOsError_getInt.bind fun nested => ?_
  cases nested with
  | some count => exact noOsError_ok
  | none => exact noOsError_getInt

theorem noOsError_genAi : NoOsError (python.genAi raw) := by
  have model : NoOsError (genAiModel raw) := by
    unfold genAiModel
    split
    · split
      · exact noOsError_ok
      · exact noOsError_other
    · exact noOsError_ok
  exact model.bind fun _ => noOsError_tokens.bind fun _ => noOsError_tokens.bind fun _ =>
    noOsError_ok

theorem noOsError_agentDescription : NoOsError (agentDescription entries) := by
  unfold agentDescription slice200
  split
  · exact noOsError_ok
  · split
    · exact noOsError_ok
    · exact noOsError_ok
    · exact noOsError_other

theorem noOsError_extractBriefRaw {toolName : String} {toolInput : PyJson} :
    NoOsError (python.extractBriefRaw toolName toolInput) := by
  unfold extractBriefRaw
  split
  · split
    case h_7 => exact noOsError_agentDescription.map
    case h_12 => split <;> exact noOsError_ok
    all_goals exact noOsError_ok
  · exact noOsError_ok

theorem noOsError_briefOf {scan : Scan} : NoOsError (python.briefOf raw scan) := by
  refine NoOsError.map ?_
  unfold briefRaw
  split
  · dsimp only
    split <;> exact noOsError_ok
  · dsimp only
    split <;> exact noOsError_ok
  · exact noOsError_extractBriefRaw

theorem noOsError_bashPrNumber {toolInput toolResult : PyJson} :
    NoOsError (python.bashPrNumber toolInput toolResult) := by
  have searched : ∀ command, NoOsError (isIn "gh pr create" command) := by
    intro command
    unfold isIn
    split
    · exact noOsError_ok
    · exact noOsError_ok
    · exact noOsError_ok
    · exact noOsError_other
  have content : NoOsError (python.resultContent toolResult) := by
    unfold resultContent
    dsimp only
    split
    · refine NoOsError.map (noOsError_mapM fun blob => ?_)
      split
      · exact noOsError_ok
      · exact noOsError_other
    · exact noOsError_ok
  refine (searched _).bind fun creates => ?_
  split
  · exact content.bind fun _ => noOsError_ok
  · exact noOsError_ok

theorem noOsError_mcpPrNumber {toolResult : PyJson} :
    NoOsError (python.mcpPrNumber toolResult) := by
  have blobs : ∀ items, NoOsError (python.blobNumber items) := by
    intro items
    induction items with
    | nil => exact noOsError_ok
    | cons item rest ih =>
        rw [blobNumber_cons]
        split
        · exact ih
        · split
          · split
            · exact noOsError_ok
            · exact ih
          · exact ih
          · exact ih
          · exact ih
          · exact noOsError_other
  unfold mcpPrNumber
  split
  · refine noOsError_getInt.bind fun number => ?_
    split
    · exact noOsError_ok
    · split
      · exact blobs _
      · exact noOsError_ok
  · exact noOsError_ok

/-- An event that cannot be processed ends the pass. -/
theorem noOsError_columns {scans : Scans} : NoOsError (python.columns raw scans) := by
  have number : NoOsError (python.extractPrNumber raw) := by
    unfold extractPrNumber
    split
    · split
      · exact noOsError_bashPrNumber
      · split
        · exact noOsError_mcpPrNumber
        · exact noOsError_ok
    · exact noOsError_ok
  have payload : ∀ text, NoOsError (python.payloadObject text) := by
    intro text
    unfold payloadObject
    split
    · exact noOsError_ok
    · exact noOsError_other
    · exact noOsError_ok
    · exact noOsError_ok
    · exact noOsError_other
  exact noOsError_briefOf.bind fun _ => number.bind fun _ => noOsError_getInt.bind fun _ =>
    noOsError_genAi.bind fun _ => (payload _).bind fun _ => noOsError_ok

/-! ## The event -/

variable (python) in
/-- `process_event` raises nowhere after the event has its trace id. -/
structure Reads (raw : HookEvent) (scans : Scans) : Prop where
  brief : python.BriefReads raw
  number : python.PrNumberReads raw
  duration : python.Convertible (get raw "tool_use_duration_ms")
  request : RequestReads raw
  inputTokens : python.TokensRead raw "input_tokens" "gen_ai_usage_input_tokens"
  outputTokens : python.TokensRead raw "output_tokens" "gen_ai_usage_output_tokens"
  payload : python.PayloadReads raw scans.payload

/-- **The columns of an event are computed just when its fields can be read.** -/
theorem isOk_columns_iff_reads {scans : Scans} :
    (python.columns raw scans).isOk ↔ python.Reads raw scans := by
  rw [isOk_columns_iff, isOk_briefOf_iff, isOk_extractPrNumber_iff, isOk_getInt_iff,
    isOk_genAi_iff, isOk_payloadObject_iff]
  exact ⟨fun ⟨brief, number, duration, ⟨request, input, output⟩, payload⟩ =>
      ⟨brief, number, duration, request, input, output, payload⟩,
    fun reads => ⟨reads.brief, reads.number, reads.duration,
      ⟨reads.request, reads.inputTokens, reads.outputTokens⟩, reads.payload⟩⟩

variable (python) in
/-- The parameters of the insertion that the event itself decides on. -/
def parameters (raw : HookEvent) : Except Raised (List PyJson) := do
  let prNumber ← python.extractPrNumber raw
  let toolUseDurationMs ← python.getInt raw "tool_use_duration_ms"
  let genAi ← python.genAi raw
  return [optionalInt toolUseDurationMs, get raw "agent_id", get raw "agent_type",
    get raw "permission_mode", effortLevel raw, genAi.requestModel,
    optionalInt genAi.inputTokens, optionalInt genAi.outputTokens, optionalInt prNumber]

theorem parameters_eq {scans : Scans} {columns : Columns}
    (computed : python.columns raw scans = .ok columns) :
    python.parameters raw = .ok columns.parameters := by
  have parts := ColumnsOf.of_computed computed
  rw [parameters, parts.prNumber, parts.toolUseDurationMs, parts.genAi, Columns.parameters,
    parts.agentId, parts.agentType, parts.permissionMode, parts.effortLevel]
  rfl

/-- An event that stops no pass: its fields can be read, no integer among the
parameters is too long for SQLite, and if it is inserted and posted, what it is
called makes a legal header. -/
structure Harmless (python : Python) (dislerEnabled : Bool) (raw : HookEvent) (scans : Scans) :
    Prop where
  reads : python.Reads raw scans
  binds : ∀ values, python.parameters raw = .ok values → bindAll values ≠ .raised
  header : dislerEnabled = true →
    (∀ values, python.parameters raw = .ok values → bindAll values = .executed) →
      LegalHeader (EventIdentity.of python.repr raw).idempotencyKey

/-- When an event whose columns are computed is harmless. -/
theorem harmless_iff {dislerEnabled : Bool} {scans : Scans} {columns : Columns}
    (computed : python.columns raw scans = .ok columns) :
    python.Harmless dislerEnabled raw scans ↔ bindAll columns.parameters ≠ .raised ∧
      (dislerEnabled = true → bindAll columns.parameters = .executed →
        LegalHeader (EventIdentity.of python.repr raw).idempotencyKey) := by
  have parameters := parameters_eq computed
  constructor
  · rintro ⟨-, binds, header⟩
    refine ⟨binds _ parameters, fun enabled executed => header enabled fun values same => ?_⟩
    cases parameters.symm.trans same
    exact executed
  · rintro ⟨binds, header⟩
    refine ⟨isOk_columns_iff_reads.mp (by rw [computed]; rfl), fun values same => ?_,
      fun enabled executed => header enabled (executed _ parameters)⟩
    cases parameters.symm.trans same
    exact binds

end Python

end Panakoes.Telemetry
