import Mathlib.Data.List.Sort
import Panakoes.Foundation.JsonText
import Panakoes.Foundation.Substitution
import Panakoes.Telemetry.TraceContext

/-! # Briefs and redaction

The brief of an event is a field of its tool input, chosen by the tool. Briefs
and payloads are redacted: gitleaks scans the text, and every secret that its
report names is replaced by a sentinel, the longest first.
-/

namespace Panakoes.Telemetry

open PyJson (get getD)

/-- What the flusher takes from Python: `json.loads`, `repr` of a value that is
not a string, the numeral of a float, `str.isdigit` of a character and the value
of a character as a decimal digit. -/
structure Python where
  loads : String → Except PyError PyJson
  repr : PyJson → String
  floatNumeral : ℚ → JsonText.Numeral
  isdigit : Char → Bool
  decimal : Char → Option ℕ

namespace Python

variable (python : Python)

/-- The layout of `json.dumps(value, ensure_ascii=False)`. -/
def style : JsonText.Style := ⟨true, false, python.floatNumeral⟩

/-- `json.dumps(value, ensure_ascii=False)`. -/
def dumps (value : PyJson) : String := JsonText.dumps python.style value

/-- `str(value)`. -/
def str (value : PyJson) : String := Telemetry.str python.repr value

/-- `int(text)` of a text of digits, or a `ValueError`. -/
def int (text : List Char) : Option ℤ :=
  if text.length ≤ JsonText.maxStrDigits then
    (text.mapM python.decimal).map fun digits => digits.foldl (fun value digit => 10 * value + digit) 0
  else none

/-- `text.isdigit()`. -/
def isDigits (text : List Char) : Bool := !text.isEmpty && text.all python.isdigit

/-- `value.isdigit()` and what `int(value)` gives then, for a value that may be
a string of digits. -/
def digits? : PyJson → Except Raised (Option ℤ)
  | .str text =>
      if python.isDigits text.toList then
        match python.int text.toList with
        | some value => .ok (some value)
        | none => .error .other
      else .ok none
  | _ => .ok none

/-- `_get_int`. -/
def getInt (entries : List (String × PyJson)) (key : String) : Except Raised (Option ℤ) :=
  match (get entries key).int? with
  | some value => .ok (some value)
  | none => python.digits? (get entries key)

end Python

/-- `text[:length]`. -/
def slice (length : ℕ) (text : String) : String := String.ofList (text.toList.take length)

/-- `_truncate`. -/
def truncate (text : String) (cap : ℕ) : String :=
  if text.toList.length ≤ cap then text else slice (cap - 3) text ++ "..."

/-! ## Briefs -/

/-- `BRIEF_CAP_BASH`. -/
def briefCapBash : ℕ := 2048

/-- `BRIEF_CAP_AGENT`. -/
def briefCapAgent : ℕ := 1024

/-- `BRIEF_CAP_DEFAULT`. -/
def briefCapDefault : ℕ := 512

/-- `brief_cap_for`. -/
def briefCapFor (toolName : String) : ℕ :=
  if toolName = "Bash" then briefCapBash
  else if toolName = "Agent" then briefCapAgent
  else briefCapDefault

/-- `value[:200]`; what is neither a string nor a list is a `TypeError` or a `KeyError`. -/
def slice200 : PyJson → Except Raised PyJson
  | .str text => .ok (.str (slice 200 text))
  | .list items => .ok (.list (items.take 200))
  | _ => .error .other

/-- The description of an agent's task, or the start of its prompt. -/
def agentDescription (toolInput : List (String × PyJson)) : Except Raised PyJson :=
  if (get toolInput "description").truthy then .ok (get toolInput "description")
  else slice200 (getD toolInput "prompt" (.str ""))

/-- The value when it is a dictionary or a list. -/
def container? : PyJson → Option PyJson
  | .dict entries => some (.dict entries)
  | .list items => some (.list items)
  | _ => none

namespace Python

variable (python : Python)

/-- The value when it is a string, or else the JSON text of the tool input. -/
def textOrInput (toolInput : List (String × PyJson)) : PyJson → String
  | .str text => text
  | _ => python.dumps (.dict toolInput)

/-- The brief of a tool of an MCP server. -/
def mcpBrief (toolName : String) (toolInput : List (String × PyJson)) : String :=
  let server := getD toolInput "server" (.str "")
  let innerTool := getD toolInput "tool" (.str "")
  let inner := (container? (get toolInput "input")).getD
    ((container? (get toolInput "params")).getD
      (.dict (toolInput.filter fun entry => entry.1 ≠ "server" ∧ entry.1 ≠ "tool")))
  let opening :=
    if server.truthy ∨ innerTool.truthy then python.str server ++ "/" ++ python.str innerTool ++ ": "
    else toolName ++ ": "
  opening ++ python.dumps inner

/-- `extract_brief_raw`. -/
def extractBriefRaw (toolName : String) (toolInput : PyJson) : Except Raised String :=
  match toolInput with
  | .dict toolInput =>
      match toolName with
      | "Bash" => .ok (python.textOrInput toolInput (get toolInput "command"))
      | "Edit" | "Write" | "Read" | "MultiEdit" | "NotebookEdit" =>
          .ok (python.textOrInput toolInput
            ((get toolInput "file_path").orElse (get toolInput "notebook_path")))
      | "Agent" =>
          (agentDescription toolInput).map fun description =>
            python.str description ++ "/" ++ python.str (getD toolInput "subagent_type"
              (getD toolInput "agent_type" (.str "general-purpose")))
      | "Grep" =>
          let pattern := python.str (getD toolInput "pattern" (.str ""))
          let path := getD toolInput "path" (.str "")
          .ok (if path.truthy then pattern ++ " @ " ++ python.str path else pattern)
      | "Glob" => .ok (python.str (getD toolInput "pattern" (.str "")))
      | "WebFetch" => .ok (python.str (getD toolInput "url" (.str "")))
      | "WebSearch" => .ok (python.str (getD toolInput "query" (.str "")))
      | toolName =>
          if "mcp__".toList.isPrefixOf toolName.toList then .ok (python.mcpBrief toolName toolInput)
          else .ok (python.dumps (.dict toolInput))
  | toolInput => .ok (slice briefCapDefault (python.dumps toolInput))

/-- The brief of an event before it is redacted. -/
def briefRaw (raw : HookEvent) : Except Raised String :=
  let hookEventName := (EventIdentity.of python.repr raw).hookEventName
  match get raw "tool_name", get raw "tool_input" with
  | .none, _ | _, .none =>
      match hookEventName with
      | "UserPromptSubmit" =>
          .ok (python.str (((get raw "prompt").orElse (get raw "user_prompt")).orElse (.str "")))
      | "Notification" | "PermissionRequest" =>
          let message := python.str (getD raw "message" (.str ""))
          .ok (if message = "" then python.str (getD raw "tool_name" (.str "")) else message)
      | _ => .ok ""
  | toolName, toolInput => python.extractBriefRaw (python.str toolName) toolInput

end Python

/-! ## Redaction -/

/-- How a scan of a text ends: it gives no report (gitleaks is missing, times
out or fails, or the report cannot be read), an exception is raised before
that, or there is a report. -/
inductive Scan where
  | unavailable
  | raised
  | report (findings : PyJson)

/-- A secret and the sentinel that replaces it. -/
abbrev Finding := List Char × List Char

namespace Python

variable (python : Python)

/-- The length that the findings are sorted by. -/
def secretLength (finding : List (String × PyJson)) : ℕ :=
  (python.str (getD finding "Secret" (.str ""))).toList.length

/-- The sentinel of a rule. -/
def sentinel (rule : PyJson) : List Char :=
  "<REDACTED:gitleaks:".toList ++ (python.str rule).toList ++ ['>']

/-- What a finding of the report replaces, if its secret is a text. -/
def finding (entries : List (String × PyJson)) : Option Finding :=
  (get entries "Secret").nonemptyStr?.map fun secret =>
    (secret.toList, python.sentinel (getD entries "RuleID" (.str "unknown")))

/-- The findings of a report in the order in which they are replaced, the
longest secret first. A list that holds anything but dictionaries cannot be
sorted. -/
def sortedFindings : PyJson → Except Raised (List Finding)
  | .list items =>
      if items.all (·.dict?.isSome) then
        .ok (((items.filterMap PyJson.dict?).insertionSort fun first second =>
          python.secretLength second ≤ python.secretLength first).filterMap python.finding)
      else .error .other
  | _ => .ok []

/-- The findings of a scan, or the exception it ends with. -/
def findings : Scan → Except Raised (List Finding)
  | .unavailable => .ok []
  | .raised => .error .other
  | .report report => python.sortedFindings report

/-- `redact_via_gitleaks`. -/
def redactViaGitleaks (text : String) (scan : Scan) : Except Raised String :=
  if text = "" then .ok text
  else (python.findings scan).map fun findings =>
    String.ofList (Substitution.replaceAll findings text.toList)

/-- A text is stored as it is when its redaction raises. -/
def redacted (text : String) (scan : Scan) : String :=
  match python.redactViaGitleaks text scan with
  | .ok redacted => redacted
  | .error _ => text

/-- The characters that are left of a text. -/
def redactedChars (chars : List Char) (scan : Scan) : List Char :=
  match python.findings scan with
  | .ok findings => Substitution.replaceAll findings chars
  | .error _ => chars

variable {python} in
theorem redacted_eq {scan : Scan} {text : String} :
    python.redacted text scan = String.ofList (python.redactedChars text.toList scan) := by
  unfold redacted redactViaGitleaks redactedChars
  by_cases empty : text = ""
  · subst empty
    cases python.findings scan with
    | error raised => rfl
    | ok findings =>
        rw [if_pos rfl]
        exact congrArg String.ofList (Substitution.replaceAll_nil findings).symm
  · rw [if_neg empty]
    cases python.findings scan with
    | error raised => exact String.ofList_toList.symm
    | ok findings => rfl

/-- The brief of an event: redacted and cut. -/
def briefOf (raw : HookEvent) (scan : Scan) : Except Raised (Option String) :=
  (python.briefRaw raw).map fun brief =>
    if brief = "" then none
    else
      let toolName := match get raw "tool_name" with
        | .none => ""
        | toolName => python.str toolName
      some (truncate (python.redacted brief scan) (briefCapFor toolName))

end Python

/-! ## Secrets that are gone -/

section Secrets

open Substitution (Occurs Seamless Stays)

variable {python : Python} {scan : Scan} {raw : HookEvent} {text brief : String}
  {findings : List Finding} {finding : Finding}

/-- A secret that no sentinel brings back is not in the text that is left. -/
theorem Python.not_occurs_redacted (found : python.findings scan = .ok findings)
    (member : finding ∈ findings) (stays : Stays finding.1 findings) :
    ¬ Occurs finding.1 (python.redacted text scan).toList := by
  rw [redacted_eq, String.toList_ofList, redactedChars, found]
  exact Substitution.not_occurs_replaceAll member stays

/-- Cutting a text brings in what meets the dots behind it, and nothing else. -/
theorem occurs_of_truncate {secret : List Char} {cap : ℕ}
    (seamless : Seamless secret "...".toList) (outside : ¬ Occurs secret "...".toList)
    (occurs : Occurs secret (truncate text cap).toList) : Occurs secret text.toList := by
  unfold truncate at occurs
  split at occurs
  · exact occurs
  · have start : (slice (cap - 3) text).toList = text.toList.take (cap - 3) :=
      String.toList_ofList
    rw [String.toList_append, start, ← List.append_nil "...".toList] at occurs
    rcases seamless.occurs_of_notMem outside occurs with before | after
    · exact before.trans (List.take_prefix _ _).isInfix
    · exact after.trans List.nil_infix

/-- A secret that neither a sentinel nor the end of a brief brings back is not in the brief. -/
theorem Python.not_occurs_brief (found : python.findings scan = .ok findings)
    (member : finding ∈ findings) (stays : Stays finding.1 findings)
    (seamless : Seamless finding.1 "...".toList) (outside : ¬ Occurs finding.1 "...".toList)
    (briefed : python.briefOf raw scan = .ok (some brief)) : ¬ Occurs finding.1 brief.toList := by
  obtain ⟨written, -, same⟩ := Except.map_eq_ok.mp briefed
  split at same
  · cases same
  · cases same
    exact fun occurs => python.not_occurs_redacted found member stays
      (occurs_of_truncate seamless outside occurs)

end Secrets

end Panakoes.Telemetry
