import Panakoes.Foundation.PyJson
import Panakoes.Foundation.Table
import Panakoes.Streaming.SessionRow

/-! # Trace context propagation

The `TraceContextStore` of the telemetry flusher. It gives every hook event the
trace id of its session, which is cached in memory, in a file for each session
and in the `sessions` table, and a span with the span it hangs under, which it
reads off a stack of active spans for each session. The spans live in memory
only.
-/

namespace Panakoes.Telemetry

open PyJson (get)

/-- How an operation raises: an `OSError`, or anything else. -/
inductive Raised where
  | osError
  | other
  deriving DecidableEq, Repr

/-- A decoded hook event. -/
abbrev HookEvent := List (String × PyJson)

/-- `str(value)`. `repr` writes the values that are not strings. -/
def str (repr : PyJson → String) : PyJson → String
  | .str text => text
  | value => repr value

/-- What `process_event` takes from an event to know it by. -/
structure EventIdentity where
  sessionId : String
  hookEventName : String
  toolUseId : Option String
  deriving DecidableEq

/-- The first lines of `process_event`. -/
def EventIdentity.of (repr : PyJson → String) (raw : HookEvent) : EventIdentity where
  sessionId := str repr ((get raw "session_id").orElse (.str "unknown"))
  hookEventName := str repr ((get raw "hook_event_name").orElse (.str "unknown"))
  toolUseId :=
    match get raw "tool_use_id" with
    | .none => none
    | value => some (str repr value)

/-- The tool call an event belongs to: an empty id names none. -/
def EventIdentity.toolCall (identity : EventIdentity) : Option String :=
  identity.toolUseId.filter (· ≠ "")

/-! ## Trace ids -/

/-- A row of the `sessions` table. -/
structure SessionEntry where
  traceId : String
  createdAt : String
  deriving DecidableEq

/-- Where trace ids are kept: `_trace_id_by_session`, the file of each session
and the `sessions` table. -/
structure TraceIds where
  cache : Table String String
  files : Table String String
  sessions : Table String SessionEntry

/-- How `write_text` of a trace id ends. A write that fails leaves no file, or
a file with less in it. -/
inductive FileWrite where
  | written
  | failed (left : Option String)
  deriving DecidableEq

/-- What the environment decides while a trace id is looked up: whether the
read of the file, the query, `mkdir`, the write of the file and the insertion
succeed, and what is drawn and read off the clock. -/
structure TraceIdInput where
  readable : Bool
  queried : Bool
  traceId : String
  madeDir : Bool
  write : FileWrite
  inserted : Bool
  now : String

/-- `text.strip()`. -/
def strip (text : String) : String :=
  let stripped := (text.toList.dropWhile Streaming.isPySpace).reverse
  String.ofList (stripped.dropWhile Streaming.isPySpace).reverse

/-- The trace id in the file of the session, when it can be read and is there. -/
def readTraceFile (ids : TraceIds) (sessionId : String) (input : TraceIdInput) : Option String :=
  if input.readable then ((ids.files.lookup sessionId).map strip).filter (· ≠ "") else none

/-- `_persist_trace_id`. A path with a NUL in it is a `ValueError`. -/
def persistTraceId (ids : TraceIds) (sessionId traceId : String) (input : TraceIdInput) :
    TraceIds × Option Raised :=
  if '\x00' ∈ sessionId.toList then (ids, some .other)
  else if input.madeDir then
    let files :=
      if sessionId ∈ ids.files then ids.files else
        match input.write with
        | .written => ids.files.insert sessionId traceId
        | .failed none => ids.files
        | .failed (some left) => ids.files.insert sessionId left
    let cached := { ids with cache := ids.cache.insert sessionId traceId, files := files }
    if input.inserted then
      let sessions :=
        if sessionId ∈ ids.sessions then ids.sessions
        else ids.sessions.insert sessionId ⟨traceId, input.now⟩
      ({ cached with sessions := sessions }, none)
    else (cached, some .other)
  else (ids, some .osError)

/-- The end of both functions below: mint a trace id and persist it. -/
def mintTraceId (ids : TraceIds) (sessionId : String) (input : TraceIdInput) :
    TraceIds × Except Raised String :=
  let persisted := persistTraceId ids sessionId input.traceId input
  (persisted.1, match persisted.2 with
    | none => .ok input.traceId
    | some raised => .error raised)

/-- `trace_id_for_session`. -/
def traceIdForSession (ids : TraceIds) (sessionId : String) (input : TraceIdInput) :
    TraceIds × Except Raised String :=
  match ids.cache.lookup sessionId with
  | some traceId => (ids, .ok traceId)
  | none =>
      match readTraceFile ids sessionId input with
      | some traceId => ({ ids with cache := ids.cache.insert sessionId traceId }, .ok traceId)
      | none =>
          if input.queried then
            match ids.sessions.lookup sessionId with
            | some entry =>
                ({ ids with cache := ids.cache.insert sessionId entry.traceId },
                  .ok entry.traceId)
            | none => mintTraceId ids sessionId input
          else (ids, .error .other)

/-- `mint_session`: it does not look into the `sessions` table. -/
def mintSession (ids : TraceIds) (sessionId : String) (input : TraceIdInput) :
    TraceIds × Except Raised String :=
  match ids.cache.lookup sessionId with
  | some traceId => (ids, .ok traceId)
  | none =>
      match readTraceFile ids sessionId input with
      | some traceId => ({ ids with cache := ids.cache.insert sessionId traceId }, .ok traceId)
      | none => mintTraceId ids sessionId input

/-- The trace id `process_event` gives an event. -/
def traceIdOf (ids : TraceIds) (identity : EventIdentity) (input : TraceIdInput) :
    TraceIds × Except Raised String :=
  if identity.hookEventName = "SessionStart" then mintSession ids identity.sessionId input
  else traceIdForSession ids identity.sessionId input

/-! ## Spans -/

/-- `_span_id_by_tool_use_id` and `_active_span_stack_by_session`; the last
element of a stack is its top. -/
structure SpanContext where
  spanIdByToolUseId : Table String String
  activeSpanStackBySession : Table String (List String)

/-- The stack of a session. -/
def SpanContext.stack (context : SpanContext) (sessionId : String) : List String :=
  (context.activeSpanStackBySession.lookup sessionId).getD []

/-- The context with another stack for the session. -/
def SpanContext.setStack (context : SpanContext) (sessionId : String) (stack : List String) :
    SpanContext :=
  { context with
    activeSpanStackBySession := context.activeSpanStackBySession.insert sessionId stack }

/-- What an event is given. -/
structure SpanLink where
  spanId : String
  parentSpanId : Option String
  deriving DecidableEq

/-- The stack without the span of a call that ends: without that span if it is
there, else without its top. -/
def popMatching (stack : List String) (spanId : String) : List String :=
  if spanId ∈ stack then stack.erase spanId else stack.dropLast

/-- An event that begins a span: the span goes on the stack. -/
def SpanContext.push (context : SpanContext) (sessionId spanId : String) :
    SpanContext × SpanLink :=
  let stack := context.stack sessionId
  (context.setStack sessionId (stack ++ [spanId]), ⟨spanId, stack.getLast?⟩)

/-- An event that ends the span of a call. -/
def SpanContext.finishCall (context : SpanContext) (sessionId toolUseId drawn : String) :
    SpanContext × SpanLink :=
  let spanId := (context.spanIdByToolUseId.lookup toolUseId).getD drawn
  let stack := popMatching (context.stack sessionId) spanId
  ({ context with spanIdByToolUseId := context.spanIdByToolUseId.erase toolUseId }.setStack
    sessionId stack, ⟨spanId, stack.getLast?⟩)

/-- An event that ends the span on top. -/
def SpanContext.pop (context : SpanContext) (sessionId drawn : String) :
    SpanContext × SpanLink :=
  let stack := context.stack sessionId
  (context.setStack sessionId stack.dropLast,
    ⟨stack.getLast?.getD drawn, stack.dropLast.getLast?⟩)

/-- The events that `assign_span_for_event` tells apart. -/
inductive SpanEvent where
  | startCall (toolUseId : String)
  | finishCall (toolUseId : String)
  | startSubagent
  | stopSubagent
  | startSession
  | standalone
  deriving DecidableEq

/-- Which of them an event is. -/
def EventIdentity.spanEvent (identity : EventIdentity) : SpanEvent :=
  match identity.hookEventName, identity.toolCall with
  | "PreToolUse", some toolUseId => .startCall toolUseId
  | "PostToolUse", some toolUseId | "PostToolUseFailure", some toolUseId => .finishCall toolUseId
  | "SubagentStart", _ => .startSubagent
  | "SubagentStop", _ => .stopSubagent
  | "SessionStart", _ => .startSession
  | _, _ => .standalone

/-- `assign_span_for_event`, with the span id it draws if it needs one. -/
def assignSpanForEvent (context : SpanContext) (identity : EventIdentity) (drawn : String) :
    SpanContext × SpanLink :=
  let sessionId := identity.sessionId
  match identity.spanEvent with
  | .startCall toolUseId =>
      { context with spanIdByToolUseId := context.spanIdByToolUseId.insert toolUseId drawn }.push
        sessionId drawn
  | .finishCall toolUseId => context.finishCall sessionId toolUseId drawn
  | .startSubagent => context.push sessionId drawn
  | .stopSubagent => context.pop sessionId drawn
  | .startSession => (context.setStack sessionId [drawn], ⟨drawn, none⟩)
  | .standalone => (context, ⟨drawn, (context.stack sessionId).getLast?⟩)

variable {context : SpanContext} {sessionId other toolUseId drawn : String} {stack : List String}

@[simp] theorem SpanContext.stack_setStack :
    (context.setStack sessionId stack).stack sessionId = stack := by
  simp [SpanContext.setStack, SpanContext.stack]

theorem SpanContext.stack_setStack_of_ne (different : other ≠ sessionId) :
    (context.setStack sessionId stack).stack other = context.stack other := by
  simp [SpanContext.setStack, SpanContext.stack, AList.lookup_insert_ne different]

@[simp] theorem SpanContext.spanByToolUse_setStack :
    (context.setStack sessionId stack).spanIdByToolUseId = context.spanIdByToolUseId := rfl

/-- The event that starts a call. -/
theorem EventIdentity.of_startCall {identity : EventIdentity}
    (starts : identity.spanEvent = .startCall toolUseId) :
    identity.hookEventName = "PreToolUse" ∧ identity.toolUseId = some toolUseId := by
  unfold spanEvent at starts
  split at starts
  · rename_i call hook named
    cases starts
    exact ⟨hook, (Option.filter_eq_some_iff.mp named).1⟩
  all_goals cases starts

end Panakoes.Telemetry
