import Panakoes.Foundation.Run
import Panakoes.Telemetry.TraceContext

/-! # The telemetry flusher

Hooks leave their events as files in a spool directory. A drain pass takes the
listed files one by one: it stores the event of a file as a row of the SQLite
table `events`, whose `dedup_key` is unique, and removes the file. The state
keeps apart what the connection sees and what has been committed, since a
restart forgets the difference together with the trace context.
-/

namespace Panakoes.Telemetry

open Transition
open PyJson (get)

/-! ## Rows -/

/-- A processed event. The columns that neither identify an event nor place it
in a trace (brief, lengths, agent and usage fields, payload) are of type `κ`. -/
structure ProcessedEvent (κ : Type*) extends EventIdentity where
  traceId : String
  spanId : String
  parentSpanId : Option String
  timestamp : String
  columns : κ

/-- The generated column `dedup_key`. -/
def EventIdentity.dedupKey (identity : EventIdentity) : String :=
  identity.sessionId ++ "|" ++ identity.toolUseId.getD "" ++ "|" ++ identity.hookEventName

/-- A row of the table `events`. -/
structure EventRow (κ : Type*) extends ProcessedEvent κ where
  dislerPushedAt : Option String

variable {ε κ : Type*}

/-- What the rows store of their events. -/
def storedEvents (events : List (EventRow κ)) : List (ProcessedEvent κ) :=
  events.map EventRow.toProcessedEvent

/-- The keys of the rows. -/
def rowKeys (events : List (EventRow κ)) : List String := events.map (·.dedupKey)

/-- `insert_event`: `INSERT OR IGNORE` under `UNIQUE (dedup_key)`. -/
def insertEvent (events : List (EventRow κ)) (event : ProcessedEvent κ) : List (EventRow κ) :=
  if event.dedupKey ∈ rowKeys events then events else events ++ [⟨event, none⟩]

/-- The update of `disler_pushed_at`. -/
def markPushed (events : List (EventRow κ)) (dedupKey pushedAt : String) : List (EventRow κ) :=
  events.map fun row =>
    if row.dedupKey = dedupKey then { row with dislerPushedAt := some pushedAt } else row

/-! ## State -/

/-- A file of the spool: the directory of its session and its name. -/
structure SpoolPath where
  sessionDir : String
  name : String
  deriving DecidableEq

/-- What SQLite has committed. -/
structure Committed (κ : Type*) where
  events : List (EventRow κ)
  sessions : Table String SessionEntry

/-- The spool, the files moved to `bad`, the files the current pass has still to
take, the trace context, and the table `events` as the connection sees it and as
it is committed. -/
structure State (κ : Type*) where
  spool : Table SpoolPath String
  bad : Table String String
  pass : List SpoolPath
  ids : TraceIds
  spans : SpanContext
  events : List (EventRow κ)
  committed : Committed κ

/-- A flusher: `json.loads`, `repr`, whether events go to disler, and the rest
of `process_event`, which computes the other columns from the event and from
what the redactor and its environment answer, or raises. -/
structure Flusher (ε κ : Type*) where
  loads : String → Except PyError PyJson
  repr : PyJson → String
  dislerEnabled : Bool
  columns : HookEvent → ε → Except Raised κ

/-- How `conn.execute` of an insertion ends. -/
inductive Execution where
  | executed
  | sqliteError
  | raised
  deriving DecidableEq

/-- What the environment decides while one file is drained. -/
structure DrainInput (ε : Type*) where
  readable : Bool
  traceId : TraceIdInput
  spanId : String
  now : String
  redaction : ε
  insertion : Execution
  commits : Bool
  posted : Except Raised Bool
  pushedAt : String
  updates : Bool
  commitsUpdate : Bool
  makesBad : Bool
  renames : Bool
  unlinks : Bool

/-! ## Draining one file -/

/-- A state, and whether the file's `try` block raised. -/
abbrev Outcome (κ : Type*) := State κ × Option Raised

/-- Go on unless something has been raised. -/
def Outcome.andThen (outcome : Outcome κ) (rest : State κ → Outcome κ) : Outcome κ :=
  match outcome.2 with
  | none => rest outcome.1
  | some _ => outcome

/-- `f.unlink(missing_ok=True)`. -/
def State.unlink (state : State κ) (path : SpoolPath) (input : DrainInput ε) : Outcome κ :=
  if input.unlinks then ({ state with spool := state.spool.erase path }, none)
  else (state, some .osError)

/-- A file that does not parse is moved to `bad`, or dropped if that fails. -/
def State.moveToBad (state : State κ) (path : SpoolPath) (text : String)
    (input : DrainInput ε) : Outcome κ :=
  if input.makesBad then
    if input.renames then
      ({ state with spool := state.spool.erase path, bad := state.bad.insert path.name text },
        none)
    else state.unlink path input
  else (state, some .osError)

/-- `conn.commit()`. -/
def State.commit (state : State κ) : State κ :=
  { state with committed := ⟨state.events, state.ids.sessions⟩ }

/-- The row of an event. -/
def Flusher.processed (flusher : Flusher ε κ) (raw : HookEvent) (traceId : String)
    (link : SpanLink) (now : String) (columns : κ) : ProcessedEvent κ where
  toEventIdentity := EventIdentity.of flusher.repr raw
  traceId := traceId
  spanId := link.spanId
  parentSpanId := link.parentSpanId
  timestamp := str flusher.repr ((get raw "timestamp").orElse (.str now))
  columns := columns

/-- `process_event`. -/
def processEvent (flusher : Flusher ε κ) (state : State κ) (raw : HookEvent)
    (input : DrainInput ε) : State κ × Except Raised (ProcessedEvent κ) :=
  let identity := EventIdentity.of flusher.repr raw
  let found := traceIdOf state.ids identity input.traceId
  match found.2 with
  | .error raised => ({ state with ids := found.1 }, .error raised)
  | .ok traceId =>
      let assigned := assignSpanForEvent state.spans identity input.spanId
      let next := { state with ids := found.1, spans := assigned.1 }
      match flusher.columns raw input.redaction with
      | .error raised => (next, .error raised)
      | .ok columns =>
          (next, .ok (flusher.processed raw traceId assigned.2 input.now columns))

/-- The dual write to disler. -/
def pushToDisler (flusher : Flusher ε κ) (state : State κ) (event : ProcessedEvent κ)
    (input : DrainInput ε) : Outcome κ :=
  if flusher.dislerEnabled then
    match input.posted with
    | .error raised => (state, some raised)
    | .ok false => (state, none)
    | .ok true =>
        if input.updates then
          let updated :=
            { state with events := markPushed state.events event.dedupKey input.pushedAt }
          if input.commitsUpdate then (updated.commit, none) else (updated, some .other)
        else (state, some .other)
  else (state, none)

/-- Store a processed event and remove its file. -/
def storeEvent (flusher : Flusher ε κ) (state : State κ) (path : SpoolPath)
    (event : ProcessedEvent κ) (input : DrainInput ε) : Outcome κ :=
  match input.insertion with
  | .sqliteError => (state, none)
  | .raised => (state, some .other)
  | .executed =>
      let inserted := { state with events := insertEvent state.events event }
      if input.commits then
        (pushToDisler flusher inserted.commit event input).andThen fun pushed =>
          pushed.unlink path input
      else (inserted, some .other)

/-- What `drain_once` does with the event of a file. -/
def drainEvent (flusher : Flusher ε κ) (state : State κ) (path : SpoolPath) (raw : HookEvent)
    (input : DrainInput ε) : Outcome κ :=
  let processed := processEvent flusher state raw input
  match processed.2 with
  | .error raised => (processed.1, some raised)
  | .ok event => storeEvent flusher processed.1 path event input

/-- What `drain_once` does with one file. -/
def drainFile (flusher : Flusher ε κ) (state : State κ) (path : SpoolPath) (text : String)
    (input : DrainInput ε) : Outcome κ :=
  if input.readable then
    if strip text = "" then state.unlink path input
    else
      match flusher.loads text with
      | .error .jsonDecodeError => state.moveToBad path text input
      | .error _ => (state, some .other)
      | .ok (.dict raw) => drainEvent flusher state path raw input
      | .ok _ => state.unlink path input
  else (state, some .osError)

/-- An `OSError` is logged and the pass goes on; anything else ends it. -/
def Outcome.settle (outcome : Outcome κ) : State κ :=
  if outcome.2 = some .other then { outcome.1 with pass := [] } else outcome.1

/-! ## The transition system -/

/-- What happens to the flusher: a hook spools an event, a pass lists the files
(in the order of `list_spool_files`, which depends on time stamps, here left
open), the pass takes its next file, or the process is restarted. -/
inductive Action (ε : Type*) where
  | spool (path : SpoolPath) (text : String)
  | list (order : List SpoolPath)
  | drain (input : DrainInput ε)
  | restart

/-- `SPOOL_HARDSTOP_THRESHOLD`. -/
def spoolHardstopThreshold : ℕ := 10000

/-- The trace context of a new process. -/
def SpanContext.empty : SpanContext := ⟨∅, ∅⟩

/-- The state after a restart. -/
def State.restarted (state : State κ) : State κ :=
  { state with
    pass := []
    ids := { state.ids with cache := ∅, sessions := state.committed.sessions }
    spans := .empty
    events := state.committed.events }

/-- One step of the flusher. -/
def step (flusher : Flusher ε κ) (state : State κ) : Action ε → Option (State κ)
  | .spool path text =>
      if path ∈ state.spool then none
      else some { state with spool := state.spool.insert path text }
  | .list order =>
      if state.pass = [] ∧ order.Perm state.spool.keys ∧ order.length < spoolHardstopThreshold
      then some { state with pass := order } else none
  | .drain input =>
      match state.pass with
      | [] => none
      | path :: rest =>
          let taken := { state with pass := rest }
          match state.spool.lookup path with
          | none => some taken
          | some text => some (drainFile flusher taken path text input).settle
  | .restart => some state.restarted

/-- The state before anything is spooled. -/
def State.initial : State κ where
  spool := ∅
  bad := ∅
  pass := []
  ids := ⟨∅, ∅, ∅⟩
  spans := .empty
  events := []
  committed := ⟨[], ∅⟩

/-! ## What draining a file can do -/

/-- The event in a file, if it holds one. -/
def Flusher.eventOf (flusher : Flusher ε κ) (text : String) : Option HookEvent :=
  if strip text = "" then none
  else
    match flusher.loads text with
    | .ok (.dict raw) => some raw
    | _ => none

/-- What draining a file can do: nothing that concerns events, or give the event
a span without storing it, or store it. A file with an event is only removed
when the row is committed. -/
inductive Drained (flusher : Flusher ε κ) (state : State κ) (path : SpoolPath) (text : String)
    (input : DrainInput ε) (next : State κ) : Prop where
  | untouched (events : next.events = state.events)
      (committed : next.committed = state.committed) (spans : next.spans = state.spans)
      (spool : next.spool = state.spool ∨
        flusher.eventOf text = none ∧ next.spool = state.spool.erase path)
  | unstored (raw : HookEvent) (traceId : String) (event : flusher.eventOf text = some raw)
      (traced : (traceIdOf state.ids (.of flusher.repr raw) input.traceId).2 = .ok traceId)
      (failed : (∃ raised, flusher.columns raw input.redaction = .error raised) ∨
        input.insertion ≠ .executed)
      (events : next.events = state.events) (committed : next.committed = state.committed)
      (spans : next.spans =
        (assignSpanForEvent state.spans (.of flusher.repr raw) input.spanId).1)
      (spool : next.spool = state.spool)
  | stored (raw : HookEvent) (traceId : String) (columns : κ)
      (event : flusher.eventOf text = some raw)
      (traced : (traceIdOf state.ids (.of flusher.repr raw) input.traceId).2 = .ok traceId)
      (computed : flusher.columns raw input.redaction = .ok columns)
      (spans : next.spans =
        (assignSpanForEvent state.spans (.of flusher.repr raw) input.spanId).1)
      (events : storedEvents next.events = storedEvents (insertEvent state.events
        (flusher.processed raw traceId
          (assignSpanForEvent state.spans (.of flusher.repr raw) input.spanId).2 input.now
          columns)))
      (spool : (next.spool = state.spool ∧ (next.committed = state.committed ∨
            storedEvents next.committed.events = storedEvents next.events)) ∨
          next.spool = state.spool.erase path ∧
            storedEvents next.committed.events = storedEvents next.events)

variable {flusher : Flusher ε κ} {state next : State κ} {path : SpoolPath} {text : String}
  {input : DrainInput ε}

@[simp] theorem storedEvents_markPushed (events : List (EventRow κ)) (dedupKey pushedAt : String) :
    storedEvents (markPushed events dedupKey pushedAt) = storedEvents events := by
  rw [storedEvents, markPushed, List.map_map]
  refine List.map_congr_left fun row _ => ?_
  rw [Function.comp_apply]
  split <;> rfl

/-- Settling an outcome changes the pass only. -/
theorem Outcome.settle_fields (outcome : Outcome κ) :
    outcome.settle = { outcome.1 with pass := outcome.settle.pass } := by
  unfold Outcome.settle
  split <;> rfl

theorem rowKeys_eq (events : List (EventRow κ)) :
    rowKeys events = (storedEvents events).map (·.dedupKey) := by
  rw [storedEvents, List.map_map]
  rfl

theorem storedEvents_insertEvent_of_mem {events : List (EventRow κ)} {event : ProcessedEvent κ}
    (held : event.dedupKey ∈ rowKeys events) :
    storedEvents (insertEvent events event) = storedEvents events := by
  rw [insertEvent, if_pos held]

theorem storedEvents_insertEvent_of_notMem {events : List (EventRow κ)}
    {event : ProcessedEvent κ} (unknown : event.dedupKey ∉ rowKeys events) :
    storedEvents (insertEvent events event) = storedEvents events ++ [event] := by
  rw [insertEvent, if_neg unknown, storedEvents, List.map_append]
  rfl

theorem rowKeys_congr {events others : List (EventRow κ)}
    (same : storedEvents events = storedEvents others) : rowKeys events = rowKeys others := by
  rw [rowKeys_eq, rowKeys_eq, same]

/-- Rows are only added at the end. -/
theorem storedEvents_prefix_insertEvent (events : List (EventRow κ)) (event : ProcessedEvent κ) :
    storedEvents events <+: storedEvents (insertEvent events event) := by
  by_cases held : event.dedupKey ∈ rowKeys events
  · refine ⟨[], ?_⟩
    rw [List.append_nil, storedEvents_insertEvent_of_mem held]
  · rw [storedEvents_insertEvent_of_notMem held]
    exact List.prefix_append _ _

theorem mem_rowKeys_insertEvent (events : List (EventRow κ)) (event : ProcessedEvent κ) :
    event.dedupKey ∈ rowKeys (insertEvent events event) := by
  by_cases held : event.dedupKey ∈ rowKeys events
  · rw [rowKeys_congr (storedEvents_insertEvent_of_mem held)]
    exact held
  · rw [rowKeys_eq, storedEvents_insertEvent_of_notMem held]
    simp

/-- The keys stay unique. -/
theorem nodup_rowKeys_insertEvent {events : List (EventRow κ)} (event : ProcessedEvent κ)
    (unique : (rowKeys events).Nodup) : (rowKeys (insertEvent events event)).Nodup := by
  by_cases held : event.dedupKey ∈ rowKeys events
  · rw [rowKeys_congr (storedEvents_insertEvent_of_mem held)]
    exact unique
  · rw [rowKeys_eq, storedEvents_insertEvent_of_notMem held, List.map_append, ← rowKeys_eq,
      List.map_singleton, ← List.concat_eq_append]
    exact List.Nodup.concat held unique

/-- A row of the table after an insertion is new or was there. -/
theorem mem_storedEvents_insertEvent {events : List (EventRow κ)} {event row : ProcessedEvent κ}
    (held : row ∈ storedEvents (insertEvent events event)) :
    row = event ∨ row ∈ storedEvents events := by
  by_cases known : event.dedupKey ∈ rowKeys events
  · rw [storedEvents_insertEvent_of_mem known] at held
    exact Or.inr held
  · rw [storedEvents_insertEvent_of_notMem known, List.mem_append, List.mem_singleton] at held
    exact held.symm

theorem unlink_cases (state : State κ) (path : SpoolPath) (input : DrainInput ε) :
    state.unlink path input = ({ state with spool := state.spool.erase path }, none) ∨
      state.unlink path input = (state, some .osError) := by
  unfold State.unlink
  split
  · exact Or.inl rfl
  · exact Or.inr rfl

/-- The dual write changes no more than `disler_pushed_at`, and leaves the row
committed. -/
theorem pushToDisler_fields (flusher : Flusher ε κ) (state : State κ) (input : DrainInput ε)
    (event : ProcessedEvent κ)
    (committed : storedEvents state.committed.events = storedEvents state.events) :
    let pushed := (pushToDisler flusher state event input).1
    pushed.spool = state.spool ∧ pushed.spans = state.spans ∧
      storedEvents pushed.events = storedEvents state.events ∧
      storedEvents pushed.committed.events = storedEvents state.events := by
  unfold pushToDisler
  split
  · split
    · exact ⟨rfl, rfl, rfl, committed⟩
    · exact ⟨rfl, rfl, rfl, committed⟩
    · split
      · split
        · exact ⟨rfl, rfl, storedEvents_markPushed _ _ _, storedEvents_markPushed _ _ _⟩
        · exact ⟨rfl, rfl, storedEvents_markPushed _ _ _, committed⟩
      · exact ⟨rfl, rfl, rfl, committed⟩
  · exact ⟨rfl, rfl, rfl, committed⟩

/-- Removing a file at the end changes the spool only. -/
theorem Outcome.andThen_unlink_fields (outcome : Outcome κ) (path : SpoolPath)
    (input : DrainInput ε) :
    ∃ spool, (spool = outcome.1.spool ∨ spool = outcome.1.spool.erase path) ∧
      (outcome.andThen fun state => state.unlink path input).1 =
        { outcome.1 with spool := spool } := by
  unfold Outcome.andThen
  split
  · rcases unlink_cases outcome.1 path input with removed | kept
    · exact ⟨outcome.1.spool.erase path, Or.inr rfl, by simp only [removed]⟩
    · exact ⟨outcome.1.spool, Or.inl rfl, by simp only [kept]⟩
  · exact ⟨outcome.1.spool, Or.inl rfl, rfl⟩

/-- What storing an event does once the insertion is executed. -/
theorem storeEvent_fields (flusher : Flusher ε κ) (path : SpoolPath) (event : ProcessedEvent κ)
    (executed : input.insertion = .executed) :
    let next := (storeEvent flusher state path event input).1
    next.spans = state.spans ∧
      storedEvents next.events = storedEvents (insertEvent state.events event) ∧
      ((next.spool = state.spool ∧ (next.committed = state.committed ∨
          storedEvents next.committed.events = storedEvents next.events)) ∨
        next.spool = state.spool.erase path ∧
          storedEvents next.committed.events = storedEvents next.events) := by
  simp only [storeEvent, executed]
  split
  · let inserted := { state with events := insertEvent state.events event }
    obtain ⟨spool, spans, events, committed⟩ :=
      pushToDisler_fields flusher inserted.commit input event rfl
    have durable := committed.trans events.symm
    obtain ⟨left, removal, next⟩ := Outcome.andThen_unlink_fields
      (pushToDisler flusher inserted.commit event input) path input
    rw [next]
    refine ⟨spans, events, ?_⟩
    rcases removal with kept | removed
    · exact Or.inl ⟨kept.trans spool, Or.inr durable⟩
    · exact Or.inr ⟨removed.trans (congrArg (AList.erase path) spool), durable⟩
  · exact ⟨rfl, rfl, Or.inl ⟨rfl, Or.inl rfl⟩⟩

/-- A file that is not stored because its insertion fails changes nothing. -/
theorem storeEvent_of_failed (event : ProcessedEvent κ) (failed : input.insertion ≠ .executed) :
    (storeEvent flusher state path event input).1 = state := by
  unfold storeEvent
  split
  · rfl
  · rfl
  · rename_i executed
    exact absurd executed failed

/-- Removing a file that holds no event, whether or not that succeeds. -/
theorem Drained.of_unlink (none : flusher.eventOf text = none) (pass : List SpoolPath) :
    Drained flusher state path text input
      { (state.unlink path input).1 with pass := pass } := by
  rcases unlink_cases state path input with removed | kept
  · rw [removed]
    exact .untouched rfl rfl rfl (Or.inr ⟨none, rfl⟩)
  · rw [kept]
    exact .untouched rfl rfl rfl (Or.inl rfl)

theorem Drained.of_moveToBad (none : flusher.eventOf text = none) (pass : List SpoolPath) :
    Drained flusher state path text input
      { (state.moveToBad path text input).1 with pass := pass } := by
  unfold State.moveToBad
  split
  · split
    · exact .untouched rfl rfl rfl (Or.inr ⟨none, rfl⟩)
    · exact .of_unlink none pass
  · exact .untouched rfl rfl rfl (Or.inl rfl)

/-- Draining a file that holds an event. -/
theorem Drained.of_drainEvent {raw : HookEvent} (event : flusher.eventOf text = some raw)
    (pass : List SpoolPath) :
    Drained flusher state path text input
      { (drainEvent flusher state path raw input).1 with pass := pass } := by
  cases found : (traceIdOf state.ids (.of flusher.repr raw) input.traceId).2 with
  | error raised =>
      simp only [drainEvent, processEvent, found]
      exact .untouched rfl rfl rfl (Or.inl rfl)
  | ok traceId =>
      cases computed : flusher.columns raw input.redaction with
      | error raised =>
          simp only [drainEvent, processEvent, found, computed]
          exact .unstored raw traceId event found (Or.inl ⟨raised, computed⟩) rfl rfl rfl rfl
      | ok columns =>
          simp only [drainEvent, processEvent, found, computed]
          by_cases executed : input.insertion = .executed
          · obtain ⟨spans, events, spool⟩ := storeEvent_fields flusher path _ executed
            exact .stored raw traceId columns event found computed spans events spool
          · rw [storeEvent_of_failed _ executed]
            exact .unstored raw traceId event found (Or.inr executed) rfl rfl rfl rfl

/-- **What draining a file can do.** -/
theorem drainFile_drained (flusher : Flusher ε κ) (state : State κ) (path : SpoolPath)
    (text : String) (input : DrainInput ε) :
    Drained flusher state path text input (drainFile flusher state path text input).settle := by
  rw [Outcome.settle_fields]
  generalize (drainFile flusher state path text input).settle.pass = pass
  unfold drainFile
  split
  · split
    · rename_i blank
      exact .of_unlink (if_pos blank) pass
    · rename_i written
      split
      · rename_i error
        refine .of_moveToBad ?_ pass
        simp [Flusher.eventOf, written, error]
      · exact .untouched rfl rfl rfl (Or.inl rfl)
      · rename_i raw parsed
        refine .of_drainEvent ?_ pass
        simp [Flusher.eventOf, written, parsed]
      · rename_i value notDict parsed
        refine .of_unlink ?_ pass
        rw [Flusher.eventOf, if_neg written, parsed]
        split
        · rename_i raw same
          cases same
          exact absurd rfl (notDict raw)
        · rfl
  · exact .untouched rfl rfl rfl (Or.inl rfl)

/-! ## A sample flusher -/

/-- A hook event whose fields are all strings. -/
def sampleEvent (fields : List (String × String)) : HookEvent :=
  fields.map fun field => (field.1, .str field.2)

theorem sampleEvent_injective : Function.Injective sampleEvent := by
  apply List.map_injective_iff.mpr
  intro first second same
  simpa [Prod.ext_iff] using same

/-- What the file of a sample event says. -/
def sampleText (fields : List (String × String)) : String :=
  "\x7b" ++ ", ".intercalate (fields.map fun field =>
    "\"" ++ field.1 ++ "\": \"" ++ field.2 ++ "\"") ++ "\x7d"

/-- A flusher without disler that sees the given events; of the other columns it
keeps the brief of a prompt. -/
def sampleFlusher (samples : List (List (String × String))) : Flusher Unit (Option String) where
  loads text :=
    match samples.find? fun fields => sampleText fields = text with
    | some fields => .ok (.dict (sampleEvent fields))
    | none => .error .jsonDecodeError
  repr _ := ""
  dislerEnabled := false
  columns raw _ := .ok (get raw "prompt").nonemptyStr?

/-- Everything succeeds, and `spanId` is drawn. -/
def reliableInput (spanId : String) : DrainInput Unit where
  readable := true
  traceId := ⟨true, true, "trace", true, .written, true, "0"⟩
  spanId := spanId
  now := "0"
  redaction := ()
  insertion := .executed
  commits := true
  posted := .ok false
  pushedAt := "0"
  updates := true
  commitsUpdate := true
  makesBad := true
  renames := true
  unlinks := true

/-- The file of a sample event, named after its time stamp. -/
def samplePath (fields : List (String × String)) : SpoolPath :=
  ⟨"s1", (fields.lookup "timestamp").getD "" ++ ".json"⟩

/-- The sample events are spooled and then drained in one pass. -/
def sampleRun (samples : List (List (String × String))) : List (Action Unit) :=
  (samples.map fun fields => .spool (samplePath fields) (sampleText fields)) ++
    .list (samples.map samplePath) ::
      samples.map fun fields => .drain (reliableInput (samplePath fields).name)

/-- The sample flusher tells the samples apart. -/
def Readable (samples : List (List (String × String))) : Prop :=
  ∀ fields ∈ samples, strip (sampleText fields) ≠ "" ∧
    (samples.find? fun other => sampleText other = sampleText fields) = some fields

instance (samples : List (List (String × String))) : Decidable (Readable samples) :=
  inferInstanceAs (Decidable (∀ fields ∈ samples, _))

theorem Readable.eventOf {samples : List (List (String × String))} (readable : Readable samples)
    {fields : List (String × String)} (held : fields ∈ samples) :
    (sampleFlusher samples).eventOf (sampleText fields) = some (sampleEvent fields) := by
  obtain ⟨written, found⟩ := readable fields held
  simp only [Flusher.eventOf, if_neg written, sampleFlusher, found]

end Panakoes.Telemetry
