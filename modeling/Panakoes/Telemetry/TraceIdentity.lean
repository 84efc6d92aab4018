import Panakoes.Telemetry.Flusher

/-! # One trace for each session

Whether all rows of a session carry the trace id that the `sessions` table has
for it. The id is cached in memory, written to a file whose write may fail, and
inserted into the table, and the copies are consulted one after another. They
agree as long as nothing that is taken from a file, and nothing that is minted,
differs from what the table has: `mint_session` does not look there, and an id
read from a file is not inserted.
-/

namespace Panakoes.Telemetry

open Transition

variable {ε κ : Type*}

/-- The trace id that the table has for a session. -/
def traceIdIn (sessions : Table String SessionEntry) (sessionId : String) : Option String :=
  (sessions.lookup sessionId).map SessionEntry.traceId

/-- Every row carries the trace id that the table has for its session. -/
def OneTrace (rows : List (ProcessedEvent κ)) (sessions : Table String SessionEntry) : Prop :=
  ∀ row ∈ rows, traceIdIn sessions row.sessionId = some row.traceId

instance (rows : List (ProcessedEvent κ)) (sessions : Table String SessionEntry) :
    Decidable (OneTrace rows sessions) :=
  inferInstanceAs (Decidable (∀ row ∈ rows, _ = _))

/-! ## When the copies agree -/

/-- Every cached trace id is the one in the table. -/
def TraceIds.Agrees (ids : TraceIds) : Prop :=
  ∀ sessionId traceId, ids.cache.lookup sessionId = some traceId →
    traceIdIn ids.sessions sessionId = some traceId

/-- What is asked of a session that is not cached, by what its file and the table
have: the file has the id of the table, or else nothing is minted beside an id
of the table, and an id that is minted is inserted. -/
def TraceIdInput.Settles (input : TraceIdInput) (hookEventName : String) :
    Option String → Option String → Prop
  | some traceId, known => known = some traceId
  | none, some _ => hookEventName = "SessionStart" → input.madeDir = false
  | none, none => input.madeDir → input.inserted

instance (input : TraceIdInput) (hookEventName : String) :
    ∀ file known, Decidable (input.Settles hookEventName file known)
  | some _, _ => inferInstanceAs (Decidable (_ = _))
  | none, some _ => inferInstanceAs (Decidable (_ → _))
  | none, none => inferInstanceAs (Decidable (_ → _))

/-- The lookup of a trace id keeps the copies together. -/
def TraceIds.Settles (ids : TraceIds) (identity : EventIdentity) (input : TraceIdInput) : Prop :=
  identity.sessionId ∈ ids.cache ∨
    input.Settles identity.hookEventName (readTraceFile ids identity.sessionId input)
      (traceIdIn ids.sessions identity.sessionId)

instance (ids : TraceIds) (identity : EventIdentity) (input : TraceIdInput) :
    Decidable (ids.Settles identity input) :=
  inferInstanceAs (Decidable (_ ∨ _))

variable {ids : TraceIds} {sessionId traceId : String} {input : TraceIdInput}
  {identity : EventIdentity} {sessions grown : Table String SessionEntry}

/-- Agreement is about the cache and the table. -/
theorem TraceIds.Agrees.insert (agrees : ids.Agrees)
    (known : traceIdIn ids.sessions sessionId = some traceId) :
    TraceIds.Agrees { ids with cache := ids.cache.insert sessionId traceId } := by
  intro other found held
  rcases Table.lookup_insert_cases held with ⟨rfl, rfl⟩ | ⟨_, before⟩
  · exact known
  · exact agrees other found before

/-- No trace id of `sessions` is different in `grown`. -/
def Extends (grown sessions : Table String SessionEntry) : Prop :=
  ∀ sessionId traceId, traceIdIn sessions sessionId = some traceId →
    traceIdIn grown sessionId = some traceId

theorem OneTrace.mono {rows : List (ProcessedEvent κ)} (oneTrace : OneTrace rows sessions)
    (extend : Extends grown sessions) : OneTrace rows grown :=
  fun row member => extend _ _ (oneTrace row member)

theorem traceIdIn_eq_none : traceIdIn sessions sessionId = none ↔ sessionId ∉ sessions := by
  rw [traceIdIn, Option.map_eq_none_iff, AList.lookup_eq_none]

theorem traceIdIn_insert {entry : SessionEntry} :
    traceIdIn (sessions.insert sessionId entry) sessionId = some entry.traceId := by
  rw [traceIdIn, AList.lookup_insert, Option.map_some]

/-- A row that is inserted replaces none. -/
theorem extends_insert {entry : SessionEntry} (absent : sessionId ∉ sessions) :
    Extends (sessions.insert sessionId entry) sessions := by
  intro other traceId known
  have different : other ≠ sessionId := by
    rintro rfl
    rw [traceIdIn_eq_none.mpr absent] at known
    cases known
  rw [traceIdIn, AList.lookup_insert_ne different]
  exact known

/-- What a lookup leaves, and what it finds. -/
structure Found (before : TraceIds) (sessionId : String)
    (found : TraceIds × Except Raised String) : Prop where
  agrees : found.1.Agrees
  extend : Extends found.1.sessions before.sessions
  known : ∀ traceId, found.2 = .ok traceId → traceIdIn found.1.sessions sessionId = some traceId

/-- A trace id of the table is cached. -/
theorem Found.of_known (agrees : ids.Agrees)
    (known : traceIdIn ids.sessions sessionId = some traceId) :
    Found ids sessionId
      ({ ids with cache := ids.cache.insert sessionId traceId }, .ok traceId) where
  agrees := agrees.insert known
  extend := fun _ _ held => held
  known := by
    rintro _ ⟨⟩
    exact known

theorem Found.of_error (agrees : ids.Agrees) (raised : Raised) :
    Found ids sessionId (ids, .error raised) where
  agrees := agrees
  extend := fun _ _ held => held
  known := by rintro _ ⟨⟩

/-- When a path has a NUL in it, or its directory cannot be made, nothing is minted. -/
theorem mintTraceId_of_unmade (unmade : '\x00' ∈ sessionId.toList ∨ input.madeDir = false) :
    ∃ raised, mintTraceId ids sessionId input = (ids, .error raised) := by
  unfold mintTraceId persistTraceId
  by_cases nul : '\x00' ∈ sessionId.toList
  · exact ⟨.other, by simp only [if_pos nul]⟩
  · have made : ¬ input.madeDir := by
      rw [unmade.resolve_left nul]
      exact Bool.false_ne_true
    exact ⟨.osError, by simp only [if_neg nul, if_neg made]⟩

/-- A trace id is minted for a session that the table does not know. -/
theorem Found.mint (agrees : ids.Agrees) (absent : traceIdIn ids.sessions sessionId = none)
    (inserted : input.madeDir → input.inserted) :
    Found ids sessionId (mintTraceId ids sessionId input) := by
  have unknown := traceIdIn_eq_none.mp absent
  by_cases unmade : '\x00' ∈ sessionId.toList ∨ input.madeDir = false
  · obtain ⟨raised, same⟩ := @mintTraceId_of_unmade ids sessionId input unmade
    rw [same]
    exact .of_error agrees raised
  · obtain ⟨named, made⟩ := not_or.mp unmade
    have made := eq_true_of_ne_false made
    unfold mintTraceId persistTraceId
    simp only [if_neg named, if_pos made, if_pos (inserted made), if_neg unknown]
    refine ⟨?_, extends_insert unknown, ?_⟩
    · intro other found held
      rcases Table.lookup_insert_cases held with ⟨rfl, rfl⟩ | ⟨_, before⟩
      · exact traceIdIn_insert
      · exact extends_insert unknown _ _ (agrees other found before)
    · rintro _ ⟨⟩
      exact traceIdIn_insert

/-- **The copies agree after a lookup when it settles.** -/
theorem TraceIds.Agrees.found (agrees : ids.Agrees) (settles : ids.Settles identity input) :
    Found ids identity.sessionId (traceIdOf ids identity input) := by
  unfold traceIdOf mintSession traceIdForSession
  cases cached : ids.cache.lookup identity.sessionId with
  | some traceId =>
      have known : Found ids identity.sessionId (ids, .ok traceId) :=
        ⟨agrees, fun _ _ held => held, by
          rintro _ ⟨⟩
          exact agrees _ _ cached⟩
      split <;> exact known
  | none =>
      have uncached := settles.resolve_left (AList.lookup_eq_none.mp cached)
      cases file : readTraceFile ids identity.sessionId input with
      | some traceId =>
          simp only [file] at uncached
          split <;> exact .of_known agrees uncached
      | none =>
          cases known : traceIdIn ids.sessions identity.sessionId with
          | some traceId =>
              simp only [file, known] at uncached
              obtain ⟨entry, held, same⟩ := Option.map_eq_some_iff.mp known
              split
              · rename_i starts
                obtain ⟨raised, same⟩ :=
                  @mintTraceId_of_unmade ids identity.sessionId input (Or.inr (uncached starts))
                rw [same]
                exact .of_error agrees raised
              · simp only [held]
                split
                · exact .of_known agrees (by rw [known, same])
                · exact .of_error agrees .other
          | none =>
              simp only [file, known] at uncached
              have minted := Found.mint agrees known uncached
              split
              · exact minted
              · have absent : ids.sessions.lookup identity.sessionId = none :=
                  Option.map_eq_none_iff.mp known
                simp only [absent]
                split
                · exact minted
                · exact .of_error agrees .other

/-! ## What a run keeps -/

/-- The copies agree, and so do the rows with the table, for the connection and
for what is committed. -/
structure State.Traced (state : State κ) : Prop where
  agrees : state.ids.Agrees
  rows : OneTrace (storedEvents state.events) state.ids.sessions
  committed : OneTrace (storedEvents state.committed.events) state.committed.sessions

variable {flusher : Flusher ε κ} {state next final : State κ} {path : SpoolPath} {text : String}
  {event : ProcessedEvent κ} {drain : DrainInput ε} {actions : List (Action ε)}

theorem State.Traced.congr (traced : state.Traced) (ids : next.ids = state.ids)
    (events : next.events = state.events) (committed : next.committed = state.committed) :
    next.Traced := by
  obtain ⟨agrees, rows, durable⟩ := traced
  exact ⟨ids ▸ agrees, ids ▸ events ▸ rows, committed ▸ durable⟩

theorem State.Traced.commit (traced : state.Traced) : state.commit.Traced :=
  ⟨traced.agrees, traced.rows, traced.rows⟩

theorem State.Traced.unlink (traced : state.Traced) :
    (state.unlink path drain).1.Traced := by
  rcases unlink_cases state path drain with removed | kept
  · rw [removed]
    exact traced.congr rfl rfl rfl
  · rw [kept]
    exact traced

theorem State.Traced.moveToBad (traced : state.Traced) :
    (state.moveToBad path text drain).1.Traced := by
  unfold State.moveToBad
  split
  · split
    · exact traced.congr rfl rfl rfl
    · exact traced.unlink
  · exact traced

theorem State.Traced.pushToDisler (traced : state.Traced) :
    (pushToDisler flusher state event drain).1.Traced := by
  have marked : State.Traced
      { state with events := markPushed state.events event.dedupKey drain.pushedAt } := by
    refine ⟨traced.agrees, ?_, traced.committed⟩
    rw [storedEvents_markPushed]
    exact traced.rows
  unfold Telemetry.pushToDisler
  split
  · split
    · exact traced
    · exact traced
    · split
      · split
        · exact marked.commit
        · exact marked
      · exact traced
  · exact traced

/-- An event is stored under the trace id that the table has for its session. -/
theorem State.Traced.storeEvent (traced : state.Traced)
    (known : traceIdIn state.ids.sessions event.sessionId = some event.traceId) :
    (storeEvent flusher state path event drain).1.Traced := by
  have inserted : State.Traced { state with events := insertEvent state.events event } := by
    refine ⟨traced.agrees, fun row member => ?_, traced.committed⟩
    rcases mem_storedEvents_insertEvent member with rfl | before
    · exact known
    · exact traced.rows row before
  unfold Telemetry.storeEvent
  split
  · exact traced
  · exact traced
  · dsimp only
    split
    · have pushed : (Telemetry.pushToDisler flusher
          { state with events := insertEvent state.events event }.commit event drain).1.Traced :=
        inserted.commit.pushToDisler
      unfold Outcome.andThen
      split
      · exact pushed.unlink
      · exact pushed
    · exact inserted

/-- An event whose lookup settles is stored under the trace id of its session. -/
theorem State.Traced.drainEvent {raw : HookEvent} (traced : state.Traced)
    (settles : state.ids.Settles (.of flusher.repr raw) drain.traceId) :
    (drainEvent flusher state path raw drain).1.Traced := by
  obtain ⟨agrees, extend, known⟩ := traced.agrees.found settles
  have looked : ∀ spans, State.Traced
      { state with ids := (traceIdOf state.ids (.of flusher.repr raw) drain.traceId).1,
                   spans := spans } :=
    fun _ => ⟨agrees, traced.rows.mono extend, traced.committed⟩
  unfold Telemetry.drainEvent processEvent
  cases found : (traceIdOf state.ids (.of flusher.repr raw) drain.traceId).2 with
  | error raised =>
      simp only [found]
      exact looked state.spans
  | ok traceId =>
      simp only [found]
      cases flusher.columns raw drain.redaction with
      | error raised => exact looked _
      | ok columns => exact (looked _).storeEvent (known traceId found)

/-- What a step asks of the copies: a pass that takes an event asks that the
lookup of its trace id settles. -/
def Settles (flusher : Flusher ε κ) (state : State κ) : Action ε → Prop
  | .drain drain => drain.readable →
      ∀ text ∈ state.pass.head?.bind state.spool.lookup, ∀ raw ∈ flusher.eventOf text,
        state.ids.Settles (.of flusher.repr raw) drain.traceId
  | .spool .. | .list _ | .restart => True

instance (flusher : Flusher ε κ) (state : State κ) :
    ∀ action, Decidable (Settles flusher state action)
  | .drain _ => inferInstanceAs (Decidable (_ → _))
  | .spool .. | .list _ | .restart => inferInstanceAs (Decidable True)

theorem State.Traced.drainFile (traced : state.Traced)
    (settles : drain.readable → ∀ raw ∈ flusher.eventOf text,
      state.ids.Settles (.of flusher.repr raw) drain.traceId) :
    (drainFile flusher state path text drain).1.Traced := by
  unfold Telemetry.drainFile
  split
  · rename_i readable
    split
    · exact traced.unlink
    · rename_i written
      split
      · exact traced.moveToBad
      · exact traced
      · rename_i raw parsed
        refine traced.drainEvent (settles readable raw ?_)
        rw [Flusher.eventOf, if_neg written, parsed]
        rfl
      · exact traced.unlink
  · exact traced

/-- A restart falls back on what is committed and forgets the cache. -/
theorem State.Traced.restart (traced : state.Traced) : state.restarted.Traced where
  agrees := by
    intro sessionId traceId cached
    cases cached
  rows := traced.committed
  committed := traced.committed

theorem State.Traced.initial : (State.initial : State κ).Traced where
  agrees := by
    intro sessionId traceId cached
    cases cached
  rows := by rintro row ⟨⟩
  committed := by rintro row ⟨⟩

theorem State.Traced.step {action : Action ε} (traced : state.Traced)
    (settles : Settles flusher state action)
    (taken : Telemetry.step flusher state action = some next) : next.Traced := by
  unfold Telemetry.step at taken
  cases action with
  | spool path text =>
      obtain ⟨-, same⟩ := Option.ite_none_left_eq_some.mp taken
      cases same
      exact traced.congr rfl rfl rfl
  | list order =>
      obtain ⟨-, same⟩ := Option.ite_none_right_eq_some.mp taken
      cases same
      exact traced.congr rfl rfl rfl
  | drain drain =>
      cases pass : state.pass with
      | nil =>
          rw [pass] at taken
          cases taken
      | cons path rest =>
          have idle : State.Traced { state with pass := rest } := traced.congr rfl rfl rfl
          simp only [pass] at taken
          cases found : state.spool.lookup path with
          | none =>
              rw [found] at taken
              cases taken
              exact idle
          | some text =>
              rw [found] at taken
              cases taken
              have drained : State.Traced
                  (Telemetry.drainFile flusher { state with pass := rest } path text drain).1 :=
                idle.drainFile fun readable =>
                  settles readable text (by rw [pass]; exact found)
              rw [Outcome.settle_fields]
              exact drained.congr rfl rfl rfl
  | restart =>
      cases taken
      exact traced.restart

/-- **One trace for each session.** In every state that a run reaches whose
lookups settle, all rows of a session carry the trace id that the `sessions`
table has for it. -/
theorem one_trace_of_run
    (run : execute (step flusher) State.initial actions = some final)
    (settles : Meets (step flusher) (fun _ => Settles flusher) [] State.initial actions) :
    OneTrace (storedEvents final.committed.events) final.committed.sessions := by
  have traced : final.Traced :=
    execute_invariant .initial (fun _ _ _ _ before settles taken => before.step settles taken)
      settles run
  exact traced.committed

/-! ## A file that is not written -/

/-- A session that is started twice, and a prompt of it. -/
def resumedEvents : List (List (String × String)) :=
  [[("session_id", "s1"), ("hook_event_name", "SessionStart"), ("timestamp", "1")],
    [("session_id", "s1"), ("hook_event_name", "SessionStart"), ("timestamp", "2")],
    [("session_id", "s1"), ("hook_event_name", "UserPromptSubmit"), ("prompt", "go on"),
      ("timestamp", "3")]]

/-- Everything succeeds but, as `write` says, the write of the file of a session
that `traceId` is drawn for. -/
def mintingInput (traceId : String) (write : FileWrite) : DrainInput Unit :=
  { reliableInput "a" with traceId := ⟨true, true, traceId, true, write, true, "0"⟩ }

/-- The flusher is restarted after the first event. -/
def resumedRun (write : FileWrite) : List (Action Unit) :=
  let paths := resumedEvents.map samplePath
  (resumedEvents.take 1).map (fun fields => .spool (samplePath fields) (sampleText fields)) ++
    [.list (paths.take 1), .drain (mintingInput "t1" write), .restart] ++
    (resumedEvents.drop 1).map (fun fields => .spool (samplePath fields) (sampleText fields)) ++
    [.list (paths.drop 1), .drain (mintingInput "t2" .written),
      .drain (mintingInput "t3" .written)]

/-- When the file is written, the rows of the session carry one trace id. -/
theorem one_trace_of_run_resumed :
    ∃ final, execute (step (sampleFlusher resumedEvents)) State.initial (resumedRun .written) =
        some final ∧
      OneTrace (storedEvents final.committed.events) final.committed.sessions := by
  let flusher := sampleFlusher resumedEvents
  have checks : (execute (step flusher) State.initial (resumedRun .written)).isSome ∧
      Meets (step flusher) (fun _ => Settles flusher) [] State.initial (resumedRun .written) := by
    decide +kernel
  obtain ⟨ran, settles⟩ := checks
  obtain ⟨final, run⟩ := Option.isSome_iff_exists.mp ran
  exact ⟨final, run, one_trace_of_run run settles⟩

/-- Nothing that SQLite is asked to do fails. -/
def Reliable : Action ε → Prop
  | .drain drain => drain.traceId.queried ∧ drain.traceId.inserted ∧
      drain.insertion = .executed ∧ drain.commits ∧ drain.updates ∧ drain.commitsUpdate
  | .spool .. | .list _ | .restart => True

instance : ∀ action : Action ε, Decidable (Reliable action)
  | .drain _ => inferInstanceAs (Decidable (_ ∧ _))
  | .spool .. | .list _ | .restart => inferInstanceAs (Decidable True)

/-- When it is not, the session is given a second trace id. -/
theorem two_traces_resumed :
    ¬ ∀ (actions : List (Action Unit)) (final : State (Option String)),
      (∀ action ∈ actions, Reliable action) →
      execute (step (sampleFlusher resumedEvents)) State.initial actions = some final →
      OneTrace (storedEvents final.committed.events) final.committed.sessions := by
  intro always
  obtain ⟨final, run, ends⟩ := Option.map_eq_some_iff.mp
    (show (execute (step (sampleFlusher resumedEvents)) State.initial
        (resumedRun (.failed none))).map
      (fun final => decide
        (OneTrace (storedEvents final.committed.events) final.committed.sessions)) =
      some false by decide +kernel)
  exact of_decide_eq_false ends (always _ final (by decide) run)

end Panakoes.Telemetry
