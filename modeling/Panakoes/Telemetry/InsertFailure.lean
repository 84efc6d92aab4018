import Panakoes.Telemetry.SpanReplay
import Panakoes.Telemetry.TraceTree

/-! # Insertions that fail

Runs of the flusher in which nothing fails but insertions. The file of an event that is not stored
stays in the spool and is taken again by a later pass. What the run stores is compared with what a
run stores in which no insertion fails and the events come in the same order. The rows are told
apart by their keys, and the spans are drawn at random, so they agree up to a renaming.
-/

namespace Panakoes.Telemetry

open Transition

variable {ε κ : Type*} {flusher : Flusher ε κ} {state next final : State κ} {path : SpoolPath}
  {text : String} {raw : HookEvent} {input : DrainInput ε} {past actions : List (Action ε)}
  {action : Action ε}

/-- What the rows say of the spans, by key. -/
def spanLinks (rows : List (ProcessedEvent κ)) : List (String × SpanLink) :=
  rows.map fun row => (row.dedupKey, ⟨row.spanId, row.parentSpanId⟩)

/-- The event that a step gives a span, if any. -/
def Flusher.attemptOf (flusher : Flusher ε κ) (state : State κ) : Action ε → List Attempt
  | .drain input =>
      match state.pass with
      | [] => []
      | path :: _ =>
          match (state.spool.lookup path).bind flusher.eventOf with
          | none => []
          | some raw =>
              let identity := EventIdentity.of flusher.repr raw
              [⟨path, identity, input.spanId, state.spans.top identity.sessionId,
                input.insertion = .executed⟩]
  | .spool _ _ | .list _ | .restart => []

/-- The events that a run gives spans, in turn. -/
def Flusher.attempts (flusher : Flusher ε κ) (actions : List (Action ε)) : List Attempt :=
  emitted (step flusher) flusher.attemptOf State.initial actions

/-- Nothing fails but the insertion, by an error of SQLite. -/
def OnlyInsertFails (flusher : Flusher ε κ) (_past : List (Action ε)) (state : State κ) :
    Action ε → Prop
  | .drain input =>
      input.readable = true ∧ input.insertion ≠ .raised ∧ input.commits = true ∧
        input.unlinks = true ∧
        (flusher.dislerEnabled = true →
          input.posted.isOk = true ∧ input.updates = true ∧ input.commitsUpdate = true) ∧
        ∀ path ∈ state.pass.head?, ∀ text ∈ state.spool.lookup path,
          ∀ raw ∈ flusher.eventOf text,
            (traceIdOf state.ids (.of flusher.repr raw) input.traceId).2.isOk = true ∧
              (flusher.columns raw input.redaction).isOk = true
  | .spool _ _ | .list _ => True
  | .restart => False

/-- An insertion that fails does no harm. -/
def HarmlessFailure (flusher : Flusher ε κ) (past : List (Action ε)) (state : State κ)
    (action : Action ε) : Prop :=
  ∀ attempt ∈ flusher.attemptOf state action,
    Harmless (flusher.attempts past) state.spans attempt

/-! ## One step -/

theorem spanLinks_insertEvent (events : List (EventRow κ)) (event : ProcessedEvent κ) :
    spanLinks (storedEvents (insertEvent events event)) =
      if event.dedupKey ∉ (spanLinks (storedEvents events)).map Prod.fst then
        spanLinks (storedEvents events) ++
          [(event.dedupKey, ⟨event.spanId, event.parentSpanId⟩)]
      else spanLinks (storedEvents events) := by
  have keys : (spanLinks (storedEvents events)).map Prod.fst = rowKeys events := by
    rw [rowKeys_eq, spanLinks, List.map_map]
    rfl
  rw [keys]
  by_cases held : event.dedupKey ∈ rowKeys events
  · rw [storedEvents_insertEvent_of_mem held, if_neg fun new => new held]
  · rw [storedEvents_insertEvent_of_notMem held, if_pos held, spanLinks, List.map_append]
    rfl

/-- Disler raises nothing. -/
theorem pushToDisler_quiet (event : ProcessedEvent κ)
    (pushes : flusher.dislerEnabled = true →
      input.posted.isOk = true ∧ input.updates = true ∧ input.commitsUpdate = true) :
    (pushToDisler flusher state event input).2 = none := by
  unfold pushToDisler
  split
  · rename_i enabled
    obtain ⟨posted, updates, commits⟩ := pushes enabled
    cases answer : input.posted with
    | error raised =>
        rw [answer] at posted
        cases posted
    | ok pushed =>
        cases pushed with
        | false => rfl
        | true => simp only [if_pos updates, if_pos commits]
  · rfl

theorem loads_of_eventOf (event : flusher.eventOf text = some raw) :
    strip text ≠ "" ∧ flusher.loads text = .ok (.dict raw) := by
  unfold Flusher.eventOf at event
  split at event
  · cases event
  · rename_i written
    refine ⟨written, ?_⟩
    split at event
    · rename_i parsed
      cases event
      exact parsed
    · cases event

/-- What storing an event leads to if nothing fails. -/
theorem storeEvent_of_executed (event : ProcessedEvent κ) (executed : input.insertion = .executed)
    (commits : input.commits = true) (unlinks : input.unlinks = true)
    (pushes : flusher.dislerEnabled = true →
      input.posted.isOk = true ∧ input.updates = true ∧ input.commitsUpdate = true) :
    let next := (storeEvent flusher state path event input).settle
    next.spans = state.spans ∧
      storedEvents next.events = storedEvents (insertEvent state.events event) ∧
      storedEvents next.committed.events = storedEvents next.events ∧
      next.spool = state.spool.erase path := by
  let inserted := { state with events := insertEvent state.events event }
  obtain ⟨spool, spans, events, committed⟩ :=
    pushToDisler_fields flusher inserted.commit input event rfl
  have quiet := @pushToDisler_quiet _ _ flusher inserted.commit input event pushes
  have stored : storeEvent flusher state path event input =
      ({ (pushToDisler flusher inserted.commit event input).1 with
        spool := (pushToDisler flusher inserted.commit event input).1.spool.erase path },
        none) := by
    simp only [storeEvent, executed, if_pos commits]
    show (pushToDisler flusher inserted.commit event input).andThen _ = _
    rw [Outcome.andThen, quiet]
    simp only [State.unlink, if_pos unlinks]
  rw [stored, Outcome.settle, if_neg (by simp)]
  exact ⟨spans, events, committed.trans events.symm, congrArg (AList.erase path) spool⟩

/-- What a file with an event leads to if nothing fails but its insertion. -/
theorem drainFile_event (event : flusher.eventOf text = some raw) (readable : input.readable = true)
    (notRaised : input.insertion ≠ .raised) (commits : input.commits = true)
    (unlinks : input.unlinks = true)
    (pushes : flusher.dislerEnabled = true →
      input.posted.isOk = true ∧ input.updates = true ∧ input.commitsUpdate = true)
    (traced : (traceIdOf state.ids (.of flusher.repr raw) input.traceId).2.isOk = true)
    (computed : (flusher.columns raw input.redaction).isOk = true) :
    let assigned := assignSpanForEvent state.spans (.of flusher.repr raw) input.spanId
    let next := (drainFile flusher state path text input).settle
    next.spans = assigned.1 ∧
      (input.insertion ≠ .executed →
        next.events = state.events ∧ next.committed = state.committed ∧
          next.spool = state.spool) ∧
      (input.insertion = .executed → ∃ traceId columns,
        storedEvents next.events = storedEvents (insertEvent state.events
          (flusher.processed raw traceId assigned.2 input.now columns)) ∧
        storedEvents next.committed.events = storedEvents next.events ∧
          next.spool = state.spool.erase path) := by
  obtain ⟨written, parsed⟩ := loads_of_eventOf event
  obtain ⟨traceId, found⟩ := Except.exists_of_isOk traced
  obtain ⟨columns, computed⟩ := Except.exists_of_isOk computed
  have drained : drainFile flusher state path text input =
      storeEvent flusher
        { state with
          ids := (traceIdOf state.ids (.of flusher.repr raw) input.traceId).1
          spans := (assignSpanForEvent state.spans (.of flusher.repr raw) input.spanId).1 }
        path (flusher.processed raw traceId
          (assignSpanForEvent state.spans (.of flusher.repr raw) input.spanId).2 input.now columns)
        input := by
    simp only [drainFile, if_pos readable, if_neg written, parsed, drainEvent, processEvent, found,
      computed]
  rw [drained]
  cases insertion : input.insertion with
  | raised => exact absurd insertion notRaised
  | sqliteError =>
      simp only [storeEvent, insertion, Outcome.settle]
      exact ⟨rfl, fun _ => ⟨rfl, rfl, rfl⟩, fun executed => by cases executed⟩
  | executed =>
      obtain ⟨spans, events, committed, spool⟩ :=
        storeEvent_of_executed _ insertion commits unlinks pushes
      exact ⟨spans, fun failed => absurd rfl failed,
        fun _ => ⟨traceId, columns, events, committed, spool⟩⟩

/-! ## Runs -/

/-- What a run has stored, and where its spans stand, follow from its attempts, and the files of
those that wait are in the spool. -/
structure Replays (flusher : Flusher ε κ) (attempts : List Attempt) (state : State κ) : Prop where
  spans : (replay attempts).context = state.spans
  rows : (replay attempts).rows = spanLinks (storedEvents state.events)
  committed : storedEvents state.committed.events = storedEvents state.events
  waits : ∀ path earlier, waiting attempts path = some earlier →
    ∃ text raw, state.spool.lookup path = some text ∧ flusher.eventOf text = some raw ∧
      earlier.identity = .of flusher.repr raw

variable {attempts : List Attempt}

/-- The attempts after another step. -/
theorem Flusher.attempts_concat (run : execute (step flusher) State.initial past = some state)
    (action : Action ε) :
    flusher.attempts (past ++ [action]) = flusher.attempts past ++ flusher.attemptOf state action :=
  emitted_concat _ _ run

/-- A step that takes up no event, as long as the files that wait stay. -/
theorem Replays.idle (replays : Replays flusher attempts state)
    (spans : next.spans = state.spans) (events : next.events = state.events)
    (committed : next.committed = state.committed)
    (spool : ∀ path text raw, state.spool.lookup path = some text →
      flusher.eventOf text = some raw → next.spool.lookup path = some text) :
    Replays flusher attempts next where
  spans := replays.spans.trans spans.symm
  rows := by rw [replays.rows, events]
  committed := by rw [committed, replays.committed, events]
  waits path earlier waiting := by
    obtain ⟨text, raw, held, event, same⟩ := replays.waits path earlier waiting
    exact ⟨text, raw, spool path text raw held event, event, same⟩

/-- An event is given a span, and is stored unless its insertion fails. -/
theorem Replays.event (replays : Replays flusher attempts state)
    (held : state.spool.lookup path = some text) (event : flusher.eventOf text = some raw)
    (notRaised : input.insertion ≠ .raised) {top : Option String}
    (spans : next.spans =
      (assignSpanForEvent state.spans (.of flusher.repr raw) input.spanId).1)
    (failed : input.insertion ≠ .executed →
      next.events = state.events ∧ next.committed = state.committed ∧ next.spool = state.spool)
    (executed : input.insertion = .executed → ∃ traceId columns,
      storedEvents next.events = storedEvents (insertEvent state.events
        (flusher.processed raw traceId
          (assignSpanForEvent state.spans (.of flusher.repr raw) input.spanId).2 input.now
          columns)) ∧
      storedEvents next.committed.events = storedEvents next.events ∧
        next.spool = state.spool.erase path) :
    Replays flusher
      (attempts ++ [⟨path, .of flusher.repr raw, input.spanId, top, input.insertion = .executed⟩])
      next := by
  have others {spool : Table SpoolPath String} {insertion : Bool}
      (kept : ∀ other, other ≠ path → spool.lookup other = state.spool.lookup other)
      (again : insertion = false → spool.lookup path = some text) (other : SpoolPath)
      (earlier : Attempt)
      (waits : waiting
        (attempts ++ [⟨path, .of flusher.repr raw, input.spanId, top, insertion⟩]) other =
          some earlier) :
      ∃ text raw, spool.lookup other = some text ∧ flusher.eventOf text = some raw ∧
        earlier.identity = .of flusher.repr raw := by
    rw [waiting_concat] at waits
    by_cases here : path = other
    · subst here
      rw [if_pos rfl] at waits
      obtain ⟨same, unstored⟩ := Option.filter_eq_some_iff.mp waits
      cases same
      exact ⟨text, raw, again (by simpa using unstored), event, rfl⟩
    · rw [if_neg here] at waits
      rw [kept other fun same => here same.symm]
      exact replays.waits other earlier waits
  cases insertion : input.insertion with
  | raised => exact absurd insertion notRaised
  | sqliteError =>
      obtain ⟨events, committed, spool⟩ := failed (by rw [insertion]; simp)
      refine ⟨?_, ?_, ?_, ?_⟩
      · rw [replay_concat, spans, ← replays.spans]
        rfl
      · rw [replay_concat, events, ← replays.rows]
        simp [Ledger.take]
      · rw [committed, events, replays.committed]
      · rw [spool]
        exact others (fun _ _ => rfl) fun _ => held
  | executed =>
      obtain ⟨traceId, columns, events, committed, spool⟩ := executed insertion
      refine ⟨?_, ?_, committed, ?_⟩
      · rw [replay_concat, spans, ← replays.spans]
        rfl
      · rw [replay_concat, events, spanLinks_insertEvent, ← replays.rows, ← replays.spans]
        simp only [Ledger.take, decide_true, true_and]
        rfl
      · rw [spool]
        exact others (fun other apart => AList.lookup_erase_ne apart) fun unstored => by
          cases unstored

/-- A step takes up an event, or none. -/
theorem Flusher.attemptOf_cases (flusher : Flusher ε κ) (state : State κ) (action : Action ε) :
    flusher.attemptOf state action = [] ∨
      ∃ input path rest text raw, action = .drain input ∧ state.pass = path :: rest ∧
        state.spool.lookup path = some text ∧ flusher.eventOf text = some raw ∧
        flusher.attemptOf state action = [⟨path, .of flusher.repr raw, input.spanId,
          state.spans.top (EventIdentity.of flusher.repr raw).sessionId,
          input.insertion = .executed⟩] := by
  cases action with
  | drain input =>
      cases pass : state.pass with
      | nil => exact Or.inl (by rw [attemptOf, pass])
      | cons path rest =>
          cases event : (state.spool.lookup path).bind flusher.eventOf with
          | none => exact Or.inl (by simp only [attemptOf, pass, event])
          | some raw =>
              obtain ⟨text, held, read⟩ := Option.bind_eq_some_iff.mp event
              exact Or.inr ⟨input, path, rest, text, raw, rfl, rfl, held, read, by
                simp only [attemptOf, pass, event]⟩
  | spool path text => exact Or.inl rfl
  | list order => exact Or.inl rfl
  | restart => exact Or.inl rfl

/-- Every step in which nothing fails but an insertion is an attempt, or leaves all as it is. -/
theorem Replays.step (replays : Replays flusher (flusher.attempts past) state)
    (run : execute (Telemetry.step flusher) State.initial past = some state)
    (only : OnlyInsertFails flusher past state action)
    (taken : Telemetry.step flusher state action = some next) :
    Replays flusher (flusher.attempts (past ++ [action])) next := by
  rw [Flusher.attempts_concat run]
  unfold Telemetry.step at taken
  cases action with
  | spool path text =>
      simp only [Option.ite_none_left_eq_some, Option.some.injEq] at taken
      obtain ⟨absent, rfl⟩ := taken
      rw [Flusher.attemptOf, List.append_nil]
      refine replays.idle rfl rfl rfl fun other written raw held _ => ?_
      have apart : other ≠ path := by
        rintro rfl
        exact absent (AList.lookup_isSome.mp (by rw [held]; rfl))
      rw [AList.lookup_insert_ne apart]
      exact held
  | list order =>
      simp only [Option.ite_none_right_eq_some, Option.some.injEq] at taken
      obtain ⟨_, rfl⟩ := taken
      rw [Flusher.attemptOf, List.append_nil]
      exact replays.idle rfl rfl rfl fun _ _ _ held _ => held
  | restart => exact False.elim only
  | drain input =>
      obtain ⟨readable, notRaised, commits, unlinks, pushes, processes⟩ := only
      cases pass : state.pass with
      | nil =>
          rw [pass] at taken
          cases taken
      | cons path rest =>
          simp only [pass] at taken
          cases held : state.spool.lookup path with
          | none =>
              rw [held] at taken
              cases taken
              simp only [Flusher.attemptOf, pass, held, Option.bind_none, List.append_nil]
              exact replays.idle rfl rfl rfl fun _ _ _ held _ => held
          | some text =>
              rw [held] at taken
              cases taken
              cases event : flusher.eventOf text with
              | none =>
                  simp only [Flusher.attemptOf, pass, held, Option.bind_some, event,
                    List.append_nil]
                  cases drainFile_drained flusher { state with pass := rest } path text input with
                  | untouched events committed spans spool =>
                      refine replays.idle spans events committed ?_
                      intro other written raw found read
                      rcases spool with same | ⟨_, erased⟩
                      · rw [same]
                        exact found
                      · have apart : other ≠ path := by
                          rintro rfl
                          cases held.symm.trans found
                          rw [event] at read
                          cases read
                        rw [erased, AList.lookup_erase_ne apart]
                        exact found
                  | unstored raw _ read => cases event.symm.trans read
                  | stored raw _ _ read => cases event.symm.trans read
              | some raw =>
                  obtain ⟨traced, computed⟩ :=
                    processes path (by rw [pass]; rfl) text held raw event
                  simp only [Flusher.attemptOf, pass, held, Option.bind_some, event]
                  obtain ⟨spans, failed, executed⟩ := @drainFile_event _ _ flusher
                    { state with pass := rest } path text raw input event readable notRaised commits
                    unlinks pushes traced computed
                  exact replays.event held event notRaised spans failed executed

theorem Replays.initial : Replays flusher [] State.initial :=
  ⟨rfl, rfl, rfl, fun path earlier waits => by cases waits⟩

theorem Replays.of_run
    (only : Meets (Telemetry.step flusher) (OnlyInsertFails flusher) [] State.initial actions)
    (run : execute (Telemetry.step flusher) State.initial actions = some final) :
    Replays flusher (flusher.attempts actions) final := by
  refine execute_induction
    (motive := fun past state => Replays flusher (flusher.attempts past) state) .initial ?_ only run
  intro past before action after reached replays only taken
  exact replays.step reached only taken

/-- A run in which failures do no harm makes attempts that do no harm. -/
theorem sound_of_run
    (only : Meets (step flusher) (OnlyInsertFails flusher) [] State.initial actions)
    (harmless : Meets (step flusher) (HarmlessFailure flusher) [] State.initial actions)
    (distinct : ((flusher.attempts actions).map Attempt.drawn).Nodup)
    (run : execute (step flusher) State.initial actions = some final) :
    Sound (flusher.attempts actions) := by
  have both := only.and harmless
  refine (execute_induction (motive := fun past state =>
    Replays flusher (flusher.attempts past) state ∧
      (((flusher.attempts past).map Attempt.drawn).Nodup → Sound (flusher.attempts past)))
    ⟨.initial, fun _ => .nil⟩ ?_ both run).2 distinct
  rintro past before action after reached ⟨replays, sound⟩ ⟨only, harmless⟩ taken
  refine ⟨replays.step reached only taken, fun distinct => ?_⟩
  rw [Flusher.attempts_concat reached] at distinct ⊢
  rcases flusher.attemptOf_cases before action with none | ⟨input, path, rest, text, raw, rfl, pass,
    held, event, attempt⟩
  · rw [none, List.append_nil] at distinct ⊢
    exact sound distinct
  · have mine := harmless _ (by rw [attempt]; exact List.mem_singleton_self _)
    rw [attempt] at distinct ⊢
    rw [List.map_append] at distinct
    refine .concat (sound (List.nodup_append.mp distinct).1) ?_ ?_ ?_ ?_
    · rw [replays.spans]
    · intro earlier waits
      obtain ⟨written, read, found, parsed, same⟩ := replays.waits path earlier waits
      cases held.symm.trans found
      cases event.symm.trans parsed
      exact same
    · intro drawn
      exact (List.nodup_append.mp distinct).2.2 _ drawn _ (by simp) rfl
    · rw [replays.spans]
      exact mine

/-! ## Runs beside runs without failures -/

/-- Two runs in which nothing fails but insertions, and in the second not even those. The events of
the first come in the order of the second, those that come again left out. -/
structure Compared (flusher : Flusher ε κ) (actions calm : List (Action ε))
    (final calmFinal : State κ) : Prop where
  run : execute (step flusher) State.initial actions = some final
  calmRun : execute (step flusher) State.initial calm = some calmFinal
  only : Meets (step flusher) (OnlyInsertFails flusher) [] State.initial actions
  calmOnly : Meets (step flusher) (OnlyInsertFails flusher) [] State.initial calm
  executed : ∀ attempt ∈ flusher.attempts calm, attempt.executed = true
  events : (firstAttempts (flusher.attempts actions)).map Attempt.identity =
    (flusher.attempts calm).map Attempt.identity
  drawn : ((flusher.attempts actions).map Attempt.drawn).Nodup
  calmDrawn : ((flusher.attempts calm).map Attempt.drawn).Nodup

/-- The rows of the first state have the spans and parents that the rows of the second have, up to
the names of the spans, and are as many when no event is left in the spool. -/
def SpansAgree (flusher : Flusher ε κ) (final calmFinal : State κ) : Prop :=
  ∃ ρ : Equiv.Perm String,
    (∀ key link, (spanLinks (storedEvents final.committed.events)).lookup key = some link →
      (spanLinks (storedEvents calmFinal.committed.events)).lookup key = some (link.rename ρ)) ∧
    ((∀ path text, final.spool.lookup path = some text → flusher.eventOf text = none) → ∀ key,
      (spanLinks (storedEvents calmFinal.committed.events)).lookup key =
        ((spanLinks (storedEvents final.committed.events)).lookup key).map (SpanLink.rename ρ))

/-- **Insertions that are retried.** In every run whose failures do no harm, the rows have the spans
and parents that they have when no insertion fails, up to the names of the spans. -/
theorem spansAgree_of_harmless {calm : List (Action ε)} {calmFinal : State κ}
    (compared : Compared flusher actions calm final calmFinal)
    (harmless : Meets (step flusher) (HarmlessFailure flusher) [] State.initial actions) :
    SpansAgree flusher final calmFinal := by
  have replays := Replays.of_run compared.only compared.run
  have calmReplays := Replays.of_run compared.calmOnly compared.calmRun
  have sound := sound_of_run compared.only harmless compared.drawn compared.run
  obtain ⟨ρ, stored, settled⟩ :=
    sound.exists_rename compared.events compared.executed compared.calmDrawn
  rw [replays.rows, calmReplays.rows, ← replays.committed, ← calmReplays.committed]
    at stored settled
  refine ⟨ρ, stored, fun left => settled fun path => ?_⟩
  cases waits : waiting (flusher.attempts actions) path with
  | none => rfl
  | some earlier =>
      obtain ⟨text, raw, held, event, -⟩ := replays.waits path earlier waits
      rw [left path text held] at event
      cases event

/-! ## Retried samples -/

instance (context : SpanContext) (identity : EventIdentity) : Decidable (context.Quiet identity) :=
  match event : identity.spanEvent with
  | .finishCall toolUseId =>
      decidable_of_iff (context.spanIdByToolUseId.lookup toolUseId = none ∧
        context.stack identity.sessionId = []) (by rw [SpanContext.Quiet, event])
  | .stopSubagent =>
      decidable_of_iff (context.stack identity.sessionId = []) (by rw [SpanContext.Quiet, event])
  | .standalone => .isTrue (by rw [SpanContext.Quiet, event]; trivial)
  | .startCall _ | .startSubagent | .startSession =>
      .isFalse (by rw [SpanContext.Quiet, event]; exact id)

instance (past : List Attempt) (context : SpanContext) (attempt : Attempt) :
    Decidable (Harmless past context attempt) :=
  decidable_of_iff ((attempt.executed = false → context.Quiet attempt.identity) ∧
      (attempt.executed = true → ∀ earlier ∈ past, earlier.executed = false →
        earlier.key = attempt.key → context.Quiet attempt.identity ∧ attempt.top = earlier.top))
    ⟨fun both => ⟨both.1, both.2⟩, fun harmless => ⟨harmless.failed, harmless.again⟩⟩

instance (flusher : Flusher ε κ) (past : List (Action ε)) (state : State κ) :
    DecidablePred (HarmlessFailure flusher past state) :=
  fun action => inferInstanceAs (Decidable (∀ attempt ∈ flusher.attemptOf state action, _))

instance (flusher : Flusher ε κ) (past : List (Action ε)) (state : State κ) :
    DecidablePred (OnlyInsertFails flusher past state)
  | .drain _ => inferInstanceAs (Decidable (_ ∧ _ ∧ _ ∧ _ ∧ (_ → _) ∧ (∀ path ∈ state.pass.head?,
      ∀ text ∈ state.spool.lookup path, ∀ raw ∈ flusher.eventOf text, _)))
  | .spool _ _ | .list _ => .isTrue trivial
  | .restart => .isFalse id

/-- The sample events are spooled and drained, and those whose insertion fails are drained again. -/
def retriedRun (samples failing : List (List (String × String))) : List (Action Unit) :=
  (samples.map fun fields => .spool (samplePath fields) (sampleText fields)) ++
    .list (samples.map samplePath) ::
      (samples.map fun fields => .drain
        { reliableInput (samplePath fields).name with
          insertion := if fields ∈ failing then .sqliteError else .executed }) ++
    .list (failing.map samplePath) ::
      failing.map fun fields => .drain (reliableInput ("again/" ++ (samplePath fields).name))

/-- A prompt in a session. -/
def promptedSession : List (List (String × String)) :=
  [toolEvent "SessionStart" "" "1", toolEvent "UserPromptSubmit" "" "2", toolEvent "Stop" "" "3"]

/-- The prompt is not stored at first. -/
theorem spansAgree_promptedSession :
    ∃ final calmFinal,
      execute (step (sampleFlusher promptedSession)) State.initial
          (retriedRun promptedSession [toolEvent "UserPromptSubmit" "" "2"]) = some final ∧
        execute (step (sampleFlusher promptedSession)) State.initial (sampleRun promptedSession) =
          some calmFinal ∧
        SpansAgree (sampleFlusher promptedSession) final calmFinal := by
  let flusher := sampleFlusher promptedSession
  let actions := retriedRun promptedSession [toolEvent "UserPromptSubmit" "" "2"]
  let calm := sampleRun promptedSession
  have runs : (execute (step flusher) State.initial actions).isSome = true ∧
      (execute (step flusher) State.initial calm).isSome = true ∧
      Meets (step flusher) (OnlyInsertFails flusher) [] State.initial actions ∧
      Meets (step flusher) (OnlyInsertFails flusher) [] State.initial calm ∧
      (∀ attempt ∈ flusher.attempts calm, attempt.executed = true) ∧
      (firstAttempts (flusher.attempts actions)).map Attempt.identity =
        (flusher.attempts calm).map Attempt.identity ∧
      ((flusher.attempts actions).map Attempt.drawn).Nodup ∧
      ((flusher.attempts calm).map Attempt.drawn).Nodup ∧
      Meets (step flusher) (HarmlessFailure flusher) [] State.initial actions := by
    decide +kernel
  obtain ⟨ran, calmRan, only, calmOnly, executed, events, drawn, calmDrawn, harmless⟩ := runs
  obtain ⟨final, run⟩ := Option.isSome_iff_exists.mp ran
  obtain ⟨calmFinal, calmRun⟩ := Option.isSome_iff_exists.mp calmRan
  exact ⟨final, calmFinal, run, calmRun, spansAgree_of_harmless
    ⟨run, calmRun, only, calmOnly, executed, events, drawn, calmDrawn⟩ harmless⟩

/-- A call in a session. -/
def callingSession : List (List (String × String)) :=
  [toolEvent "SessionStart" "" "1", toolEvent "PreToolUse" "a" "2"]

/-- The call is not stored at first. When it is, it hangs under the span that it was given before,
which no row has. -/
theorem retried_call_orphaned :
    ¬ ∀ (actions calm : List (Action Unit)) (final calmFinal : State (Option String)),
      Compared (sampleFlusher callingSession) actions calm final calmFinal →
        SpansAgree (sampleFlusher callingSession) final calmFinal := by
  intro always
  let flusher := sampleFlusher callingSession
  let actions := retriedRun callingSession [toolEvent "PreToolUse" "a" "2"]
  let calm := sampleRun callingSession
  have runs :
      (execute (step flusher) State.initial actions).map
          (fun final => spanLinks (storedEvents final.committed.events)) =
        some [("s1||SessionStart", ⟨"1.json", none⟩),
          ("s1|a|PreToolUse", ⟨"again/2.json", some "2.json"⟩)] ∧
      (execute (step flusher) State.initial calm).map
          (fun final => spanLinks (storedEvents final.committed.events)) =
        some [("s1||SessionStart", ⟨"1.json", none⟩),
          ("s1|a|PreToolUse", ⟨"2.json", some "1.json"⟩)] ∧
      Meets (step flusher) (OnlyInsertFails flusher) [] State.initial actions ∧
      Meets (step flusher) (OnlyInsertFails flusher) [] State.initial calm ∧
      (∀ attempt ∈ flusher.attempts calm, attempt.executed = true) ∧
      (firstAttempts (flusher.attempts actions)).map Attempt.identity =
        (flusher.attempts calm).map Attempt.identity ∧
      ((flusher.attempts actions).map Attempt.drawn).Nodup ∧
      ((flusher.attempts calm).map Attempt.drawn).Nodup := by
    decide +kernel
  obtain ⟨ran, calmRan, only, calmOnly, executed, events, drawn, calmDrawn⟩ := runs
  obtain ⟨final, run, links⟩ := Option.map_eq_some_iff.mp ran
  obtain ⟨calmFinal, calmRun, calmLinks⟩ := Option.map_eq_some_iff.mp calmRan
  have compared : Compared flusher actions calm final calmFinal :=
    ⟨run, calmRun, only, calmOnly, executed, events, drawn, calmDrawn⟩
  obtain ⟨ρ, agree, -⟩ := always _ _ final calmFinal compared
  have started := agree "s1||SessionStart" ⟨"1.json", none⟩ (by rw [links]; rfl)
  have called := agree "s1|a|PreToolUse" ⟨"again/2.json", some "2.json"⟩ (by rw [links]; rfl)
  rw [calmLinks] at started called
  have root : "1.json" = ρ "1.json" :=
    congrArg SpanLink.spanId (Option.some.inj (show some _ = some _ from started))
  have parent : some "1.json" = some (ρ "2.json") :=
    congrArg SpanLink.parentSpanId (Option.some.inj (show some _ = some _ from called))
  -- one span would stand for two
  have same := ρ.injective (root.symm.trans (Option.some.inj parent))
  revert same
  decide

end Panakoes.Telemetry
