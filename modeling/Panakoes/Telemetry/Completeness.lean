import Panakoes.Telemetry.Flusher

/-! # Telemetry completeness

Whether the flusher stores one row for each spooled event. A file is removed
only when a row with the `dedup_key` of its event is committed, so everything
hinges on which events share a key. The key joins the session, the tool call and
the hook name; time stamps and contents have no part in it, and events without a
tool call have an empty one.
-/

namespace Panakoes.Telemetry

open Transition

variable {ε κ : Type*} {flusher : Flusher ε κ} {state next final : State κ}
  {actions past : List (Action ε)} {text : String}

/-! ## Which events share a key -/

/-- The tool call and the hook name of two events agree. -/
def EventIdentity.SameFields (first second : EventIdentity) : Prop :=
  first.toolUseId.getD "" = second.toolUseId.getD "" ∧
    first.hookEventName = second.hookEventName

/-- What separates the two fields of one event lies inside a field of the other. -/
def EventIdentity.Shifted (first second : EventIdentity) : Prop :=
  ∃ middle, second.toolUseId.getD "" = first.toolUseId.getD "" ++ "|" ++ middle ∧
    first.hookEventName = middle ++ "|" ++ second.hookEventName

/-- Two events of a session look the same to the flusher. -/
def EventIdentity.Alike (first second : EventIdentity) : Prop :=
  first.SameFields second ∨ first.Shifted second ∨ second.Shifted first

/-- When two texts with a separator are the same. -/
theorem separated_eq_iff {α : Type*} {separator : α} {left right left' right' : List α} :
    left ++ separator :: right = left' ++ separator :: right' ↔
      (left = left' ∧ right = right') ∨
        (∃ middle, left' = left ++ separator :: middle ∧
          right = middle ++ separator :: right') ∨
        ∃ middle, left = left' ++ separator :: middle ∧
          right' = middle ++ separator :: right := by
  rw [List.append_eq_append_iff]
  constructor
  · rintro (⟨rest, longer, same⟩ | ⟨rest, longer, same⟩)
    · cases rest with
      | nil => simp_all
      | cons first rest =>
          obtain ⟨rfl, rfl⟩ := List.cons.inj same
          exact Or.inr (Or.inl ⟨rest, longer, rfl⟩)
    · cases rest with
      | nil => simp_all
      | cons first rest =>
          obtain ⟨rfl, rfl⟩ := List.cons.inj same
          exact Or.inr (Or.inr ⟨rest, longer, rfl⟩)
  · rintro (⟨rfl, rfl⟩ | ⟨middle, rfl, rfl⟩ | ⟨middle, rfl, rfl⟩)
    · exact Or.inl ⟨[], by simp, by simp⟩
    · exact Or.inl ⟨separator :: middle, rfl, rfl⟩
    · exact Or.inr ⟨separator :: middle, rfl, rfl⟩

/-- The keys of two events of a session agree just when the events look alike. -/
theorem EventIdentity.dedupKey_eq_iff {first second : EventIdentity}
    (session : first.sessionId = second.sessionId) :
    first.dedupKey = second.dedupKey ↔ first.Alike second := by
  have bar : "|".toList = ['|'] := rfl
  have exists_iff : ∀ predicate : List Char → Prop,
      (∃ middle : String, predicate middle.toList) ↔ ∃ middle, predicate middle :=
    fun predicate => ⟨fun held => ⟨_, held.choose_spec⟩, fun held =>
      ⟨String.ofList held.choose, by rw [String.toList_ofList]; exact held.choose_spec⟩⟩
  simp only [dedupKey, Alike, SameFields, Shifted, session, ← String.toList_inj,
    String.toList_append, List.append_assoc, List.append_cancel_left_eq, bar,
    List.singleton_append, List.cons.injEq, true_and, separated_eq_iff]
  rw [← exists_iff, ← exists_iff]
  simp only [List.cons_append, List.cons.injEq, true_and]

/-- When no hook name has the separator in it, events look alike only if both
fields agree. -/
theorem EventIdentity.alike_iff {first second : EventIdentity}
    (clean : '|' ∉ first.hookEventName.toList) (clean' : '|' ∉ second.hookEventName.toList) :
    first.Alike second ↔ first.SameFields second := by
  have unshifted : ∀ {one other : EventIdentity}, '|' ∉ one.hookEventName.toList →
      ¬ one.Shifted other := by
    rintro one other clean ⟨middle, _, hook⟩
    apply clean
    rw [hook, String.toList_append, String.toList_append]
    exact List.mem_append_left _ (List.mem_append_right _ List.mem_cons_self)
  constructor
  · rintro (same | shifted | shifted)
    · exact same
    · exact absurd shifted (unshifted clean)
    · exact absurd shifted (unshifted clean')
  · exact Or.inl

/-! ## One row for each event -/

/-- The event that an action spools, if any. -/
def Action.event (flusher : Flusher ε κ) : Action ε → Option HookEvent
  | .spool _ text => flusher.eventOf text
  | .list _ | .drain _ | .restart => none

/-- The spooled hook events of a run. -/
def spooledEvents (flusher : Flusher ε κ) (actions : List (Action ε)) : List HookEvent :=
  actions.filterMap (Action.event flusher)

/-- What identifies an event. -/
abbrev Flusher.identityOf (flusher : Flusher ε κ) (event : HookEvent) : EventIdentity :=
  .of flusher.repr event

/-- The row stores the event. -/
structure IsRowOf (flusher : Flusher ε κ) (row : ProcessedEvent κ) (event : HookEvent) :
    Prop where
  identity : row.toEventIdentity = flusher.identityOf event
  timestamp : ∃ now,
    row.timestamp = str flusher.repr ((PyJson.get event "timestamp").orElse (.str now))
  columns : ∃ redaction, flusher.columns event redaction = .ok row.columns

/-- The rows store the events one by one. -/
structure OneRowPerEvent (flusher : Flusher ε κ) (rows : List (ProcessedEvent κ))
    (events : List HookEvent) : Prop where
  count : rows.length = events.length
  stored : ∀ event ∈ events, ∃ row ∈ rows, IsRowOf flusher row event

/-- Every spooled event is accounted for: its file is there, or a row with its
key is committed. -/
structure Accounted (flusher : Flusher ε κ) (past : List (Action ε)) (state : State κ) :
    Prop where
  rows : ∀ row ∈ storedEvents state.events,
    ∃ event ∈ spooledEvents flusher past, IsRowOf flusher row event
  keys : (rowKeys state.events).Nodup
  durable : storedEvents state.committed.events <+: storedEvents state.events
  files : ∀ path text event, state.spool.lookup path = some text →
    flusher.eventOf text = some event → event ∈ spooledEvents flusher past
  kept : ∀ event ∈ spooledEvents flusher past,
    (∃ path text, state.spool.lookup path = some text ∧ flusher.eventOf text = some event) ∨
      (flusher.identityOf event).dedupKey ∈ rowKeys state.committed.events

theorem spooledEvents_concat (flusher : Flusher ε κ) (past : List (Action ε))
    (action : Action ε) :
    spooledEvents flusher (past ++ [action]) =
      spooledEvents flusher past ++ (action.event flusher).toList := by
  rw [spooledEvents, List.filterMap_append, List.filterMap_cons]
  cases action.event flusher <;> rfl

/-- Nothing is spooled at first. -/
theorem Accounted.initial : Accounted flusher [] (State.initial : State κ) where
  rows := by rintro row ⟨⟩
  keys := List.nodup_nil
  durable := List.prefix_rfl
  files := by rintro path text event ⟨⟩
  kept := by rintro event ⟨⟩

/-- The accounting is about the spool and the table. -/
theorem Accounted.congr (accounted : Accounted flusher past state)
    (spool : next.spool = state.spool) (events : next.events = state.events)
    (committed : next.committed = state.committed) : Accounted flusher past next := by
  obtain ⟨rows, keys, durable, files, kept⟩ := accounted
  rw [← spool, ← committed] at kept
  rw [← spool] at files
  rw [← events] at rows keys durable
  rw [← committed] at durable
  exact ⟨rows, keys, durable, files, kept⟩

/-- A hook spools a file. -/
theorem Accounted.spool (accounted : Accounted flusher past state) {path : SpoolPath}
    (new : path ∉ state.spool) :
    Accounted flusher (past ++ [.spool path text])
      { state with spool := state.spool.insert path text } := by
  have concat := spooledEvents_concat flusher past (.spool path text)
  have grows : ∀ event ∈ spooledEvents flusher past,
      event ∈ spooledEvents flusher (past ++ [.spool path text]) := by
    intro event member
    rw [concat]
    exact List.mem_append_left _ member
  have held : ∀ event, event ∈ spooledEvents flusher (past ++ [.spool path text]) ↔
      event ∈ spooledEvents flusher past ∨ flusher.eventOf text = some event := by
    intro event
    rw [concat, List.mem_append, Option.mem_toList]
    rfl
  refine ⟨?_, accounted.keys, accounted.durable, ?_, ?_⟩
  · intro row member
    obtain ⟨event, known, isRow⟩ := accounted.rows row member
    exact ⟨event, grows event known, isRow⟩
  · intro path' text' event found parses
    rcases Table.lookup_insert_cases found with ⟨rfl, rfl⟩ | ⟨_, before⟩
    · exact (held event).mpr (Or.inr parses)
    · exact grows event (accounted.files path' text' event before parses)
  · intro event member
    rcases (held event).mp member with known | parses
    · rcases accounted.kept event known with ⟨path', text', found, parses⟩ | committed
      · have different : path' ≠ path := by
          rintro rfl
          exact new (AList.lookup_isSome.mp (by rw [found]; rfl))
        refine Or.inl ⟨path', text', ?_, parses⟩
        exact (AList.lookup_insert_ne different).trans found
      · exact Or.inr committed
    · exact Or.inl ⟨path, text, AList.lookup_insert _, parses⟩

/-- A restart falls back on what is committed. -/
theorem Accounted.restart (accounted : Accounted flusher past state) :
    Accounted flusher past state.restarted := by
  refine ⟨?_, ?_, List.prefix_rfl, accounted.files, accounted.kept⟩
  · intro row member
    exact accounted.rows row (accounted.durable.subset member)
  · have keys := accounted.keys
    rw [rowKeys_eq] at keys ⊢
    exact keys.sublist (accounted.durable.sublist.map _)

/-- Removing a file keeps the account when its event, if it holds one, is in the
committed table. -/
theorem Accounted.kept_of_erase {path : SpoolPath} {event : HookEvent}
    (kept : (∃ path' text', state.spool.lookup path' = some text' ∧
        flusher.eventOf text' = some event) ∨
      (flusher.identityOf event).dedupKey ∈ rowKeys state.committed.events)
    (found : state.spool.lookup path = some text)
    (grown : rowKeys state.committed.events ⊆ rowKeys next.committed.events)
    (stored : ∀ raw, flusher.eventOf text = some raw →
      (flusher.identityOf raw).dedupKey ∈ rowKeys next.committed.events)
    (erased : next.spool = state.spool.erase path) :
    (∃ path' text', next.spool.lookup path' = some text' ∧
        flusher.eventOf text' = some event) ∨
      (flusher.identityOf event).dedupKey ∈ rowKeys next.committed.events := by
  rcases kept with ⟨path', text', held, parses⟩ | committed
  · by_cases same : path' = path
    · subst same
      cases held.symm.trans found
      exact Or.inr (stored event parses)
    · refine Or.inl ⟨path', text', ?_, parses⟩
      rw [erased, AList.lookup_erase_ne same]
      exact held
  · exact Or.inr (grown committed)

/-- The keys of a table are among those of a longer one. -/
theorem rowKeys_subset {rows others : List (EventRow κ)}
    (grown : storedEvents rows <+: storedEvents others) : rowKeys rows ⊆ rowKeys others := by
  rw [rowKeys_eq, rowKeys_eq]
  exact List.map_subset _ grown.subset

/-- A pass drains a file. -/
theorem Accounted.drained (accounted : Accounted flusher past state) {path : SpoolPath}
    {input : DrainInput ε} (found : state.spool.lookup path = some text)
    (drained : Drained flusher state path text input next) : Accounted flusher past next := by
  have files_of_erase : next.spool = state.spool.erase path →
      ∀ path text event, next.spool.lookup path = some text →
        flusher.eventOf text = some event → event ∈ spooledEvents flusher past := by
    intro erased path' text' event held parses
    rw [erased] at held
    refine accounted.files path' text' event ?_ parses
    by_cases same : path' = path
    · subst same
      rw [AList.lookup_erase] at held
      cases held
    · rw [AList.lookup_erase_ne same] at held
      exact held
  cases drained with
  | untouched events committed spans spool =>
      rcases spool with kept | ⟨none, erased⟩
      · exact accounted.congr kept events committed
      · refine ⟨events ▸ accounted.rows, events ▸ accounted.keys,
          events ▸ committed ▸ accounted.durable, files_of_erase erased, ?_⟩
        intro event member
        refine Accounted.kept_of_erase (accounted.kept event member) found ?_ ?_ erased
        · rw [committed]
          exact List.Subset.refl _
        · intro raw parses
          cases none.symm.trans parses
  | unstored raw traceId event traced failed events committed spans spool =>
      exact accounted.congr spool events committed
  | stored raw traceId columns event traced computed spans events spool =>
      generalize (assignSpanForEvent state.spans (.of flusher.repr raw) input.spanId).2 = link
        at events
      have known := accounted.files path text raw found event
      have grown : storedEvents state.events <+: storedEvents next.events := by
        rw [events]
        exact storedEvents_prefix_insertEvent _ _
      have keyed : (flusher.identityOf raw).dedupKey ∈ rowKeys next.events := by
        rw [rowKeys_congr events]
        exact mem_rowKeys_insertEvent _ (flusher.processed raw traceId link input.now columns)
      have rows : ∀ row ∈ storedEvents next.events,
          ∃ event ∈ spooledEvents flusher past, IsRowOf flusher row event := by
        intro row member
        rw [events] at member
        rcases mem_storedEvents_insertEvent member with rfl | before
        · exact ⟨raw, known, rfl, ⟨input.now, rfl⟩, input.redaction, computed⟩
        · exact accounted.rows row before
      have keys : (rowKeys next.events).Nodup := by
        rw [rowKeys_congr events]
        exact nodup_rowKeys_insertEvent _ accounted.keys
      rcases spool with ⟨kept, same | committed⟩ | ⟨erased, committed⟩
      · refine ⟨rows, keys, same ▸ accounted.durable.trans grown, ?_, ?_⟩
        · rw [kept]
          exact accounted.files
        · rw [kept, same]
          exact accounted.kept
      · refine ⟨rows, keys, committed ▸ List.prefix_rfl, ?_, ?_⟩
        · rw [kept]
          exact accounted.files
        · intro other member
          rw [kept]
          refine (accounted.kept other member).imp_right fun held => ?_
          rw [rowKeys_congr committed]
          exact rowKeys_subset (accounted.durable.trans grown) held
      · refine ⟨rows, keys, committed ▸ List.prefix_rfl, files_of_erase erased, ?_⟩
        intro other member
        refine Accounted.kept_of_erase (accounted.kept other member) found ?_ ?_ erased
        · rw [rowKeys_congr committed]
          exact rowKeys_subset (accounted.durable.trans grown)
        · intro raw' parses
          cases event.symm.trans parses
          rw [rowKeys_congr committed]
          exact keyed

/-- Every step keeps the account. -/
theorem Accounted.step {action : Action ε} (accounted : Accounted flusher past state)
    (taken : Telemetry.step flusher state action = some next) :
    Accounted flusher (past ++ [action]) next := by
  have unspooled : action.event flusher = none → ∀ {after : State κ},
      Accounted flusher past after → Accounted flusher (past ++ [action]) after := by
    intro none after kept
    have same : spooledEvents flusher (past ++ [action]) = spooledEvents flusher past := by
      rw [spooledEvents_concat, none, Option.toList_none, List.append_nil]
    obtain ⟨rows, keys, durable, files, kept⟩ := kept
    rw [← same] at rows files kept
    exact ⟨rows, keys, durable, files, kept⟩
  unfold Telemetry.step at taken
  cases action with
  | spool path text =>
      simp only [Option.ite_none_left_eq_some, Option.some.injEq] at taken
      obtain ⟨new, rfl⟩ := taken
      exact accounted.spool new
  | list order =>
      simp only [Option.ite_none_right_eq_some, Option.some.injEq] at taken
      obtain ⟨_, rfl⟩ := taken
      exact unspooled rfl (accounted.congr rfl rfl rfl)
  | drain input =>
      refine unspooled rfl ?_
      cases pass : state.pass with
      | nil =>
          rw [pass] at taken
          cases taken
      | cons path rest =>
          simp only [pass] at taken
          cases found : state.spool.lookup path with
          | none =>
              rw [found] at taken
              cases taken
              exact accounted.congr rfl rfl rfl
          | some text =>
              rw [found] at taken
              cases taken
              have idle : Accounted flusher past { state with pass := rest } :=
                accounted.congr rfl rfl rfl
              exact idle.drained found (drainFile_drained _ _ _ _ _)
  | restart =>
      cases taken
      exact unspooled rfl accounted.restart

/-- Every run keeps the account. -/
theorem Accounted.of_run
    (run : execute (Telemetry.step flusher) State.initial actions = some final) :
    Accounted flusher actions final := by
  have meets : Meets (Telemetry.step flusher) (fun _ _ _ => True) [] State.initial actions :=
    Meets.trivial
  exact execute_induction .initial (fun _ _ _ _ _ kept _ taken => kept.step taken) meets run

/-- Rows with unique keys, each of one of the events, and a row with the key of
each event: they store the events one by one just when the events' keys differ. -/
theorem oneRowPerEvent_iff_nodup {rows : List (ProcessedEvent κ)} {events : List HookEvent}
    (unique : (rows.map (·.dedupKey)).Nodup)
    (ofEvents : ∀ row ∈ rows, ∃ event ∈ events, IsRowOf flusher row event)
    (keyed : ∀ event ∈ events,
      (flusher.identityOf event).dedupKey ∈ rows.map (·.dedupKey)) :
    OneRowPerEvent flusher rows events ↔
      (events.map fun event => (flusher.identityOf event).dedupKey).Nodup := by
  have rows_sub : rows.map (·.dedupKey) ⊆
      events.map fun event => (flusher.identityOf event).dedupKey := by
    intro key member
    obtain ⟨row, held, rfl⟩ := List.mem_map.mp member
    obtain ⟨event, known, isRow⟩ := ofEvents row held
    exact List.mem_map.mpr ⟨event, known, by rw [isRow.identity]⟩
  have events_sub : (events.map fun event => (flusher.identityOf event).dedupKey) ⊆
      rows.map (·.dedupKey) := by
    intro key member
    obtain ⟨event, held, rfl⟩ := List.mem_map.mp member
    exact keyed event held
  constructor
  · intro oneRow
    have perm : (rows.map (·.dedupKey)).Perm
        (events.map fun event => (flusher.identityOf event).dedupKey) := by
      apply (List.subperm_of_subset unique rows_sub).perm_of_length_le
      rw [List.length_map, List.length_map, oneRow.count]
    exact perm.nodup_iff.mp unique
  · intro distinct
    have perm := (List.perm_ext_iff_of_nodup unique distinct).mpr
      fun key => ⟨fun held => rows_sub held, fun held => events_sub held⟩
    refine ⟨by simpa using perm.length_eq, fun event member => ?_⟩
    obtain ⟨row, held, key⟩ := List.mem_map.mp (keyed event member)
    obtain ⟨other, known, isRow⟩ := ofEvents row held
    have same : other = event :=
      List.inj_on_of_nodup_map distinct known member (by rw [← isRow.identity]; exact key)
    exact ⟨row, held, same ▸ isRow⟩

/-- **Completeness.** When the spool is drained, the table holds one row for each
event of the session just when no two of its events look alike. -/
theorem one_row_per_event_iff (sessionId : String)
    (run : execute (Telemetry.step flusher) State.initial actions = some final)
    (session : ∀ event ∈ spooledEvents flusher actions,
      (flusher.identityOf event).sessionId = sessionId)
    (drained : final.spool.keys = []) :
    OneRowPerEvent flusher (storedEvents final.committed.events)
        (spooledEvents flusher actions) ↔
      (spooledEvents flusher actions).Pairwise fun first second =>
        ¬ (flusher.identityOf first).Alike (flusher.identityOf second) := by
  have accounted := Accounted.of_run run
  have keyed : ∀ event ∈ spooledEvents flusher actions, (flusher.identityOf event).dedupKey ∈
      (storedEvents final.committed.events).map (·.dedupKey) := by
    intro event member
    rcases accounted.kept event member with ⟨path, text, found, _⟩ | committed
    · have held : path ∈ final.spool.keys :=
        AList.mem_keys.mp (AList.lookup_isSome.mp (by rw [found]; rfl))
      rw [drained] at held
      cases held
    · rwa [rowKeys_eq] at committed
  have unique : ((storedEvents final.committed.events).map (·.dedupKey)).Nodup := by
    have keys := accounted.keys
    rw [rowKeys_eq] at keys
    exact keys.sublist (accounted.durable.sublist.map _)
  rw [oneRowPerEvent_iff_nodup unique
    (fun row held => accounted.rows row (accounted.durable.subset held)) keyed,
    List.Nodup, List.pairwise_map]
  refine List.Pairwise.iff_of_mem fun known known' => ?_
  rw [← EventIdentity.dedupKey_eq_iff ((session _ known).trans (session _ known').symm)]

theorem spooledEvents_sampleRun {samples : List (List (String × String))}
    (readable : Readable samples) :
    spooledEvents (sampleFlusher samples) (sampleRun samples) = samples.map sampleEvent := by
  have spooled : (samples.map fun fields =>
      (.spool (samplePath fields) (sampleText fields) : Action Unit)).filterMap
        (Action.event (sampleFlusher samples)) = samples.map sampleEvent := by
    rw [List.filterMap_map, ← List.filterMap_eq_map]
    refine List.filterMap_congr fun fields held => ?_
    simp only [Function.comp_apply, Action.event]
    exact readable.eventOf held
  have drained : (.list (samples.map samplePath) ::
      samples.map fun fields => (.drain (reliableInput (samplePath fields).name) : Action Unit)
        ).filterMap (Action.event (sampleFlusher samples)) = [] := by
    refine List.filterMap_eq_nil_iff.mpr fun action member => ?_
    rcases List.mem_cons.mp member with rfl | member
    · rfl
    · obtain ⟨_, _, rfl⟩ := List.mem_map.mp member
      rfl
  rw [spooledEvents, sampleRun, List.filterMap_append, spooled, drained, List.append_nil]

/-- A tool call that is started and finished. -/
def callEvents : List (List (String × String)) :=
  [[("session_id", "s1"), ("hook_event_name", "PreToolUse"), ("tool_use_id", "t1"),
      ("timestamp", "1")],
    [("session_id", "s1"), ("hook_event_name", "PostToolUse"), ("tool_use_id", "t1"),
      ("timestamp", "2")]]

/-- The two events of a call are both stored. -/
theorem one_row_per_event_call :
    ∃ final, execute (step (sampleFlusher callEvents)) State.initial (sampleRun callEvents) =
        some final ∧
      OneRowPerEvent (sampleFlusher callEvents) (storedEvents final.committed.events)
        (spooledEvents (sampleFlusher callEvents) (sampleRun callEvents)) := by
  obtain ⟨final, run, drained⟩ := Option.map_eq_some_iff.mp
    (show (execute (step (sampleFlusher callEvents)) State.initial (sampleRun callEvents)).map
      (·.spool.keys) = some [] by decide +kernel)
  have events : spooledEvents (sampleFlusher callEvents) (sampleRun callEvents) =
      callEvents.map sampleEvent :=
    spooledEvents_sampleRun (by decide +kernel)
  refine ⟨final, run, (one_row_per_event_iff "s1" run ?_ drained).mpr ?_⟩
  · rw [events, List.forall_mem_map]
    decide +kernel
  · let hookOf (fields : List (String × String)) : String :=
      ((sampleFlusher callEvents).identityOf (sampleEvent fields)).hookEventName
    have checks : (∀ fields ∈ callEvents, '|' ∉ (hookOf fields).toList) ∧
        callEvents.Pairwise fun first second => hookOf first ≠ hookOf second := by
      decide +kernel
    obtain ⟨hooks, apart⟩ := checks
    rw [events, List.pairwise_map]
    refine List.Pairwise.imp_of_mem ?_ apart
    intro first second held held' different alike
    exact different ((EventIdentity.alike_iff (hooks first held) (hooks second held')).mp alike).2

/-- Two prompts of a session. -/
def promptEvents : List (List (String × String)) :=
  [[("session_id", "s1"), ("hook_event_name", "UserPromptSubmit"), ("prompt", "fix the test"),
      ("timestamp", "1")],
    [("session_id", "s1"), ("hook_event_name", "UserPromptSubmit"), ("prompt", "now commit"),
      ("timestamp", "2")]]

/-- The second prompt of a session is lost. -/
theorem second_prompt_lost :
    ¬ ∀ (actions : List (Action Unit)) (final : State (Option String)) (sessionId : String),
      execute (step (sampleFlusher promptEvents)) State.initial actions = some final →
      (∀ event ∈ spooledEvents (sampleFlusher promptEvents) actions,
        ((sampleFlusher promptEvents).identityOf event).sessionId = sessionId) →
      (spooledEvents (sampleFlusher promptEvents) actions).Nodup →
      final.spool.keys = [] →
      OneRowPerEvent (sampleFlusher promptEvents) (storedEvents final.committed.events)
        (spooledEvents (sampleFlusher promptEvents) actions) := by
  intro complete
  obtain ⟨final, run, ends⟩ := Option.map_eq_some_iff.mp
    (show (execute (step (sampleFlusher promptEvents)) State.initial (sampleRun promptEvents)).map
      (fun final => (final.spool.keys, (storedEvents final.committed.events).length)) =
        some ([], 1) by decide +kernel)
  obtain ⟨drained, stored⟩ := Prod.mk.inj ends
  have events : spooledEvents (sampleFlusher promptEvents) (sampleRun promptEvents) =
      promptEvents.map sampleEvent :=
    spooledEvents_sampleRun (by decide +kernel)
  have one := complete _ final "s1" run ?_ ?_ drained
  · have two := one.count
    rw [stored, events] at two
    cases two
  · rw [events, List.forall_mem_map]
    decide +kernel
  · rw [events]
    exact List.Nodup.map sampleEvent_injective (by simp [promptEvents])

end Panakoes.Telemetry
