import Panakoes.Telemetry.Completeness
import Panakoes.Telemetry.HarmlessEvent

/-! # What a file does to a drain pass

When a file ends the pass that drains it, and when the event in it is stored.
The files, the table and disler are taken to work; what is left is in the file:
its text may not be read, its session may have no directory, and its event may
have a field that `process_event`, SQLite or `http.client` does not take.
-/

namespace Panakoes.Telemetry

open Transition
open PyJson (get getD)

variable {ε κ : Type*}

/-! ## Sessions with a trace id -/

/-- A session whose directory can be made. -/
def Nameable (named : String → Bool) (sessionId : String) : Prop :=
  '\x00' ∉ sessionId.toList ∧ named sessionId = true

/-- Only such sessions have a trace id anywhere. -/
structure TraceIds.Named (named : String → Bool) (ids : TraceIds) : Prop where
  cache : ids.cache.All fun sessionId _ => Nameable named sessionId
  files : ids.files.All fun sessionId _ => Nameable named sessionId
  sessions : ids.sessions.All fun sessionId _ => Nameable named sessionId

variable {named : String → Bool} {ids : TraceIds} {identity : EventIdentity}
  {sessionId traceId : String} {input : TraceIdInput}

/-- The session has a trace id somewhere. -/
def TraceIds.Has (ids : TraceIds) (sessionId : String) : Prop :=
  (∃ traceId, ids.cache.lookup sessionId = some traceId) ∨
    (∃ text, ids.files.lookup sessionId = some text) ∨
      ∃ entry, ids.sessions.lookup sessionId = some entry

theorem TraceIds.Named.nameable (kept : ids.Named named) (has : ids.Has sessionId) :
    Nameable named sessionId := by
  rcases has with ⟨traceId, cached⟩ | ⟨text, file⟩ | ⟨entry, row⟩
  · exact kept.cache sessionId traceId cached
  · exact kept.files sessionId text file
  · exact kept.sessions sessionId entry row

/-- How a trace id is looked up: it is there, or it is minted, or the table
cannot be queried. -/
inductive LookedUp (ids : TraceIds) (sessionId : String) (input : TraceIdInput) :
    TraceIds × Except Raised String → Prop where
  | found (traceId : String) (cache : Table String String) (has : ids.Has sessionId)
      (cached : cache = ids.cache ∨ cache = ids.cache.insert sessionId traceId) :
      LookedUp ids sessionId input ({ ids with cache := cache }, .ok traceId)
  | minted : LookedUp ids sessionId input (mintTraceId ids sessionId input)
  | unqueried (failed : input.queried = false) :
      LookedUp ids sessionId input (ids, .error .other)

theorem lookedUp (ids : TraceIds) (identity : EventIdentity) (input : TraceIdInput) :
    LookedUp ids identity.sessionId input (traceIdOf ids identity input) := by
  unfold traceIdOf mintSession traceIdForSession
  cases cached : ids.cache.lookup identity.sessionId with
  | some traceId =>
      have found : LookedUp ids identity.sessionId input (ids, .ok traceId) :=
        .found traceId ids.cache (Or.inl ⟨traceId, cached⟩) (Or.inl rfl)
      split <;> exact found
  | none =>
      cases file : readTraceFile ids identity.sessionId input with
      | some traceId =>
          have held : ∃ text, ids.files.lookup identity.sessionId = some text := by
            unfold readTraceFile at file
            split at file
            · obtain ⟨read, -⟩ := Option.filter_eq_some_iff.mp file
              obtain ⟨text, held, -⟩ := Option.map_eq_some_iff.mp read
              exact ⟨text, held⟩
            · cases file
          split <;> exact .found traceId _ (Or.inr (Or.inl held)) (Or.inr rfl)
      | none =>
          split
          · exact .minted
          · dsimp only
            split
            · cases row : ids.sessions.lookup identity.sessionId with
              | some entry =>
                  exact .found entry.traceId _ (Or.inr (Or.inr ⟨entry, row⟩)) (Or.inr rfl)
              | none => exact .minted
            · rename_i unqueried
              exact .unqueried (Bool.eq_false_iff.mpr unqueried)

/-- A trace id is only minted for a session whose directory is made. -/
theorem TraceIds.Named.mint (kept : ids.Named named)
    (madeDir : input.madeDir = true → named sessionId = true) :
    (mintTraceId ids sessionId input).1.Named named := by
  unfold mintTraceId persistTraceId
  dsimp only
  split
  · exact kept
  · rename_i clean
    split
    · rename_i made
      have nameable : Nameable named sessionId := ⟨clean, madeDir made⟩
      have cache : Table.All (ids.cache.insert sessionId input.traceId)
          fun sessionId _ => Nameable named sessionId := kept.cache.insert nameable
      have inserts : ∀ text, Table.All (ids.files.insert sessionId text)
          fun sessionId _ => Nameable named sessionId := fun _ => kept.files.insert nameable
      split
      all_goals
        refine ⟨cache, ?_, ?_⟩
        · dsimp only
          split
          · exact kept.files
          · split
            · exact inserts _
            · exact kept.files
            · exact inserts _
      · dsimp only
        split
        · exact kept.sessions
        · exact kept.sessions.insert nameable
      · exact kept.sessions
    · exact kept

/-- Looking up a trace id keeps what sessions have one. -/
theorem TraceIds.Named.traceIdOf (kept : ids.Named named)
    (madeDir : input.madeDir = true → named identity.sessionId = true) :
    (traceIdOf ids identity input).1.Named named := by
  have looked := lookedUp ids identity input
  generalize Telemetry.traceIdOf ids identity input = found at looked
  cases looked with
  | found traceId cache has cached =>
      rcases cached with rfl | rfl
      · exact kept
      · exact ⟨kept.cache.insert (kept.nameable has), kept.files, kept.sessions⟩
  | minted => exact kept.mint madeDir
  | unqueried failed => exact kept

/-- What a session raises that is given a trace id for the first time. -/
def namingError (named : String → Bool) (sessionId : String) : Option Raised :=
  if '\x00' ∈ sessionId.toList then some .other
  else if named sessionId then none
  else some .osError

theorem namingError_eq_none : namingError named sessionId = none ↔ Nameable named sessionId := by
  unfold namingError Nameable
  split
  · rename_i nul
    simp [nul]
  · rename_i clean
    simp [clean]

theorem mintTraceId_end (inserted : input.inserted = true)
    (madeDir : input.madeDir = named sessionId) :
    match namingError named sessionId with
    | none => (mintTraceId ids sessionId input).2 = .ok input.traceId
    | some raised => mintTraceId ids sessionId input = (ids, .error raised) := by
  unfold mintTraceId persistTraceId namingError
  rw [madeDir, inserted]
  by_cases nul : '\x00' ∈ sessionId.toList
  · simp only [if_pos nul]
  · simp only [if_neg nul]
    cases named sessionId <;> simp

/-- **A session gets a trace id when its directory can be made**, and otherwise
it is left without one. -/
theorem TraceIds.Named.traceIdOf_end (kept : ids.Named named) (queried : input.queried = true)
    (inserted : input.inserted = true) (madeDir : input.madeDir = named identity.sessionId) :
    match namingError named identity.sessionId with
    | none => ∃ traceId, (Telemetry.traceIdOf ids identity input).2 = .ok traceId
    | some raised => Telemetry.traceIdOf ids identity input = (ids, .error raised) := by
  have looked := lookedUp ids identity input
  generalize Telemetry.traceIdOf ids identity input = found at looked
  cases looked with
  | found traceId cache has cached =>
      rw [namingError_eq_none.mpr (kept.nameable has)]
      exact ⟨traceId, rfl⟩
  | minted =>
      have ends := @mintTraceId_end named ids identity.sessionId input inserted madeDir
      split at ends
      · exact ⟨_, ends⟩
      · exact ends
  | unqueried failed =>
      rw [queried] at failed
      cases failed

/-! ## What draining a file keeps -/

variable {flusher : Flusher ε κ} {state next final : State κ} {path other : SpoolPath}
  {text : String} {drain : DrainInput ε} {event : ProcessedEvent κ} {raw : HookEvent}
  {actions : List (Action ε)}

/-- Storing an event leaves the trace ids, of which it may commit the sessions. -/
def KeepsIds (state next : State κ) : Prop :=
  next.ids = state.ids ∧ (next.committed.sessions = state.committed.sessions ∨
    next.committed.sessions = state.ids.sessions)

theorem KeepsIds.refl (state : State κ) : KeepsIds state state := ⟨rfl, Or.inl rfl⟩

theorem KeepsIds.trans {middle : State κ} (first : KeepsIds state middle)
    (second : KeepsIds middle next) : KeepsIds state next := by
  obtain ⟨ids, sessions⟩ := first
  obtain ⟨ids', sessions'⟩ := second
  refine ⟨ids'.trans ids, ?_⟩
  rcases sessions' with same | committed
  · exact sessions.imp same.trans same.trans
  · exact Or.inr (committed.trans (congrArg TraceIds.sessions ids))

theorem keepsIds_unlink : KeepsIds state (state.unlink path drain).1 := by
  rcases unlink_cases state path drain with removed | kept
  · rw [removed]
    exact ⟨rfl, Or.inl rfl⟩
  · rw [kept]
    exact .refl state

theorem keepsIds_moveToBad : KeepsIds state (state.moveToBad path text drain).1 := by
  unfold State.moveToBad
  split
  · split
    · exact ⟨rfl, Or.inl rfl⟩
    · exact keepsIds_unlink
  · exact .refl state

theorem keepsIds_pushToDisler : KeepsIds state (pushToDisler flusher state event drain).1 := by
  unfold pushToDisler
  split
  · split
    · exact .refl state
    · exact .refl state
    · split
      · dsimp only
        split
        · exact ⟨rfl, Or.inr rfl⟩
        · exact ⟨rfl, Or.inl rfl⟩
      · exact .refl state
  · exact .refl state

theorem keepsIds_storeEvent : KeepsIds state (storeEvent flusher state path event drain).1 := by
  unfold storeEvent
  split
  · exact .refl state
  · exact .refl state
  · dsimp only
    split
    · have committed : KeepsIds state
          (State.commit { state with events := insertEvent state.events event }) :=
        ⟨rfl, Or.inr rfl⟩
      have pushed := committed.trans (@keepsIds_pushToDisler ε κ flusher _ drain event)
      unfold Outcome.andThen
      split
      · exact pushed.trans keepsIds_unlink
      · exact pushed
    · exact ⟨rfl, Or.inl rfl⟩

/-- An event looks for its own trace id only. -/
theorem keepsIds_drainEvent :
    KeepsIds { state with ids := (traceIdOf state.ids (flusher.identityOf raw) drain.traceId).1 }
      (drainEvent flusher state path raw drain).1 := by
  unfold drainEvent processEvent
  cases found : (traceIdOf state.ids (.of flusher.repr raw) drain.traceId).2 with
  | error raised =>
      simp only [found]
      exact .refl _
  | ok traceId =>
      simp only [found]
      cases flusher.columns raw drain.redaction with
      | error raised => exact ⟨rfl, Or.inl rfl⟩
      | ok columns => exact .trans ⟨rfl, Or.inl rfl⟩ keepsIds_storeEvent

/-- Only sessions whose directory can be made have a trace id, in memory, in a
file, or committed. -/
structure State.Named (named : String → Bool) (state : State κ) : Prop where
  ids : state.ids.Named named
  committed : state.committed.sessions.All fun sessionId _ => Nameable named sessionId

theorem State.Named.keep (kept : state.Named named) (keeps : KeepsIds state next) :
    next.Named named := by
  obtain ⟨ids, same | committed⟩ := keeps
  · exact ⟨ids ▸ kept.ids, same ▸ kept.committed⟩
  · exact ⟨ids ▸ kept.ids, committed ▸ kept.ids.sessions⟩

/-- A directory is only made for a session of which it can be made. -/
def MakesNamed (named : String → Bool) (flusher : Flusher ε κ) (text : String)
    (drain : DrainInput ε) : Prop :=
  ∀ raw ∈ flusher.eventOf text,
    drain.traceId.madeDir = true → named (flusher.identityOf raw).sessionId = true

theorem State.Named.drainFile (kept : state.Named named)
    (makes : MakesNamed named flusher text drain) :
    (drainFile flusher state path text drain).1.Named named := by
  unfold Telemetry.drainFile
  split
  · split
    · exact kept.keep keepsIds_unlink
    · rename_i written
      split
      · exact kept.keep keepsIds_moveToBad
      · exact kept
      · rename_i raw parsed
        have held : raw ∈ flusher.eventOf text := by
          rw [Flusher.eventOf, if_neg written, parsed]
          rfl
        have looked : State.Named named
            { state with ids := (traceIdOf state.ids (flusher.identityOf raw) drain.traceId).1 } :=
          ⟨kept.ids.traceIdOf (makes raw held), kept.committed⟩
        exact looked.keep keepsIds_drainEvent
      · exact kept.keep keepsIds_unlink
  · exact kept

/-- A step makes directories only for sessions of which they can be made. -/
def StepMakesNamed (named : String → Bool) (flusher : Flusher ε κ) (state : State κ) :
    Action ε → Prop
  | .drain drain => ∀ text ∈ state.pass.head?.bind state.spool.lookup,
      MakesNamed named flusher text drain
  | .spool .. | .list _ | .restart => True

theorem State.Named.step {action : Action ε} (kept : state.Named named)
    (makes : StepMakesNamed named flusher state action)
    (taken : Telemetry.step flusher state action = some next) : next.Named named := by
  unfold Telemetry.step at taken
  cases action with
  | spool path text =>
      obtain ⟨-, same⟩ := Option.ite_none_left_eq_some.mp taken
      cases same
      exact ⟨kept.ids, kept.committed⟩
  | list order =>
      obtain ⟨-, same⟩ := Option.ite_none_right_eq_some.mp taken
      cases same
      exact ⟨kept.ids, kept.committed⟩
  | drain drain =>
      cases pass : state.pass with
      | nil =>
          rw [pass] at taken
          cases taken
      | cons path rest =>
          have idle : State.Named named { state with pass := rest } :=
            ⟨kept.ids, kept.committed⟩
          simp only [pass] at taken
          cases found : state.spool.lookup path with
          | none =>
              rw [found] at taken
              cases taken
              exact idle
          | some text =>
              rw [found] at taken
              cases taken
              have drained : State.Named named
                  (Telemetry.drainFile flusher { state with pass := rest } path text drain).1 :=
                idle.drainFile (makes text (by rw [pass]; exact found))
              rw [Outcome.settle_fields]
              exact ⟨drained.ids, drained.committed⟩
  | restart =>
      cases taken
      exact ⟨⟨Table.All.empty, kept.ids.files, kept.committed⟩, kept.committed⟩

theorem State.Named.of_run
    (makes : Meets (Telemetry.step flusher) (fun _ => StepMakesNamed named flusher) []
      State.initial actions)
    (run : execute (Telemetry.step flusher) State.initial actions = some final) :
    final.Named named :=
  execute_invariant
    ⟨⟨Table.All.empty, Table.All.empty, Table.All.empty⟩, Table.All.empty⟩
    (fun _ _ _ _ before makes taken => before.step makes taken) makes run

/-- A table of rows that are only added to. -/
theorem Drained.rowKeys_subset (drained : Drained flusher state path text drain next)
    (durable : storedEvents state.committed.events <+: storedEvents state.events) :
    rowKeys state.committed.events ⊆ rowKeys next.committed.events := by
  cases drained with
  | untouched events committed spans spool => rw [committed]; exact List.Subset.refl _
  | unstored raw traceId event traced failed events committed spans spool =>
      rw [committed]
      exact List.Subset.refl _
  | stored raw traceId columns event traced computed spans events spool =>
      have grown : storedEvents state.committed.events <+: storedEvents next.events := by
        rw [events]
        exact durable.trans (storedEvents_prefix_insertEvent _ _)
      rcases spool with ⟨_, same | committed⟩ | ⟨_, committed⟩
      · rw [same]
        exact List.Subset.refl _
      · exact Telemetry.rowKeys_subset (committed ▸ grown)
      · exact Telemetry.rowKeys_subset (committed ▸ grown)

/-- Draining a file leaves the other files. -/
theorem Drained.lookup_of_ne (drained : Drained flusher state path text drain next)
    (different : other ≠ path) : next.spool.lookup other = state.spool.lookup other := by
  have erased : (state.spool.erase path).lookup other = state.spool.lookup other :=
    AList.lookup_erase_ne different
  cases drained with
  | untouched events committed spans spool =>
      rcases spool with same | ⟨_, same⟩
      · rw [same]
      · rw [same, erased]
  | unstored raw traceId event traced failed events committed spans spool => rw [spool]
  | stored raw traceId columns event traced computed spans events spool =>
      rcases spool with ⟨same, _⟩ | ⟨same, _⟩
      · rw [same]
      · rw [same, erased]

/-! ## What a file does to the pass -/

variable {python : Python} {dislerEnabled : Bool} {file : ListedFile Scans}
  {state next final : State Columns}

/-- How the dual write ends when disler answers. -/
theorem pushToDisler_end {flusher : Flusher Scans Columns} {drain : DrainInput Scans}
    {event : ProcessedEvent Columns}
    (posted : if LegalHeader event.idempotencyKey then drain.posted.isOk = true
      else drain.posted = .error .other)
    (updates : drain.updates = true) (commitsUpdate : drain.commitsUpdate = true) :
    (pushToDisler flusher state event drain).2 =
      if flusher.dislerEnabled = true ∧ ¬ LegalHeader event.idempotencyKey then some .other
      else none := by
  unfold pushToDisler
  by_cases enabled : flusher.dislerEnabled = true
  · rw [if_pos enabled]
    by_cases legal : LegalHeader event.idempotencyKey
    · rw [if_pos legal] at posted
      obtain ⟨answer, answered⟩ := Except.exists_of_isOk posted
      rw [answered, updates, commitsUpdate]
      cases answer <;> simp [legal]
    · rw [if_neg legal] at posted
      rw [posted]
      simp [enabled, legal]
  · rw [if_neg enabled]
    simp [enabled]

/-- How storing an event ends. -/
theorem storeEvent_end {flusher : Flusher Scans Columns} {drain : DrainInput Scans}
    {event : ProcessedEvent Columns} (commits : drain.commits = true)
    (unlinks : drain.unlinks = true)
    (posted : if LegalHeader event.idempotencyKey then drain.posted.isOk = true
      else drain.posted = .error .other)
    (updates : drain.updates = true) (commitsUpdate : drain.commitsUpdate = true) :
    (storeEvent flusher state path event drain).2 ≠ some .other ↔
      drain.insertion ≠ .raised ∧ (flusher.dislerEnabled = true → drain.insertion = .executed →
        LegalHeader event.idempotencyKey) := by
  unfold storeEvent
  cases drain.insertion with
  | sqliteError => simp
  | raised => simp
  | executed =>
      have pushed := @pushToDisler_end
        (State.commit { state with events := insertEvent state.events event }) flusher drain event
        posted updates commitsUpdate
      simp only [commits, if_true, Outcome.andThen]
      split
      · rename_i none
        rw [none] at pushed
        have legal : ¬ (flusher.dislerEnabled = true ∧ ¬ LegalHeader event.idempotencyKey) := by
          intro illegal
          rw [if_pos illegal] at pushed
          cases pushed
        simp only [State.unlink, unlinks, if_true]
        simp only [not_and, not_not] at legal
        simpa using legal
      · rename_i raised some
        rw [some] at pushed
        rw [some, pushed]
        by_cases illegal : flusher.dislerEnabled = true ∧ ¬ LegalHeader event.idempotencyKey
        · simp [illegal]
        · rw [if_neg illegal] at pushed
          cases pushed

/-- What is left of an event that is stored and pushed without an exception. -/
theorem storeEvent_stored {flusher : Flusher Scans Columns} {drain : DrainInput Scans}
    {event : ProcessedEvent Columns} (executed : drain.insertion = .executed)
    (commits : drain.commits = true) (unlinks : drain.unlinks = true)
    (posted : if LegalHeader event.idempotencyKey then drain.posted.isOk = true
      else drain.posted = .error .other)
    (updates : drain.updates = true) (commitsUpdate : drain.commitsUpdate = true)
    (legal : flusher.dislerEnabled = true → LegalHeader event.idempotencyKey) :
    (storeEvent flusher state path event drain).1.spool = state.spool.erase path ∧
      event.dedupKey ∈ rowKeys (storeEvent flusher state path event drain).1.committed.events := by
  let inserted := State.commit { state with events := insertEvent state.events event }
  have pushed := @pushToDisler_end inserted flusher drain event posted updates commitsUpdate
  rw [if_neg fun illegal => illegal.2 (legal illegal.1)] at pushed
  obtain ⟨spool, -, -, committed⟩ := pushToDisler_fields flusher inserted drain event rfl
  have stored : storeEvent flusher state path event drain =
      (pushToDisler flusher inserted event drain).1.unlink path drain := by
    simp only [storeEvent, executed, commits, if_true, Outcome.andThen]
    split
    · rfl
    · rename_i raised
      exact absurd (pushed.symm.trans raised) (by simp)
  rw [stored, State.unlink, if_pos unlinks]
  refine ⟨congrArg (AList.erase path) spool, ?_⟩
  rw [rowKeys_congr committed]
  exact mem_rowKeys_insertEvent _ _

/-- What is in a file does not end the pass when the file is drained: it is
blank, or no JSON, or no object, or an event that is harmless, if its session
can be given a trace id. -/
def HarmlessText (python : Python) (dislerEnabled : Bool) (named : String → Bool) (text : String)
    (scans : Scans) : Prop :=
  strip text = "" ∨
    match python.loads text with
    | .ok (.dict raw) =>
        '\x00' ∉ (EventIdentity.of python.repr raw).sessionId.toList ∧
          (named (EventIdentity.of python.repr raw).sessionId = true →
            python.Harmless dislerEnabled raw scans)
    | .ok _ | .error .jsonDecodeError => True
    | .error _ => False

/-- The event of a file whose columns are computed is stored. -/
theorem drainEvent_of_computed {columns : Columns}
    (found : (traceIdOf state.ids (.of python.repr raw) file.drain.traceId).2 = .ok traceId)
    (computed : python.columns raw file.drain.redaction = .ok columns) :
    ∃ looked : State Columns, ∃ event : ProcessedEvent Columns,
      event.toEventIdentity = .of python.repr raw ∧ looked.spool = state.spool ∧
        drainEvent (python.flusher dislerEnabled) state path raw file.drain =
          storeEvent (python.flusher dislerEnabled) looked path event file.drain := by
  let assigned := assignSpanForEvent state.spans (.of python.repr raw) file.drain.spanId
  refine ⟨{ state with
      ids := (traceIdOf state.ids (.of python.repr raw) file.drain.traceId).1
      spans := assigned.1 },
    (python.flusher dislerEnabled).processed raw traceId assigned.2 file.drain.now columns,
    rfl, rfl, ?_⟩
  have computed : (python.flusher dislerEnabled).columns raw file.drain.redaction =
      .ok columns := computed
  have found : (traceIdOf state.ids (.of (python.flusher dislerEnabled).repr raw)
      file.drain.traceId).2 = .ok traceId := found
  simp only [drainEvent, processEvent, found, computed]
  rfl

/-- **When an event does not end the pass.** -/
theorem drainEvent_end (kept : state.ids.Named named)
    (works : Works python dislerEnabled named text file)
    (held : raw ∈ (python.flusher dislerEnabled).eventOf text) :
    (drainEvent (python.flusher dislerEnabled) state path raw file.drain).2 ≠ some .other ↔
      '\x00' ∉ (EventIdentity.of python.repr raw).sessionId.toList ∧
        (named (EventIdentity.of python.repr raw).sessionId = true →
          python.Harmless dislerEnabled raw file.drain.redaction) := by
  have ends := @TraceIds.Named.traceIdOf_end named state.ids (.of python.repr raw)
    file.drain.traceId kept works.queried works.inserted (works.madeDir raw held)
  have unnamed : ∀ raised, traceIdOf state.ids (.of python.repr raw) file.drain.traceId =
      (state.ids, .error raised) →
        (drainEvent (python.flusher dislerEnabled) state path raw file.drain).2 = some raised := by
    intro raised same
    have same : traceIdOf state.ids (.of (python.flusher dislerEnabled).repr raw)
        file.drain.traceId = (state.ids, .error raised) := same
    simp only [drainEvent, processEvent, same]
  by_cases nul : '\x00' ∈ (EventIdentity.of python.repr raw).sessionId.toList
  · rw [namingError, if_pos nul] at ends
    rw [unnamed .other ends]
    simp [nul]
  by_cases nameable : named (EventIdentity.of python.repr raw).sessionId = true
  · rw [namingError_eq_none.mpr ⟨nul, nameable⟩] at ends
    obtain ⟨traceId, found⟩ := ends
    simp only [nul, nameable, not_false_eq_true, true_and, forall_const]
    cases computed : python.columns raw file.drain.redaction with
    | ok columns =>
        obtain ⟨looked, event, identity, -, same⟩ :=
          @drainEvent_of_computed traceId path raw python dislerEnabled file state columns found
            computed
        have posted := works.posted raw held
        rw [← identity] at posted
        rw [same, storeEvent_end works.commits works.unlinks posted works.updates
          works.commitsUpdate, works.insertion raw held columns computed,
          Python.harmless_iff computed, identity]
        rfl
    | error raised =>
        have raises : (drainEvent (python.flusher dislerEnabled) state path raw file.drain).2 =
            some raised := by
          have computed : (python.flusher dislerEnabled).columns raw file.drain.redaction =
              .error raised := computed
          have found : (traceIdOf state.ids (.of (python.flusher dislerEnabled).repr raw)
              file.drain.traceId).2 = .ok traceId := found
          simp only [drainEvent, processEvent, found, computed]
        have other : raised = .other := by
          cases raised with
          | osError => exact absurd computed Python.noOsError_columns
          | other => rfl
        rw [raises, other]
        refine iff_of_false (fun ends => ends rfl) fun harmless => ?_
        have isOk := Python.isOk_columns_iff_reads.mpr harmless.reads
        rw [computed] at isOk
        cases isOk
  · rw [namingError, if_neg nul, if_neg nameable] at ends
    rw [unnamed .osError ends]
    simp [nul, nameable]

/-- **When a file does not end the pass.** -/
theorem drainFile_end (kept : state.ids.Named named)
    (works : Works python dislerEnabled named text file) :
    (drainFile (python.flusher dislerEnabled) state path text file.drain).2 ≠ some .other ↔
      HarmlessText python dislerEnabled named text file.drain.redaction := by
  have unlinked : (state.unlink path file.drain).2 = none := by
    rw [State.unlink, if_pos works.unlinks]
  unfold drainFile HarmlessText
  rw [if_pos works.readable]
  by_cases blank : strip text = ""
  · rw [if_pos blank, unlinked]
    simp [blank]
  · simp only [blank, if_false, false_or, Python.loads_flusher]
    cases read : python.loads text with
    | error error =>
        cases error with
        | jsonDecodeError =>
            have moved : (state.moveToBad path text file.drain).2 = none := by
              unfold State.moveToBad
              rw [if_pos works.makesBad]
              split
              · rfl
              · exact unlinked
            simp [moved]
        | _ => simp
    | ok value =>
        cases value with
        | dict raw =>
            have held : raw ∈ (python.flusher dislerEnabled).eventOf text := by
              rw [Flusher.eventOf, if_neg blank, Python.loads_flusher, read]
              rfl
            exact drainEvent_end kept works held
        | _ => simp [unlinked]

/-! ## Well-formed events -/

/-- `HOOK_EVENTS`. -/
def hookEvents : List String :=
  ["SessionStart", "SessionEnd", "UserPromptSubmit", "Stop", "PreToolUse", "PostToolUse",
    "PostToolUseFailure", "SubagentStart", "SubagentStop", "PreCompact", "Notification",
    "PermissionRequest"]

/-- A text, or null. -/
def IsText : PyJson → Prop
  | .none | .str _ => True
  | _ => False

/-- A well-formed hook event names its session and one of the hooks, and what is
stored of it as it is consists of texts. -/
structure WellFormed (raw : HookEvent) : Prop where
  session : (get raw "session_id").nonemptyStr?.isSome
  hook : ∃ name ∈ hookEvents, get raw "hook_event_name" = .str name
  texts : ∀ key ∈ ["agent_id", "agent_type", "permission_mode", "effort_level", "model_name",
    "gen_ai_request_model"], IsText (get raw key)
  level : ∀ effort, get raw "effort" = .dict effort → IsText (get effort "level")
  model : ∀ genAi request, get raw "gen_ai" = .dict genAi →
    get genAi "request" = .dict request → IsText (get request "model")

variable {value : PyJson}

theorem bindValue_of_isText (isText : IsText value) : bindValue value = .executed := by
  cases value with
  | none => rfl
  | str text => rfl
  | _ => exact absurd isText id

theorem bindValue_optionalInt (value : Option ℤ) :
    bindValue (optionalInt value) ≠ .sqliteError := by
  cases value with
  | none => simp [optionalInt, bindValue]
  | some value =>
      rw [optionalInt, bindValue]
      split <;> simp

theorem IsText.orElse {left right : PyJson} (first : IsText left) (second : IsText right) :
    IsText (left.orElse right) := by
  unfold PyJson.orElse
  split
  · exact first
  · exact second

theorem WellFormed.effortLevel (wellFormed : WellFormed raw) :
    IsText (Python.effortLevel raw) := by
  unfold Python.effortLevel PyJson.orElse
  by_cases given : (get raw "effort").truthy = true
  · rw [if_pos given]
    split
    · rename_i effort held
      exact wellFormed.level effort held
    · exact wellFormed.texts _ (by simp)
  · rw [if_neg given]
    exact trivial

theorem WellFormed.requestModel (wellFormed : WellFormed raw) {genAi : Python.GenAi}
    (used : python.genAi raw = .ok genAi) : IsText genAi.requestModel := by
  have nested : ∀ model, Python.genAiModel raw = .ok model → IsText model := by
    intro model read
    unfold Python.genAiModel at read
    split at read
    · rename_i entries held
      split at read
      · rename_i request requested
        cases read
        cases found : entries.lookup "request" with
        | none =>
            rw [getD, found] at requested
            cases requested
            exact trivial
        | some value =>
            refine wellFormed.model entries request held ?_
            rw [getD, found] at requested
            exact (congrArg (Option.getD · .none) found).trans requested
      · cases read
    · cases read
      exact trivial
  obtain ⟨model, read, used⟩ := Except.bind_eq_ok.mp used
  obtain ⟨inputTokens, -, used⟩ := Except.bind_eq_ok.mp used
  obtain ⟨outputTokens, -, used⟩ := Except.bind_eq_ok.mp used
  cases used
  dsimp only
  split
  · exact (wellFormed.texts _ (by simp)).orElse (wellFormed.texts _ (by simp))
  · exact nested model read

/-- SQLite has a type for everything that is stored of a well-formed event. -/
theorem WellFormed.bindAll_ne (wellFormed : WellFormed raw) {scans : Scans} {columns : Columns}
    (computed : python.columns raw scans = .ok columns) :
    bindAll columns.parameters ≠ .sqliteError := by
  have typed : ∀ value ∈ columns.parameters, bindValue value ≠ .sqliteError := by
    have text : ∀ {value}, IsText value → bindValue value ≠ .sqliteError := by
      intro value isText
      rw [bindValue_of_isText isText]
      simp
    have parts := Python.ColumnsOf.of_computed computed
    simp only [Columns.parameters, List.forall_mem_cons, parts.agentId, parts.agentType,
      parts.permissionMode, parts.effortLevel]
    exact ⟨bindValue_optionalInt _, text (wellFormed.texts _ (by simp)),
      text (wellFormed.texts _ (by simp)), text (wellFormed.texts _ (by simp)),
      text wellFormed.effortLevel, text (wellFormed.requestModel parts.genAi),
      bindValue_optionalInt _, bindValue_optionalInt _, bindValue_optionalInt _, by simp⟩
  intro refused
  unfold bindAll at refused
  cases first : (columns.parameters.map bindValue).find? (· ≠ .executed) with
  | none =>
      rw [first] at refused
      cases refused
  | some execution =>
      rw [first] at refused
      cases refused
      obtain ⟨value, member, same⟩ := List.mem_map.mp (List.mem_of_find?_eq_some first)
      exact typed value member same

/-! ## Storing the event of a file -/

/-- A stored event: its file is gone, and a row with its key is committed. -/
def Stored (python : Python) (final : State Columns) (path : SpoolPath) (raw : HookEvent) : Prop :=
  path ∉ final.spool ∧
    (EventIdentity.of python.repr raw).dedupKey ∈ rowKeys final.committed.events

/-- The file is stored, when it holds a well-formed event. -/
def StoresFile (python : Python) (dislerEnabled : Bool) (text : String) (path : SpoolPath)
    (final : State Columns) : Prop :=
  ∀ raw ∈ (python.flusher dislerEnabled).eventOf text, WellFormed raw →
    Stored python final path raw

theorem drainFile_of_event (readable : file.drain.readable = true)
    (held : raw ∈ (python.flusher dislerEnabled).eventOf text) :
    drainFile (python.flusher dislerEnabled) state path text file.drain =
      drainEvent (python.flusher dislerEnabled) state path raw file.drain := by
  unfold Flusher.eventOf at held
  split at held
  · cases held
  · rename_i written
    split at held
    · rename_i parsed read
      cases held
      simp only [drainFile, readable, if_true, if_neg written, read]
    · cases held

/-- An event whose session cannot have a directory keeps its file. -/
theorem kept_of_unnamed (kept : state.ids.Named named)
    (works : Works python dislerEnabled named text file)
    (event : raw ∈ (python.flusher dislerEnabled).eventOf text)
    (held : state.spool.lookup path = some text)
    (unnamed : named (EventIdentity.of python.repr raw).sessionId ≠ true) :
    path ∈ (drainFile (python.flusher dislerEnabled) state path text file.drain).1.spool := by
  have ends := @TraceIds.Named.traceIdOf_end named state.ids (.of python.repr raw)
    file.drain.traceId kept works.queried works.inserted (works.madeDir raw event)
  obtain ⟨raised, refused⟩ : ∃ raised,
      namingError named (EventIdentity.of python.repr raw).sessionId = some raised :=
    Option.ne_none_iff_exists'.mp fun none => unnamed (namingError_eq_none.mp none).2
  rw [refused] at ends
  have same : traceIdOf state.ids (.of (python.flusher dislerEnabled).repr raw)
      file.drain.traceId = (state.ids, .error raised) := ends
  rw [drainFile_of_event works.readable event]
  simp only [drainEvent, processEvent, same]
  exact AList.lookup_isSome.mp (Option.isSome_of_eq_some held)

/-- A well-formed event that is harmless is stored when its session can have a
directory. -/
theorem stored_of_named (kept : state.ids.Named named)
    (works : Works python dislerEnabled named text file)
    (event : raw ∈ (python.flusher dislerEnabled).eventOf text) (wellFormed : WellFormed raw)
    (nameable : Nameable named (EventIdentity.of python.repr raw).sessionId)
    (harmless : python.Harmless dislerEnabled raw file.drain.redaction) :
    Stored python (drainFile (python.flusher dislerEnabled) state path text file.drain).1
      path raw := by
  have ends := @TraceIds.Named.traceIdOf_end named state.ids (.of python.repr raw)
    file.drain.traceId kept works.queried works.inserted (works.madeDir raw event)
  rw [namingError_eq_none.mpr nameable] at ends
  obtain ⟨traceId, found⟩ := ends
  obtain ⟨columns, computed⟩ :=
    Except.exists_of_isOk (Python.isOk_columns_iff_reads.mpr harmless.reads)
  obtain ⟨binds, header⟩ := (Python.harmless_iff computed).mp harmless
  have executed : bindAll columns.parameters = .executed := by
    cases bound : bindAll columns.parameters with
    | executed => rfl
    | sqliteError => exact absurd bound (wellFormed.bindAll_ne computed)
    | raised => exact absurd bound binds
  obtain ⟨looked, processed, identity, spool, same⟩ :=
    @drainEvent_of_computed traceId path raw python dislerEnabled file state columns found computed
  have posted := works.posted raw event
  have legal := fun enabled => header enabled executed
  rw [← identity] at posted legal
  obtain ⟨erased, committed⟩ := @storeEvent_stored path looked (python.flusher dislerEnabled)
    file.drain processed ((works.insertion raw event columns computed).trans executed)
    works.commits works.unlinks posted works.updates works.commitsUpdate legal
  rw [drainFile_of_event works.readable event, same]
  refine ⟨?_, identity ▸ committed⟩
  rw [erased]
  exact fun held => (AList.mem_erase.mp held).1 rfl

/-- What is committed is part of what the connection sees. -/
def State.Durable (state : State κ) : Prop :=
  storedEvents state.committed.events <+: storedEvents state.events

theorem Drained.durable {state next : State κ} (drained : Drained flusher state path text drain next)
    (durable : state.Durable) : next.Durable := by
  unfold State.Durable
  cases drained with
  | untouched events committed spans spool => exact events ▸ committed ▸ durable
  | unstored raw traceId event traced failed events committed spans spool =>
      exact events ▸ committed ▸ durable
  | stored raw traceId columns event traced computed spans events spool =>
      rcases spool with ⟨_, same | committed⟩ | ⟨_, committed⟩
      · rw [same, events]
        exact durable.trans (storedEvents_prefix_insertEvent _ _)
      · exact committed ▸ List.prefix_rfl
      · exact committed ▸ List.prefix_rfl

/-- What the files after it leave of a file: its absence or presence, and its
row. -/
structure Leaves (paths : List SpoolPath) (state next : State κ) : Prop where
  durable : next.Durable
  lookup : ∀ path, path ∉ paths → next.spool.lookup path = state.spool.lookup path
  committed : rowKeys state.committed.events ⊆ rowKeys next.committed.events

theorem Leaves.refl {state : State κ} {paths : List SpoolPath} (durable : state.Durable) :
    Leaves paths state state :=
  ⟨durable, fun _ _ => rfl, List.Subset.refl _⟩

theorem Leaves.drainFile {state : State κ} (durable : state.Durable) :
    Leaves [path] state (drainFile flusher state path text drain).1 := by
  have drained := drainFile_drained flusher state path text drain
  have same := Outcome.settle_fields (Telemetry.drainFile flusher state path text drain)
  have committed := congrArg State.committed same
  have events := congrArg State.events same
  refine ⟨?_, fun other absent => ?_, ?_⟩
  · have kept := drained.durable durable
    unfold State.Durable at kept ⊢
    rwa [committed, events] at kept
  · rw [← drained.lookup_of_ne (fun same => absent (List.mem_singleton.mpr same))]
    exact congrArg (fun state => state.spool.lookup other) same.symm
  · have grown := drained.rowKeys_subset durable
    rwa [committed] at grown

theorem Leaves.drainFiles {files : List (ListedFile ε)} {state : State κ}
    (durable : state.Durable) :
    Leaves (files.map ListedFile.path) state (drainFiles flusher state files).1 := by
  induction files generalizing state with
  | nil => exact .refl durable
  | cons file rest ih =>
      rw [Telemetry.drainFiles]
      split
      · obtain ⟨kept, lookup, committed⟩ := ih durable
        exact ⟨kept, fun path absent => lookup path fun held => absent (List.mem_cons_of_mem _ held),
          committed⟩
      · rename_i text held
        have first := @Leaves.drainFile ε κ flusher file.path text file.drain state durable
        have apart : ∀ path, path ∉ (file :: rest).map ListedFile.path →
            path ∉ [file.path] ∧ path ∉ rest.map ListedFile.path := by
          intro path absent
          rw [List.map_cons, List.mem_cons, not_or] at absent
          exact ⟨by simpa using absent.1, absent.2⟩
        dsimp only
        split
        · exact ⟨first.durable, fun path absent => first.lookup path (apart path absent).1,
            first.committed⟩
        · obtain ⟨kept, lookup, committed⟩ := ih first.durable
          exact ⟨kept, fun path absent =>
              (lookup path (apart path absent).2).trans (first.lookup path (apart path absent).1),
            List.Subset.trans first.committed committed⟩

theorem Works.makesNamed (works : Works python dislerEnabled named text file) :
    MakesNamed named (python.flusher dislerEnabled) text file.drain :=
  fun raw held made => (works.madeDir raw held).symm.trans made

end Panakoes.Telemetry
