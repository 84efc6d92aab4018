import Panakoes.Telemetry.ProcessEvent

/-! # A drain pass

`drain_once` as one function. The listed files are sorted by what is peeked of
them, a spool that is too deep is left alone, and the files are drained in turn
until one of them raises what is no `OSError`. Two more answers depend on what is
in a file: which values SQLite can bind, and which header values `http.client`
lets through.
-/

namespace Panakoes.Telemetry

open PyJson (get)
open Transition

variable {ε κ : Type*}

/-! ## Listing -/

/-- A listed file: its time stamp, whether it can be read while the files are
sorted, and what the environment decides while it is drained. -/
structure ListedFile (ε : Type*) where
  path : SpoolPath
  modified : ℕ
  peeked : Bool
  drain : DrainInput ε

/-- The time stamp that `_sort_key` finds at the start of a text. What is no
object has no `get`, and only decoding errors are caught. -/
def Flusher.peekTimestamp (flusher : Flusher ε κ) (text : String) : Except Raised String :=
  let head := slice 4096 text
  if strip head = "" then .ok ""
  else
    match flusher.loads head with
    | .ok (.dict doc) =>
        match get doc "timestamp" with
        | .str timestamp => .ok timestamp
        | _ => .ok ""
    | .error .jsonDecodeError | .error .valueError => .ok ""
    | .ok _ | .error _ => .error .other

/-- What the files are sorted by. -/
abbrev SortKey := String × ℕ × String

/-- The order of tuples. -/
def SortKey.Before (first second : SortKey) : Prop :=
  first.1 < second.1 ∨ first.1 = second.1 ∧
    (first.2.1 < second.2.1 ∨ first.2.1 = second.2.1 ∧ first.2.2 ≤ second.2.2)

instance : DecidableRel SortKey.Before := fun _ _ => inferInstanceAs (Decidable (_ ∨ _))

/-- `_sort_key`. -/
def Flusher.sortKey (flusher : Flusher ε κ) (spool : Table SpoolPath String)
    (file : ListedFile ε) : Except Raised SortKey :=
  let timestamp := match if file.peeked then spool.lookup file.path else none with
    | some text => flusher.peekTimestamp text
    | none => .ok ""
  timestamp.map fun timestamp => (timestamp, file.modified, file.path.name)

/-- `list_spool_files`: all keys are computed before the files are sorted. -/
def Flusher.listSpoolFiles (flusher : Flusher ε κ) (spool : Table SpoolPath String)
    (files : List (ListedFile ε)) : Except Raised (List (ListedFile ε)) :=
  (files.mapM fun file => (flusher.sortKey spool file).map fun key => (key, file)).map
    fun keyed =>
      (keyed.insertionSort fun first second => first.1.Before second.1).map Prod.snd

/-! ## Draining -/

/-- How a pass ends: with all files taken, with a spool that is too deep, or
with an exception. -/
inductive PassEnd where
  | completed
  | refused
  | raised
  deriving DecidableEq

/-- The loop of `drain_once`. -/
def drainFiles (flusher : Flusher ε κ) (state : State κ) :
    List (ListedFile ε) → State κ × PassEnd
  | [] => (state, .completed)
  | file :: rest =>
      match state.spool.lookup file.path with
      | none => drainFiles flusher state rest
      | some text =>
          let drained := drainFile flusher state file.path text file.drain
          if drained.2 = some .other then (drained.1, .raised)
          else drainFiles flusher drained.1 rest

/-- `drain_once`. -/
def drainOnce (flusher : Flusher ε κ) (state : State κ) (files : List (ListedFile ε)) :
    State κ × PassEnd :=
  match flusher.listSpoolFiles state.spool files with
  | .error _ => (state, .raised)
  | .ok files =>
      if spoolHardstopThreshold ≤ files.length then (state, .refused)
      else drainFiles flusher state files

/-! ## A pass as a run -/

variable {flusher : Flusher ε κ} {state next : State κ} {path : SpoolPath} {text : String}
  {input : DrainInput ε} {event : ProcessedEvent κ} {raw : HookEvent} {pass : List SpoolPath}
  {files : List (ListedFile ε)} {ending : PassEnd}

/-- What is left of a pass has no part in what is done with a file. -/
def Outcome.withPass (outcome : Outcome κ) (pass : List SpoolPath) : Outcome κ :=
  ({ outcome.1 with pass := pass }, outcome.2)

theorem unlink_withPass : State.unlink { state with pass := pass } path input =
    Outcome.withPass (state.unlink path input) pass := by
  unfold State.unlink
  split <;> rfl

theorem moveToBad_withPass : State.moveToBad { state with pass := pass } path text input =
    Outcome.withPass (state.moveToBad path text input) pass := by
  unfold State.moveToBad
  split
  · split
    · rfl
    · exact unlink_withPass
  · rfl

theorem pushToDisler_withPass : pushToDisler flusher { state with pass := pass } event input =
    Outcome.withPass (pushToDisler flusher state event input) pass := by
  unfold pushToDisler
  split
  · split
    · rfl
    · rfl
    · split
      · dsimp only
        split <;> rfl
      · rfl
  · rfl

theorem andThen_withPass {outcome : Outcome κ} :
    (Outcome.withPass outcome pass).andThen (fun state => state.unlink path input) =
      Outcome.withPass (outcome.andThen fun state => state.unlink path input) pass := by
  unfold Outcome.andThen
  cases raised : outcome.2 with
  | none =>
      simp only [Outcome.withPass, raised]
      exact unlink_withPass
  | some _ => simp only [Outcome.withPass, raised]

theorem storeEvent_withPass : storeEvent flusher { state with pass := pass } path event input =
    Outcome.withPass (storeEvent flusher state path event input) pass := by
  unfold storeEvent
  split
  · rfl
  · rfl
  · dsimp only
    split
    · rw [← andThen_withPass, ← pushToDisler_withPass]
      rfl
    · rfl

theorem drainEvent_withPass : drainEvent flusher { state with pass := pass } path raw input =
    Outcome.withPass (drainEvent flusher state path raw input) pass := by
  unfold drainEvent processEvent
  cases found : (traceIdOf state.ids (.of flusher.repr raw) input.traceId).2 with
  | error raised =>
      simp only [found]
      rfl
  | ok traceId =>
      simp only [found]
      cases flusher.columns raw input.redaction with
      | error raised => rfl
      | ok columns =>
          let assigned := assignSpanForEvent state.spans (.of flusher.repr raw) input.spanId
          let looked : State κ :=
            { state with ids := (traceIdOf state.ids (.of flusher.repr raw) input.traceId).1,
                         spans := assigned.1 }
          exact @storeEvent_withPass ε κ flusher looked path input
            (flusher.processed raw traceId assigned.2 input.now columns) pass

theorem drainFile_withPass : drainFile flusher { state with pass := pass } path text input =
    Outcome.withPass (drainFile flusher state path text input) pass := by
  unfold drainFile
  split
  · split
    · exact unlink_withPass
    · split
      · exact moveToBad_withPass
      · rfl
      · exact drainEvent_withPass
      · exact unlink_withPass
  · rfl

/-- The loop takes the files as the steps of the flusher do. -/
theorem execute_drainFiles (ends : drainFiles flusher state files = (next, ending)) :
    ∃ drained, drained <+: files ∧
      execute (step flusher) { state with pass := files.map ListedFile.path }
        (drained.map fun file => .drain file.drain) = some { next with pass := [] } := by
  induction files generalizing state with
  | nil =>
      cases ends
      exact ⟨[], List.prefix_rfl, rfl⟩
  | cons file rest ih =>
      rw [drainFiles] at ends
      cases found : state.spool.lookup file.path with
      | none =>
          simp only [found] at ends
          obtain ⟨drained, begins, run⟩ := ih ends
          refine ⟨file :: drained, (List.prefix_cons_inj file).mpr begins, ?_⟩
          simp only [List.map_cons, execute_cons, step, found, Option.bind_some]
          exact run
      | some text =>
          simp only [found] at ends
          have taken : step flusher { state with pass := (file :: rest).map ListedFile.path }
              (.drain file.drain) = some (Outcome.settle (Outcome.withPass
                (drainFile flusher state file.path text file.drain)
                  (rest.map ListedFile.path))) := by
            simp only [step, List.map_cons, found]
            rw [← drainFile_withPass]
          split at ends
          · rename_i raised
            cases ends
            refine ⟨[file], by simp, ?_⟩
            rw [List.map_singleton, execute_cons, taken, Option.bind_some, execute_nil]
            simp only [Outcome.settle, Outcome.withPass, raised, if_true]
          · rename_i goesOn
            obtain ⟨drained, begins, run⟩ := ih ends
            refine ⟨file :: drained, (List.prefix_cons_inj file).mpr begins, ?_⟩
            simp only [List.map_cons] at taken ⊢
            rw [execute_cons, taken, Option.bind_some]
            simp only [Outcome.settle, Outcome.withPass, goesOn, if_false]
            exact run

/-- Every file is listed with its key. -/
theorem map_snd_of_keyed {spool : Table SpoolPath String} {keyed : List (SortKey × ListedFile ε)}
    (computed : (files.mapM fun file =>
      (flusher.sortKey spool file).map fun key => (key, file)) = .ok keyed) :
    keyed.map Prod.snd = files := by
  induction files generalizing keyed with
  | nil =>
      cases computed
      rfl
  | cons file rest ih =>
      rw [List.mapM_cons] at computed
      obtain ⟨first, keyedFirst, computed⟩ := Except.bind_eq_ok.mp computed
      obtain ⟨others, keyedOthers, computed⟩ := Except.bind_eq_ok.mp computed
      cases computed
      rw [List.map_cons, ih keyedOthers]
      cases key : flusher.sortKey spool file with
      | error raised =>
          rw [key] at keyedFirst
          cases keyedFirst
      | ok key' =>
          rw [key] at keyedFirst
          cases keyedFirst
          rfl

/-- Sorting drops no file. -/
theorem perm_listSpoolFiles {spool : Table SpoolPath String} {sorted : List (ListedFile ε)}
    (listed : flusher.listSpoolFiles spool files = .ok sorted) : sorted.Perm files := by
  unfold Flusher.listSpoolFiles at listed
  cases computed : files.mapM fun file =>
      (flusher.sortKey spool file).map fun key => (key, file) with
  | error raised =>
      rw [computed] at listed
      cases listed
  | ok keyed =>
      rw [computed] at listed
      cases listed
      rw [← map_snd_of_keyed computed]
      exact (List.perm_insertionSort _ keyed).map Prod.snd

/-- **A drain pass is a run of the flusher**, or it ends before the first file. -/
theorem drainOnce_steps (idle : state.pass = [])
    (listed : (files.map ListedFile.path).Perm state.spool.keys) :
    drainOnce flusher state files = (state, .refused) ∨
      drainOnce flusher state files = (state, .raised) ∨
        ∃ order drained, order.Perm files ∧ drained <+: order ∧
          execute (step flusher) state (.list (order.map ListedFile.path) ::
              drained.map fun file => .drain file.drain) =
            some { (drainOnce flusher state files).1 with pass := [] } := by
  unfold drainOnce
  cases sort : flusher.listSpoolFiles state.spool files with
  | error raised => exact Or.inr (Or.inl rfl)
  | ok order =>
      have perm := perm_listSpoolFiles sort
      by_cases deep : spoolHardstopThreshold ≤ order.length
      · exact Or.inl (if_pos deep)
      · obtain ⟨drained, begins, run⟩ :=
          @execute_drainFiles ε κ flusher state _ order _ rfl
        refine Or.inr (Or.inr ⟨order, drained, perm, begins, ?_⟩)
        have enabled : state.pass = [] ∧ (order.map ListedFile.path).Perm state.spool.keys ∧
            (order.map ListedFile.path).length < spoolHardstopThreshold :=
          ⟨idle, (perm.map _).trans listed, by rw [List.length_map]; omega⟩
        rw [execute_cons, step, if_pos enabled, Option.bind_some, run]
        simp only [if_neg deep]

/-! ## Values of an event that SQLite and HTTP refuse -/

/-- How SQLite binds a value: it has no type for a list or a dictionary, and an
integer has to fit into 64 bits. -/
def bindValue : PyJson → Execution
  | .none | .bool _ | .float _ | .str _ => .executed
  | .int value =>
      if -9223372036854775808 ≤ value ∧ value < 9223372036854775808 then .executed else .raised
  | .list _ | .dict _ => .sqliteError

/-- The first value that cannot be bound decides. -/
def bindAll (values : List PyJson) : Execution :=
  ((values.map bindValue).find? (· ≠ .executed)).getD .executed

/-- An integer, or null. -/
def optionalInt : Option ℤ → PyJson
  | some value => .int value
  | none => .none

/-- The parameters of the insertion that are not texts, flags or lengths, in the
order of the statement. -/
def Columns.parameters (columns : Columns) : List PyJson :=
  [optionalInt columns.toolUseDurationMs, columns.agentId, columns.agentType,
    columns.permissionMode, columns.effortLevel, columns.genAi.requestModel,
    optionalInt columns.genAi.inputTokens, optionalInt columns.genAi.outputTokens,
    optionalInt columns.prNumber]

/-- The header `Idempotency-Key`. -/
def EventIdentity.idempotencyKey (identity : EventIdentity) : String :=
  identity.sessionId ++ "-" ++ identity.toolUseId.getD "" ++ "-" ++ identity.hookEventName

/-- Every line break is followed by a space or a tab, or by a line feed that is. -/
def foldedBreaks : List Char → Bool
  | [] => true
  | '\n' :: rest => rest.head?.any (· ∈ [' ', '\t']) && foldedBreaks rest
  | '\r' :: rest => rest.head?.any (· ∈ [' ', '\t', '\n']) && foldedBreaks rest
  | _ :: rest => foldedBreaks rest

/-- A header value that `http.client` sends: Latin-1 with no break that could
end the header. -/
def LegalHeader (value : String) : Prop :=
  (∀ char ∈ value.toList, char.toNat < 256) ∧ foldedBreaks value.toList

instance : DecidablePred LegalHeader := fun value =>
  decidable_of_iff ((value.toList.all fun char => char.toNat < 256) = true ∧
    foldedBreaks value.toList = true) (by simp only [LegalHeader, List.all_eq_true, decide_eq_true_eq])

/-- Files, SQLite and disler do what they are asked to do for a file. `named`
are the sessions whose directory can be made; apart from that, only what is in
the file decides whether it is stored and posted. -/
structure Works (python : Python) (dislerEnabled : Bool) (named : String → Bool) (text : String)
    (file : ListedFile Scans) : Prop where
  peeked : file.peeked = true
  readable : file.drain.readable = true
  makesBad : file.drain.makesBad = true
  unlinks : file.drain.unlinks = true
  queried : file.drain.traceId.queried = true
  inserted : file.drain.traceId.inserted = true
  commits : file.drain.commits = true
  updates : file.drain.updates = true
  commitsUpdate : file.drain.commitsUpdate = true
  madeDir : ∀ raw ∈ (python.flusher dislerEnabled).eventOf text,
    file.drain.traceId.madeDir = named (EventIdentity.of python.repr raw).sessionId
  insertion : ∀ raw ∈ (python.flusher dislerEnabled).eventOf text, ∀ columns,
    python.columns raw file.drain.redaction = .ok columns →
      file.drain.insertion = bindAll columns.parameters
  posted : ∀ raw ∈ (python.flusher dislerEnabled).eventOf text,
    if LegalHeader (EventIdentity.of python.repr raw).idempotencyKey then
      file.drain.posted.isOk = true
    else file.drain.posted = .error .other

end Panakoes.Telemetry
