import Panakoes.Foundation.JsonRoundTrip
import Panakoes.Telemetry.FileDrain

/-! # Spool isolation

Whether a drain pass stores every well-formed event whatever is in the other
files. One file can end a pass in three ways: while the files are sorted, since
what is peeked has to be an object; when its text is read again; and while its
event is processed, inserted or posted. A pass takes all files just when none of
them does.
-/

namespace Panakoes.Telemetry

open Transition
open PyJson (get)

variable {python : Python} {dislerEnabled : Bool} {named : String → Bool}
  {file : ListedFile Scans} {files : List (ListedFile Scans)} {path : SpoolPath} {text : String}
  {state next final : State Columns}

/-! ## The pass -/

/-- What is listed and still there satisfies the predicate. -/
def EachFile (files : List (ListedFile Scans)) (state : State Columns)
    (predicate : ListedFile Scans → String → Prop) : Prop :=
  ∀ file ∈ files, ∀ text ∈ state.spool.lookup file.path, predicate file text

theorem EachFile.tail {predicate : ListedFile Scans → String → Prop}
    (each : EachFile (file :: files) state predicate) : EachFile files state predicate :=
  fun file member => each file (List.mem_cons_of_mem _ member)

/-- What holds of each file that is left, when another one has been drained. -/
theorem eachFile_congr {predicate : ListedFile Scans → String → Prop}
    (apart : path ∉ files.map ListedFile.path) (leaves : Leaves [path] state next) :
    EachFile files next predicate ↔ EachFile files state predicate := by
  have same : ∀ file ∈ files, next.spool.lookup file.path = state.spool.lookup file.path := by
    intro file member
    refine leaves.lookup file.path fun held => apart ?_
    rw [← List.mem_singleton.mp held]
    exact List.mem_map_of_mem member
  exact forall₂_congr fun file member => by rw [same file member]

theorem eachFile_cons {predicate : ListedFile Scans → String → Prop} :
    EachFile (file :: files) state predicate ↔
      (∀ text ∈ state.spool.lookup file.path, predicate file text) ∧
        EachFile files state predicate :=
  List.forall_mem_cons

/-- **When the loop takes all files.** -/
theorem drainFiles_end (kept : state.Named named) (durable : state.Durable)
    (distinct : (files.map ListedFile.path).Nodup)
    (works : EachFile files state fun file text => Works python dislerEnabled named text file) :
    (drainFiles (python.flusher dislerEnabled) state files).2 = .completed ↔
      EachFile files state fun file text =>
        HarmlessText python dislerEnabled named text file.drain.redaction := by
  induction files generalizing state with
  | nil => simp [drainFiles, EachFile]
  | cons file rest ih =>
      rw [List.map_cons, List.nodup_cons] at distinct
      rw [eachFile_cons, drainFiles]
      cases found : state.spool.lookup file.path with
      | none =>
          simp only [Option.mem_def, reduceCtorEq, false_implies, implies_true, true_and]
          exact ih kept durable distinct.2 works.tail
      | some text =>
          have working := works file List.mem_cons_self text found
          have leaves := @Leaves.drainFile Scans Columns (python.flusher dislerEnabled) file.path text
            file.drain state durable
          have ends := @drainFile_end named file.path text python dislerEnabled file state kept.ids
            working
          simp only [Option.mem_some_iff, forall_eq']
          by_cases raised : (drainFile (python.flusher dislerEnabled) state file.path text
              file.drain).2 = some .other
          · rw [if_pos raised]
            simp only [reduceCtorEq, false_iff, not_and]
            exact fun harmless => absurd raised (ends.mpr harmless)
          · rw [if_neg raised, ih (kept.drainFile working.makesNamed) leaves.durable distinct.2
              ((eachFile_congr distinct.1 leaves).mpr works.tail), eachFile_congr distinct.1 leaves]
            exact (and_iff_right (ends.mp raised)).symm

/-- What is drained later does not change whether a file is stored. -/
theorem storesFile_iff {paths : List SpoolPath} (kept : state.ids.Named named)
    (works : Works python dislerEnabled named text file)
    (held : state.spool.lookup path = some text)
    (ends : (drainFile (python.flusher dislerEnabled) state path text file.drain).2 ≠ some .other)
    (apart : path ∉ paths)
    (leaves : Leaves paths
      (drainFile (python.flusher dislerEnabled) state path text file.drain).1 final) :
    StoresFile python dislerEnabled text path final ↔
      ∀ raw ∈ (python.flusher dislerEnabled).eventOf text, WellFormed raw →
        named (EventIdentity.of python.repr raw).sessionId = true := by
  have gone : path ∈ final.spool ↔
      path ∈ (drainFile (python.flusher dislerEnabled) state path text file.drain).1.spool := by
    rw [← AList.lookup_isSome, ← AList.lookup_isSome, leaves.lookup path apart]
  constructor
  · intro stores raw event wellFormed
    by_contra unnamed
    exact (stores raw event wellFormed).1
      (gone.mpr (kept_of_unnamed kept works event held unnamed))
  · intro names raw event wellFormed
    have nameable := names raw event wellFormed
    have harmless := ends
    rw [drainFile_of_event works.readable event] at harmless
    obtain ⟨clean, harmless⟩ := (drainEvent_end kept works event).mp harmless
    obtain ⟨removed, committed⟩ := @stored_of_named named path text raw python dislerEnabled file
      state kept works event wellFormed ⟨clean, nameable⟩ (harmless nameable)
    exact ⟨fun present => removed (gone.mp present), leaves.committed committed⟩

/-- **Which files are stored** when the loop takes all of them. -/
theorem drainFiles_stores (kept : state.Named named) (durable : state.Durable)
    (distinct : (files.map ListedFile.path).Nodup)
    (works : EachFile files state fun file text => Works python dislerEnabled named text file)
    (completed : (drainFiles (python.flusher dislerEnabled) state files).2 = .completed) :
    (EachFile files state fun file text => StoresFile python dislerEnabled text file.path
        (drainFiles (python.flusher dislerEnabled) state files).1) ↔
      EachFile files state fun _ text => ∀ raw ∈ (python.flusher dislerEnabled).eventOf text,
        WellFormed raw → named (EventIdentity.of python.repr raw).sessionId = true := by
  induction files generalizing state with
  | nil => simp [EachFile]
  | cons file rest ih =>
      rw [List.map_cons, List.nodup_cons] at distinct
      rw [eachFile_cons, eachFile_cons]
      rw [drainFiles] at completed ⊢
      cases found : state.spool.lookup file.path with
      | none =>
          simp only [found, Option.mem_def, reduceCtorEq, false_implies, implies_true,
            true_and] at completed ⊢
          exact ih kept durable distinct.2 works.tail completed
      | some text =>
          have working := works file List.mem_cons_self text found
          have leaves := @Leaves.drainFile Scans Columns (python.flusher dislerEnabled) file.path text
            file.drain state durable
          simp only [found, Option.mem_some_iff, forall_eq'] at completed ⊢
          by_cases raised : (drainFile (python.flusher dislerEnabled) state file.path text
              file.drain).2 = some .other
          · rw [if_pos raised] at completed
            cases completed
          · rw [if_neg raised] at completed ⊢
            refine and_congr (storesFile_iff kept.ids working found raised distinct.1
              (.drainFiles leaves.durable)) ?_
            rw [← eachFile_congr distinct.1 leaves, ← eachFile_congr distinct.1 leaves]
            exact ih (kept.drainFile working.makesNamed) leaves.durable distinct.2
              ((eachFile_congr distinct.1 leaves).mpr works.tail) completed

/-! ## Sorting -/

/-- What is peeked of a text does not end the pass: it is blank, or an object,
or cannot be read. -/
def HarmlessHead (python : Python) (text : String) : Prop :=
  strip (slice 4096 text) = "" ∨ Python.ObjectOrCaught (python.loads (slice 4096 text))

theorem isOk_peekTimestamp_iff :
    ((python.flusher dislerEnabled).peekTimestamp text).isOk ↔ HarmlessHead python text := by
  unfold Flusher.peekTimestamp HarmlessHead
  by_cases blank : strip (slice 4096 text) = ""
  · simp [blank]
  · simp only [blank, if_false, false_or, Python.loads_flusher]
    cases python.loads (slice 4096 text) with
    | error error => cases error <;> simp [Python.ObjectOrCaught]
    | ok value =>
        cases value with
        | dict doc =>
            simp only [Python.ObjectOrCaught, iff_true]
            split <;> rfl
        | _ => simp [Python.ObjectOrCaught]

/-- **When the files can be sorted.** -/
theorem isOk_listSpoolFiles_iff (peeked : EachFile files state fun file _ => file.peeked = true) :
    ((python.flusher dislerEnabled).listSpoolFiles state.spool files).isOk ↔
      EachFile files state fun _ text => HarmlessHead python text := by
  rw [Flusher.listSpoolFiles, Except.isOk_map, Except.isOk_mapM_iff]
  refine forall₂_congr fun file member => ?_
  rw [Except.isOk_map, Flusher.sortKey, Except.isOk_map]
  cases found : state.spool.lookup file.path with
  | none => simp
  | some text => simp [peeked file member text found, isOk_peekTimestamp_iff]

/-! ## Isolation -/

/-- **Spool isolation**: the pass takes all files and stores every well-formed
event among them. -/
def Isolated (python : Python) (dislerEnabled : Bool) (state : State Columns)
    (files : List (ListedFile Scans)) : Prop :=
  (drainOnce (python.flusher dislerEnabled) state files).2 = .completed ∧
    EachFile files state fun file text => StoresFile python dislerEnabled text file.path
      (drainOnce (python.flusher dislerEnabled) state files).1

/-- A file that ends no pass, and that is stored if it holds a well-formed event. -/
structure HarmlessFile (python : Python) (dislerEnabled : Bool) (named : String → Bool)
    (scans : Scans) (text : String) : Prop where
  head : HarmlessHead python text
  contents : HarmlessText python dislerEnabled named text scans
  nameable : ∀ raw ∈ (python.flusher dislerEnabled).eventOf text, WellFormed raw →
    named (EventIdentity.of python.repr raw).sessionId = true

theorem EachFile.perm {order : List (ListedFile Scans)}
    {predicate : ListedFile Scans → String → Prop} (perm : order.Perm files) :
    EachFile order state predicate ↔ EachFile files state predicate :=
  forall_congr' fun _ => imp_congr_left perm.mem_iff

/-- The end of a turn. -/
def stopEvent : HookEvent := [("hook_event_name", .str "Stop"), ("session_id", .str "s1")]

/-- The text of the event. -/
def stopText : String := samplePython.dumps (.dict stopEvent)

/-- Everything succeeds, and nothing is found by gitleaks. -/
def sampleDrain : DrainInput Scans where
  readable := true
  traceId := ⟨true, true, "trace", true, .written, true, "0"⟩
  spanId := "a"
  now := "0"
  redaction := ⟨.report (.list []), .report (.list []), 0⟩
  insertion := .executed
  commits := true
  posted := .ok false
  pushedAt := "0"
  updates := true
  commitsUpdate := true
  makesBad := true
  renames := true
  unlinks := true

/-- A file beside that of the event. -/
def besideFiles : List (ListedFile Scans) :=
  [⟨⟨"s1", "1.json"⟩, 1, true, sampleDrain⟩, ⟨⟨"s1", "2.json"⟩, 2, true, sampleDrain⟩]

/-- The two files are spooled. -/
def besideRun (text : String) : List (Action Scans) :=
  [.spool ⟨"s1", "1.json"⟩ text, .spool ⟨"s1", "2.json"⟩ stopText]

/-- The spool with the two files. -/
def besideState (text : String) : State Columns :=
  { State.initial with
    spool := ((∅ : Table SpoolPath String).insert ⟨"s1", "1.json"⟩ text).insert ⟨"s1", "2.json"⟩
      stopText }

theorem execute_besideRun (text : String) :
    execute (step (samplePython.flusher false)) State.initial (besideRun text) =
      some (besideState text) := rfl

theorem perm_besideFiles (text : String) :
    (besideFiles.map ListedFile.path).Perm (besideState text).spool.keys := 
  List.Perm.swap _ _ _

theorem written_stopEvent :
    JsonText.Written samplePython.style (fun _ => none) (.dict stopEvent) := by
  refine .dict (by decide) fun entry member => ?_
  simp only [stopEvent, List.mem_cons, List.not_mem_nil, or_false] at member
  rcases member with rfl | rfl
  · exact .str "Stop"
  · exact .str "s1"

/-- The sample Python reads what it writes. -/
theorem loads_dumps_sample {value : PyJson}
    (written : JsonText.Written samplePython.style (fun _ => none) value) :
    samplePython.loads (samplePython.dumps value) = .ok value := by
  rw [Python.dumps]
  exact JsonText.loads_dumps written

theorem loads_stopText : samplePython.loads stopText = .ok (.dict stopEvent) := by
  rw [stopText]
  exact loads_dumps_sample written_stopEvent

theorem slice_stopText : slice 4096 stopText = stopText := by
  rw [stopText, Python.dumps, JsonText.dumps, slice, String.toList_ofList]
  exact congrArg String.ofList (List.take_of_length_le (by decide +kernel))

theorem strip_stopText : strip stopText ≠ "" := by
  rw [stopText, Python.dumps, JsonText.dumps, strip, String.toList_ofList]
  decide +kernel

theorem eventOf_stopText :
    (samplePython.flusher false).eventOf stopText = some stopEvent := by
  rw [Flusher.eventOf, if_neg strip_stopText, Python.loads_flusher, loads_stopText]

theorem parameters_stopEvent :
    samplePython.parameters stopEvent = .ok (List.replicate 9 .none) := rfl

/-- Everything works for a file with that event or without one. -/
theorem works_sampleDrain {text : String} {path : SpoolPath} {modified : ℕ}
    (event : ∀ raw ∈ (samplePython.flusher false).eventOf text, raw = stopEvent) :
    Works samplePython false (fun _ => true) text ⟨path, modified, true, sampleDrain⟩ where
  peeked := rfl
  readable := rfl
  makesBad := rfl
  unlinks := rfl
  queried := rfl
  inserted := rfl
  commits := rfl
  updates := rfl
  commitsUpdate := rfl
  madeDir _ _ := rfl
  insertion raw held columns computed := by
    obtain rfl := event raw held
    have same := Python.parameters_eq computed
    rw [parameters_stopEvent] at same
    rw [← Except.ok.inj same]
    rfl
  posted raw held := by
    obtain rfl := event raw held
    rw [if_pos (by decide)]
    rfl

theorem eachFile_beside {text : String} {predicate : ListedFile Scans → String → Prop} :
    EachFile besideFiles (besideState text) predicate ↔
      predicate ⟨⟨"s1", "1.json"⟩, 1, true, sampleDrain⟩ text ∧
        predicate ⟨⟨"s1", "2.json"⟩, 2, true, sampleDrain⟩ stopText := by
  have first : (besideState text).spool.lookup ⟨"s1", "1.json"⟩ = some text := rfl
  have second : (besideState text).spool.lookup ⟨"s1", "2.json"⟩ = some stopText := rfl
  simp [EachFile, besideFiles, first, second]

theorem works_beside {text : String}
    (event : ∀ raw ∈ (samplePython.flusher false).eventOf text, raw = stopEvent) :
    EachFile besideFiles (besideState text) fun file text =>
      Works samplePython false (fun _ => true) text file := by
  refine eachFile_beside.mpr ⟨works_sampleDrain event, works_sampleDrain ?_⟩
  rw [eventOf_stopText]
  rintro raw ⟨⟩
  rfl

theorem makes_beside (text : String) :
    Meets (step (samplePython.flusher false))
      (fun _ => StepMakesNamed (fun _ => true) (samplePython.flusher false)) [] State.initial
        (besideRun text) :=
  ⟨trivial, fun _ _ => ⟨trivial, fun _ _ => trivial⟩⟩

theorem payloadText_stopEvent : samplePython.payloadText stopEvent = stopText := by
  have order : ("hook_event_name" : String) ≤ "session_id" := by decide +kernel
  have sorted : sortKeys (.dict stopEvent) = .dict stopEvent := by
    simp [stopEvent, sortKeys, sortEntries, order]
  rw [Python.payloadText, sorted, stopText]

/-- A report without findings changes no text. -/
theorem redacted_sampleDrain {text : String} :
    samplePython.redacted text sampleDrain.redaction.payload = text := by
  rw [Python.redacted_eq]
  exact String.ofList_toList

/-- The event ends no pass. -/
theorem harmless_stopEvent : samplePython.Harmless false stopEvent sampleDrain.redaction where
  reads := {
    brief := fun named => absurd rfl named
    number := by
      intro hook
      have stop : get stopEvent "hook_event_name" = .str "Stop" := rfl
      rw [stop] at hook
      simp at hook
    duration := trivial
    request := by rintro genAi ⟨⟩
    inputTokens := ⟨trivial, fun _ => trivial⟩
    outputTokens := ⟨trivial, fun _ => trivial⟩
    payload := by
      rw [Python.PayloadReads, payloadText_stopEvent, redacted_sampleDrain, loads_stopText]
      trivial }
  binds := by
    rintro values ⟨⟩
    decide
  header := by rintro ⟨⟩

theorem harmlessFile_stopText :
    HarmlessFile samplePython false (fun _ => true) sampleDrain.redaction stopText where
  head := by
    rw [HarmlessHead, slice_stopText, loads_stopText]
    exact Or.inr trivial
  contents := by
    refine Or.inr ?_
    rw [loads_stopText]
    exact ⟨by decide, fun _ => harmless_stopEvent⟩
  nameable _ _ _ := rfl

end Panakoes.Telemetry
